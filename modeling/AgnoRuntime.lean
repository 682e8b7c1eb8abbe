import AgnoRuntime.Spec.ConcurrentAssignment
import AgnoRuntime.Spec.SkillGrants
import AgnoRuntime.Spec.ToolScope
import AgnoRuntime.Spec.AllModelsCap
import AgnoRuntime.Spec.CostLimit
import AgnoRuntime.Spec.OverlappingTurns
import AgnoRuntime.Spec.ScheduleOccurrences
import AgnoRuntime.Spec.FailedRuns
import AgnoRuntime.Spec.SessionOwnership
import AgnoRuntime.Spec.ClientUserId
import AgnoRuntime.Spec.UsageFailure
import AgnoRuntime.Spec.PlanRuns
import AgnoRuntime.Spec.PlanTargets
import AgnoRuntime.Spec.StreamExits
import AgnoRuntime.Spec.RunExits
import AgnoRuntime.Spec.ChatParity
import AgnoRuntime.Spec.WorkflowAccount
import AgnoRuntime.Spec.WorkflowParity
import AgnoRuntime.Spec.RememberedFacts
import AgnoRuntime.Spec.RunTails
import AgnoRuntime.Spec.EntityTails
import AgnoRuntime.Spec.RegistryVersions
import AgnoRuntime.Spec.SkillConfigs
import AgnoRuntime.Spec.WorkflowDefinitions
import AgnoRuntime.Spec.CodeConflicts
import AgnoRuntime.Spec.CallChains
import AgnoRuntime.Spec.ScheduleFiring
import AgnoRuntime.Spec.KnowledgeContexts
import AgnoRuntime.Spec.RunRecords
import AgnoRuntime.Spec.QuotaSelection
import AgnoRuntime.Spec.StreamedContent
import AgnoRuntime.Spec.MergedParts
import AgnoRuntime.Spec.AgentSteps
import AgnoRuntime.Spec.ScheduleTimes
import AgnoRuntime.Spec.ExecutorFold
import AgnoRuntime.Spec.TriggerNesting
import AgnoRuntime.Spec.RuleLiterals
import AgnoRuntime.Spec.RecordValidation
import AgnoRuntime.Spec.SubmittedSteps
import AgnoRuntime.Spec.TeamMembers
import AgnoRuntime.Spec.NamedAgents
import AgnoRuntime.Spec.UiActionPlans
import AgnoRuntime.Spec.SearchEnvelopes
import AgnoRuntime.Spec.PlainTextMemories
import AgnoRuntime.Spec.WebhookCalls
import AgnoRuntime.Spec.AttachmentNotes
import AgnoRuntime.Spec.ClearedFields
import AgnoRuntime.Spec.Openings
import AgnoRuntime.Spec.QuotaKeys
import AgnoRuntime.Spec.RepeatedRecords
import AgnoRuntime.Spec.ListedPages
import AgnoRuntime.Spec.ToldTurns
import AgnoRuntime.Spec.ToldRuns
import AgnoRuntime.Spec.VerifiedTokens
import AgnoRuntime.Spec.UploadedFiles
import AgnoRuntime.Spec.CancelledRuns
import AgnoRuntime.Spec.RetiredEntities
import AgnoRuntime.Spec.SessionLifetimes
import AgnoRuntime.Spec.DisturbedExecutions
import AgnoRuntime.Spec.ToldPlans
