import AgnoRuntime.ForStd.Assignments
import AgnoRuntime.ForStd.Except
import AgnoRuntime.ForStd.Json
import AgnoRuntime.Model.Base

/-!
# PUT endpoints

`BaseRepository.update` (`app/repositories/base.py`) on rows with all of their columns, and the
endpoints that forward `payload.model_dump(exclude_unset=True)` to it: `update_agent_os`,
`update_team`, `update_agent`, `WorkflowRegistry.update_workflow`, `WorkflowWebhookService.update`,
`WorkflowScheduleService.update` and `update_quota_policy`.

A row is an object with attributes, which `setattr` assigns by their names; `updated_at`, which the
flush sets, is left out.
-/

namespace AgnoRuntime

open Civil Except

/-- What a column can hold; `null` is `None`. -/
inductive ColumnValue where
  | null
  | bool (b : Bool)
  | int (i : Int)
  | float (f : JsonFloat)
  | str (s : String)
  | uuid (id : Uuid)
  | json (v : Json)
  | instant (t : DateTime)
deriving DecidableEq

/-- An object of the session, by its attributes. -/
abbrev Row : Type := String → ColumnValue

/-- `BaseRepository.update`; the flush may be refused. -/
def BaseRepository.update (flush : Row → Except PyError Unit) (obj : Row)
    (kwargs : List (String × ColumnValue)) : Except PyError Row := do
  let obj := Assignments.assign (· = .null) obj kwargs
  flush obj
  return obj

/-! ## Entities -/

/-- The entities that are updated so. -/
inductive UpdatedEntity where
  | agentOs | team | agent | workflow | webhook | schedule | quotaPolicy
deriving DecidableEq

namespace UpdatedEntity

/-- The name of the model. -/
def modelName : UpdatedEntity → String
  | agentOs => "AgentOS"
  | team => "Team"
  | agent => "Agent"
  | workflow => "Workflow"
  | webhook => "WorkflowWebhook"
  | schedule => "WorkflowSchedule"
  | quotaPolicy => "QuotaPolicy"

/-- The fields of the update schema that can be `null` in the table. -/
def nullableFields : UpdatedEntity → List String
  | agentOs => ["description", "default_model_id", "shared_prompt_id"]
  | team => ["description", "team_prompt_id"]
  | agent => ["description", "prompt_id", "model_id", "temperature"]
  | workflow => ["description", "team_id", "workflow_metadata"]
  | webhook => ["secret", "input_field_path", "allowed_source_ips", "user_id"]
  | schedule => ["cron_expression", "interval_seconds", "user_id"]
  | quotaPolicy => ["window_seconds"]

/-- The other fields of the update schema; `steps` are no column. -/
def requiredFields : UpdatedEntity → List String
  | agentOs | team | agent | workflow => ["name", "enabled"]
  | webhook => ["enabled"]
  | schedule => ["timezone", "input_template", "enabled"]
  | quotaPolicy => ["limit_value", "priority", "enabled"]

/-- What the deployment has to have enabled. -/
def feature : UpdatedEntity → Option String
  | agentOs | team | agent | workflow => none
  | webhook => some "Workflow Webhooks"
  | schedule => some "Workflow Scheduling"
  | quotaPolicy => some "Quota Management"

end UpdatedEntity

/-- `payload.model_dump(exclude_unset=True)`, for workflows without the steps: the fields that
    the request sends, `null`s among them. -/
structure PartialPayload (entity : UpdatedEntity) where
  fields : List (String × ColumnValue)
  keysNodup : (fields.map Prod.fst).Nodup
  known : ∀ field ∈ fields.map Prod.fst, field ∈ entity.nullableFields ++ entity.requiredFields

/-! ## Endpoints -/

/-- What a request meets besides the row: the feature flags, the database, `compute_next_run_at`,
    what becomes of the steps that a workflow is sent, and the response model. -/
structure UpdateSession where
  enabled : String → Bool
  flush : Row → Except PyError Unit
  computeNextRunAt : Row → Except PyError ColumnValue
  replaceSteps : Row → Except PyError Unit
  modelValidate : UpdatedEntity → Row → Except PyError Unit

namespace UpdateSession

variable (session : UpdateSession)

/-- `WorkflowRegistry.update_workflow`. -/
def updateWorkflow (obj : Row) (updateData : List (String × ColumnValue)) : Except PyError Row := do
  let obj ←
    (if updateData.isEmpty then .ok obj else BaseRepository.update session.flush obj updateData)
  session.replaceSteps obj
  return obj

/-- `compute_next_run_at(schedule) if schedule.enabled else None`. -/
def nextRunAt (obj : Row) : Except PyError ColumnValue :=
  if obj "enabled" = .bool true then session.computeNextRunAt obj else .ok .null

/-- `WorkflowScheduleService.update`. -/
def updateSchedule (obj : Row) (updateData : List (String × ColumnValue)) : Except PyError Row := do
  let obj ← BaseRepository.update session.flush obj updateData
  if updateData.any fun p => p.1 ∈ ["cron_expression", "interval_seconds", "enabled"] then
    let next ← session.nextRunAt obj
    let obj := Function.update obj "next_run_at" next
    session.flush obj
    return obj
  else return obj

/-- The update of an entity, with what its service adds to it. -/
def updateEntity : UpdatedEntity → Row → List (String × ColumnValue) → Except PyError Row
  | .workflow => session.updateWorkflow
  | .schedule => session.updateSchedule
  | .agentOs | .team | .agent | .webhook | .quotaPolicy => BaseRepository.update session.flush

/-- `get_or_404`; `stored` finds the rows that are not deleted. -/
def getOr404 (stored : Uuid → Option Row) (entity : UpdatedEntity) (id : Uuid) :
    Except PyError Row :=
  match stored id with
  | some obj => .ok obj
  | none => .error (.notFound (entity.modelName ++ " with id=" ++ UuidText.text id ++ " not found"))

/-- A PUT request. -/
def put (stored : Uuid → Option Row) (entity : UpdatedEntity) (id : Uuid)
    (payload : PartialPayload entity) : Except PyError Row := do
  raiseUnless (entity.feature.all session.enabled)
    (.notFound (entity.feature.getD "" ++ " is not enabled on this deployment"))
  let obj ← getOr404 stored entity id
  let obj ← session.updateEntity entity obj payload.fields
  session.modelValidate entity obj
  return obj

end UpdateSession

end AgnoRuntime
