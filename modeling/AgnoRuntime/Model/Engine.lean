import AgnoRuntime.ForStd.Prog
import AgnoRuntime.Model.Capability
import AgnoRuntime.Model.Prompt

/-!
# The Agno runtime engine: resolving what to execute

The resolvers of `app/agno_runtime/engine.py`. Each of them follows the chain
AgentOS → Team → Agent, checks that every level is enabled, and computes the
prompt and the effective capabilities of each agent.
-/

namespace AgnoRuntime

open Except

/-- `ResolvedRuntimeContext`. -/
structure ResolvedRuntimeContext where
  agentOs : AgentOS
  team : Team
  agent : Agent
  finalPrompt : String
  effectiveCapabilities : List String

/-- `ResolvedTeamContext`. -/
structure ResolvedTeamContext where
  agentOs : AgentOS
  team : Team
  teamPrompt : String
  memberContexts : List ResolvedRuntimeContext

/-- `ResolvedRootContext`. -/
structure ResolvedRootContext where
  agentOs : AgentOS
  rootPrompt : String
  teamContexts : List ResolvedTeamContext

/-- What a resolution hands to an execution method. -/
inductive Dispatch where
  | runtime (ctx : ResolvedRuntimeContext)
  | team (ctx : ResolvedTeamContext)
  | root (ctx : ResolvedRootContext)

/-- The agents that an execution of the context can involve. -/
def Dispatch.agentContexts : Dispatch → List ResolvedRuntimeContext
  | .runtime ctx => [ctx]
  | .team ctx => ctx.memberContexts
  | .root ctx => ctx.teamContexts.flatMap (·.memberContexts)

/-- The order in which the database returns unordered agents and teams. -/
structure HierarchyScan where
  agents : ScanOrder Agent
  teams : ScanOrder Team

namespace AgnoRuntimeEngine

variable (scan : HierarchyScan) (m : Metadata)

/-- `agent_os is None or not agent_os.enabled` and its siblings: the row if it passes. -/
def enabledOr {α : Type} (row : Option α) (enabled : α → Bool) (message : String) :
    Except PyError α :=
  match row with
  | some r => if enabled r then .ok r else .error (.runtimeExecution message)
  | none => .error (.runtimeExecution message)

/-- `_build_resolved_context`. -/
def buildResolvedContext (agentOs : AgentOS) (team : Team) (agent : Agent) :
    Except PyError ResolvedRuntimeContext := do
  let finalPrompt := PromptCompositionService.compose m agentOs team agent
  let capabilityResult ← CapabilityService.resolve m agentOs.id team.id agent.id
  return {
    agentOs := agentOs
    team := team
    agent := agent
    finalPrompt := finalPrompt
    effectiveCapabilities := capabilityResult.effectiveCapabilities }

/-- The AgentOS named by a code, if enabled. -/
def agentOsByCode (agentOsCode : String) : Except PyError AgentOS := do
  let row ← AgentOSRepository.getByCode m agentOsCode
  enabledOr row AgentOS.enabled ("AgentOS '" ++ agentOsCode ++ "' not found or disabled")

/-- The Team named by a code under an AgentOS, if enabled. -/
def teamByCode (agentOs : AgentOS) (agentOsCode teamCode : String) : Except PyError Team := do
  let row ← TeamRepository.getByCode m agentOs.id teamCode
  enabledOr row Team.enabled
    ("Team '" ++ teamCode ++ "' not found or disabled under AgentOS '" ++ agentOsCode ++ "'")

/-- The agent of a Team named by a code, or its first enabled one when no code is given. -/
def agentInTeam (team : Team) (agentCode : Option String) : Except PyError (Option Agent) :=
  match agentCode with
  | some code =>
    -- the empty text is no code
    if code = "" then .ok (AgentRepository.getFirstEnabledInTeam scan.agents m team.id)
    else AgentRepository.getByCode m team.id code
  | none => .ok (AgentRepository.getFirstEnabledInTeam scan.agents m team.id)

/-- `resolve_context`. -/
def resolveContext (agentOsCode teamCode : String) (agentCode : Option String) :
    Except PyError ResolvedRuntimeContext := do
  let agentOs ← agentOsByCode m agentOsCode
  let team ← teamByCode m agentOs agentOsCode teamCode
  let row ← agentInTeam scan m team agentCode
  let shown := if truthy agentCode then agentCode.getD "" else "<first-enabled>"
  let agent ← enabledOr row Agent.enabled
    ("Agent '" ++ shown ++ "' not found or disabled under team '" ++ teamCode ++ "'")
  buildResolvedContext m agentOs team agent

/-- `resolve_context_by_id`. -/
def resolveContextById (agentId : Uuid) : Except PyError ResolvedRuntimeContext := do
  let agent ← enabledOr (BaseRepository.get m.agents agentId) Agent.enabled
    ("Agent " ++ UuidText.text agentId ++ " not found or disabled")
  let team ← enabledOr (BaseRepository.get m.teams agent.teamId) Team.enabled
    ("Team " ++ UuidText.text agent.teamId ++ " not found or disabled")
  let agentOs ← enabledOr (BaseRepository.get m.agentOs team.agentOsId) AgentOS.enabled
    ("AgentOS " ++ UuidText.text team.agentOsId ++ " not found or disabled")
  buildResolvedContext m agentOs team agent

/-- `_build_team_context`: the enabled agents among the first 200 of the team. -/
def buildTeamContext (agentOs : AgentOS) (team : Team) : Except PyError ResolvedTeamContext := do
  let members := (BaseRepository.list scan.agents m.agents (fun a => a.teamId = team.id) 0 200).1
  let enabledMembers := members.filter (·.enabled)
  raiseUnless (!enabledMembers.isEmpty)
    (.runtimeExecution ("Team " ++ UuidText.text team.id ++ " has no enabled member agents"))
  let memberContexts ← enabledMembers.mapM (buildResolvedContext m agentOs team)
  return {
    agentOs := agentOs
    team := team
    teamPrompt := PromptCompositionService.composeTeamOnly m agentOs team
    memberContexts := memberContexts }

/-- `resolve_team_context_by_id`. -/
def resolveTeamContextById (teamId : Uuid) : Except PyError ResolvedTeamContext := do
  let team ← enabledOr (BaseRepository.get m.teams teamId) Team.enabled
    ("Team " ++ UuidText.text teamId ++ " not found or disabled")
  let agentOs ← enabledOr (BaseRepository.get m.agentOs team.agentOsId) AgentOS.enabled
    ("AgentOS " ++ UuidText.text team.agentOsId ++ " not found or disabled")
  buildTeamContext scan m agentOs team

/-- `resolve_team_context_by_code`. -/
def resolveTeamContextByCode (agentOsCode teamCode : String) :
    Except PyError ResolvedTeamContext := do
  let agentOs ← agentOsByCode m agentOsCode
  let team ← teamByCode m agentOs agentOsCode teamCode
  buildTeamContext scan m agentOs team

/-- `resolve_root_context`: the enabled teams among the first 200 of the AgentOS. -/
def resolveRootContext (agentOsCode : String) : Except PyError ResolvedRootContext := do
  let agentOs ← agentOsByCode m agentOsCode
  let teams := (BaseRepository.list scan.teams m.teams (fun t => t.agentOsId = agentOs.id) 0 200).1
  let enabledTeams := teams.filter (·.enabled)
  raiseUnless (!enabledTeams.isEmpty)
    (.runtimeExecution ("AgentOS '" ++ agentOsCode ++ "' has no enabled teams"))
  let teamContexts ← enabledTeams.mapM (buildTeamContext scan m agentOs)
  return {
    agentOs := agentOs
    rootPrompt := PromptCompositionService.composeRootOnly m agentOs
    teamContexts := teamContexts }

/-- `resolve_dispatch_context`. -/
def resolveDispatchContext (agentOsCode : String) (teamCode : Option String) :
    Except PyError Dispatch :=
  match teamCode with
  | some code =>
    if code = "" then Dispatch.root <$> resolveRootContext scan m agentOsCode
    else Dispatch.team <$> resolveTeamContextByCode scan m agentOsCode code
  | none => Dispatch.root <$> resolveRootContext scan m agentOsCode

/-- The ways the platform resolves something to execute. -/
inductive Resolves : Dispatch → Prop where
  | context (agentOsCode teamCode : String) (agentCode : Option String)
      (ctx : ResolvedRuntimeContext)
      (h : resolveContext scan m agentOsCode teamCode agentCode = .ok ctx) : Resolves (.runtime ctx)
  | contextById (agentId : Uuid) (ctx : ResolvedRuntimeContext)
      (h : resolveContextById m agentId = .ok ctx) : Resolves (.runtime ctx)
  | teamContextById (teamId : Uuid) (ctx : ResolvedTeamContext)
      (h : resolveTeamContextById scan m teamId = .ok ctx) : Resolves (.team ctx)
  | teamContextByCode (agentOsCode teamCode : String) (ctx : ResolvedTeamContext)
      (h : resolveTeamContextByCode scan m agentOsCode teamCode = .ok ctx) : Resolves (.team ctx)
  | rootContext (agentOsCode : String) (ctx : ResolvedRootContext)
      (h : resolveRootContext scan m agentOsCode = .ok ctx) : Resolves (.root ctx)

end AgnoRuntimeEngine

end AgnoRuntime
