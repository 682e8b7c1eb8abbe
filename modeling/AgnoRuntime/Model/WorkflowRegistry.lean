import AgnoRuntime.Model.MetadataApi
import AgnoRuntime.Model.Tables

/-!
# The workflow registry

`WorkflowRegistry` (`app/services/workflow_registry.py`) with
`WorkflowRepository` and `WorkflowStepRepository`
(`app/repositories/workflow_repository.py`), behind the routes of
`app/api/v1/workflows.py`.

The steps of a workflow are replaced by deleting all their rows and inserting
new ones. The records of past runs refer to the rows of the steps
(`app/models/workflow_run.py`, `ON DELETE CASCADE`), so the database deletes them
together with the steps.
-/

namespace AgnoRuntime

open Civil Except

/-! ## Request bodies -/

/-- `WorkflowStepDefinition`. -/
structure WorkflowStepDefinition where
  type : WorkflowStepType
  agentCode : Option String
  teamCode : Option String
  codeMatchesType : match type with
    | .agent => truthy agentCode = true
    | .team => truthy teamCode = true

/-- `WorkflowCreate`. -/
structure WorkflowCreate where
  agentOsId : Uuid
  code : String
  name : String
  teamId : Option Uuid
  enabled : Bool
  steps : List WorkflowStepDefinition
  codeLength : code.length ≤ 128
  codeMatches : matchesCode ['-', '_'] code = true
  nameLength : 1 ≤ name.length ∧ name.length ≤ 255
  stepsLength : 1 ≤ steps.length

/-- The row of a new workflow. -/
def WorkflowCreate.row (payload : WorkflowCreate) (id : Uuid) : Workflow where
  id := id
  agentOsId := payload.agentOsId
  code := payload.code
  name := payload.name
  teamId := payload.teamId
  enabled := payload.enabled
  deletedAt := none

/-- `WorkflowUpdate`: the fields sent with a value. -/
structure WorkflowUpdate where
  name : Option String
  teamId : Option Uuid
  enabled : Option Bool
  steps : Option (List WorkflowStepDefinition)

/-- The fields sent replace those of the row. -/
def WorkflowUpdate.applyTo (payload : WorkflowUpdate) (r : Workflow) : Workflow :=
  { r with
    name := payload.name.getD r.name
    teamId := payload.teamId.or r.teamId
    enabled := payload.enabled.getD r.enabled }

/-- `WorkflowRead.model_validate`. -/
def WorkflowRead.modelValidate (r : Workflow) : Except PyError Unit :=
  raiseUnless (readable ['-', '_'] r.code r.name) (.other "validation error for WorkflowRead")

/-! ## Repositories -/

/-- `WorkflowRepository.get_by_code`. -/
def WorkflowRepository.getByCode (db : Db) (agentOsId : Uuid) (code : String) :
    Except PyError (Option Workflow) :=
  scalarOneOrNone
    (db.workflows.rows.filter fun r => r.agentOsId = agentOsId && r.code = code && isLive r)

/-- A step whose codes are resolved. -/
structure ResolvedStep where
  stepType : WorkflowStepType
  agentId : Option Uuid
  teamId : Option Uuid
deriving DecidableEq

/-- The row of a step. -/
def ResolvedStep.row (step : ResolvedStep) (workflowId : Uuid) (order : Int) (id : Uuid) :
    WorkflowStep where
  id := id
  workflowId := workflowId
  stepOrder := order
  stepType := step.stepType
  agentId := step.agentId
  teamId := step.teamId

@[simp] theorem ResolvedStep.row_id (step : ResolvedStep) (workflowId : Uuid) (order : Int)
    (id : Uuid) : (step.row workflowId order id).id = id := rfl

namespace WorkflowStepRepository

/-- Insert the rows of some steps, the first one with the given order. -/
def insertSteps (workflowId : Uuid) :
    Int → List ResolvedStep → KeyedTable WorkflowStep.id → KeyedTable WorkflowStep.id
  | _, [], t => t
  | order, step :: steps, t =>
    insertSteps workflowId (order + 1) steps
      (t.insertFresh (step.row workflowId order) (step.row_id workflowId order))

/-- The record is about a step of the workflow. -/
def recordsStepOf (db : Db) (workflowId : Uuid) (r : WorkflowRunStep) : Bool :=
  db.workflowSteps.rows.any fun s => s.workflowId = workflowId && s.id = r.workflowStepId

/-- `replace_steps`: the deleted steps take the records of their executions with them. -/
def replaceSteps (db : Db) (workflowId : Uuid) (steps : List ResolvedStep) : Db :=
  { db with
    workflowSteps := insertSteps workflowId 0 steps
      (db.workflowSteps.deleteWhere fun s => s.workflowId = workflowId)
    workflowRunSteps := db.workflowRunSteps.deleteWhere (recordsStepOf db workflowId) }

end WorkflowStepRepository

/-! ## The registry -/

namespace WorkflowRegistry

/-- `_find_agent_by_code_in_agent_os`, over the teams it lists. -/
def findAgent (m : Metadata) (agentCode : String) : List Team → Except PyError (Option Agent)
  | [] => .ok none
  | team :: teams => do
    let found ← AgentRepository.getByCode m team.id agentCode
    match found with
    -- enabled or not, the first one with the code ends the search
    | some agent => return some agent
    | none => findAgent m agentCode teams

/-- One round of `_resolve_step_definitions`. -/
def resolveStep (scan : ScanOrder Team) (m : Metadata) (agentOsId : Uuid)
    (step : WorkflowStepDefinition) : Except PyError ResolvedStep :=
  match step.type with
  | .agent => do
    let teams := (BaseRepository.list scan m.teams (fun t => t.agentOsId = agentOsId) 0 500).1
    let found ← findAgent m (step.agentCode.getD "") teams
    match found with
    | some agent => return ⟨.agent, some agent.id, none⟩
    | none => throw (.notFound ("No enabled agent with code '" ++ step.agentCode.getD "" ++
        "' found under this workflow's AgentOS"))
  | .team => do
    let found ← TeamRepository.getByCode m agentOsId (step.teamCode.getD "")
    match found with
    | some team => return ⟨.team, none, some team.id⟩
    | none => throw (.notFound ("No team with code '" ++ step.teamCode.getD "" ++
        "' found under this workflow's AgentOS"))

/-- `_resolve_step_definitions`. -/
def resolveStepDefinitions (scan : ScanOrder Team) (m : Metadata) (agentOsId : Uuid)
    (steps : List WorkflowStepDefinition) : Except PyError (List ResolvedStep) :=
  steps.mapM (resolveStep scan m agentOsId)

/-- The team is stored, not deleted, and under the AgentOS. -/
def isTeamOf (m : Metadata) (agentOsId teamId : Uuid) : Bool :=
  (BaseRepository.get m.teams teamId).any fun team => team.agentOsId = agentOsId

/-- `create_workflow`. -/
def createWorkflow (scan : ScanOrder Team) (db : Db) (payload : WorkflowCreate) :
    Except PyError Db := do
  raiseUnless (BaseRepository.get db.metadata.agentOs payload.agentOsId).isSome
    (.notFound ("AgentOS " ++ UuidText.text payload.agentOsId ++ " not found"))
  let existing ← WorkflowRepository.getByCode db payload.agentOsId payload.code
  raiseUnless existing.isNone
    (.conflict ("Workflow with code '" ++ payload.code ++ "' already exists under this AgentOS"))
  raiseUnless (payload.teamId.all (isTeamOf db.metadata payload.agentOsId))
    (.validationFailed "workflows.team_id must reference a team under the same AgentOS")
  raiseUnless
    (db.workflows.rows.all fun r => r.agentOsId ≠ payload.agentOsId || r.code ≠ payload.code)
    (.integrityError "uq_workflow_agent_os_code")
  let created := { db with workflows := db.workflows.insertFresh payload.row fun _ => rfl }
  let steps ← resolveStepDefinitions scan db.metadata payload.agentOsId payload.steps
  WorkflowRead.modelValidate (payload.row db.workflows.freshKey)
  return WorkflowStepRepository.replaceSteps created db.workflows.freshKey steps

/-- `update_workflow`. -/
def updateWorkflow (scan : ScanOrder Team) (db : Db) (workflowId : Uuid)
    (payload : WorkflowUpdate) : Except PyError Db := do
  let workflow ← BaseRepository.getOr404 db.workflows "Workflow" workflowId
  checkColumn 255 (payload.applyTo workflow).name
  -- that the team is under the same AgentOS is checked by `create_workflow` only
  checkReference db.metadata.teams "workflows_team_id_fkey" payload.teamId
  let updated := { db with
    workflows := db.workflows.update workflow.id payload.applyTo fun _ => rfl }
  match payload.steps with
  | none => do
    WorkflowRead.modelValidate (payload.applyTo workflow)
    return updated
  | some steps => do
    let resolved ← resolveStepDefinitions scan db.metadata workflow.agentOsId steps
    WorkflowRead.modelValidate (payload.applyTo workflow)
    return WorkflowStepRepository.replaceSteps updated workflow.id resolved

/-- `delete_workflow`: the steps keep their rows. -/
def deleteWorkflow (db : Db) (workflowId : Uuid) (now : DateTime) : Except PyError Db := do
  let workflow ← BaseRepository.getOr404 db.workflows "Workflow" workflowId
  return { db with workflows :=
    db.workflows.update workflow.id (fun r => { r with deletedAt := some now }) fun _ => rfl }

end WorkflowRegistry

/-! ## Requests -/

/-- The requests that define what can be run. A request that resolves codes comes with the order
    in which the database returns the teams. -/
inductive DefinitionRequest where
  | metadata (req : MetadataRequest)
  | createWorkflow (scan : ScanOrder Team) (payload : WorkflowCreate)
  | updateWorkflow (scan : ScanOrder Team) (workflowId : Uuid) (payload : WorkflowUpdate)
  | deleteWorkflow (workflowId : Uuid) (now : DateTime)

namespace DefinitionRequest

/-- Run the handler of a request. -/
def handle (db : Db) : DefinitionRequest → Except PyError Db
  | metadata req => do
    let m ← db.metadata.handle req
    return { db with metadata := m }
  | createWorkflow scan payload => WorkflowRegistry.createWorkflow scan db payload
  | updateWorkflow scan workflowId payload =>
    WorkflowRegistry.updateWorkflow scan db workflowId payload
  | deleteWorkflow workflowId now => WorkflowRegistry.deleteWorkflow db workflowId now

/-- The tables after a request that succeeds. -/
def succeed (db : Db) (req : DefinitionRequest) : Option Db := (handle db req).toOption

/-- A request succeeds when its handler returns. -/
theorem handle_of_succeed {db db' : Db} {req : DefinitionRequest}
    (h : succeed db req = some db') : handle db req = .ok db' := by
  rw [succeed] at h
  cases hresult : handle db req with
  | ok db₁ =>
    rw [hresult] at h
    exact congrArg Except.ok (Option.some.inj h)
  | error e =>
    rw [hresult] at h
    cases h

/-- The tables after a request: an error rolls the transaction back. -/
def apply (db : Db) (req : DefinitionRequest) : Db :=
  match handle db req with
  | .ok db' => db'
  | .error _ => db

/-- The tables after a history of requests. -/
def run (db : Db) (reqs : List DefinitionRequest) : Db := reqs.foldl apply db

end DefinitionRequest

end AgnoRuntime
