import AgnoRuntime.ForStd.Prog
import AgnoRuntime.Model.KnowledgeConfig
import AgnoRuntime.Model.WorkflowRegistry
import Mathlib.Data.List.ReduceOption

/-!
# Workflows that agents trigger

The guard of nested triggers (`app/core/workflow_trigger_context.py`), the tools
that `WorkflowSkillService` builds (`app/workflowskill/service.py`) and the call
chains that begin at a route, a webhook or the scheduler and grow by these tools.

A call chain is a stack of frames, one for the entry and one for each workflow that
a trigger has started and that has not ended. The context variables of the guard are
reset when a trigger returns, so each frame has the values in force while it is on top.
-/

namespace AgnoRuntime

open Except

/-! ## The guard -/

/-- `_MAX_GLOBAL_DEPTH`. -/
def maxGlobalDepth : Int := 5

/-- `_depth_var` and `_visited_var`. -/
structure TriggerContext where
  depth : Int
  visited : Finset String
deriving DecidableEq

/-- The defaults of the variables. -/
def TriggerContext.default : TriggerContext := ⟨0, ∅⟩

/-- `enter_workflow_trigger`: the values inside of the `with` block. -/
def enterWorkflowTrigger (ctx : TriggerContext) (workflowCode : String) (maxDepth : Int) :
    Except PyError TriggerContext := do
  let effectiveMax := min maxDepth maxGlobalDepth
  raiseUnless (ctx.depth < effectiveMax)
    (.runtimeExecution ("Workflow trigger depth limit reached (" ++ toString ctx.depth ++ "/" ++
      toString effectiveMax ++ ") while attempting to trigger '" ++ workflowCode ++ "'"))
  raiseUnless (workflowCode ∉ ctx.visited)
    (.runtimeExecution ("Cycle detected: workflow '" ++ workflowCode ++
      "' is already running in this call chain"))
  return ⟨ctx.depth + 1, insert workflowCode ctx.visited⟩

/-- The guard admits a trigger below both limits, of a workflow that it does not know. -/
theorem enterWorkflowTrigger_eq_ok {ctx ctx' : TriggerContext} {workflowCode : String}
    {maxDepth : Int} : enterWorkflowTrigger ctx workflowCode maxDepth = .ok ctx' ↔
      ctx.depth < min maxDepth maxGlobalDepth ∧ workflowCode ∉ ctx.visited ∧
        ⟨ctx.depth + 1, insert workflowCode ctx.visited⟩ = ctx' := by
  simp only [enterWorkflowTrigger, bind_eq_ok, pure_eq_ok, raiseUnless_eq_ok, decide_eq_true_eq]
  constructor
  · rintro ⟨-, hdepth, -, hnew, h⟩
    exact ⟨hdepth, hnew, h⟩
  · rintro ⟨hdepth, hnew, h⟩
    exact ⟨(), hdepth, (), hnew, h⟩

/-- Programs of a task: the state is the two variables and whatever else the task works on. -/
abbrev TaskProg (τ α : Type) : Type := Prog PyError (TriggerContext × τ) α

section ContextManager

variable {τ α : Type}

/-- `_depth_var.set`; a reset sets the value the token was made with. -/
def setDepth (depth : Int) : TaskProg τ Unit :=
  Prog.modify fun s => ({ s.1 with depth := depth }, s.2)

/-- `_visited_var.set`, and the reset of the variable. -/
def setVisited (visited : Finset String) : TaskProg τ Unit :=
  Prog.modify fun s => ({ s.1 with visited := visited }, s.2)

/-- `with enter_workflow_trigger(..)` around a body: `finally` resets both variables, however the
    body ends. -/
def withWorkflowTrigger (workflowCode : String) (maxDepth : Int) (body : TaskProg τ α) :
    TaskProg τ α := do
  let s ← Prog.read
  let inside ← Prog.lift (enterWorkflowTrigger s.1 workflowCode maxDepth)
  setDepth inside.depth
  setVisited inside.visited
  -- `finally`, also for what is no `Exception`
  let outcome ← body.attempt
  setDepth s.1.depth
  setVisited s.1.visited
  Prog.lift outcome

/-- What the guard refuses changes nothing, and the body is not run. -/
theorem withWorkflowTrigger_refused {workflowCode : String} {maxDepth : Int}
    {vars : TriggerContext} {exc : PyError}
    (h : enterWorkflowTrigger vars workflowCode maxDepth = .error exc) (body : TaskProg τ α)
    (t : τ) : withWorkflowTrigger workflowCode maxDepth body (vars, t) = (.error exc, (vars, t)) := by
  have hlift : (Prog.lift (enterWorkflowTrigger vars workflowCode maxDepth) : TaskProg τ _)
      (vars, t) = (.error exc, (vars, t)) := by
    rw [Prog.lift_apply, h]
  rw [withWorkflowTrigger, Prog.bind_apply_ok (Prog.read_apply (vars, t)),
    Prog.bind_apply_error hlift]

/-- The body runs with the values inside; the values before are back when it is over. -/
theorem withWorkflowTrigger_entered {workflowCode : String} {maxDepth : Int}
    {vars inside : TriggerContext}
    (h : enterWorkflowTrigger vars workflowCode maxDepth = .ok inside) (body : TaskProg τ α)
    (t : τ) : withWorkflowTrigger workflowCode maxDepth body (vars, t) =
      ((body (inside, t)).1, (vars, (body (inside, t)).2.2)) := by
  have hlift : (Prog.lift (enterWorkflowTrigger vars workflowCode maxDepth) : TaskProg τ _)
      (vars, t) = (.ok inside, (vars, t)) := by
    rw [Prog.lift_apply, h]
  rw [withWorkflowTrigger, Prog.bind_apply_ok (Prog.read_apply (vars, t)),
    Prog.bind_apply_ok hlift]
  rfl

end ContextManager

/-! ## The tools -/

/-- `WorkflowSkillConfig`. -/
structure WorkflowSkillConfig where
  workflowCode : String
  maxTriggerDepth : Int
deriving DecidableEq

/-- `0 ≤ maxTriggerDepth ≤ 5`. -/
def WorkflowSkillConfig.boundedDepth (lib : Pydantic) (v : Json) : Option Int := do
  let depth ← lib.int v
  guard (0 ≤ depth ∧ depth ≤ 5)
  return depth

/-- `WorkflowSkillConfig.model_validate`; `none` where it raises. -/
def WorkflowSkillConfig.modelValidate (lib : Pydantic) (config : List (String × Json)) :
    Option WorkflowSkillConfig := do
  let workflowCode ← KnowledgeSkillConfig.required config "workflowCode"
  let maxTriggerDepth ← KnowledgeSkillConfig.field config "maxTriggerDepth" 1 (boundedDepth lib)
  return ⟨workflowCode, maxTriggerDepth⟩

/-- What `_make_trigger_tool` is given of the workflow and of the skill. -/
structure TriggerTool where
  workflowId : Uuid
  workflowCode : String
  maxDepth : Int
deriving DecidableEq

namespace WorkflowSkillService

/-- One round of `build_trigger_tools`: a skill that names no enabled workflow of the AgentOS is
    skipped. -/
def triggerTool (lib : Pydantic) (db : Db) (agentOsId : Uuid) (skill : Skill) :
    Except PyError (Option TriggerTool) :=
  match WorkflowSkillConfig.modelValidate lib (skill.config.elim [] (·.members)) with
  | none => .ok none
  | some config => do
    let workflow ← WorkflowRepository.getByCode db agentOsId config.workflowCode
    return (workflow.filter (·.enabled)).map fun w => ⟨w.id, w.code, config.maxTriggerDepth⟩

/-- `build_trigger_tools`. -/
def buildTriggerTools (lib : Pydantic) (scan : ScanOrder Skill) (db : Db) (agentId agentOsId : Uuid) :
    Except PyError (List TriggerTool) := do
  let skills := SkillRepository.listSkillsForAgent scan db.metadata agentId
  let tools ← (skills.filter (·.skillType = .workflow)).mapM (triggerTool lib db agentOsId)
  return tools.reduceOption

end WorkflowSkillService

/-! ## Call chains -/

/-- Where a call chain begins: `POST /chat`, `POST /workflows/{id}/run` and its streaming twin, a
    webhook, or a schedule. -/
inductive Entry where
  | chat
  | run (workflowId : Uuid)
  | webhook (workflowId : Uuid)
  | schedule (workflowId : Uuid)
deriving DecidableEq

/-- The workflow that the entry runs itself. -/
def Entry.workflowId? : Entry → Option Uuid
  | chat => none
  | run workflowId | webhook workflowId | schedule workflowId => some workflowId

/-- The entry, or a workflow that a trigger started: the context of the guard inside of it and
    the trigger tools of the agents it has run. -/
structure ChainFrame where
  workflowId? : Option Uuid
  context : TriggerContext
  tools : List TriggerTool

/-- A call chain and the tables; `below` holds the frames under the top, the entry last. -/
structure CallChain where
  db : Db
  top : ChainFrame
  below : List ChainFrame

/-- `run_workflow` starts the workflow: it is not deleted, it is enabled, and it has steps. -/
def canRun (db : Db) (workflowId : Uuid) : Bool :=
  (BaseRepository.get db.workflows workflowId).any (·.enabled) &&
    db.workflowSteps.rows.any fun s => s.workflowId = workflowId

/-- What can happen while a call chain is active: a request changes the definitions, the top frame
    runs an agent, the agent calls one of its tools, or the workflow on top ends. -/
inductive ChainEvent where
  | define (req : DefinitionRequest)
  | runAgent (scan : ScanOrder Skill) (agentId agentOsId : Uuid)
  | trigger (tool : TriggerTool)
  | ended

namespace CallChain

/-- A call chain at its entry: neither route touches the variables of the guard. -/
def start (db : Db) (entry : Entry) : CallChain where
  db := db
  top := ⟨entry.workflowId?, .default, []⟩
  below := []

/-- The workflows that are executing, the last one started first. -/
def running (c : CallChain) : List Uuid := (c.top :: c.below).filterMap (·.workflowId?)

/-- `trigger_workflow`: what the guard refuses, or `run_workflow` does, is answered with a text. -/
def trigger (c : CallChain) (tool : TriggerTool) : CallChain :=
  match enterWorkflowTrigger c.top.context tool.workflowCode tool.maxDepth with
  -- the message of the exception is the answer of the tool
  | .error _ => c
  | .ok ctx =>
    if canRun c.db tool.workflowId then
      { c with top := ⟨some tool.workflowId, ctx, []⟩, below := c.top :: c.below }
    else c

/-- The call chain after an event; `none` where the event cannot happen. -/
def step (lib : Pydantic) (c : CallChain) : ChainEvent → Option CallChain
  | .define req => some { c with db := req.apply c.db }
  | .runAgent scan agentId agentOsId =>
    match WorkflowSkillService.buildTriggerTools lib scan c.db agentId agentOsId with
    | .ok tools => some { c with top := { c.top with tools := c.top.tools ++ tools } }
    | .error _ => some c
  | .trigger tool => if tool ∈ c.top.tools then some (c.trigger tool) else none
  | .ended =>
    match c.below with
    | [] => none
    | frame :: below => some { c with top := frame, below := below }

end CallChain

end AgnoRuntime
