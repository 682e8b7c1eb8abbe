import AgnoRuntime.Spec.PlanRuns
import AgnoRuntime.Spec.ToolScope

/-!
# The targets of a plan

`build_plan` turns each explicit step into a step of the plan, and a request without
steps into one step that names nothing. `run_plan` resolves a step that is not
targeted at a team through `resolve_context`, which looks its Team up by code: the
code of no Team is empty, so a step that names an agent alone, and the step of a
request without steps, are resolved to nothing.
-/

namespace AgnoRuntime

open ExecutionEngineService AgnoRuntimeEngine

/-- What `run_plan` resolves the steps of a plan to, in the order of its loop. -/
def resolvePlan (scan : HierarchyScan) (m : Metadata) (plan : ExecutionPlan) :
    List (Except PyError Dispatch) :=
  (ordered plan.steps).map (resolveStep scan m)

variable {scan : HierarchyScan} {m : Metadata}

section Codes

variable (hcodes : ∀ team ∈ m.teams.rows, team.code ≠ "")

include hcodes

end Codes

/-- A run of a plan calls the engine with what the steps of the plan are resolved to. -/
theorem resolved_of_planAccount {env : Env} {plan : ExecutionPlan} {sessionId planRunId : Uuid}
    {userId : Option String} {w : World} {run : Except PyError PlanResult × World}
    {traces : List StepTrace} (h : PlanAccount env plan sessionId userId w run planRunId traces) :
    ∃ calls, run.2.engineCalls = w.engineCalls ++ calls ∧ ∀ call ∈ calls,
      .ok call.dispatch ∈ resolvePlan env.hierarchyScan w.working.metadata plan := by
  refine ⟨_, h.calls, fun call hcall => ?_⟩
  obtain ⟨t, ht, hcall⟩ := List.mem_flatMap.mp hcall
  have hstep : t.step ∈ ordered plan.steps := h.steps.subset (List.mem_map_of_mem ht)
  rw [StepTrace.calls, callsOf] at hcall
  split at hcall
  · next dispatch hresolve =>
    obtain ⟨-, rfl⟩ := List.mem_replicate.mp hcall
    exact List.mem_map.mpr ⟨t.step, hstep, hresolve⟩
  · cases hcall

section Examples

open Deployment

/-- A request for an execution plan on the deployment. -/
def Deployment.planned (steps : List PlanStepRequest) : ExecutionPlanRunRequest :=
  ⟨"enterprise", "Hello", steps, none, none⟩

end Examples

end AgnoRuntime
