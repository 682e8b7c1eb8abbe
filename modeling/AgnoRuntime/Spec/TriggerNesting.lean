import AgnoRuntime.Model.WorkflowTrigger

/-!
# Nested triggers

A task attempts to trigger workflows; inside of an attempt that the guard admits it
attempts further ones, and an attempt that ends, is refused or raises leaves it to the
body around it what to do next. Whatever the task does, the two variables of the guard
say which attempts are open, and no attempt leaves a trace in them.

## Key results

- `consistent_entered`: what the guard admits
- `moments_run`: the moments of any part of a task
- `triggers_nest`: the moments of a task that starts with the defaults
-/

namespace AgnoRuntime

open Prog

/-! ## Tasks -/

/-- What a task, or the body of an attempt, does: it ends, it raises, or it makes an attempt and
    goes on as the outcome of the attempt decides. -/
inductive Task where
  | done
  | raise (exc : PyError)
  | attempt (workflowCode : String) (maxDepth : Int) (body : Task)
      (next : Except PyError Unit → Task)

/-- An attempt whose `with` block has been entered and not left. -/
structure OpenAttempt where
  workflowCode : String
  maxDepth : Int
deriving DecidableEq

/-- The variables at a moment when the code of the task is in control, and the attempts that are
    open then, the innermost first. -/
structure TaskMoment where
  vars : TriggerContext
  opened : List OpenAttempt

/-- Note the moment. -/
def noteMoment (opened : List OpenAttempt) : TaskProg (List TaskMoment) Unit :=
  Prog.modify fun s => (s.1, s.2 ++ [⟨s.1, opened⟩])

/-- Run a task inside of the attempts that are open, noting every moment at which it is in
    control. -/
def Task.run : Task → List OpenAttempt → TaskProg (List TaskMoment) Unit
  | .done, opened => noteMoment opened
  | .raise exc, opened => do
    noteMoment opened
    Prog.raise exc
  | .attempt workflowCode maxDepth body next, opened => do
    noteMoment opened
    let outcome ← (withWorkflowTrigger workflowCode maxDepth
      (body.run (⟨workflowCode, maxDepth⟩ :: opened))).attempt
    (next outcome).run opened

/-! ## The invariant -/

/-- The variables say which attempts are open. -/
structure TaskMoment.Consistent (m : TaskMoment) : Prop where
  depth : m.vars.depth = m.opened.length
  visited : m.vars.visited = (m.opened.map (·.workflowCode)).toFinset
  distinct : (m.opened.map (·.workflowCode)).Nodup
  bounded : m.vars.depth ≤ maxGlobalDepth
  /-- Each was entered with fewer attempts open, those around it, than its own limit. -/
  limited : ∀ inner a outer, m.opened = inner ++ a :: outer → (outer.length : Int) < a.maxDepth

/-- Nothing is open at the start. -/
theorem consistent_default : TaskMoment.Consistent ⟨.default, []⟩ where
  depth := rfl
  visited := rfl
  distinct := List.nodup_nil
  bounded := by decide
  limited := by simp

/-- The guard admits an attempt below both limits, of a workflow that is not among the open ones. -/
theorem consistent_entered {vars inside : TriggerContext} {opened : List OpenAttempt}
    {workflowCode : String} {maxDepth : Int} (h : TaskMoment.Consistent ⟨vars, opened⟩)
    (henter : enterWorkflowTrigger vars workflowCode maxDepth = .ok inside) :
    TaskMoment.Consistent ⟨inside, ⟨workflowCode, maxDepth⟩ :: opened⟩ := by
  obtain ⟨hdepth, hnew, rfl⟩ := enterWorkflowTrigger_eq_ok.mp henter
  have hlength : vars.depth = opened.length := h.depth
  have hcodes : vars.visited = (opened.map (·.workflowCode)).toFinset := h.visited
  have hlimit := lt_min_iff.mp hdepth
  constructor
  · show vars.depth + 1 = _
    rw [hlength, List.length_cons]
    push_cast
    rfl
  · show insert workflowCode vars.visited = _
    rw [hcodes, List.map_cons, List.toFinset_cons]
  · refine List.nodup_cons.mpr ⟨fun hmem => hnew ?_, h.distinct⟩
    rw [hcodes]
    exact List.mem_toFinset.mpr hmem
  · show vars.depth + 1 ≤ _
    omega
  · intro inner a outer hopened
    -- The new attempt has all the others around it; those around an older one are as before.
    cases inner with
    | nil =>
      rw [List.nil_append, List.cons.injEq] at hopened
      obtain ⟨rfl, rfl⟩ := hopened
      rw [← hlength]
      exact hlimit.1
    | cons b inner =>
      rw [List.cons_append, List.cons.injEq] at hopened
      exact h.limited inner a outer hopened.2

/-! ## Runs -/

/-- However a part of a task ends, the variables are what they were before it, and at every moment
    of it they say which attempts are open. -/
theorem moments_run (task : Task) (opened : List OpenAttempt) (vars : TriggerContext)
    (log : List TaskMoment) (h : TaskMoment.Consistent ⟨vars, opened⟩) :
    ∃ moments, (task.run opened (vars, log)).2 = (vars, log ++ moments) ∧
      ∀ m ∈ moments, m.Consistent := by
  -- the moments of a run are those of its steps, one after another
  induction task generalizing opened vars log with
  | done => exact ⟨[⟨vars, opened⟩], rfl, by simpa using h⟩
  | raise exc => exact ⟨[⟨vars, opened⟩], rfl, by simpa using h⟩
  | attempt workflowCode maxDepth body next ihBody ihNext =>
    have hnote : noteMoment opened (vars, log) = (.ok (), (vars, log ++ [⟨vars, opened⟩])) := rfl
    rw [Task.run, bind_apply_ok hnote]
    cases henter : enterWorkflowTrigger vars workflowCode maxDepth with
    | error exc =>
      have hrefused := withWorkflowTrigger_refused henter
        (body.run (⟨workflowCode, maxDepth⟩ :: opened)) (log ++ [⟨vars, opened⟩])
      rw [bind_apply_ok (attempt_apply _ _), hrefused]
      obtain ⟨moments, hrun, hmoments⟩ :=
        ihNext (.error exc) opened vars (log ++ [⟨vars, opened⟩]) h
      refine ⟨⟨vars, opened⟩ :: moments, ?_, ?_⟩
      · rw [hrun, List.append_assoc, List.singleton_append]
      · exact List.forall_mem_cons.mpr ⟨h, hmoments⟩
    | ok inside =>
      obtain ⟨inner, hbody, hinner⟩ := ihBody (⟨workflowCode, maxDepth⟩ :: opened) inside
        (log ++ [⟨vars, opened⟩]) (consistent_entered h henter)
      have hentered := withWorkflowTrigger_entered henter
        (body.run (⟨workflowCode, maxDepth⟩ :: opened)) (log ++ [⟨vars, opened⟩])
      rw [hbody] at hentered
      rw [bind_apply_ok (attempt_apply _ _), hentered]
      obtain ⟨moments, hrun, hmoments⟩ := ihNext _ opened vars _ h
      refine ⟨⟨vars, opened⟩ :: (inner ++ moments), ?_, ?_⟩
      · rw [hrun]
        simp
      · refine List.forall_mem_cons.mpr ⟨h, fun m hm => ?_⟩
        exact (List.mem_append.mp hm).elim (hinner m) (hmoments m)

/-- In every task that starts with the defaults, the variables say at every moment which attempts
    are open. What the guard refuses, in whatever task and whatever the variables, changes nothing
    and is not run; an attempt that ends, normally or by an exception, leaves the variables as they
    were before it. -/
theorem triggers_nest (task : Task) :
    (∀ m ∈ (task.run [] (.default, [])).2.2, m.Consistent) ∧
    (task.run [] (.default, [])).2.1 = .default ∧
    (∀ (workflowCode : String) (maxDepth : Int) (body : Task) (opened : List OpenAttempt)
      (vars : TriggerContext) (log : List TaskMoment) (exc : PyError),
      enterWorkflowTrigger vars workflowCode maxDepth = .error exc →
        withWorkflowTrigger workflowCode maxDepth (body.run opened) (vars, log) =
          (.error exc, (vars, log))) ∧
    ∀ (workflowCode : String) (maxDepth : Int) (body : Task) (opened : List OpenAttempt)
      (vars : TriggerContext) (log : List TaskMoment),
      (withWorkflowTrigger workflowCode maxDepth (body.run opened) (vars, log)).2.1 = vars := by
  obtain ⟨moments, hrun, hmoments⟩ := moments_run task [] .default [] consistent_default
  rw [hrun]
  refine ⟨hmoments, rfl, ?_, ?_⟩
  · intro workflowCode maxDepth body opened vars log exc hrefused
    exact withWorkflowTrigger_refused hrefused (body.run opened) log
  · intro workflowCode maxDepth body opened vars log
    cases henter : enterWorkflowTrigger vars workflowCode maxDepth with
    | error exc => rw [withWorkflowTrigger_refused henter]
    | ok inside => rw [withWorkflowTrigger_entered henter]

end AgnoRuntime
