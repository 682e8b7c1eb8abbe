import AgnoRuntime.ForStd.Runs
import AgnoRuntime.Spec.RequestFrames
import AgnoRuntime.Spec.WorkflowTables

/-!
# The records of past runs

A run of a workflow leaves one record of each step it executed. `replace_steps` deletes
the steps of its workflow, and `ON DELETE CASCADE` deletes their records with them,
without an error: an update that sends steps takes the records of all past runs of its
workflow away. Nothing else removes a record.
-/

namespace AgnoRuntime

open KeyedTable

/-- What happens to a deployment: a request to the registries that succeeds, or a request to an
    entry point, which may run workflows, with all it meets outside. -/
inductive Activity where
  | define (req : DefinitionRequest)
  | serve (env : Env) (request : Request)

/-- The store after it. -/
def Activity.happen (store : Store) : Activity → Option Store
  | define req => (req.succeed store.db).map fun db => { store with db := db }
  | serve env request => some (request.served env store).store

/-- There is a record with this id, of this execution. -/
def StepRecorded (id : Uuid) (execution : Uuid × Uuid × Int) (db : Db) : Prop :=
  ∃ r ∈ db.workflowRunSteps.rows, r.id = id ∧ r.execution = execution

instance (id : Uuid) (execution : Uuid × Uuid × Int) (db : Db) :
    Decidable (StepRecorded id execution db) :=
  inferInstanceAs (Decidable (∃ r ∈ db.workflowRunSteps.rows, _))

/-- Every record is still there. -/
def RecordsKept (store store' : Store) : Prop :=
  ∀ id execution, StepRecorded id execution store.db → StepRecorded id execution store'.db

instance : Std.Refl RecordsKept := ⟨fun _ _ _ h => h⟩

instance : IsTrans Store RecordsKept := ⟨fun _ _ _ h h' _ _ hr => h' _ _ (h _ _ hr)⟩

/-- Every step belongs to a stored workflow: `workflow_steps.workflow_id` is a foreign key. -/
def StepsOfWorkflows (db : Db) : Prop :=
  ∀ s ∈ db.workflowSteps.rows, ∃ w ∈ db.workflows.rows, w.id = s.workflowId

/-- An update that sends steps, of a workflow one of whose steps has been executed. -/
def ReplacesExecutedSteps (store : Store) : Activity → Prop
  | .define (.updateWorkflow _ workflowId payload) =>
    payload.steps.isSome = true ∧ ∃ r ∈ store.db.workflowRunSteps.rows,
      WorkflowStepRepository.recordsStepOf store.db workflowId r = true
  | _ => False

/-! ## Requests to the entry points -/

/-- No request removes a record. -/
private theorem requestFrame_recorded (id : Uuid) (execution : Uuid × Uuid × Int) :
    RequestFrame (StepRecorded id execution) where
  tools writes db h := by
    obtain ⟨r, hr, hid, hexecution⟩ := h
    -- Tools add steps to runs of their own.
    obtain ⟨new, hrows, -⟩ := (writes.kept db).workflowRunSteps
    exact ⟨r, hrows ▸ List.mem_append_left _ hr, hid, hexecution⟩
  emitted _ _ h := h
  -- A step that begins has a new id.
  started db row hrow h := by
    obtain ⟨r, hr, hid, hexecution⟩ := h
    refine ⟨r, ?_, hid, hexecution⟩
    show r ∈ (db.workflowRunSteps.insertFresh row hrow).rows
    rw [rows_insertFresh]
    exact List.mem_append_left _ hr
  finalized db stepId f hf hsame h := by
    obtain ⟨r, hr, hid, hexecution⟩ := h
    -- A step that ends keeps its id and what it executed.
    refine ⟨if r.id = stepId then f r else r, List.mem_map.mpr ⟨r, hr, rfl⟩, ?_, ?_⟩
    · split
      · exact (hf r).trans hid
      · exact hid
    · split
      · exact (hsame r).trans hexecution
      · exact hexecution
  elsewhere db db' hdb h := by
    -- Nothing else is written about steps.
    obtain ⟨-, htables⟩ := Prod.mk.inj hdb
    rw [StepRecorded, (Prod.mk.inj htables).2]
    exact h

/-- Nor does one touch the steps and their workflows. -/
private theorem requestFrame_stepsOfWorkflows : RequestFrame StepsOfWorkflows where
  tools writes db h := by
    rw [StepsOfWorkflows, (writes.kept db).workflows, (writes.kept db).workflowSteps]
    exact h
  emitted _ _ h := h
  started _ _ _ h := h
  finalized _ _ _ _ _ h := h
  elsewhere db db' hdb h := by
    obtain ⟨hworkflows, htables⟩ := Prod.mk.inj hdb
    rw [StepsOfWorkflows, hworkflows, (Prod.mk.inj htables).1]
    exact h

/-! ## Requests to the registries -/

variable {db db' : Db}

/-- Stored workflows that keep their ids keep their steps. -/
private theorem StepsOfWorkflows.update {workflowId : Uuid} {f : Workflow → Workflow}
    {hf : ∀ r, (f r).id = r.id} (h : StepsOfWorkflows db) :
    StepsOfWorkflows { db with workflows := db.workflows.update workflowId f hf } := by
  intro s hs
  obtain ⟨w, hw, hid⟩ := h s hs
  refine ⟨if w.id = workflowId then f w else w, List.mem_map.mpr ⟨w, hw, rfl⟩, ?_⟩
  split
  · exact (hf w).trans hid
  · exact hid

/-- The new steps of a stored workflow belong to it. -/
private theorem StepsOfWorkflows.replaceSteps {workflowId : Uuid} {steps : List ResolvedStep}
    (h : StepsOfWorkflows db) (hw : ∃ w ∈ db.workflows.rows, w.id = workflowId) :
    StepsOfWorkflows (WorkflowStepRepository.replaceSteps db workflowId steps) := by
  intro s hs
  rcases mem_steps_of_replaceSteps hs with hs | hid
  · exact h s hs
  · exact hid ▸ hw

/-- Replacing the steps of a workflow keeps the records exactly when there are none of its
    steps. -/
private theorem recordsKept_replaceSteps_iff (db : Db) (redis : Redis) (workflowId : Uuid)
    (steps : List ResolvedStep) :
    RecordsKept ⟨db, redis⟩ ⟨WorkflowStepRepository.replaceSteps db workflowId steps, redis⟩ ↔
      ¬∃ r ∈ db.workflowRunSteps.rows,
        WorkflowStepRepository.recordsStepOf db workflowId r = true := by
  constructor
  · intro hkept hrecord
    obtain ⟨r, hr, hof⟩ := hrecord
    obtain ⟨r', hr', hid, -⟩ := hkept r.id r.execution ⟨r, hr, rfl, rfl⟩
    obtain ⟨hr', hother⟩ := mem_records_replaceSteps.mp hr'
    -- A record with the same id is the same record.
    obtain rfl := db.workflowRunSteps.eq_of_key_eq hr' hr hid
    rw [hof] at hother
    cases hother
  · intro hnone id execution hrecorded
    obtain ⟨r, hr, hid, hexecution⟩ := hrecorded
    have hother : WorkflowStepRepository.recordsStepOf db workflowId r = false :=
      Bool.eq_false_iff.mpr fun hof => hnone ⟨r, hr, hof⟩
    exact ⟨r, mem_records_replaceSteps.mpr ⟨hr, hother⟩, hid, hexecution⟩

/-- A workflow with a new id has no steps, and so no records of any. -/
private theorem not_recorded_of_new (h : StepsOfWorkflows db) (r : WorkflowRunStep) :
    WorkflowStepRepository.recordsStepOf db db.workflows.freshKey r = false := by
  rw [WorkflowStepRepository.recordsStepOf, List.any_eq_false]
  intro s hs hof
  obtain ⟨w, hw, hid⟩ := h s hs
  simp only [Bool.and_eq_true, decide_eq_true_eq] at hof
  exact absurd (hid.trans hof.1) (key_lt_freshKey hw).ne

/-- A request to the registries keeps the steps under stored workflows, and keeps the records
    unless it replaces executed steps. -/
private theorem define_ok {store : Store} {req : DefinitionRequest}
    (hsteps : StepsOfWorkflows store.db) (h : req.handle store.db = .ok db') :
    StepsOfWorkflows db' ∧
      (RecordsKept store { store with db := db' } ↔
        ¬ReplacesExecutedSteps store (.define req)) := by
  -- a request that leaves the records alone keeps every one of them
  have hsame (hrecords : db'.workflowRunSteps = store.db.workflowRunSteps) :
      RecordsKept store { store with db := db' } := by
    intro id execution hrecorded
    rw [StepRecorded, hrecords]
    exact hrecorded
  cases req with
  | metadata req =>
    simp only [DefinitionRequest.handle, Except.bind_eq_ok, Except.pure_eq_ok] at h
    obtain ⟨m, -, rfl⟩ := h
    exact ⟨hsteps, iff_of_true (hsame rfl) not_false⟩
  | createWorkflow scan payload =>
    obtain ⟨steps, -, -, -, rfl⟩ := createWorkflow_ok h
    constructor
    · refine StepsOfWorkflows.replaceSteps (fun s hs => ?_) ?_
      · obtain ⟨w, hw, hid⟩ := hsteps s hs
        exact ⟨w, List.mem_append_left _ hw, hid⟩
      · exact ⟨_, List.mem_append_right _ (List.mem_singleton_self _), rfl⟩
    -- the workflow is new, so no record can be of one of its steps
    · have hkept := recordsKept_replaceSteps_iff { store.db with
        workflows := store.db.workflows.insertFresh payload.row fun _ => rfl } store.redis
        store.db.workflows.freshKey steps
      refine iff_of_true (hkept.mpr fun hrecord => ?_) not_false
      obtain ⟨r, -, hof⟩ := hrecord
      cases (not_recorded_of_new hsteps r).symm.trans hof
  | updateWorkflow scan workflowId payload =>
    obtain ⟨w, hw, hid, -, ⟨hnone, rfl⟩ | ⟨steps, resolved, hsome, -, rfl⟩⟩ :=
      updateWorkflow_ok h
    -- no steps in the payload: the definition is updated and its steps stay
    · refine ⟨hsteps.update, iff_of_true (hsame rfl) fun hreplaces => ?_⟩
      rw [ReplacesExecutedSteps, hnone] at hreplaces
      cases hreplaces.1
    · constructor
      · refine hsteps.update.replaceSteps ⟨payload.applyTo w, ?_, hid⟩
        exact List.mem_map.mpr ⟨w, hw, if_pos hid⟩
      · have hkept := recordsKept_replaceSteps_iff { store.db with
          workflows := store.db.workflows.update workflowId payload.applyTo fun _ => rfl }
          store.redis workflowId resolved
        refine Iff.trans hkept (not_congr ?_)
        rw [ReplacesExecutedSteps, hsome, Option.isSome_some]
        exact (and_iff_right rfl).symm
  | deleteWorkflow workflowId now =>
    obtain rfl := deleteWorkflow_ok h
    exact ⟨hsteps.update, iff_of_true (hsame rfl) not_false⟩

/-- So does everything that happens to a deployment. -/
private theorem happen_ok {store store' : Store} {activity : Activity}
    (hsteps : StepsOfWorkflows store.db) (h : activity.happen store = some store') :
    StepsOfWorkflows store'.db ∧
      (RecordsKept store store' ↔ ¬ReplacesExecutedSteps store activity) := by
  cases activity with
  | define req =>
    obtain ⟨db', hdb', rfl⟩ := Option.map_eq_some_iff.mp h
    exact define_ok hsteps (DefinitionRequest.handle_of_succeed hdb')
  | serve env request =>
    obtain rfl := Option.some.inj h
    refine ⟨requestFrame_stepsOfWorkflows.served env store request hsteps, ?_⟩
    refine iff_of_true (fun id execution => ?_) not_false
    exact (requestFrame_recorded id execution).served env store request

/-! ## Histories -/

/-- In every history, from tables that satisfy the foreign key of the steps, each committed record
    of an executed step is there in every later state exactly when no update of the history
    replaces the steps of a workflow of which one has been executed. -/
theorem recordsKept_iff (start : Store) (hstart : StepsOfWorkflows start.db)
    (history : List Activity) (final : Store)
    (hrun : Runs.run Activity.happen start history = some final) :
    (∀ before after store store', before ++ after <+: history →
        Runs.run Activity.happen start before = some store →
        Runs.run Activity.happen store after = some store' → RecordsKept store store') ↔
      ∀ before activity store, before ++ [activity] <+: history →
        Runs.run Activity.happen start before = some store →
        ¬ReplacesExecutedSteps store activity :=
  Runs.related_iff (I := fun store => StepsOfWorkflows store.db) hstart
    (fun _ _ _ hsteps h => (happen_ok hsteps h).1) (fun _ _ _ hsteps h => (happen_ok hsteps h).2)
    hrun

/-! ## A record that is lost -/

namespace LostRecord

open Deployment

/-- A run of the workflow of the deployment. -/
def run : Activity :=
  .serve (Deployment.env .trustClientUserId none (answering "Hi"))
    (.runWorkflow 1 ⟨"Hello", none, none⟩)

/-- The store after it. -/
def ran : Store :=
  ((Request.runWorkflow 1 ⟨"Hello", none, none⟩).served
    (Deployment.env .trustClientUserId none (answering "Hi")) store).store

/-- An update of the workflow. -/
def update (steps : Option (List WorkflowStepDefinition)) : Activity :=
  .define (.updateWorkflow .stored 1 ⟨some "Onboarding v2", none, none, steps⟩)

end LostRecord

open LostRecord Deployment in
/-- An update without steps, and a deletion, keep the record of the run before. -/
theorem recordsKept_example : ∃ final,
    let history := [run, update none, run, .define (.deleteWorkflow 1 morning)]
    Runs.run Activity.happen store history = some final ∧
    ((∀ before after store₁ store₂, before ++ after <+: history →
        Runs.run Activity.happen store before = some store₁ →
        Runs.run Activity.happen store₁ after = some store₂ → RecordsKept store₁ store₂) ↔
      ∀ before activity store₁, before ++ [activity] <+: history →
        Runs.run Activity.happen store before = some store₁ →
        ¬ReplacesExecutedSteps store₁ activity) := by
  obtain ⟨final, hfinal⟩ := Option.isSome_iff_exists.mp
    (show (Runs.run Activity.happen store
      [run, update none, run, .define (.deleteWorkflow 1 morning)]).isSome = true by
        decide +kernel)
  have hsteps : StepsOfWorkflows store.db := by
    intro s hs
    rw [List.mem_singleton.mp hs]
    exact ⟨_, List.mem_singleton_self _, rfl⟩
  exact ⟨final, hfinal, recordsKept_iff store hsteps _ final hfinal⟩

open LostRecord Deployment in
/-- An update that sends the very same step deletes the record of the run before. -/
theorem update_deletes_record : ∃ store₁ store₂,
    Runs.run Activity.happen store [run] = some store₁ ∧
    Runs.run Activity.happen store₁ [update (some [⟨.agent, some "crm", none, rfl⟩])] =
      some store₂ ∧
    ¬RecordsKept store₁ store₂ := by
  have hbefore : StepRecorded 1 (1, 1, 0) ran.db := by decide +kernel
  have hafter : (Runs.run Activity.happen ran
      [update (some [⟨.agent, some "crm", none, rfl⟩])]).any
        (fun store₂ => ¬StepRecorded 1 (1, 1, 0) store₂.db) = true := by decide +kernel
  rw [Option.any_eq_true] at hafter
  obtain ⟨store₂, hupdate, hlost⟩ := hafter
  exact ⟨ran, store₂, rfl, hupdate, fun hkept =>
    absurd (hkept 1 (1, 1, 0) hbefore) (of_decide_eq_true hlost)⟩

end AgnoRuntime
