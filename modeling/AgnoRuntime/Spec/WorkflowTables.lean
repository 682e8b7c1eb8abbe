import AgnoRuntime.Spec.MetadataTables
import AgnoRuntime.Model.WorkflowRegistry

/-!
# What the workflow requests do to the tables

The tables after each of the requests of the workflow registry, and the rows of
the steps after `replace_steps`.
-/

namespace AgnoRuntime

open Except KeyedTable WorkflowRegistry

variable {scan : ScanOrder Team} {db db' : Db}

/-! ## Steps -/

/-- The row stores a resolved step of the workflow at its place. -/
def IsRowOf (workflowId : Uuid) (step : ResolvedStep × Nat) (s : WorkflowStep) : Prop :=
  ∃ id, s = step.1.row workflowId step.2 id

/-- Inserted steps come last, one for each definition and in their order. -/
private theorem rows_insertSteps (workflowId : Uuid) (order : Nat) (steps : List ResolvedStep)
    (t : KeyedTable WorkflowStep.id) :
    ∃ new, (WorkflowStepRepository.insertSteps workflowId order steps t).rows = t.rows ++ new ∧
      List.Forall₂ (IsRowOf workflowId) (steps.zipIdx order) new := by
  induction steps generalizing order t with
  | nil => exact ⟨[], (List.append_nil _).symm, .nil⟩
  | cons step steps ih =>
    rw [WorkflowStepRepository.insertSteps, List.zipIdx_cons]
    obtain ⟨new, hrows, hnew⟩ := ih (order + 1)
      (t.insertFresh (step.row workflowId order) (step.row_id workflowId order))
    refine ⟨step.row workflowId order t.freshKey :: new, ?_, .cons ⟨_, rfl⟩ hnew⟩
    refine hrows.trans ?_
    rw [rows_insertFresh, List.append_assoc, List.singleton_append]

/-- The rows of resolved steps belong to the workflow. -/
private theorem workflowId_of_rows {workflowId : Uuid} {steps : List (ResolvedStep × Nat)}
    {new : List WorkflowStep} (h : List.Forall₂ (IsRowOf workflowId) steps new) :
    ∀ s ∈ new, s.workflowId = workflowId := by
  induction h with
  | nil => exact fun _ hs => by cases hs
  | cons hrow _ ih =>
    intro s hs
    rcases List.mem_cons.mp hs with rfl | hs
    · obtain ⟨id, rfl⟩ := hrow
      rfl
    · exact ih s hs

/-- The rows of the steps after `replace_steps`: those of the other workflows and the new ones. -/
private theorem exists_rows_replaceSteps (db : Db) (workflowId : Uuid)
    (steps : List ResolvedStep) :
    ∃ new, (WorkflowStepRepository.replaceSteps db workflowId steps).workflowSteps.rows =
        db.workflowSteps.rows.filter (fun s => !decide (s.workflowId = workflowId)) ++ new ∧
      List.Forall₂ (IsRowOf workflowId) steps.zipIdx new :=
  rows_insertSteps workflowId 0 steps
    (db.workflowSteps.deleteWhere fun s => s.workflowId = workflowId)

/-- The steps of a workflow after `replace_steps`. -/
theorem rows_replaceSteps (db : Db) (workflowId : Uuid) (steps : List ResolvedStep) :
    List.Forall₂ (IsRowOf workflowId) steps.zipIdx
      ((WorkflowStepRepository.replaceSteps db workflowId steps).workflowSteps.rows.filter
        fun s => s.workflowId = workflowId) := by
  obtain ⟨new, hrows, hnew⟩ := exists_rows_replaceSteps db workflowId steps
  have hold : (db.workflowSteps.rows.filter fun s => !decide (s.workflowId = workflowId)).filter
      (fun s => s.workflowId = workflowId) = [] := by
    rw [List.filter_filter, List.filter_eq_nil_iff]
    intro s _
    simp
  have hall : new.filter (fun s => s.workflowId = workflowId) = new :=
    List.filter_eq_self.mpr fun s hs => decide_eq_true (workflowId_of_rows hnew s hs)
  rw [hrows, List.filter_append, hold, hall, List.nil_append]
  exact hnew

/-- As many steps as there were to insert. -/
theorem steps_replaceSteps (db : Db) (workflowId : Uuid) (steps : List ResolvedStep) :
    ((WorkflowStepRepository.replaceSteps db workflowId steps).workflowSteps.rows.filter
      fun s => s.workflowId = workflowId).length = steps.length := by
  rw [← (rows_replaceSteps db workflowId steps).length_eq, List.length_zipIdx]

/-- The steps of the other workflows stay as they are. -/
theorem filter_replaceSteps_of_ne {db : Db} {workflowId other : Uuid} (steps : List ResolvedStep)
    (hne : other ≠ workflowId) :
    (WorkflowStepRepository.replaceSteps db workflowId steps).workflowSteps.rows.filter
        (fun s => s.workflowId = other) =
      db.workflowSteps.rows.filter fun s => s.workflowId = other := by
  obtain ⟨new, hrows, hnew⟩ := exists_rows_replaceSteps db workflowId steps
  have hnone : new.filter (fun s => s.workflowId = other) = [] := by
    rw [List.filter_eq_nil_iff]
    intro s hs
    rw [workflowId_of_rows hnew s hs, decide_eq_true_eq]
    exact hne.symm
  rw [hrows, List.filter_append, hnone, List.append_nil, List.filter_filter]
  refine List.filter_congr fun s _ => ?_
  by_cases hs : s.workflowId = other
  · simp [hs, hne]
  · simp [hs]

/-- Each of them is still there. -/
theorem mem_replaceSteps_of_ne {db : Db} {workflowId : Uuid} (steps : List ResolvedStep)
    {s : WorkflowStep} (hs : s ∈ db.workflowSteps.rows) (hne : s.workflowId ≠ workflowId) :
    s ∈ (WorkflowStepRepository.replaceSteps db workflowId steps).workflowSteps.rows := by
  have hmem : s ∈ db.workflowSteps.rows.filter fun s' => s'.workflowId = s.workflowId :=
    List.mem_filter.mpr ⟨hs, decide_eq_true rfl⟩
  rw [← filter_replaceSteps_of_ne steps hne] at hmem
  exact (List.mem_filter.mp hmem).1

/-- A step that is there afterwards was there before or belongs to the workflow. -/
theorem mem_steps_of_replaceSteps {db : Db} {workflowId : Uuid} {steps : List ResolvedStep}
    {s : WorkflowStep}
    (hs : s ∈ (WorkflowStepRepository.replaceSteps db workflowId steps).workflowSteps.rows) :
    s ∈ db.workflowSteps.rows ∨ s.workflowId = workflowId := by
  obtain ⟨new, hrows, hnew⟩ := exists_rows_replaceSteps db workflowId steps
  rw [hrows] at hs
  rcases List.mem_append.mp hs with hs | hs
  · exact .inl (List.mem_filter.mp hs).1
  · exact .inr (workflowId_of_rows hnew s hs)

/-- The records of executed steps that are left are those of other steps. -/
theorem mem_records_replaceSteps {db : Db} {workflowId : Uuid} {steps : List ResolvedStep}
    {r : WorkflowRunStep} :
    r ∈ (WorkflowStepRepository.replaceSteps db workflowId steps).workflowRunSteps.rows ↔
      r ∈ db.workflowRunSteps.rows ∧
        WorkflowStepRepository.recordsStepOf db workflowId r = false := by
  rw [WorkflowStepRepository.replaceSteps, rows_deleteWhere, List.mem_filter,
    Bool.not_eq_true_eq_eq_false]

/-- As many steps are resolved as are defined. -/
theorem length_resolveStepDefinitions {m : Metadata} {agentOsId : Uuid}
    {steps : List WorkflowStepDefinition} {resolved : List ResolvedStep}
    (h : resolveStepDefinitions scan m agentOsId steps = .ok resolved) :
    resolved.length = steps.length :=
  (forall₂_of_mapM_eq_ok h).length_eq.symm

/-! ## Requests -/

/-- What a successful creation has checked, and the tables after it. -/
theorem createWorkflow_ok {payload : WorkflowCreate}
    (h : createWorkflow scan db payload = .ok db') :
    ∃ steps, resolveStepDefinitions scan db.metadata payload.agentOsId payload.steps = .ok steps ∧
      payload.teamId.all (isTeamOf db.metadata payload.agentOsId) = true ∧
      (∀ r ∈ db.workflows.rows, (r.agentOsId, r.code) ≠ (payload.agentOsId, payload.code)) ∧
      db' = WorkflowStepRepository.replaceSteps
        { db with workflows := db.workflows.insertFresh payload.row (fun _ => rfl) }
        db.workflows.freshKey steps := by
  simp only [createWorkflow, bind_eq_ok, raiseUnless_eq_ok, pure_eq_ok] at h
  obtain ⟨-, -, -, -, -, -, -, hteam, -, hnew, steps, hsteps, -, -, rfl⟩ := h
  refine ⟨steps, hsteps, hteam, fun r hr heq => ?_, rfl⟩
  have hclash := List.all_eq_true.mp hnew r hr
  simp [(Prod.mk.inj heq).1, (Prod.mk.inj heq).2] at hclash

/-- The row an update changes, and the tables after it, without new steps or with them. -/
theorem updateWorkflow_ok {workflowId : Uuid} {payload : WorkflowUpdate}
    (h : updateWorkflow scan db workflowId payload = .ok db') :
    ∃ w ∈ db.workflows.rows, w.id = workflowId ∧ isLive w = true ∧
      ((payload.steps = none ∧ db' = { db with
          workflows := db.workflows.update workflowId payload.applyTo (fun _ => rfl) }) ∨
        ∃ steps resolved, payload.steps = some steps ∧
          resolveStepDefinitions scan db.metadata w.agentOsId steps = .ok resolved ∧
          db' = WorkflowStepRepository.replaceSteps { db with
            workflows := db.workflows.update workflowId payload.applyTo (fun _ => rfl) }
            workflowId resolved) := by
  simp only [updateWorkflow, bind_eq_ok] at h
  obtain ⟨w, hw, -, -, -, -, h⟩ := h
  obtain ⟨hmem, rfl, hlive⟩ := BaseRepository.getOr404_ok hw
  refine ⟨w, hmem, rfl, hlive, ?_⟩
  split at h
  · rename_i hnone
    simp only [bind_eq_ok, pure_eq_ok] at h
    obtain ⟨-, -, rfl⟩ := h
    exact .inl ⟨hnone, rfl⟩
  · rename_i steps hsome
    simp only [bind_eq_ok, pure_eq_ok] at h
    obtain ⟨resolved, hresolved, -, -, rfl⟩ := h
    exact .inr ⟨steps, resolved, hsome, hresolved, rfl⟩

/-- The tables after a deletion. -/
theorem deleteWorkflow_ok {workflowId : Uuid} {now : Civil.DateTime}
    (h : deleteWorkflow db workflowId now = .ok db') :
    db' = { db with
      workflows := db.workflows.update workflowId
        (fun r => { r with deletedAt := some now }) (fun _ => rfl) } := by
  simp only [deleteWorkflow, bind_eq_ok, pure_eq_ok] at h
  obtain ⟨w, hw, rfl⟩ := h
  obtain ⟨-, rfl, -⟩ := BaseRepository.getOr404_ok hw
  rfl

/-- Every successful request changes the tables of the hierarchy and of the workflows so that
    codes stay unique. -/
theorem definitionsChange_of_handle {req : DefinitionRequest} (h : req.handle db = .ok db') :
    TablesChange db.metadata db'.metadata ∧
      TableChange (fun r : Workflow => (r.agentOsId, r.code)) db.workflows db'.workflows := by
  cases req with
  | metadata req =>
    simp only [DefinitionRequest.handle, bind_eq_ok, pure_eq_ok] at h
    obtain ⟨m, hm, rfl⟩ := h
    exact ⟨tablesChange_of_handle hm, .same⟩
  | createWorkflow scan payload =>
    obtain ⟨steps, -, -, hnew, rfl⟩ := createWorkflow_ok h
    exact ⟨{}, .inserted _ _ rfl hnew⟩
  | updateWorkflow scan workflowId payload =>
    obtain ⟨-, -, -, -, ⟨-, rfl⟩ | ⟨steps, resolved, -, -, rfl⟩⟩ := updateWorkflow_ok h
    · exact ⟨{}, .update _ _ _ (fun _ => by rfl) fun _ => by rfl⟩
    · exact ⟨{}, .update _ _ _ (fun _ => by rfl) fun _ => by rfl⟩
  | deleteWorkflow workflowId now =>
    obtain rfl := deleteWorkflow_ok h
    exact ⟨{}, .update _ _ _ (fun _ => by rfl) fun _ => by rfl⟩

end AgnoRuntime
