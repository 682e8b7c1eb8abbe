import AgnoRuntime.Spec.MetadataTables
import AgnoRuntime.Spec.WorkflowTables
import AgnoRuntime.Model.Requests
import AgnoRuntime.ForStd.Runs

/-!
# The definitions of workflows

`WorkflowCreate` asks for at least one step, and `create_workflow` for a team of the
workflow's own AgentOS. `WorkflowUpdate` and `update_workflow` ask for neither: an
update with an empty list of steps, or with the team of another AgentOS, succeeds.

The stored workflows are well defined throughout a history exactly when no update of
the history does one of the two.
-/

namespace AgnoRuntime

open Except KeyedTable

variable {db db' : Db}

/-- The workflow has a step. -/
def HasStep (db : Db) (workflowId : Uuid) : Prop :=
  ∃ s ∈ db.workflowSteps.rows, s.workflowId = workflowId

/-- A stored team has this id and belongs to the AgentOS. -/
def TeamUnder (m : Metadata) (agentOsId teamId : Uuid) : Prop :=
  ∃ team ∈ m.teams.rows, team.id = teamId ∧ team.agentOsId = agentOsId

/-- A workflow has a step, and its team, if it has one, is under its AgentOS. -/
structure WellDefined (db : Db) (w : Workflow) : Prop where
  steps : HasStep db w.id
  team : ∀ teamId, w.teamId = some teamId → TeamUnder db.metadata w.agentOsId teamId

/-- Every workflow that is not deleted is well defined. -/
def WorkflowsWellDefined (db : Db) : Prop :=
  ∀ w ∈ db.workflows.rows, isLive w = true → WellDefined db w

/-- An update that leaves its workflow without steps, or gives it the team of another
    AgentOS. -/
def BreaksWorkflow (db : Db) : DefinitionRequest → Prop
  | .updateWorkflow _ workflowId payload =>
    payload.steps = some [] ∨
      ∃ w ∈ db.workflows.rows, w.id = workflowId ∧
        ∃ teamId, payload.teamId = some teamId ∧ ¬ TeamUnder db.metadata w.agentOsId teamId
  | _ => False

/-! ## Steps and teams after a request -/

/-- After `replace_steps` the workflow has a step when there was one to insert. -/
private theorem hasStep_replaceSteps_self {workflowId : Uuid} {steps : List ResolvedStep} :
    HasStep (WorkflowStepRepository.replaceSteps db workflowId steps) workflowId ↔ steps ≠ [] := by
  have hlength := steps_replaceSteps db workflowId steps
  rw [← List.length_pos_iff, ← hlength, List.length_pos_iff_exists_mem]
  refine exists_congr fun s => ?_
  rw [List.mem_filter, decide_eq_true_eq]

/-- The other workflows keep their steps. -/
private theorem HasStep.replaceSteps {workflowId other : Uuid} (steps : List ResolvedStep)
    (h : HasStep db other) (hne : other ≠ workflowId) :
    HasStep (WorkflowStepRepository.replaceSteps db workflowId steps) other := by
  obtain ⟨s, hs, rfl⟩ := h
  exact ⟨s, mem_replaceSteps_of_ne steps hs hne, rfl⟩

/-- Teams stay under their AgentOS. -/
private theorem TeamUnder.kept {m m' : Metadata} (hchange : TablesChange m m')
    {agentOsId teamId : Uuid} (h : TeamUnder m agentOsId teamId) : TeamUnder m' agentOsId teamId := by
  obtain ⟨team, hteam, hid, hos⟩ := h
  obtain ⟨team', hteam', hid', hcode⟩ := hchange.teams.exists_kept hteam
  exact ⟨team', hteam', hid'.trans hid, (Prod.mk.inj hcode).1.trans hos⟩

/-- The team check of a creation. -/
private theorem teamUnder_of_isTeamOf {m : Metadata} {agentOsId teamId : Uuid}
    (h : WorkflowRegistry.isTeamOf m agentOsId teamId = true) : TeamUnder m agentOsId teamId := by
  rw [WorkflowRegistry.isTeamOf, Option.any_eq_true] at h
  obtain ⟨team, hget, hos⟩ := h
  obtain ⟨hteam, hid, -⟩ := BaseRepository.mem_of_get hget
  exact ⟨team, hteam, hid, of_decide_eq_true hos⟩

/-! ## One request -/

/-- A creation stores a well-defined workflow. -/
private theorem wellDefined_create {scan : ScanOrder Team} {payload : WorkflowCreate}
    (hdb : WorkflowsWellDefined db) (h : WorkflowRegistry.createWorkflow scan db payload = .ok db') :
    WorkflowsWellDefined db' := by
  obtain ⟨steps, hsteps, hteam, -, rfl⟩ := createWorkflow_ok h
  intro w hw hlive
  rcases List.mem_append.mp hw with hw | hw
  · have hold := hdb w hw hlive
    -- The new workflow has an id that no stored one has.
    have hne : w.id ≠ db.workflows.freshKey := (key_lt_freshKey hw).ne
    exact ⟨HasStep.replaceSteps steps hold.steps hne, hold.team⟩
  · obtain rfl := List.mem_singleton.mp hw
    constructor
    · refine hasStep_replaceSteps_self.mpr (List.ne_nil_of_length_pos ?_)
      rw [length_resolveStepDefinitions hsteps]
      exact payload.stepsLength
    · intro teamId hid
      rw [show payload.teamId = some teamId from hid, Option.all_some] at hteam
      exact teamUnder_of_isTeamOf hteam

/-- What an update does to the workflows and their steps. -/
private structure Updated (db db' : Db) (workflowId : Uuid) (payload : WorkflowUpdate) : Prop where
  workflows : db'.workflows = db.workflows.update workflowId payload.applyTo fun _ => rfl
  metadata : db'.metadata = db.metadata
  others : ∀ other ≠ workflowId, HasStep db other → HasStep db' other
  steps : HasStep db workflowId → (HasStep db' workflowId ↔ payload.steps ≠ some [])

/-- A successful update does so. -/
private theorem updated_of_ok {scan : ScanOrder Team} {workflowId : Uuid} {payload : WorkflowUpdate}
    (h : WorkflowRegistry.updateWorkflow scan db workflowId payload = .ok db') :
    Updated db db' workflowId payload := by
  obtain ⟨w, -, -, -, ⟨hnone, rfl⟩ | ⟨steps, resolved, hsome, hresolved, rfl⟩⟩ :=
    updateWorkflow_ok h
  · exact {
      workflows := rfl
      metadata := rfl
      others := fun _ _ hstep => hstep
      steps := fun hstep => iff_of_true hstep (by simp [hnone]) }
  · exact {
      workflows := rfl
      metadata := rfl
      others := fun _ hne hstep => HasStep.replaceSteps resolved hstep hne
      steps := fun _ => by
        rw [hasStep_replaceSteps_self, hsome, ne_eq, ne_eq, Option.some.injEq,
          ← List.length_eq_zero_iff, length_resolveStepDefinitions hresolved,
          List.length_eq_zero_iff] }

/-- An update of well-defined workflows leaves them so exactly when it breaks nothing. -/
private theorem wellDefined_update_iff {scan : ScanOrder Team} {workflowId : Uuid}
    {payload : WorkflowUpdate} (hdb : WorkflowsWellDefined db)
    (h : WorkflowRegistry.updateWorkflow scan db workflowId payload = .ok db') :
    WorkflowsWellDefined db' ↔ ¬ BreaksWorkflow db (.updateWorkflow scan workflowId payload) := by
  obtain ⟨w, hw, hid, hlive, -⟩ := updateWorkflow_ok h
  have hdone := updated_of_ok h
  constructor
  · intro hdb' hbreaks
    -- The workflow that is updated is live before and after.
    have hafter : payload.applyTo w ∈ db'.workflows.rows := by
      rw [hdone.workflows]
      exact List.mem_map.mpr ⟨w, hw, if_pos hid⟩
    have hwell := hdb' _ hafter hlive
    have hbefore : HasStep db workflowId := hid ▸ (hdb w hw hlive).steps
    rcases hbreaks with hempty | ⟨w', hw', hid', teamId, hteam, hnot⟩
    · refine (hdone.steps hbefore).mp ?_ hempty
      rw [← hid]
      exact hwell.steps
    · obtain rfl := db.workflows.eq_of_key_eq hw' hw (hid'.trans hid.symm)
      refine hnot ?_
      rw [← hdone.metadata]
      refine hwell.team teamId ?_
      rw [WorkflowUpdate.applyTo, hteam, Option.some_or]
  · intro hkeeps w' hw' hlive'
    rw [hdone.workflows] at hw'
    obtain ⟨w₀, hw₀, rfl⟩ := List.mem_map.mp hw'
    by_cases hid₀ : w₀.id = workflowId
    · rw [if_pos hid₀] at hlive' ⊢
      have hwell := hdb w₀ hw₀ hlive'
      constructor
      · have hstep := (hdone.steps (hid₀ ▸ hwell.steps)).mpr fun hempty => hkeeps (.inl hempty)
        rwa [← hid₀] at hstep
      · intro teamId hteam
        rw [hdone.metadata]
        rw [WorkflowUpdate.applyTo, Option.or_eq_some_iff] at hteam
        rcases hteam with hsent | ⟨-, hkept⟩
        · by_contra hnot
          exact hkeeps (.inr ⟨w₀, hw₀, hid₀, teamId, hsent, hnot⟩)
        · exact hwell.team teamId hkept
    · rw [if_neg hid₀] at hlive' ⊢
      have hwell := hdb w₀ hw₀ hlive'
      refine ⟨hdone.others w₀.id hid₀ hwell.steps, ?_⟩
      rw [hdone.metadata]
      exact hwell.team

/-- A deletion leaves fewer workflows to be well defined. -/
private theorem wellDefined_delete {workflowId : Uuid} {now : Civil.DateTime}
    (hdb : WorkflowsWellDefined db)
    (h : WorkflowRegistry.deleteWorkflow db workflowId now = .ok db') :
    WorkflowsWellDefined db' := by
  obtain rfl := deleteWorkflow_ok h
  intro w hw hlive
  obtain ⟨w₀, hw₀, rfl⟩ := List.mem_map.mp hw
  by_cases hid : w₀.id = workflowId
  · rw [if_pos hid] at hlive
    cases hlive
  · rw [if_neg hid] at hlive ⊢
    exact ⟨(hdb w₀ hw₀ hlive).steps, (hdb w₀ hw₀ hlive).team⟩

/-- A request that succeeds keeps the workflows well defined exactly when it breaks none. -/
private theorem wellDefined_succeed_iff {req : DefinitionRequest} (hdb : WorkflowsWellDefined db)
    (h : req.succeed db = some db') : WorkflowsWellDefined db' ↔ ¬ BreaksWorkflow db req := by
  replace h := DefinitionRequest.handle_of_succeed h
  cases req with
  | metadata req =>
    simp only [DefinitionRequest.handle, bind_eq_ok, pure_eq_ok] at h
    obtain ⟨m, hm, rfl⟩ := h
    refine iff_of_true (fun w hw hlive => ⟨(hdb w hw hlive).steps, fun teamId hteam => ?_⟩)
      fun hbreaks => hbreaks
    exact ((hdb w hw hlive).team teamId hteam).kept (tablesChange_of_handle hm)
  | createWorkflow scan payload =>
    exact iff_of_true (wellDefined_create hdb h) fun hbreaks => hbreaks
  | updateWorkflow scan workflowId payload => exact wellDefined_update_iff hdb h
  | deleteWorkflow workflowId now =>
    exact iff_of_true (wellDefined_delete hdb h) fun hbreaks => hbreaks

/-! ## Histories -/

/-- In every history of successful requests that starts without workflows, the workflows are
    well defined in each state reached exactly when no update of the history breaks one. -/
theorem workflowsWellDefined_iff (start : Db) (hstart : start.workflows = .empty)
    (reqs : List DefinitionRequest) (final : Db)
    (hrun : Runs.run DefinitionRequest.succeed start reqs = some final) :
    (∀ before db, before <+: reqs →
        Runs.run DefinitionRequest.succeed start before = some db → WorkflowsWellDefined db) ↔
      ∀ before req db, before ++ [req] <+: reqs →
        Runs.run DefinitionRequest.succeed start before = some db → ¬ BreaksWorkflow db req := by
  refine Runs.throughout_iff (fun w hw => ?_)
    (fun _ _ _ hdb hstep => wellDefined_succeed_iff hdb hstep) hrun
  rw [hstart] at hw
  cases hw

/-! ## Workflows that lose their steps or their team -/

namespace BrokenWorkflow

/-- The deployment before any workflow, with a second AgentOS that has a team of its own. -/
def start : Db :=
  { Deployment.db with
    metadata := { Deployment.metadata with
      agentOs := ⟨[⟨1, "enterprise", "Enterprise", some 1, none, true, Deployment.morning, none⟩,
        ⟨2, "partner", "Partner", some 1, none, true, Deployment.morning, none⟩], by decide⟩
      teams := ⟨[⟨1, 1, "sales", "Sales", none, true, Deployment.morning, none⟩,
        ⟨2, 2, "support", "Support", none, true, Deployment.morning, none⟩], by decide⟩ }
    workflows := .empty
    workflowSteps := .empty }

/-- A workflow of the first AgentOS with one step. -/
def onboarding : WorkflowCreate where
  agentOsId := 1
  code := "onboarding"
  name := "Onboarding"
  teamId := some 1
  enabled := true
  steps := [⟨.team, none, some "sales", rfl⟩]
  codeLength := by decide
  codeMatches := by decide
  nameLength := by decide
  stepsLength := by decide

/-- An update that sends a team or steps. -/
def update (teamId : Option Uuid) (steps : Option (List WorkflowStepDefinition)) :
    DefinitionRequest :=
  .updateWorkflow .stored 1 ⟨none, teamId, none, steps⟩

end BrokenWorkflow

open BrokenWorkflow in
/-- An update that sends neither keeps the workflow well defined. -/
theorem workflowsWellDefined_example :
    let reqs := [.createWorkflow .stored onboarding, update none none]
    (∀ before db, before <+: reqs →
        Runs.run DefinitionRequest.succeed start before = some db → WorkflowsWellDefined db) ↔
      ∀ before req db, before ++ [req] <+: reqs →
        Runs.run DefinitionRequest.succeed start before = some db → ¬ BreaksWorkflow db req :=
  workflowsWellDefined_iff start rfl _ _ rfl

open BrokenWorkflow in
/-- An update with no steps at all leaves the workflow without any, and one with the team of
    the other AgentOS is accepted too. -/
theorem update_breaks_workflow :
    (∃ db, Runs.run DefinitionRequest.succeed start
        [.createWorkflow .stored onboarding, update none (some [])] = some db ∧
      ¬ WorkflowsWellDefined db) ∧
    ∃ db, Runs.run DefinitionRequest.succeed start
        [.createWorkflow .stored onboarding, update (some 2) none] = some db ∧
      ¬ WorkflowsWellDefined db := by
  refine ⟨⟨_, rfl, fun h => ?_⟩, ⟨_, rfl, fun h => ?_⟩⟩
  · obtain ⟨s, hs, -⟩ := (h _ (List.mem_singleton.mpr rfl) rfl).steps
    cases hs
  · obtain ⟨team, hteam, hid, hos⟩ := (h _ (List.mem_singleton.mpr rfl) rfl).team 2 rfl
    revert team
    decide

end AgnoRuntime
