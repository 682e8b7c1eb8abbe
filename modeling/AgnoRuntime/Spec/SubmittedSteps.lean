import AgnoRuntime.Spec.AgentSteps
import AgnoRuntime.Spec.WorkflowDefinitions

/-!
# The steps that were submitted last

A creation, and an update that sends steps, submit the steps of a workflow. The codes of all
of them are resolved before the first row is written, and a request that raises is rolled
back with everything it wrote; so the stored steps of a workflow are always those of the last
submission that was accepted, each with a target that was live and under the AgentOS of the
workflow then.

## Key results

- `target_of_resolveStep`: what the code of a step is resolved to
- `steps_as_last_submitted`: the stored steps are the last ones submitted
-/

namespace AgnoRuntime

open Except KeyedTable WorkflowRegistry WorkflowStepRepository

/-! ## What a step should be -/

/-- The agent is stored and not deleted, and so is its team, which is under the AgentOS. -/
structure LiveAgentOf (m : Metadata) (agentOsId : Uuid) (agent : Agent) : Prop where
  stored : agent ∈ m.agents.rows
  live : isLive agent = true
  team : ∃ team ∈ m.teams.rows, isLive team = true ∧ team.agentOsId = agentOsId ∧
    agent.teamId = team.id

/-- The team is stored, not deleted, and under the AgentOS. -/
structure LiveTeamOf (m : Metadata) (agentOsId : Uuid) (team : Team) : Prop where
  stored : team ∈ m.teams.rows
  live : isLive team = true
  agentOs : team.agentOsId = agentOsId

/-- Of the two targets the one that the type names is set, to an agent or a team with the code
    that was sent. -/
def HasTarget (m : Metadata) (agentOsId : Uuid) (definition : WorkflowStepDefinition)
    (agentId teamId : Option Uuid) : Prop :=
  match definition.type with
  | .agent => teamId = none ∧ ∃ agent, LiveAgentOf m agentOsId agent ∧ agentId = some agent.id ∧
      definition.agentCode = some agent.code
  | .team => agentId = none ∧ ∃ team, LiveTeamOf m agentOsId team ∧ teamId = some team.id ∧
      definition.teamCode = some team.code

/-- The row stores a definition at its place, with a target found in these tables. -/
structure StoresStep (m : Metadata) (agentOsId : Uuid) (definition : WorkflowStepDefinition × Nat)
    (s : WorkflowStep) : Prop where
  order : s.stepOrder = definition.2
  type : s.stepType = definition.1.type
  target : HasTarget m agentOsId definition.1 s.agentId s.teamId

/-- The workflow and the steps that a request submits. -/
def DefinitionRequest.submission (db : Db) :
    DefinitionRequest → Option (Uuid × List WorkflowStepDefinition)
  | .createWorkflow _ payload => some (db.workflows.freshKey, payload.steps)
  | .updateWorkflow _ workflowId payload => payload.steps.map fun steps => (workflowId, steps)
  | .metadata _ | .deleteWorkflow _ _ => none

/-- The request is accepted, and it submits the steps of the workflow. -/
structure Submits (db : Db) (req : DefinitionRequest) (workflowId : Uuid)
    (definitions : List WorkflowStepDefinition) : Prop where
  accepted : ∃ db', req.handle db = .ok db'
  submission : req.submission db = some (workflowId, definitions)

/-! ## Resolving the codes -/

variable {scan : ScanOrder Team} {m : Metadata} {agentOsId : Uuid}

/-- A resolved step has the type of its definition, and a target found where the code was looked
    up. -/
theorem target_of_resolveStep {definition : WorkflowStepDefinition} {step : ResolvedStep}
    (h : resolveStep scan m agentOsId definition = .ok step) :
    step.stepType = definition.type ∧
      HasTarget m agentOsId definition step.agentId step.teamId := by
  have hmatch := definition.codeMatchesType
  unfold HasTarget
  cases htype : definition.type with
  | agent =>
    rw [htype] at hmatch
    simp only [resolveStep, htype, bind_eq_ok] at h
    obtain ⟨found, hfind, h⟩ := h
    cases found with
    | none => cases h
    | some agent =>
      cases h
      rw [findAgent_eq] at hfind
      -- the agent is one of a team that the search went through
      obtain ⟨team, hteam, hagent⟩ := exists_team_of_mem_firstHolders (mem_of_scalarOneOrNone hfind)
      obtain ⟨hstored, hid, hcode, hlive⟩ := mem_codeHolders.mp hagent
      refine ⟨rfl, rfl, agent, ⟨hstored, hlive, team, ?_⟩, rfl, ?_⟩
      · obtain ⟨hteam, hteamLive, hos⟩ := mem_of_mem_searchedTeams hteam
        exact ⟨hteam, hteamLive, hos, hid⟩
      · rw [hcode]
        exact eq_some_of_truthy hmatch
  | team =>
    rw [htype] at hmatch
    simp only [resolveStep, htype, bind_eq_ok] at h
    obtain ⟨found, hfind, h⟩ := h
    cases found with
    | none => cases h
    | some team =>
      cases h
      obtain ⟨hstored, hos, hcode, hlive⟩ := TeamRepository.getByCode_some hfind
      refine ⟨rfl, rfl, team, ⟨hstored, hlive, hos⟩, rfl, ?_⟩
      rw [hcode]
      exact eq_some_of_truthy hmatch

/-! ## One request -/

variable {db db' : Db}

/-- Rows in the order of their places are listed as they are. -/
private theorem ordered_of_places {workflowId : Uuid} {steps : List ResolvedStep} {order : Nat}
    {rows : List WorkflowStep}
    (h : List.Forall₂ (IsRowOf workflowId) (steps.zipIdx order) rows) :
    WorkflowExecutor.ordered rows = rows ∧ ∀ s ∈ rows, (order : Int) ≤ s.stepOrder := by
  induction steps generalizing order rows with
  | nil =>
    cases h
    exact ⟨rfl, fun _ hs => by cases hs⟩
  | cons step steps ih =>
    rw [List.zipIdx_cons] at h
    cases h with
    | cons hrow hrows =>
      rename_i s rest
      obtain ⟨id, rfl⟩ := hrow
      obtain ⟨hordered, hbound⟩ := ih hrows
      constructor
      · rw [WorkflowExecutor.ordered, List.insertionSort_cons,
          show rest.insertionSort _ = rest from hordered]
        cases rest with
        | nil => rfl
        | cons s rest =>
          -- the first of the rest has a later place
          have hle := hbound s List.mem_cons_self
          refine List.orderedInsert_cons_of_le _ _ ?_
          show (order : Int) ≤ s.stepOrder
          omega
      · intro s hs
        rcases List.mem_cons.mp hs with rfl | hs
        · exact Int.le_refl _
        · have hle := hbound s hs
          omega

/-- The rows of the steps that definitions are resolved to store these definitions. -/
private theorem stores_of_rows {workflowId : Uuid} {definitions : List WorkflowStepDefinition}
    {resolved : List ResolvedStep} {order : Nat} {rows : List WorkflowStep}
    (h : List.Forall₂ (fun definition step => resolveStep scan m agentOsId definition = .ok step)
      definitions resolved)
    (hrows : List.Forall₂ (IsRowOf workflowId) (resolved.zipIdx order) rows) :
    List.Forall₂ (StoresStep m agentOsId) (definitions.zipIdx order) rows := by
  induction h generalizing order rows with
  | nil =>
    cases hrows
    exact .nil
  | cons hstep _ ih =>
    rw [List.zipIdx_cons] at hrows ⊢
    cases hrows with
    | cons hrow hrows =>
      obtain ⟨id, rfl⟩ := hrow
      obtain ⟨htype, htarget⟩ := target_of_resolveStep hstep
      exact .cons ⟨rfl, htype, htarget⟩ (ih hrows)

/-- After `replace_steps` with resolved steps, each listed step stores its definition. -/
theorem stores_replaceSteps {workflowId : Uuid} {definitions : List WorkflowStepDefinition}
    {resolved : List ResolvedStep}
    (h : resolveStepDefinitions scan m agentOsId definitions = .ok resolved) :
    List.Forall₂ (StoresStep m agentOsId) definitions.zipIdx
      (listByWorkflow (replaceSteps db workflowId resolved).workflowSteps workflowId) := by
  have hrows := rows_replaceSteps db workflowId resolved
  rw [listByWorkflow, (ordered_of_places hrows).1]
  exact stores_of_rows (forall₂_of_mapM_eq_ok h) hrows

/-- The steps of the other workflows are listed as before. -/
theorem listByWorkflow_replaceSteps_of_ne {workflowId other : Uuid} (resolved : List ResolvedStep)
    (hne : other ≠ workflowId) :
    listByWorkflow (replaceSteps db workflowId resolved).workflowSteps other =
      listByWorkflow db.workflowSteps other := by
  rw [listByWorkflow, listByWorkflow, filter_replaceSteps_of_ne resolved hne]

/-- What an accepted request does to the workflows and their steps: those that it submits are
    stored, and the others stay. -/
structure StepsAfter (db : Db) (req : DefinitionRequest) (db' : Db) : Prop where
  submitted : ∀ w ∈ db'.workflows.rows, ∀ definitions,
    req.submission db = some (w.id, definitions) →
      List.Forall₂ (StoresStep db.metadata w.agentOsId) definitions.zipIdx
        (listByWorkflow db'.workflowSteps w.id)
  kept : ∀ w ∈ db'.workflows.rows, (∀ definitions, req.submission db ≠ some (w.id, definitions)) →
    (∃ w₀ ∈ db.workflows.rows, w₀.id = w.id ∧ w₀.agentOsId = w.agentOsId) ∧
      listByWorkflow db'.workflowSteps w.id = listByWorkflow db.workflowSteps w.id

/-- Rows that are changed in place keep their ids and their AgentOS. -/
private theorem exists_row_of_update {workflowId : Uuid} {f : Workflow → Workflow}
    (hf : ∀ r, (f r).id = r.id) (hos : ∀ r, (f r).agentOsId = r.agentOsId) {w : Workflow}
    (hw : w ∈ (db.workflows.update workflowId f hf).rows) :
    ∃ w₀ ∈ db.workflows.rows, w₀.id = w.id ∧ w₀.agentOsId = w.agentOsId := by
  obtain ⟨w₀, hw₀, rfl⟩ := mem_rows_update.mp hw
  refine ⟨w₀, hw₀, ?_⟩
  split
  · exact ⟨(hf w₀).symm, (hos w₀).symm⟩
  · exact ⟨rfl, rfl⟩

/-- Every accepted request does so. -/
theorem stepsAfter_of_handle {req : DefinitionRequest} (h : req.handle db = .ok db') :
    StepsAfter db req db' := by
  cases req with
  | metadata req =>
    simp only [DefinitionRequest.handle, bind_eq_ok, pure_eq_ok] at h
    obtain ⟨m, -, rfl⟩ := h
    exact ⟨fun _ _ _ hnone => (by cases hnone), fun w hw _ => ⟨⟨w, hw, rfl, rfl⟩, rfl⟩⟩
  | createWorkflow scan payload =>
    obtain ⟨steps, hsteps, -, -, rfl⟩ := createWorkflow_ok h
    constructor
    · intro w hw definitions hsent
      obtain ⟨hid, rfl⟩ := Prod.mk.inj (Option.some.inj hsent)
      rcases List.mem_append.mp hw with hw | hw
      · exact absurd hid.symm (key_lt_freshKey hw).ne
      · obtain rfl := List.mem_singleton.mp hw
        exact stores_replaceSteps hsteps
    · intro w hw hnot
      rcases List.mem_append.mp hw with hw | hw
      · exact ⟨⟨w, hw, rfl, rfl⟩, listByWorkflow_replaceSteps_of_ne _ (key_lt_freshKey hw).ne⟩
      · obtain rfl := List.mem_singleton.mp hw
        exact absurd rfl (hnot payload.steps)
  | updateWorkflow scan workflowId payload =>
    obtain ⟨w₀, hw₀, rfl, -, ⟨hnone, rfl⟩ | ⟨steps, resolved, hsome, hresolved, rfl⟩⟩ :=
      updateWorkflow_ok h
    · constructor
      · intro w _ definitions hsent
        rw [DefinitionRequest.submission, hnone] at hsent
        cases hsent
      · exact fun w hw _ => ⟨exists_row_of_update (fun _ => by rfl) (fun _ => by rfl) hw, rfl⟩
    · constructor
      · intro w hw definitions hsent
        rw [DefinitionRequest.submission, hsome] at hsent
        obtain ⟨hid, rfl⟩ := Prod.mk.inj (Option.some.inj hsent)
        -- the AgentOS whose tables were searched is that of the row
        obtain ⟨w₁, hw₁, hid₁, hos⟩ := exists_row_of_update (fun _ => by rfl) (fun _ => by rfl) hw
        obtain rfl := db.workflows.eq_of_key_eq hw₁ hw₀ (hid₁.trans hid.symm)
        rw [← hos, ← hid]
        exact stores_replaceSteps hresolved
      · intro w hw hnot
        refine ⟨exists_row_of_update (fun _ => by rfl) (fun _ => by rfl) hw, ?_⟩
        refine listByWorkflow_replaceSteps_of_ne _ fun hid => hnot steps ?_
        rw [DefinitionRequest.submission, hsome, hid]
        rfl
  | deleteWorkflow workflowId now =>
    obtain rfl := deleteWorkflow_ok h
    exact ⟨fun _ _ _ hnone => (by cases hnone),
      fun w hw _ => ⟨exists_row_of_update (fun _ => by rfl) (fun _ => by rfl) hw, rfl⟩⟩

/-! ## Histories -/

/-- The last request of the history that is accepted and submits the steps of the workflow. -/
structure LastSubmission (start : Db) (before : List DefinitionRequest) (req : DefinitionRequest)
    (after : List DefinitionRequest) (workflowId : Uuid)
    (definitions : List WorkflowStepDefinition) : Prop where
  submits : Submits (DefinitionRequest.run start before) req workflowId definitions
  last : ∀ mid later rest definitions', after = mid ++ later :: rest →
    ¬ Submits (DefinitionRequest.run start (before ++ req :: mid)) later workflowId definitions'

/-- A further request that is refused, or submits the steps of another workflow or none. -/
private theorem LastSubmission.concat {start : Db} {before after : List DefinitionRequest}
    {req later : DefinitionRequest} {workflowId : Uuid} {definitions : List WorkflowStepDefinition}
    (h : LastSubmission start before req after workflowId definitions)
    (hlater : ∀ definitions',
      ¬ Submits (DefinitionRequest.run start (before ++ req :: after)) later workflowId
        definitions') :
    LastSubmission start before req (after ++ [later]) workflowId definitions := by
  refine ⟨h.submits, fun mid next rest definitions' hafter => ?_⟩
  rcases List.eq_nil_or_concat rest with rfl | ⟨rest, last, rfl⟩
  · obtain ⟨rfl, hnext⟩ := List.append_inj' hafter rfl
    obtain rfl := List.head_eq_of_cons_eq hnext
    exact hlater definitions'
  · rw [List.concat_eq_append, ← List.cons_append, ← List.append_assoc] at hafter
    exact h.last mid next rest definitions' (List.append_inj_left' hafter rfl)

/-- In every history that starts without workflows, whatever of it is refused, the steps of each
    workflow are those of the last submission that was accepted: they stand at the places 0, 1, ..
    in the order in which they were sent, and each has as its only target an agent or a team,
    as its type says, that was live and under the workflow's AgentOS when it was written. -/
theorem steps_as_last_submitted (start : Db) (hstart : start.workflows = .empty)
    (reqs : List DefinitionRequest) (w : Workflow)
    (hw : w ∈ (DefinitionRequest.run start reqs).workflows.rows) :
    ∃ before req after definitions, reqs = before ++ req :: after ∧
      LastSubmission start before req after w.id definitions ∧
      List.Forall₂ (StoresStep (DefinitionRequest.run start before).metadata w.agentOsId)
        definitions.zipIdx
        (listByWorkflow (DefinitionRequest.run start reqs).workflowSteps w.id) := by
  induction reqs using List.reverseRecOn generalizing w with
  | nil =>
    rw [DefinitionRequest.run, List.foldl_nil, hstart] at hw
    cases hw
  | append_singleton reqs req ih =>
    have hrun : DefinitionRequest.run start (reqs ++ [req]) =
        DefinitionRequest.apply (DefinitionRequest.run start reqs) req := List.foldl_concat _ _ _ _
    rw [hrun, DefinitionRequest.apply] at hw ⊢
    split at hw
    · rename_i db' hok
      have hafter := stepsAfter_of_handle hok
      by_cases hsubmits : ∃ definitions,
          req.submission (DefinitionRequest.run start reqs) = some (w.id, definitions)
      · obtain ⟨definitions, hsubmits⟩ := hsubmits
        refine ⟨reqs, req, [], definitions, rfl, ⟨⟨⟨db', hok⟩, hsubmits⟩, ?_⟩,
          hafter.submitted w hw definitions hsubmits⟩
        intro mid later rest definitions' hnil
        simp at hnil
      · -- the steps are those of the history before this request
        rw [not_exists] at hsubmits
        obtain ⟨⟨w₀, hw₀, hid, hos⟩, hlist⟩ := hafter.kept w hw hsubmits
        obtain ⟨before, earlier, after, definitions, rfl, hlast, hstored⟩ := ih w₀ hw₀
        rw [hid] at hlast
        refine ⟨before, earlier, after ++ [req], definitions, by simp, ?_, ?_⟩
        · exact hlast.concat fun definitions' hsub => hsubmits definitions' hsub.submission
        · rw [hlist, ← hos, ← hid]
          exact hstored
    · rename_i exc herror
      obtain ⟨before, earlier, after, definitions, rfl, hlast, hstored⟩ := ih w hw
      refine ⟨before, earlier, after ++ [req], definitions, by simp, ?_, hstored⟩
      refine hlast.concat fun definitions' hsub => ?_
      obtain ⟨db', hok⟩ := hsub.accepted
      rw [herror] at hok
      cases hok

/-! ## A submission that fails half way -/

namespace BrokenWorkflow

/-- Steps by type and code. -/
def agentStep (code : String) (h : truthy (some code) = true) : WorkflowStepDefinition :=
  ⟨.agent, some code, none, h⟩
def teamStep (code : String) (h : truthy (some code) = true) : WorkflowStepDefinition :=
  ⟨.team, none, some code, h⟩

/-- The codes of the steps below are texts that say something. -/
theorem crm_truthy : truthy (some "crm") = true := rfl
theorem sales_truthy : truthy (some "sales") = true := rfl
theorem nobody_truthy : truthy (some "nobody") = true := rfl

/-- A creation, an update with two steps, and an update whose second step has no target. -/
def submissions : List DefinitionRequest :=
  [.createWorkflow .stored onboarding,
    update none (some [agentStep "crm" crm_truthy, teamStep "sales" sales_truthy]),
    update none (some [teamStep "sales" sales_truthy, agentStep "nobody" nobody_truthy])]

/-- The update that fails leaves the two steps of the one before it. -/
example : (listByWorkflow (DefinitionRequest.run start submissions).workflowSteps 1).map
    (fun s => (s.stepOrder, s.agentId, s.teamId)) = [(0, some 1, none), (1, none, some 1)] := by
  decide +kernel

end BrokenWorkflow

open BrokenWorkflow in
/-- The steps of the workflow that these requests create. -/
theorem steps_as_last_submitted_onboarding :
    ∃ before req after definitions, submissions = before ++ req :: after ∧
      LastSubmission start before req after 1 definitions ∧
      List.Forall₂ (StoresStep (DefinitionRequest.run start before).metadata 1)
        definitions.zipIdx
        (listByWorkflow (DefinitionRequest.run start submissions).workflowSteps 1) :=
  steps_as_last_submitted start rfl submissions (onboarding.row 1) (by decide +kernel)

end AgnoRuntime
