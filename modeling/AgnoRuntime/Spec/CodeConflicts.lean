import AgnoRuntime.Spec.MetadataTables
import AgnoRuntime.Spec.WorkflowTables
import AgnoRuntime.Model.Requests

/-!
# Codes that are taken

Every `create` looks for a row with the code that is not deleted, and raises
`ConflictError` when there is one. The uniqueness constraints of the tables also count
the rows that are deleted, so a create whose code only a deleted row has passes the
lookup and is refused by the database.

After any history of requests a create follows the rule "conflict or success" exactly
when no deleted row of its scope has the code.
-/

namespace AgnoRuntime

open Except KeyedTable

/-! ## Twins -/

/-- For each row with the code of a create in the scope of the create: is it live? -/
def twins (db : Db) : DefinitionRequest → List Bool
  | .metadata (.createAgentOs payload _) =>
    (db.metadata.agentOs.rows.filter fun r => r.code = payload.code).map isLive
  | .metadata (.createTeam payload _) =>
    (db.metadata.teams.rows.filter fun r =>
      r.agentOsId = payload.agentOsId && r.code = payload.code).map isLive
  | .metadata (.createAgent payload _) =>
    (db.metadata.agents.rows.filter fun r =>
      r.teamId = payload.teamId && r.code = payload.code).map isLive
  | .metadata (.createSkill payload) =>
    (db.metadata.skills.rows.filter fun r => r.code = payload.code).map isLive
  | .createWorkflow _ payload =>
    (db.workflows.rows.filter fun r =>
      r.agentOsId = payload.agentOsId && r.code = payload.code).map isLive
  | _ => []

/-- A row that is not deleted has the code. -/
def LiveTwin (db : Db) (req : DefinitionRequest) : Prop := true ∈ twins db req

/-- A deleted row has the code. -/
def DeletedTwin (db : Db) (req : DefinitionRequest) : Prop := false ∈ twins db req

/-- The creates of the resources that have a code. -/
def DefinitionRequest.createsCode : DefinitionRequest → Bool
  | .metadata (.createAgentOs _ _) | .metadata (.createTeam _ _) | .metadata (.createAgent _ _)
  | .metadata (.createSkill _) | .createWorkflow _ _ => true
  | _ => false

/-- A row with the id that a reference gives is stored. -/
def ReferencePresent {α : Type} {key : α → Uuid} (t : KeyedTable key) (ref : Option Uuid) : Prop :=
  ∀ id, ref = some id → ∃ r ∈ t.rows, key r = id

/-- The row is stored and not deleted. -/
def ParentPresent {α : Type} [SoftDelete α] {key : α → Uuid} (t : KeyedTable key) (id : Uuid) :
    Prop :=
  ∃ r ∈ t.rows, key r = id ∧ isLive r = true

/-- The agent or team a step names is stored and not deleted: the agent in one of the teams the
    registry lists, the team under the AgentOS. -/
def StepPresent (scan : ScanOrder Team) (m : Metadata) (agentOsId : Uuid)
    (step : WorkflowStepDefinition) : Prop :=
  match step.type with
  | .agent =>
    ∃ team ∈ (BaseRepository.list scan m.teams (fun t => t.agentOsId = agentOsId) 0 500).1,
      ∃ r ∈ m.agents.rows,
        r.teamId = team.id ∧ r.code = step.agentCode.getD "" ∧ isLive r = true
  | .team =>
    ∃ r ∈ m.teams.rows,
      r.agentOsId = agentOsId ∧ r.code = step.teamCode.getD "" ∧ isLive r = true

/-- The rows a create refers to are present. -/
def ReferencesPresent (db : Db) : DefinitionRequest → Prop
  | .metadata (.createAgentOs payload _) =>
    ReferencePresent db.metadata.models payload.defaultModelId ∧
      ReferencePresent db.metadata.prompts payload.sharedPromptId
  | .metadata (.createTeam payload _) =>
    ParentPresent db.metadata.agentOs payload.agentOsId ∧
      ReferencePresent db.metadata.prompts payload.teamPromptId
  | .metadata (.createAgent payload _) =>
    ParentPresent db.metadata.teams payload.teamId ∧
      ReferencePresent db.metadata.prompts payload.promptId ∧
      ReferencePresent db.metadata.models payload.modelId
  | .createWorkflow scan payload =>
    ParentPresent db.metadata.agentOs payload.agentOsId ∧
      (∀ teamId, payload.teamId = some teamId → ∃ r ∈ db.metadata.teams.rows,
        r.id = teamId ∧ isLive r = true ∧ r.agentOsId = payload.agentOsId) ∧
      ∀ step ∈ payload.steps, StepPresent scan db.metadata payload.agentOsId step
  | _ => True

/-- What a create does about its code. -/
structure CreateLaw (db : Db) (req : DefinitionRequest) : Prop where
  succeeds : (∃ db', req.handle db = .ok db') ↔ ¬ LiveTwin db req
  conflicts : LiveTwin db req → ∃ message, req.handle db = .error (.conflict message)
  noIntegrityError : ∀ constraint, req.handle db ≠ .error (.integrityError constraint)

/-! ## Unique codes -/

/-- No two rows of a scope have the same code, deleted or not. -/
structure UniqueCodes (db : Db) : Prop where
  agentOs : (db.metadata.agentOs.rows.map (·.code)).Nodup
  teams : (db.metadata.teams.rows.map fun r => (r.agentOsId, r.code)).Nodup
  agents : (db.metadata.agents.rows.map fun r => (r.teamId, r.code)).Nodup
  skills : (db.metadata.skills.rows.map (·.code)).Nodup
  workflows : (db.workflows.rows.map fun r => (r.agentOsId, r.code)).Nodup

/-- A successful request keeps codes unique. -/
private theorem uniqueCodes_handle {db db' : Db} {req : DefinitionRequest} (hdb : UniqueCodes db)
    (h : req.handle db = .ok db') : UniqueCodes db' := by
  obtain ⟨htables, hworkflows⟩ := definitionsChange_of_handle h
  exact {
    agentOs := htables.agentOs.codesNodup hdb.agentOs
    teams := htables.teams.codesNodup hdb.teams
    agents := htables.agents.codesNodup hdb.agents
    skills := htables.skills.codesNodup hdb.skills
    workflows := hworkflows.codesNodup hdb.workflows }

/-- Codes are unique after every history. -/
theorem uniqueCodes_run {db : Db} (hdb : UniqueCodes db) (reqs : List DefinitionRequest) :
    UniqueCodes (DefinitionRequest.run db reqs) := by
  induction reqs generalizing db with
  | nil => exact hdb
  | cons req reqs ih =>
    rw [DefinitionRequest.run, List.foldl_cons]
    refine ih ?_
    rw [DefinitionRequest.apply]
    split
    · rename_i db' hok
      exact uniqueCodes_handle hdb hok
    · exact hdb

/-! ## Lookup and constraint -/

section Checks

variable {α β : Type} {rows : List α} {hasCode : α → Bool}

/-- What a create does, by the rows that have its code. -/
private inductive CreateOutcome : List Bool → Except PyError β → Prop where
  | created (b : β) : CreateOutcome [] (.ok b)
  | refused (constraint : String) : CreateOutcome [false] (.error (.integrityError constraint))
  | conflict (message : String) : CreateOutcome [true] (.error (.conflict message))

/-- Where codes are unique, one row at most has a given code. -/
private theorem rows_of_unique {γ : Type} {code : α → γ} {c : γ} (hunique : (rows.map code).Nodup)
    (hcode : ∀ r, hasCode r = true → code r = c) :
    rows.filter hasCode = [] ∨ ∃ r, rows.filter hasCode = [r] := by
  have hnodup : ((rows.filter hasCode).map code).Nodup :=
    hunique.sublist (List.filter_sublist.map code)
  match hfound : rows.filter hasCode with
  | [] => exact .inl rfl
  | [r] => exact .inr ⟨r, rfl⟩
  | r :: r' :: rest =>
    have hr : r ∈ rows.filter hasCode := by simp [hfound]
    have hr' : r' ∈ rows.filter hasCode := by simp [hfound]
    rw [hfound] at hnodup
    have hne : code r ≠ code r' := by
      simp only [List.map_cons, List.nodup_cons, List.mem_cons, not_or] at hnodup
      exact hnodup.1.1
    exact absurd ((hcode r (List.mem_filter.mp hr).2).trans
      (hcode r' (List.mem_filter.mp hr').2).symm) hne

/-- The same for a code that is unique in a scope. -/
private theorem rows_of_unique_scope {scope : α → Uuid} {code : α → String}
    (hunique : (rows.map fun r => (scope r, code r)).Nodup) (s : Uuid) (c : String) :
    rows.filter (fun r => scope r = s && code r = c) = [] ∨
      ∃ r, rows.filter (fun r => scope r = s && code r = c) = [r] :=
  rows_of_unique hunique (c := (s, c)) fun r hr => by
    rw [Bool.and_eq_true, decide_eq_true_eq, decide_eq_true_eq] at hr
    rw [hr.1, hr.2]

variable [SoftDelete α]

/-- The live rows with a code are the live ones among the rows with the code. -/
private theorem filter_hasCode_isLive :
    (rows.filter fun r => hasCode r && isLive r) = (rows.filter hasCode).filter isLive := by
  rw [List.filter_filter]
  exact List.filter_congr fun r _ => Bool.and_comm _ _

/-- Among rows with different codes the lookup finds the live one with the code, if there is
    one. -/
private theorem lookup_of_unique
    (hone : rows.filter hasCode = [] ∨ ∃ r, rows.filter hasCode = [r]) :
    ∃ found, scalarOneOrNone (rows.filter fun r => hasCode r && isLive r) = .ok found ∧
      ∀ r ∈ rows, hasCode r = true → isLive r = true → found = some r := by
  have hfound : ∀ r ∈ rows, hasCode r = true → r ∈ rows.filter hasCode :=
    fun r hr hcode => List.mem_filter.mpr ⟨hr, hcode⟩
  rw [filter_hasCode_isLive]
  rcases hone with hnil | ⟨r, hr⟩
  · rw [hnil] at hfound ⊢
    exact ⟨none, rfl, fun r' hr' hcode _ => by cases hfound r' hr' hcode⟩
  · rw [hr] at hfound ⊢
    cases hr' : isLive r with
    | true =>
      rw [List.filter_cons_of_pos hr']
      refine ⟨some r, rfl, fun r' hmem hcode _ => ?_⟩
      rw [List.mem_singleton.mp (hfound r' hmem hcode)]
    | false =>
      rw [List.filter_cons_of_neg (by simp [hr'])]
      refine ⟨none, rfl, fun r' hmem hcode hlive' => ?_⟩
      rw [List.mem_singleton.mp (hfound r' hmem hcode), hr'] at hlive'
      cases hlive'

end Checks

/-- A live AgentOS is found by its code. -/
theorem UniqueCodes.getAgentOs {db : Db} (hdb : UniqueCodes db) {os : AgentOS}
    (hos : os ∈ db.metadata.agentOs.rows) (hlive : isLive os = true) :
    AgentOSRepository.getByCode db.metadata os.code = .ok (some os) := by
  have hcode : ∀ r : AgentOS, decide (r.code = os.code) = true → r.code = os.code :=
    fun _ hr => of_decide_eq_true hr
  obtain ⟨found, hlookup, hfound⟩ := lookup_of_unique (rows_of_unique hdb.agentOs hcode)
  obtain rfl := hfound os hos (decide_eq_true rfl) hlive
  exact hlookup

/-- A live team is found by its code under its AgentOS. -/
theorem UniqueCodes.getTeam {db : Db} (hdb : UniqueCodes db) {team : Team}
    (hteam : team ∈ db.metadata.teams.rows) (hlive : isLive team = true) :
    TeamRepository.getByCode db.metadata team.agentOsId team.code = .ok (some team) := by
  obtain ⟨found, hlookup, hfound⟩ :=
    lookup_of_unique (rows_of_unique_scope hdb.teams team.agentOsId team.code)
  obtain rfl := hfound team hteam (by simp) hlive
  exact hlookup

section Checks

variable {α β : Type} {rows : List α} {hasCode : α → Bool} [SoftDelete α]

/-- The lookup and the constraint of a create whose other checks all succeed. -/
private theorem createOutcome_of_checks {isNew : α → Bool} {message constraint : String}
    {rest : Except PyError β}
    (hone : rows.filter hasCode = [] ∨ ∃ r, rows.filter hasCode = [r])
    (hnew : ∀ r, isNew r = !hasCode r) (hrest : ∃ b, rest = .ok b) :
    CreateOutcome ((rows.filter hasCode).map isLive) (do
      let existing ← scalarOneOrNone (rows.filter fun r => hasCode r && isLive r)
      raiseUnless existing.isNone (.conflict message)
      raiseUnless (rows.all isNew) (.integrityError constraint)
      rest) := by
  have hall : rows.all isNew = (rows.filter hasCode).isEmpty := by
    rw [Bool.eq_iff_iff, List.all_eq_true, List.isEmpty_iff, List.filter_eq_nil_iff]
    refine forall_congr' fun r => forall_congr' fun _ => ?_
    rw [hnew, Bool.not_eq_true', Bool.not_eq_true]
  obtain ⟨b, rfl⟩ := hrest
  rw [filter_hasCode_isLive, hall]
  rcases hone with hnil | ⟨r, hr⟩
  · rw [hnil]
    exact .created b
  · rw [hr]
    cases hr' : isLive r with
    | true =>
      rw [List.map_singleton, List.filter_cons_of_pos hr', hr']
      exact .conflict message
    | false =>
      rw [List.map_singleton, List.filter_cons_of_neg (by simp [hr']), hr']
      exact .refused constraint

/-- What is done with the tables afterwards. -/
private theorem CreateOutcome.map {γ : Type} {flags : List Bool} {x : Except PyError β}
    (h : CreateOutcome flags x) (f : β → γ) :
    CreateOutcome flags (do
      let b ← x
      return f b) := by
  cases h with
  | created b => exact .created (f b)
  | refused constraint => exact .refused constraint
  | conflict message => exact .conflict message

end Checks

/-! ## References -/

section References

variable {α : Type} {key : α → Uuid} {t : KeyedTable key}

/-- The foreign key of a reference that is present holds. -/
private theorem checkReference_of_present {constraint : String} {ref : Option Uuid}
    (h : ReferencePresent t ref) : checkReference t constraint ref = .ok () := by
  rw [checkReference, raiseUnless_eq_ok]
  cases ref with
  | none => rfl
  | some id =>
    obtain ⟨r, hr, rfl⟩ := h id rfl
    rw [Option.all_some, find?_of_mem hr]
    rfl

/-- A parent that is present is found. -/
private theorem isSome_get_of_present [SoftDelete α] {id : Uuid} (h : ParentPresent t id) :
    (BaseRepository.get t id).isSome = true := by
  obtain ⟨r, hr, rfl, hlive⟩ := h
  rw [BaseRepository.get_of_mem hr hlive]
  rfl

end References

/-- The team of a workflow that is present is under its AgentOS. -/
private theorem isTeamOf_of_present {m : Metadata} {agentOsId : Uuid} {ref : Option Uuid}
    (h : ∀ teamId, ref = some teamId →
      ∃ r ∈ m.teams.rows, r.id = teamId ∧ isLive r = true ∧ r.agentOsId = agentOsId) :
    ref.all (WorkflowRegistry.isTeamOf m agentOsId) = true := by
  cases ref with
  | none => rfl
  | some teamId =>
    obtain ⟨r, hr, rfl, hlive, hos⟩ := h teamId rfl
    rw [Option.all_some, WorkflowRegistry.isTeamOf, BaseRepository.get_of_mem hr hlive,
      Option.any_some, hos]
    exact decide_eq_true rfl

/-- The row of a new workflow can be read. -/
private theorem modelValidate_row (payload : WorkflowCreate) (id : Uuid) :
    WorkflowRead.modelValidate (payload.row id) = .ok () := by
  rw [WorkflowRead.modelValidate, raiseUnless_eq_ok, readable]
  simp [WorkflowCreate.row, payload.codeMatches, payload.codeLength, payload.nameLength]

/-! ## Steps -/

section Steps

variable {db : Db} {scan : ScanOrder Team} {agentOsId : Uuid}

/-- An agent in one of the teams is found. -/
private theorem findAgent_of_present (hdb : UniqueCodes db) {code : String} {teams : List Team}
    (h : ∃ team ∈ teams, ∃ r ∈ db.metadata.agents.rows,
      r.teamId = team.id ∧ r.code = code ∧ isLive r = true) :
    ∃ agent, WorkflowRegistry.findAgent db.metadata code teams = .ok (some agent) := by
  induction teams with
  | nil =>
    obtain ⟨team, hteam, -⟩ := h
    cases hteam
  | cons team teams ih =>
    obtain ⟨found, hlookup, hfound⟩ := lookup_of_unique (rows_of_unique_scope hdb.agents team.id code)
    have hget : AgentRepository.getByCode db.metadata team.id code = .ok found := hlookup
    cases found with
    -- The first team has an agent with the code.
    | some agent =>
      refine ⟨agent, ?_⟩
      rw [WorkflowRegistry.findAgent, hget]
      rfl
    | none =>
      -- The team of the agent is one of the others.
      obtain ⟨team', hteam', r, hr, hid, hcode, hlive⟩ := h
      rcases List.mem_cons.mp hteam' with rfl | hlater
      · cases hfound r hr (by simp [hid, hcode]) hlive
      · obtain ⟨agent, hagent⟩ := ih ⟨team', hlater, r, hr, hid, hcode, hlive⟩
        refine ⟨agent, ?_⟩
        rw [WorkflowRegistry.findAgent, hget]
        exact hagent

/-- A step whose target is present is resolved. -/
private theorem resolveStep_of_present (hdb : UniqueCodes db) {step : WorkflowStepDefinition}
    (h : StepPresent scan db.metadata agentOsId step) :
    ∃ resolved, WorkflowRegistry.resolveStep scan db.metadata agentOsId step = .ok resolved := by
  rw [StepPresent] at h
  rw [WorkflowRegistry.resolveStep]
  cases htype : step.type with
  | agent =>
    rw [htype] at h
    obtain ⟨agent, hagent⟩ := findAgent_of_present hdb h
    simp only [hagent]
    exact ⟨_, rfl⟩
  | team =>
    rw [htype] at h
    obtain ⟨r, hr, hos, hcode, hlive⟩ := h
    have hget := hdb.getTeam hr hlive
    rw [hos, hcode] at hget
    simp only [hget]
    exact ⟨_, rfl⟩

end Steps

/-! ## One create -/

/-- The outcome of a create by its twins. -/
private theorem createOutcome {db : Db} {req : DefinitionRequest} (hdb : UniqueCodes db)
    (hcreate : req.createsCode = true) (hrefs : ReferencesPresent db req) :
    CreateOutcome (twins db req) (req.handle db) := by
  match req with
  | .metadata (.createAgentOs payload now) =>
    refine CreateOutcome.map ?_ _
    refine createOutcome_of_checks (rows_of_unique hdb.agentOs fun r hr => of_decide_eq_true hr)
      (fun r => decide_not) ?_
    rw [checkReference_of_present hrefs.1, checkReference_of_present hrefs.2]
    exact ⟨_, rfl⟩
  | .metadata (.createTeam payload now) =>
    refine CreateOutcome.map ?_ _
    rw [Metadata.handle, Metadata.createTeam, isSome_get_of_present hrefs.1, raiseUnless_true_bind]
    refine createOutcome_of_checks (rows_of_unique_scope hdb.teams payload.agentOsId payload.code)
      (fun r => by simp [Bool.not_and]) ?_
    rw [checkReference_of_present hrefs.2]
    exact ⟨_, rfl⟩
  | .metadata (.createAgent payload now) =>
    refine CreateOutcome.map ?_ _
    rw [Metadata.handle, Metadata.createAgent, isSome_get_of_present hrefs.1, raiseUnless_true_bind]
    refine createOutcome_of_checks (rows_of_unique_scope hdb.agents payload.teamId payload.code)
      (fun r => by simp [Bool.not_and]) ?_
    rw [checkReference_of_present hrefs.2.1, checkReference_of_present hrefs.2.2]
    exact ⟨_, rfl⟩
  | .metadata (.createSkill payload) =>
    refine CreateOutcome.map ?_ _
    exact createOutcome_of_checks (rows_of_unique hdb.skills fun r hr => of_decide_eq_true hr)
      (fun r => decide_not) ⟨_, rfl⟩
  | .createWorkflow scan payload =>
    obtain ⟨hos, hteam, hsteps⟩ := hrefs
    rw [DefinitionRequest.handle, WorkflowRegistry.createWorkflow, isSome_get_of_present hos,
      raiseUnless_true_bind, isTeamOf_of_present hteam]
    refine createOutcome_of_checks (rows_of_unique_scope hdb.workflows payload.agentOsId payload.code)
      (fun r => by simp [Bool.not_and]) ?_
    -- each step resolves because the capabilities and skills it names are present
    obtain ⟨resolved, hresolved⟩ :=
      exists_mapM_eq_ok fun step hstep => resolveStep_of_present hdb (hsteps step hstep)
    rw [WorkflowRegistry.resolveStepDefinitions, hresolved, modelValidate_row]
    exact ⟨_, rfl⟩

/-- A create follows the rule exactly when no deleted row has its code. -/
private theorem createLaw_of_outcome {db : Db} {req : DefinitionRequest}
    (h : CreateOutcome (twins db req) (req.handle db)) :
    CreateLaw db req ↔ ¬ DeletedTwin db req := by
  unfold DeletedTwin
  generalize htwins : twins db req = flags at h ⊢
  generalize hresult : req.handle db = result at h
  cases h with
  | created db' =>
    refine iff_of_true ?_ List.not_mem_nil
    constructor <;> simp [LiveTwin, htwins, hresult]
  | refused constraint =>
    exact iff_of_false (fun hlaw => hlaw.noIntegrityError constraint hresult) (by simp)
  | conflict message =>
    refine iff_of_true ?_ (by simp)
    constructor <;> simp [LiveTwin, htwins, hresult]

/-! ## Histories -/

/-- After every history of requests from a fresh hierarchy, a create whose references are present
    conflicts with a live row that has its code, succeeds where there is none, and never meets a
    constraint, exactly when no deleted row of its scope has the code. -/
theorem createLaw_iff (start : Db) (prompts : KeyedTable Prompt.id)
    (models : KeyedTable ModelRegistry.id) (hmetadata : start.metadata = .initial prompts models)
    (hworkflows : start.workflows = .empty) (history : List DefinitionRequest)
    (req : DefinitionRequest) (hcreate : req.createsCode = true)
    (hrefs : ReferencesPresent (DefinitionRequest.run start history) req) :
    CreateLaw (DefinitionRequest.run start history) req ↔
      ¬ DeletedTwin (DefinitionRequest.run start history) req := by
  have hstart : UniqueCodes start := by
    constructor <;> simp [hmetadata, hworkflows, Metadata.initial]
  exact createLaw_of_outcome (createOutcome (uniqueCodes_run hstart history) hcreate hrefs)

/-! ## A code that is used again -/

namespace ReusedCode

open Civil Deployment

/-- The tables of a fresh platform. -/
def start : Db :=
  { Deployment.db with metadata := .initial .empty .empty, workflows := .empty }

/-- The creation of an AgentOS. -/
def enterprise : DefinitionRequest :=
  .metadata (.createAgentOs ⟨"enterprise", "Enterprise", none, none, true⟩ morning)

/-- The creation of a team of the first AgentOS. -/
def sales : DefinitionRequest :=
  .metadata (.createTeam ⟨1, "sales", "Sales", none, true⟩ morning)

end ReusedCode

open ReusedCode in
/-- A team whose code no team of the AgentOS has. -/
theorem createLaw_example :
    CreateLaw (DefinitionRequest.run start [enterprise]) sales ↔
      ¬ DeletedTwin (DefinitionRequest.run start [enterprise]) sales :=
  createLaw_iff start .empty .empty rfl rfl [enterprise] sales rfl
    ⟨⟨_, List.mem_singleton.mpr rfl, rfl, rfl⟩, fun _ hid => by cases hid⟩

open ReusedCode in
/-- Create, delete, and create again: no row that is not deleted has the code, and the create
    fails in the database. -/
theorem create_after_delete :
    let db := DefinitionRequest.run start
      [enterprise, .metadata (.deleteAgentOs 1 Deployment.morning)]
    ¬ LiveTwin db enterprise ∧
      enterprise.handle db = .error (.integrityError "uq_agent_os_code") ∧
      ¬ CreateLaw db enterprise := by
  refine ⟨by unfold LiveTwin; decide +kernel, rfl, fun hlaw => ?_⟩
  exact hlaw.noIntegrityError "uq_agent_os_code" rfl

end AgnoRuntime
