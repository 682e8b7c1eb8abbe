import AgnoRuntime.Model.Capability

/-!
# Metadata requests

The routes that change the metadata behind a capability resolution:
`app/api/v1/{agent_os,teams,agents}.py`, `POST /capabilities/assignments`
(`capabilities.py`) and `app/api/v1/skills.py`.

Each route runs in one transaction of `get_db`: a handler that raises leaves
the tables as they were. Uniqueness constraints also count soft-deleted rows.
-/

namespace AgnoRuntime

open Civil Except

/-- `AgentOSCreate`. -/
structure AgentOSCreate where
  code : String
  name : String
  defaultModelId : Option Uuid
  sharedPromptId : Option Uuid
  enabled : Bool

/-- `TeamCreate`. -/
structure TeamCreate where
  agentOsId : Uuid
  code : String
  name : String
  teamPromptId : Option Uuid
  enabled : Bool

/-- `AgentCreate`. -/
structure AgentCreate where
  teamId : Uuid
  code : String
  name : String
  promptId : Option Uuid
  modelId : Option Uuid
  enabled : Bool

/-- `AgentOSUpdate`, `TeamUpdate` and `AgentUpdate`: the fields sent with a value. A Team has
    no model and ignores `modelId`. -/
structure HierarchyUpdate where
  name : Option String
  promptId : Option Uuid
  modelId : Option Uuid
  enabled : Option Bool

/-- `SkillCreate`. -/
structure SkillCreate where
  code : String
  name : String
  skillType : SkillType
  config : Option Json.Dict
  capabilityCodes : List String

/-- `SkillUpdate`: the fields sent with a value. -/
structure SkillUpdate where
  name : Option String
  config : Option Json.Dict
  capabilityCodes : Option (List String)

/-- The requests; the last argument of a create or delete is the time it runs at. -/
inductive MetadataRequest where
  | createAgentOs (payload : AgentOSCreate) (now : DateTime)
  | updateAgentOs (agentOsId : Uuid) (payload : HierarchyUpdate)
  | deleteAgentOs (agentOsId : Uuid) (now : DateTime)
  | createTeam (payload : TeamCreate) (now : DateTime)
  | updateTeam (teamId : Uuid) (payload : HierarchyUpdate)
  | deleteTeam (teamId : Uuid) (now : DateTime)
  | createAgent (payload : AgentCreate) (now : DateTime)
  | updateAgent (agentId : Uuid) (payload : HierarchyUpdate)
  | deleteAgent (agentId : Uuid) (now : DateTime)
  | setAssignment (level : CapabilityLevel) (targetId : Uuid) (capabilityCodes : List String)
  | createSkill (payload : SkillCreate)
  | updateSkill (skillId : Uuid) (payload : SkillUpdate)
  | deleteSkill (skillId : Uuid) (now : DateTime)
  | assignSkill (agentId skillId : Uuid)
  | unassignSkill (agentId skillId : Uuid)

/-- The requests that change skills, their capability codes or their assignments. -/
def MetadataRequest.changesSkills : MetadataRequest → Bool
  | createSkill _ | updateSkill _ _ | deleteSkill _ _ | assignSkill _ _ | unassignSkill _ _ => true
  | _ => false

/-- A foreign key: a reference that is given has to name a stored row. -/
def checkReference {α : Type} {key : α → Uuid} (t : KeyedTable key) (constraint : String)
    (ref : Option Uuid) : Except PyError Unit :=
  raiseUnless (ref.all (fun id => (t.find? id).isSome)) (.integrityError constraint)

/-- `^[a-z0-9][a-z0-9...]*$`, with the further characters that may follow the first. -/
def matchesCode (further : List Char) (code : String) : Bool :=
  match code.toList with
  | [] => false
  | c :: cs => (c.isLower || c.isDigit) &&
      cs.all fun c => c.isLower || c.isDigit || further.contains c

/-- A column `String(limit)`. -/
def checkColumn (limit : Nat) (value : String) : Except PyError Unit :=
  raiseUnless (value.length ≤ limit)
    (.other ("value too long for type character varying(" ++ toString limit ++ ")"))

/-- The conditions of a `Read` schema on a row's code and name. -/
def readable (further : List Char) (code name : String) : Bool :=
  matchesCode further code && code.length ≤ 128 && 1 ≤ name.length && name.length ≤ 255

namespace Metadata

/-! ## AgentOS -/

/-- `create_agent_os`. -/
def createAgentOs (m : Metadata) (payload : AgentOSCreate) (now : DateTime) :
    Except PyError Metadata := do
  let existing ← AgentOSRepository.getByCode m payload.code
  raiseUnless existing.isNone (.conflict ("AgentOS with code '" ++ payload.code ++ "' already exists"))
  -- the lookup skips deleted rows, the constraint does not
  raiseUnless (m.agentOs.rows.all (·.code ≠ payload.code)) (.integrityError "uq_agent_os_code")
  checkReference m.models "agent_os_default_model_id_fkey" payload.defaultModelId
  checkReference m.prompts "agent_os_shared_prompt_id_fkey" payload.sharedPromptId
  let row (id : Uuid) : AgentOS := {
    id := id, code := payload.code, name := payload.name, defaultModelId := payload.defaultModelId,
    sharedPromptId := payload.sharedPromptId, enabled := payload.enabled, createdAt := now,
    deletedAt := none }
  return { m with agentOs := m.agentOs.insertFresh row (fun _ => rfl) }

/-- `update_agent_os`. -/
def updateAgentOs (m : Metadata) (agentOsId : Uuid) (payload : HierarchyUpdate) :
    Except PyError Metadata := do
  let obj ← BaseRepository.getOr404 m.agentOs "AgentOS" agentOsId
  checkReference m.models "agent_os_default_model_id_fkey" payload.modelId
  checkReference m.prompts "agent_os_shared_prompt_id_fkey" payload.promptId
  return { m with agentOs := m.agentOs.update obj.id (fun r => { r with
    name := payload.name.getD r.name
    -- a field sent as null leaves the column as it is
    defaultModelId := payload.modelId.or r.defaultModelId
    sharedPromptId := payload.promptId.or r.sharedPromptId
    enabled := payload.enabled.getD r.enabled }) (fun _ => rfl) }

/-- `delete_agent_os`: teams and agents below keep their rows. -/
def deleteAgentOs (m : Metadata) (agentOsId : Uuid) (now : DateTime) : Except PyError Metadata := do
  let obj ← BaseRepository.getOr404 m.agentOs "AgentOS" agentOsId
  return { m with agentOs :=
    m.agentOs.update obj.id (fun r => { r with deletedAt := some now }) (fun _ => rfl) }

/-! ## Teams -/

/-- `create_team`. -/
def createTeam (m : Metadata) (payload : TeamCreate) (now : DateTime) :
    Except PyError Metadata := do
  raiseUnless (BaseRepository.get m.agentOs payload.agentOsId).isSome
    (.notFound ("AgentOS " ++ UuidText.text payload.agentOsId ++ " not found"))
  let existing ← TeamRepository.getByCode m payload.agentOsId payload.code
  raiseUnless existing.isNone
    (.conflict ("Team with code '" ++ payload.code ++ "' already exists under this AgentOS"))
  -- as for the AgentOS, a deleted row still holds its code
  raiseUnless (m.teams.rows.all (fun r => r.agentOsId ≠ payload.agentOsId || r.code ≠ payload.code))
    (.integrityError "uq_team_agent_os_code")
  checkReference m.prompts "teams_team_prompt_id_fkey" payload.teamPromptId
  let row (id : Uuid) : Team := {
    id := id, agentOsId := payload.agentOsId, code := payload.code, name := payload.name,
    teamPromptId := payload.teamPromptId, enabled := payload.enabled, createdAt := now,
    deletedAt := none }
  return { m with teams := m.teams.insertFresh row (fun _ => rfl) }

/-- `update_team`. -/
def updateTeam (m : Metadata) (teamId : Uuid) (payload : HierarchyUpdate) :
    Except PyError Metadata := do
  let obj ← BaseRepository.getOr404 m.teams "Team" teamId
  checkReference m.prompts "teams_team_prompt_id_fkey" payload.promptId
  return { m with teams := m.teams.update obj.id (fun r => { r with
    name := payload.name.getD r.name
    teamPromptId := payload.promptId.or r.teamPromptId
    enabled := payload.enabled.getD r.enabled }) (fun _ => rfl) }

/-- `delete_team`. -/
def deleteTeam (m : Metadata) (teamId : Uuid) (now : DateTime) : Except PyError Metadata := do
  let obj ← BaseRepository.getOr404 m.teams "Team" teamId
  return { m with teams :=
    m.teams.update obj.id (fun r => { r with deletedAt := some now }) (fun _ => rfl) }

/-! ## Agents -/

/-- `create_agent`. -/
def createAgent (m : Metadata) (payload : AgentCreate) (now : DateTime) :
    Except PyError Metadata := do
  raiseUnless (BaseRepository.get m.teams payload.teamId).isSome
    (.notFound ("Team " ++ UuidText.text payload.teamId ++ " not found"))
  let existing ← AgentRepository.getByCode m payload.teamId payload.code
  raiseUnless existing.isNone
    (.conflict ("Agent with code '" ++ payload.code ++ "' already exists under this Team"))
  raiseUnless (m.agents.rows.all (fun r => r.teamId ≠ payload.teamId || r.code ≠ payload.code))
    (.integrityError "uq_agent_team_code")
  checkReference m.prompts "agents_prompt_id_fkey" payload.promptId
  checkReference m.models "agents_model_id_fkey" payload.modelId
  let row (id : Uuid) : Agent := {
    id := id, teamId := payload.teamId, code := payload.code, name := payload.name,
    promptId := payload.promptId, modelId := payload.modelId, enabled := payload.enabled,
    createdAt := now, deletedAt := none }
  return { m with agents := m.agents.insertFresh row (fun _ => rfl) }

/-- `update_agent`. -/
def updateAgent (m : Metadata) (agentId : Uuid) (payload : HierarchyUpdate) :
    Except PyError Metadata := do
  let obj ← BaseRepository.getOr404 m.agents "Agent" agentId
  checkReference m.prompts "agents_prompt_id_fkey" payload.promptId
  checkReference m.models "agents_model_id_fkey" payload.modelId
  return { m with agents := m.agents.update obj.id (fun r => { r with
    name := payload.name.getD r.name
    promptId := payload.promptId.or r.promptId
    modelId := payload.modelId.or r.modelId
    enabled := payload.enabled.getD r.enabled }) (fun _ => rfl) }

/-- `delete_agent`. -/
def deleteAgent (m : Metadata) (agentId : Uuid) (now : DateTime) : Except PyError Metadata := do
  let obj ← BaseRepository.getOr404 m.agents "Agent" agentId
  return { m with agents :=
    m.agents.update obj.id (fun r => { r with deletedAt := some now }) (fun _ => rfl) }

/-! ## Capability assignments -/

/-- `set_assignment`: `_SETTERS` by level. -/
def setAssignment (m : Metadata) (level : CapabilityLevel) (targetId : Uuid)
    (capabilityCodes : List String) : Except PyError Metadata :=
  match level with
  | .agentOs => CapabilityRepository.setAgentOsCapabilities m targetId capabilityCodes
  | .team => CapabilityRepository.setTeamCapabilities m targetId capabilityCodes
  | .agent => CapabilityRepository.setAgentCapabilities m targetId capabilityCodes

/-! ## Skills -/

/-- `create_skill`. -/
def createSkill (m : Metadata) (payload : SkillCreate) : Except PyError Metadata := do
  let existing ← SkillRepository.getByCode m payload.code
  raiseUnless existing.isNone (.conflict ("Skill with code '" ++ payload.code ++ "' already exists"))
  raiseUnless (m.skills.rows.all (·.code ≠ payload.code)) (.integrityError "uq_skill_code")
  let row (id : Uuid) : Skill := {
    id := id, code := payload.code, name := payload.name, skillType := payload.skillType,
    config := payload.config, deletedAt := none }
  let created := { m with skills := m.skills.insertFresh row (fun _ => rfl) }
  return SkillRepository.setCapabilityCodes created m.skills.freshKey payload.capabilityCodes

/-- `update_skill`. -/
def updateSkill (m : Metadata) (skillId : Uuid) (payload : SkillUpdate) :
    Except PyError Metadata := do
  let obj ← BaseRepository.getOr404 m.skills "Skill" skillId
  let updated := { m with skills := m.skills.update obj.id (fun r => { r with
    name := payload.name.getD r.name
    config := payload.config.or r.config }) (fun _ => rfl) }
  match payload.capabilityCodes with
  | some codes => return SkillRepository.setCapabilityCodes updated obj.id codes
  | none => return updated

/-- `delete_skill`: the skill's rows in `skill_capabilities` and `agent_skills` stay. -/
def deleteSkill (m : Metadata) (skillId : Uuid) (now : DateTime) : Except PyError Metadata := do
  let obj ← BaseRepository.getOr404 m.skills "Skill" skillId
  return { m with skills :=
    m.skills.update obj.id (fun r => { r with deletedAt := some now }) (fun _ => rfl) }

/-- `assign_skill_to_agent`. -/
def assignSkill (m : Metadata) (agentId skillId : Uuid) : Except PyError Metadata := do
  let _ ← BaseRepository.getOr404 m.skills "Skill" skillId
  SkillRepository.assignToAgent m agentId skillId

/-! ## Requests -/

/-- Run the handler of a request. -/
def handle (m : Metadata) : MetadataRequest → Except PyError Metadata
  | .createAgentOs payload now => m.createAgentOs payload now
  | .updateAgentOs agentOsId payload => m.updateAgentOs agentOsId payload
  | .deleteAgentOs agentOsId now => m.deleteAgentOs agentOsId now
  | .createTeam payload now => m.createTeam payload now
  | .updateTeam teamId payload => m.updateTeam teamId payload
  | .deleteTeam teamId now => m.deleteTeam teamId now
  | .createAgent payload now => m.createAgent payload now
  | .updateAgent agentId payload => m.updateAgent agentId payload
  | .deleteAgent agentId now => m.deleteAgent agentId now
  | .setAssignment level targetId codes => m.setAssignment level targetId codes
  | .createSkill payload => m.createSkill payload
  | .updateSkill skillId payload => m.updateSkill skillId payload
  | .deleteSkill skillId now => m.deleteSkill skillId now
  | .assignSkill agentId skillId => m.assignSkill agentId skillId
  | .unassignSkill agentId skillId => .ok (SkillRepository.unassignFromAgent m agentId skillId)

/-- The tables after a request: an error rolls the transaction back. -/
def apply (m : Metadata) (req : MetadataRequest) : Metadata :=
  match m.handle req with
  | .ok m' => m'
  | .error _ => m

/-- The tables after a sequence of requests. -/
def run (m : Metadata) (reqs : List MetadataRequest) : Metadata := reqs.foldl apply m

@[simp] theorem run_nil (m : Metadata) : m.run [] = m := rfl

@[simp] theorem run_cons (m : Metadata) (req : MetadataRequest) (reqs : List MetadataRequest) :
    m.run (req :: reqs) = (m.apply req).run reqs := rfl

/-- Running two sequences one after the other. -/
theorem run_append (m : Metadata) (reqs reqs' : List MetadataRequest) :
    m.run (reqs ++ reqs') = (m.run reqs).run reqs' := by
  rw [run, run, run, List.foldl_append]

/-- The states that some sequence of requests produces from a fresh hierarchy. -/
def Reachable (m : Metadata) : Prop :=
  ∃ prompts models reqs, m = (initial prompts models).run reqs

/-! ## What a request does to skills and their assignments -/

/-- How a successful request changes the skills and the skill assignments. -/
inductive SkillChange (m m' : Metadata) : MetadataRequest → Prop where
  | unrelated (req : MetadataRequest) (hskills : m'.skills = m.skills)
      (hlinks : m'.agentSkills = m.agentSkills) : SkillChange m m' req
  | created (payload : SkillCreate) (s : Skill) (hlive : isLive s = true)
      (hskills : m'.skills.rows = m.skills.rows ++ [s])
      (hlinks : m'.agentSkills = m.agentSkills) : SkillChange m m' (.createSkill payload)
  | updated (skillId : Uuid) (payload : SkillUpdate) (f : Skill → Skill)
      (hf : ∀ s, (f s).id = s.id ∧ (f s).deletedAt = s.deletedAt)
      (hskills : m'.skills.rows = m.skills.rows.map f)
      (hlinks : m'.agentSkills = m.agentSkills) : SkillChange m m' (.updateSkill skillId payload)
  | deleted (skillId : Uuid) (now : DateTime)
      (hskills : m'.skills.rows =
        m.skills.rows.map (fun s => if s.id = skillId then { s with deletedAt := some now } else s))
      (hlinks : m'.agentSkills = m.agentSkills) : SkillChange m m' (.deleteSkill skillId now)
  | assigned (agentId : Uuid) (s : Skill) (hs : s ∈ m.skills.rows) (hlive : isLive s = true)
      (hskills : m'.skills = m.skills)
      (hlinks : m'.agentSkills = insert (agentId, s.id) m.agentSkills) :
      SkillChange m m' (.assignSkill agentId s.id)
  | unassigned (agentId skillId : Uuid) (hskills : m'.skills = m.skills)
      (hlinks : m'.agentSkills = m.agentSkills.erase (agentId, skillId)) :
      SkillChange m m' (.unassignSkill agentId skillId)

/-- A request about the hierarchy leaves the skills, their capability codes and their
    assignments alone. -/
theorem skills_of_handle {m m' : Metadata} {req : MetadataRequest} (h : m.handle req = .ok m')
    (hreq : req.changesSkills = false) :
    m'.skills = m.skills ∧ m'.skillCapabilities = m.skillCapabilities ∧
      m'.agentSkills = m.agentSkills := by
  cases req with
  -- Each of these writes a table of its own.
  | createAgentOs payload now =>
    simp only [handle, createAgentOs, bind_eq_ok, pure_eq_ok] at h
    obtain ⟨-, -, -, -, -, -, -, -, -, -, rfl⟩ := h
    exact ⟨rfl, rfl, rfl⟩
  | updateAgentOs agentOsId payload =>
    simp only [handle, updateAgentOs, bind_eq_ok, pure_eq_ok] at h
    obtain ⟨-, -, -, -, -, -, rfl⟩ := h
    exact ⟨rfl, rfl, rfl⟩
  | deleteAgentOs agentOsId now =>
    simp only [handle, deleteAgentOs, bind_eq_ok, pure_eq_ok] at h
    obtain ⟨-, -, rfl⟩ := h
    exact ⟨rfl, rfl, rfl⟩
  | createTeam payload now =>
    simp only [handle, createTeam, bind_eq_ok, pure_eq_ok] at h
    obtain ⟨-, -, -, -, -, -, -, -, -, -, rfl⟩ := h
    exact ⟨rfl, rfl, rfl⟩
  | updateTeam teamId payload =>
    simp only [handle, updateTeam, bind_eq_ok, pure_eq_ok] at h
    obtain ⟨-, -, -, -, rfl⟩ := h
    exact ⟨rfl, rfl, rfl⟩
  | deleteTeam teamId now =>
    simp only [handle, deleteTeam, bind_eq_ok, pure_eq_ok] at h
    obtain ⟨-, -, rfl⟩ := h
    exact ⟨rfl, rfl, rfl⟩
  | createAgent payload now =>
    simp only [handle, createAgent, bind_eq_ok, pure_eq_ok] at h
    obtain ⟨-, -, -, -, -, -, -, -, -, -, -, -, rfl⟩ := h
    exact ⟨rfl, rfl, rfl⟩
  | updateAgent agentId payload =>
    simp only [handle, updateAgent, bind_eq_ok, pure_eq_ok] at h
    obtain ⟨-, -, -, -, -, -, rfl⟩ := h
    exact ⟨rfl, rfl, rfl⟩
  | deleteAgent agentId now =>
    simp only [handle, deleteAgent, bind_eq_ok, pure_eq_ok] at h
    obtain ⟨-, -, rfl⟩ := h
    exact ⟨rfl, rfl, rfl⟩
  | setAssignment level targetId codes =>
    -- An assignment writes capabilities, at each level.
    cases level <;>
      simp only [handle, setAssignment, CapabilityRepository.setAgentOsCapabilities,
        CapabilityRepository.setTeamCapabilities, CapabilityRepository.setAgentCapabilities,
        bind_eq_ok, pure_eq_ok] at h <;>
      obtain ⟨-, -, rfl⟩ := h <;> exact ⟨rfl, rfl, rfl⟩
  | createSkill | updateSkill | deleteSkill | assignSkill | unassignSkill => cases hreq

/-- A skill is assigned that is stored and not deleted. -/
theorem assignSkill_ok {m m' : Metadata} {agentId skillId : Uuid}
    (h : m.assignSkill agentId skillId = .ok m') :
    (∃ s ∈ m.skills.rows, s.id = skillId ∧ isLive s = true) ∧
      m' = { m with agentSkills := insert (agentId, skillId) m.agentSkills } := by
  simp only [assignSkill, bind_eq_ok] at h
  obtain ⟨obj, hobj, h⟩ := h
  unfold SkillRepository.assignToAgent at h
  split at h
  · cases h
  · split at h
    · cases h
    · split at h
      · cases h
      · cases h
        exact ⟨⟨obj, BaseRepository.getOr404_ok hobj⟩, rfl⟩

/-- Every successful request is one of the changes above. -/
theorem skillChange_of_handle {m m' : Metadata} {req : MetadataRequest}
    (h : m.handle req = .ok m') : SkillChange m m' req := by
  cases hreq : req.changesSkills with
  | false =>
    obtain ⟨hskills, -, hlinks⟩ := skills_of_handle h hreq
    exact .unrelated req hskills hlinks
  | true =>
    cases req with
    | createSkill payload =>
      simp only [handle, createSkill, bind_eq_ok, pure_eq_ok] at h
      obtain ⟨-, -, -, -, -, -, rfl⟩ := h
      exact .created payload _ rfl rfl rfl
    | updateSkill skillId payload =>
      simp only [handle, updateSkill, bind_eq_ok] at h
      obtain ⟨obj, -, h⟩ := h
      -- With or without new codes, the skill row keeps its id and its deletion mark.
      split at h <;> cases h <;>
        exact .updated skillId payload
          (fun r => if r.id = obj.id then { r with
            name := payload.name.getD r.name
            config := payload.config.or r.config } else r)
          (fun s => by split <;> exact ⟨rfl, rfl⟩) rfl rfl
    | deleteSkill skillId now =>
      simp only [handle, deleteSkill, bind_eq_ok, pure_eq_ok] at h
      obtain ⟨obj, hobj, rfl⟩ := h
      obtain ⟨-, hid, -⟩ := BaseRepository.getOr404_ok hobj
      exact .deleted skillId now (by rw [← hid]; rfl) rfl
    | assignSkill agentId skillId =>
      obtain ⟨⟨s, hs, rfl, hlive⟩, rfl⟩ := assignSkill_ok h
      exact .assigned agentId s hs hlive rfl rfl
    | unassignSkill agentId skillId =>
      cases h
      exact .unassigned agentId skillId rfl rfl
    | _ => cases hreq

end Metadata

end AgnoRuntime
