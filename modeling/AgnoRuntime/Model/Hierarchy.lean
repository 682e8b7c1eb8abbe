import AgnoRuntime.ForStd.Json
import AgnoRuntime.Model.Base
import Mathlib.Data.Finset.Image
import Mathlib.Data.Finset.Prod

/-!
# Metadata tables and their repositories

The hierarchy AgentOS → Team → Agent (`app/models/hierarchy.py`), prompts,
skills (`app/models/skill.py`) and the association tables of
`app/models/capability.py`, with the queries of
`app/repositories/{hierarchy,capability,skill,prompt}_repository.py`.

An association table has a uniqueness constraint on its two columns and
nothing else that is read, so it is the finite set of its rows.
-/

namespace AgnoRuntime

open Civil

/-- `AgentOS`, layer 1 of the hierarchy. -/
structure AgentOS where
  id : Uuid
  code : String
  name : String
  defaultModelId : Option Uuid
  sharedPromptId : Option Uuid
  enabled : Bool
  createdAt : DateTime
  deletedAt : Option DateTime
deriving DecidableEq

/-- `Team`, layer 2 of the hierarchy. -/
structure Team where
  id : Uuid
  agentOsId : Uuid
  code : String
  name : String
  teamPromptId : Option Uuid
  enabled : Bool
  createdAt : DateTime
  deletedAt : Option DateTime
deriving DecidableEq

/-- `Agent`, layer 3 of the hierarchy. -/
structure Agent where
  id : Uuid
  teamId : Uuid
  code : String
  name : String
  promptId : Option Uuid
  modelId : Option Uuid
  enabled : Bool
  createdAt : DateTime
  deletedAt : Option DateTime
deriving DecidableEq

/-- `PromptStatus`. -/
inductive PromptStatus where
  | draft | active | archived
deriving DecidableEq

/-- `Prompt`; only `content` is composed. -/
structure Prompt where
  id : Uuid
  code : String
  name : String
  content : String
  version : Nat
  status : PromptStatus
  deletedAt : Option DateTime
deriving DecidableEq

/-- `SkillType`. -/
inductive SkillType where
  | mcp | workflow | prompt | custom | knowledge | ui
deriving DecidableEq

/-- `Skill`: a named bundle of capabilities, or the configuration of an executor. -/
structure Skill where
  id : Uuid
  code : String
  name : String
  skillType : SkillType
  config : Option Json.Dict
  deletedAt : Option DateTime
deriving DecidableEq

/-- `ModelRegistry`. Prices are exact rationals. -/
structure ModelRegistry where
  id : Uuid
  provider : String
  model : String
  enabled : Bool
  costPer1kInputTokens : Option ℚ
  costPer1kOutputTokens : Option ℚ
  deletedAt : Option DateTime
deriving DecidableEq

instance : SoftDelete AgentOS := ⟨AgentOS.deletedAt⟩
instance : SoftDelete Team := ⟨Team.deletedAt⟩
instance : SoftDelete Agent := ⟨Agent.deletedAt⟩
instance : SoftDelete Prompt := ⟨Prompt.deletedAt⟩
instance : SoftDelete Skill := ⟨Skill.deletedAt⟩
instance : SoftDelete ModelRegistry := ⟨ModelRegistry.deletedAt⟩

/-- The metadata tables. -/
@[ext]
structure Metadata where
  agentOs : KeyedTable AgentOS.id
  teams : KeyedTable Team.id
  agents : KeyedTable Agent.id
  prompts : KeyedTable Prompt.id
  models : KeyedTable ModelRegistry.id
  skills : KeyedTable Skill.id
  agentOsCapabilities : Finset (Uuid × String)
  teamCapabilities : Finset (Uuid × String)
  agentCapabilities : Finset (Uuid × String)
  skillCapabilities : Finset (Uuid × String)
  agentSkills : Finset (Uuid × Uuid)

namespace Metadata

/-- The metadata before any hierarchy or skill is created. Prompts and models have
    their own routes; which of them exist is given. -/
def initial (prompts : KeyedTable Prompt.id) (models : KeyedTable ModelRegistry.id) :
    Metadata where
  agentOs := .empty
  teams := .empty
  agents := .empty
  prompts := prompts
  models := models
  skills := .empty
  agentOsCapabilities := ∅
  teamCapabilities := ∅
  agentCapabilities := ∅
  skillCapabilities := ∅
  agentSkills := ∅

end Metadata

/-! ## Association tables

The queries and setters of the four capability tables are one pair of functions
of the table and the target. -/

section Associations

variable {β : Type} [DecidableEq β]

/-- The right-hand sides of the rows of one target. -/
def linked (rows : Finset (Uuid × β)) (target : Uuid) : Finset β :=
  (rows.filter (fun row => row.1 = target)).image Prod.snd

/-- Membership in `linked` is membership of the row. -/
@[simp] theorem mem_linked {rows : Finset (Uuid × β)} {target : Uuid} {b : β} :
    b ∈ linked rows target ↔ (target, b) ∈ rows := by
  simp only [linked, Finset.mem_image, Finset.mem_filter, Prod.exists, exists_eq_right]

/-- Delete the rows of one target. -/
def deleteLinks (rows : Finset (Uuid × β)) (target : Uuid) : Finset (Uuid × β) :=
  rows.filter (fun row => row.1 ≠ target)

/-- Delete the rows of one target, then insert one row for each element of `set(codes)`. -/
def replaceLinks (rows : Finset (Uuid × β)) (target : Uuid) (codes : List β) :
    Finset (Uuid × β) :=
  deleteLinks rows target ∪ codes.toFinset.image (fun code => (target, code))

/-- The rows after a replacement: the target's are the submitted ones, the others stay. -/
@[simp] theorem mem_replaceLinks {rows : Finset (Uuid × β)} {target : Uuid} {codes : List β}
    {row : Uuid × β} :
    row ∈ replaceLinks rows target codes ↔
      if row.1 = target then row.2 ∈ codes else row ∈ rows := by
  obtain ⟨a, b⟩ := row
  simp only [replaceLinks, deleteLinks, Finset.mem_union, Finset.mem_filter, Finset.mem_image,
    List.mem_toFinset, Prod.mk.injEq]
  split
  -- The links of this target are the new ones.
  · rename_i ha
    constructor
    · rintro (⟨-, hne⟩ | ⟨c, hc, -, rfl⟩)
      · exact absurd ha hne
      · exact hc
    · intro hb
      exact Or.inr ⟨b, hb, ha.symm, rfl⟩
  -- The links of others stay.
  · rename_i ha
    constructor
    · rintro (⟨hrow, -⟩ | ⟨c, -, rfl, -⟩)
      · exact hrow
      · exact absurd rfl ha
    · intro hrow
      exact Or.inl ⟨hrow, ha⟩

/-- A replaced target is linked to exactly the submitted elements. -/
theorem linked_replaceLinks_self (rows : Finset (Uuid × β)) (target : Uuid) (codes : List β) :
    linked (replaceLinks rows target codes) target = codes.toFinset := by
  ext b
  simp

/-- Other targets keep their links. -/
theorem linked_replaceLinks_of_ne (rows : Finset (Uuid × β)) {target other : Uuid}
    (h : other ≠ target) (codes : List β) :
    linked (replaceLinks rows target codes) other = linked rows other := by
  ext b
  simp [h]

end Associations

/-! ## Hierarchy repositories -/

/-- `AgentOSRepository.get_by_code`. -/
def AgentOSRepository.getByCode (m : Metadata) (code : String) : Except PyError (Option AgentOS) :=
  scalarOneOrNone (m.agentOs.rows.filter (fun r => r.code = code && isLive r))

/-- `TeamRepository.get_by_code`. -/
def TeamRepository.getByCode (m : Metadata) (agentOsId : Uuid) (code : String) :
    Except PyError (Option Team) :=
  scalarOneOrNone (m.teams.rows.filter (fun r => r.agentOsId = agentOsId && r.code = code && isLive r))

/-- `AgentRepository.get_by_code`. -/
def AgentRepository.getByCode (m : Metadata) (teamId : Uuid) (code : String) :
    Except PyError (Option Agent) :=
  scalarOneOrNone (m.agents.rows.filter (fun r => r.teamId = teamId && r.code = code && isLive r))

/-- `AgentRepository.get_first_enabled_in_team`: ORDER BY `created_at`, LIMIT 1.
    Rows of the same instant keep the order of the scan. -/
def AgentRepository.getFirstEnabledInTeam (scan : ScanOrder Agent) (m : Metadata) (teamId : Uuid) :
    Option Agent :=
  let found := m.agents.rows.filter (fun r => r.teamId = teamId && r.enabled && isLive r)
  ((scan.order found).mergeSort (fun a b => a.createdAt.micros ≤ b.createdAt.micros)).head?

/-- An AgentOS found by code is live and stored. -/
theorem AgentOSRepository.getByCode_some {m : Metadata} {code : String} {r : AgentOS}
    (h : getByCode m code = .ok (some r)) :
    r ∈ m.agentOs.rows ∧ r.code = code ∧ isLive r = true := by
  simpa [and_assoc] using List.mem_filter.mp (mem_of_scalarOneOrNone h)

/-- A Team found by code is live, stored, and belongs to the AgentOS asked for. -/
theorem TeamRepository.getByCode_some {m : Metadata} {agentOsId : Uuid} {code : String} {r : Team}
    (h : getByCode m agentOsId code = .ok (some r)) :
    r ∈ m.teams.rows ∧ r.agentOsId = agentOsId ∧ r.code = code ∧ isLive r = true := by
  simpa [and_assoc] using List.mem_filter.mp (mem_of_scalarOneOrNone h)

/-- An Agent found by code is live, stored, and belongs to the Team asked for. -/
theorem AgentRepository.getByCode_some {m : Metadata} {teamId : Uuid} {code : String} {r : Agent}
    (h : getByCode m teamId code = .ok (some r)) :
    r ∈ m.agents.rows ∧ r.teamId = teamId ∧ r.code = code ∧ isLive r = true := by
  simpa [and_assoc] using List.mem_filter.mp (mem_of_scalarOneOrNone h)

/-- The first enabled Agent of a Team is live, stored, enabled, and belongs to it. -/
theorem AgentRepository.getFirstEnabledInTeam_some {scan : ScanOrder Agent} {m : Metadata}
    {teamId : Uuid} {r : Agent} (h : getFirstEnabledInTeam scan m teamId = some r) :
    r ∈ m.agents.rows ∧ r.teamId = teamId ∧ r.enabled = true ∧ isLive r = true := by
  have hmem := List.mem_of_mem_head? (Option.mem_def.mpr h)
  rw [List.mem_mergeSort, ScanOrder.mem_order, List.mem_filter] at hmem
  simpa [and_assoc] using hmem

/-! ## Capability repository -/

/-- `CapabilityLevel`. -/
inductive CapabilityLevel where
  | agentOs | team | agent
deriving DecidableEq

namespace CapabilityRepository

/-- `get_agent_os_capabilities`. -/
def getAgentOsCapabilities (m : Metadata) (agentOsId : Uuid) : Finset String :=
  linked m.agentOsCapabilities agentOsId

/-- `get_team_capabilities`. -/
def getTeamCapabilities (m : Metadata) (teamId : Uuid) : Finset String :=
  linked m.teamCapabilities teamId

/-- `get_agent_capabilities`. -/
def getAgentCapabilities (m : Metadata) (agentId : Uuid) : Finset String :=
  linked m.agentCapabilities agentId

/-- The inserts of a setter meet the foreign key on the target; an empty set inserts nothing. -/
def checkTarget (constraint : String) (stored : Bool) (codes : List String) :
    Except PyError Unit :=
  if stored || codes.isEmpty then .ok () else .error (.integrityError constraint)

/-- `set_agent_os_capabilities`. -/
def setAgentOsCapabilities (m : Metadata) (agentOsId : Uuid) (codes : List String) :
    Except PyError Metadata := do
  checkTarget "agent_os_capabilities_agent_os_id_fkey" (m.agentOs.find? agentOsId).isSome codes
  return { m with agentOsCapabilities := replaceLinks m.agentOsCapabilities agentOsId codes }

/-- `set_team_capabilities`. -/
def setTeamCapabilities (m : Metadata) (teamId : Uuid) (codes : List String) :
    Except PyError Metadata := do
  checkTarget "team_capabilities_team_id_fkey" (m.teams.find? teamId).isSome codes
  return { m with teamCapabilities := replaceLinks m.teamCapabilities teamId codes }

/-- `set_agent_capabilities`. -/
def setAgentCapabilities (m : Metadata) (agentId : Uuid) (codes : List String) :
    Except PyError Metadata := do
  checkTarget "agent_capabilities_agent_id_fkey" (m.agents.find? agentId).isSome codes
  return { m with agentCapabilities := replaceLinks m.agentCapabilities agentId codes }

end CapabilityRepository

/-! ## Skill repository -/

namespace SkillRepository

/-- `SkillRepository.get_by_code`. -/
def getByCode (m : Metadata) (code : String) : Except PyError (Option Skill) :=
  scalarOneOrNone (m.skills.rows.filter (fun r => r.code = code && isLive r))

/-- `get_capability_codes`. -/
def getCapabilityCodes (m : Metadata) (skillId : Uuid) : Finset String :=
  linked m.skillCapabilities skillId

/-- `set_capability_codes`; every caller passes the id of a row it has just read or created. -/
def setCapabilityCodes (m : Metadata) (skillId : Uuid) (codes : List String) : Metadata :=
  { m with skillCapabilities := replaceLinks m.skillCapabilities skillId codes }

/-- `assign_to_agent`: the row meets both foreign keys and the uniqueness of (agent, skill). -/
def assignToAgent (m : Metadata) (agentId skillId : Uuid) : Except PyError Metadata :=
  if (agentId, skillId) ∈ m.agentSkills then
    .error (.integrityError "uq_agent_skill")
  else if (m.agents.find? agentId).isNone then
    .error (.integrityError "agent_skills_agent_id_fkey")
  else if (m.skills.find? skillId).isNone then
    .error (.integrityError "agent_skills_skill_id_fkey")
  else
    .ok { m with agentSkills := insert (agentId, skillId) m.agentSkills }

/-- `unassign_from_agent`. -/
def unassignFromAgent (m : Metadata) (agentId skillId : Uuid) : Metadata :=
  { m with agentSkills := m.agentSkills.erase (agentId, skillId) }

/-- `get_capability_codes_for_agent`: `skill_capabilities` joined with `agent_skills` on the
    skill id. The `skills` table takes no part in the join. -/
def getCapabilityCodesForAgent (m : Metadata) (agentId : Uuid) : Finset String :=
  (m.skillCapabilities.filter (fun row => (agentId, row.1) ∈ m.agentSkills)).image Prod.snd

/-- `list_skills_for_agent`: the skills assigned to the agent that are not deleted, by code. -/
def listSkillsForAgent (scan : ScanOrder Skill) (m : Metadata) (agentId : Uuid) : List Skill :=
  let found := m.skills.rows.filter (fun s => (agentId, s.id) ∈ m.agentSkills && isLive s)
  (scan.order found).mergeSort (fun a b => a.code ≤ b.code)

/-- A code is contributed to an agent by any skill linked to it. -/
@[simp] theorem mem_getCapabilityCodesForAgent {m : Metadata} {agentId : Uuid} {code : String} :
    code ∈ getCapabilityCodesForAgent m agentId ↔
      ∃ skillId, (agentId, skillId) ∈ m.agentSkills ∧ code ∈ getCapabilityCodes m skillId := by
  simp only [getCapabilityCodesForAgent, getCapabilityCodes, Finset.mem_image, Finset.mem_filter,
    Prod.exists, exists_eq_right, mem_linked]
  exact exists_congr fun _ => and_comm

/-- The skills listed for an agent are the live ones linked to it. -/
@[simp] theorem mem_listSkillsForAgent {scan : ScanOrder Skill} {m : Metadata} {agentId : Uuid}
    {s : Skill} :
    s ∈ listSkillsForAgent scan m agentId ↔
      s ∈ m.skills.rows ∧ (agentId, s.id) ∈ m.agentSkills ∧ isLive s = true := by
  simp [listSkillsForAgent]

end SkillRepository

end AgnoRuntime
