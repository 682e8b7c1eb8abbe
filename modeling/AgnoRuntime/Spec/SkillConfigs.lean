import AgnoRuntime.ForStd.Runs
import AgnoRuntime.Model.KnowledgeConfig

/-!
# Configurations and capability codes of stored skills

`POST /skills` validates the configuration and the capability codes against the
type of the skill; `PUT /skills/{id}` stores what it is sent. In every history of
accepted requests the stored skills stay consistent with their type exactly when no
`PUT` sends what `POST` would refuse for the type of the stored skill
(`skillsConsistent_iff`).
-/

namespace AgnoRuntime

open Except

variable {lib : Pydantic} {m m' : Metadata} {req : MetadataRequest}

/-- `KnowledgeSkillConfig` accepts the configuration. -/
def AcceptsConfig (lib : Pydantic) (config : Json.Dict) : Prop :=
  (KnowledgeSkillConfig.modelValidate lib config.members).isSome = true

/-- What `SkillCreate` checks, of a stored skill: a knowledge skill has a configuration that is
    accepted, and only MCP skills have capability codes. -/
structure SkillConsistent (lib : Pydantic) (m : Metadata) (s : Skill) : Prop where
  config : s.skillType = .knowledge → ∃ config, s.config = some config ∧ AcceptsConfig lib config
  capabilities : (SkillRepository.getCapabilityCodes m s.id).Nonempty → s.skillType = .mcp

/-- Every stored skill is consistent, deleted ones included. -/
def SkillsConsistent (lib : Pydantic) (m : Metadata) : Prop :=
  ∀ s ∈ m.skills.rows, SkillConsistent lib m s

/-- A `PUT` that sends a knowledge skill a configuration that is not accepted, or capability codes
    to a skill that is no MCP skill. -/
def BreaksSkill (lib : Pydantic) (m : Metadata) : MetadataRequest → Prop
  | .updateSkill skillId payload => ∃ s ∈ m.skills.rows, s.id = skillId ∧
      ((s.skillType = .knowledge ∧ ∃ config, payload.config = some config ∧
          ¬ AcceptsConfig lib config) ∨
        (s.skillType ≠ .mcp ∧ ∃ codes, payload.capabilityCodes = some codes ∧ codes ≠ []))
  | _ => False

/-! ## One request -/

/-- What the validator of `SkillCreate` lets through. -/
private theorem validated {payload : SkillCreate}
    (h : payload.validateTypeSpecificFields lib = .ok ()) :
    (payload.skillType = .knowledge →
      ∃ config, payload.config = some config ∧ AcceptsConfig lib config) ∧
      (payload.capabilityCodes ≠ [] → payload.skillType = .mcp) := by
  simp only [SkillCreate.validateTypeSpecificFields, bind_eq_ok, raiseUnless_eq_ok,
    Bool.or_eq_true, decide_eq_true_eq] at h
  obtain ⟨_, hconfig, hcodes⟩ := h
  constructor
  -- A knowledge skill has a config, and the validator accepted it.
  · intro htype
    cases hsent : payload.config with
    | none =>
      simp only [SkillCreate.validateConfig, htype, hsent] at hconfig
      cases hconfig
    | some config =>
      simp only [SkillCreate.validateConfig, htype, hsent, bind_eq_ok,
        raiseUnless_eq_ok] at hconfig
      obtain ⟨-, -, haccepts⟩ := hconfig
      exact ⟨config, rfl, haccepts⟩
  -- Only an MCP skill has capabilities.
  · intro hne
    rcases hcodes with hempty | hmcp
    · exact absurd (List.isEmpty_iff.mp hempty) hne
    · exact hmcp

/-- An accepted request passed its validator and its handler. -/
private theorem accept_eq_some (h : req.accept lib m = some m') :
    req.validateBody lib = .ok () ∧ m.handle req = .ok m' := by
  rw [MetadataRequest.accept] at h
  split at h
  · rename_i hvalid
    refine ⟨hvalid, ?_⟩
    cases hhandle : m.handle req with
    | error e =>
      rw [hhandle] at h
      cases h
    | ok m'' =>
      rw [hhandle] at h
      exact congrArg Except.ok (Option.some.inj h)
  · cases h

/-- The consistency of a skill is read off its type, configuration and codes. -/
private theorem SkillConsistent.congr {s s' : Skill} (h : SkillConsistent lib m s)
    (htype : s'.skillType = s.skillType) (hconfig : s'.config = s.config)
    (hcodes : SkillRepository.getCapabilityCodes m' s'.id =
      SkillRepository.getCapabilityCodes m s.id) : SkillConsistent lib m' s' where
  config hknowledge := by
    rw [hconfig]
    exact h.config (htype ▸ hknowledge)
  capabilities hne := by
    rw [htype]
    exact h.capabilities (hcodes ▸ hne)

private theorem consistent_create {payload : SkillCreate} (hm : SkillsConsistent lib m)
    (hvalid : payload.validateTypeSpecificFields lib = .ok ())
    (h : m.createSkill payload = .ok m') : SkillsConsistent lib m' := by
  obtain ⟨hconfig, hcodes⟩ := validated hvalid
  simp only [Metadata.createSkill, bind_eq_ok, pure_eq_ok] at h
  obtain ⟨-, -, -, -, -, -, rfl⟩ := h
  intro s hs
  rcases List.mem_append.mp hs with hold | hnew
  · have hne : s.id ≠ m.skills.freshKey := Nat.ne_of_lt (KeyedTable.key_lt_freshKey hold)
    exact (hm s hold).congr rfl rfl (linked_replaceLinks_of_ne m.skillCapabilities hne _)
  · rw [List.mem_singleton.mp hnew]
    refine ⟨hconfig, fun hne => hcodes fun hnil => ?_⟩
    have hlinked := linked_replaceLinks_self m.skillCapabilities m.skills.freshKey
      payload.capabilityCodes
    rw [hnil] at hlinked
    obtain ⟨code, hcode⟩ := hne
    rw [SkillRepository.getCapabilityCodes, SkillRepository.setCapabilityCodes, hnil,
      hlinked] at hcode
    cases hcode

private theorem consistent_delete {skillId : Uuid} {now : Civil.DateTime}
    (hm : SkillsConsistent lib m) (h : m.deleteSkill skillId now = .ok m') :
    SkillsConsistent lib m' := by
  simp only [Metadata.deleteSkill, bind_eq_ok, pure_eq_ok] at h
  obtain ⟨obj, -, rfl⟩ := h
  intro s hs
  obtain ⟨s₀, hs₀, rfl⟩ := List.mem_map.mp hs
  split
  · exact (hm s₀ hs₀).congr rfl rfl rfl
  · exact (hm s₀ hs₀).congr rfl rfl rfl

/-- What a `PUT` changes: the row of the skill, and its codes where it sends some. -/
private theorem updateSkill_ok {skillId : Uuid} {payload : SkillUpdate}
    (h : m.updateSkill skillId payload = .ok m') :
    (m'.skills.rows = m.skills.rows.map fun r => if r.id = skillId then { r with
        name := payload.name.getD r.name
        config := payload.config.or r.config } else r) ∧
      ∀ id, SkillRepository.getCapabilityCodes m' id =
        if id = skillId then
          (payload.capabilityCodes.map List.toFinset).getD (SkillRepository.getCapabilityCodes m id)
        else SkillRepository.getCapabilityCodes m id := by
  simp only [Metadata.updateSkill, bind_eq_ok] at h
  obtain ⟨obj, hobj, h⟩ := h
  obtain ⟨-, rfl, -⟩ := BaseRepository.getOr404_ok hobj
  split at h
  -- The capabilities were sent, and replace those of this skill.
  · rename_i codes hsent
    cases h
    refine ⟨rfl, fun id => ?_⟩
    rw [hsent]
    split
    · rename_i hid
      rw [hid]
      exact linked_replaceLinks_self m.skillCapabilities obj.id codes
    · rename_i hid
      exact linked_replaceLinks_of_ne m.skillCapabilities hid codes
  -- None were sent, so all links stay.
  · rename_i hsent
    cases h
    refine ⟨rfl, fun id => ?_⟩
    rw [hsent]
    split
    · rfl
    · rfl

/-- A `PUT` keeps the skills consistent exactly when it sends nothing that breaks its skill. -/
private theorem consistent_update_iff {skillId : Uuid} {payload : SkillUpdate}
    (hm : SkillsConsistent lib m) (h : m.updateSkill skillId payload = .ok m') :
    SkillsConsistent lib m' ↔ ¬ BreaksSkill lib m (.updateSkill skillId payload) := by
  obtain ⟨hrows, hcodes⟩ := updateSkill_ok h
  constructor
  · intro hm' hbreaks
    obtain ⟨s, hs, rfl, hbreaks⟩ := hbreaks
    -- the updated row itself is the witness that the state is broken
    have hrow : { s with
        name := payload.name.getD s.name
        config := payload.config.or s.config } ∈ m'.skills.rows := by
      rw [hrows]
      exact List.mem_map.mpr ⟨s, hs, if_pos rfl⟩
    have hconsistent := hm' _ hrow
    rcases hbreaks with ⟨htype, config, hsent, hrefused⟩ | ⟨htype, codes, hsent, hne⟩
    · obtain ⟨config', hconfig', haccepts⟩ := hconsistent.config htype
      rw [hsent, Option.some_or, Option.some.injEq] at hconfig'
      exact hrefused (hconfig' ▸ haccepts)
    · refine htype (hconsistent.capabilities ?_)
      rw [hcodes, if_pos rfl, hsent]
      obtain ⟨code, rest, rfl⟩ := List.exists_cons_of_ne_nil hne
      exact ⟨code, by simp⟩
  · intro hkeeps s hs
    rw [hrows] at hs
    obtain ⟨s₀, hs₀, rfl⟩ := List.mem_map.mp hs
    split
    · rename_i hid
      constructor
      · intro htype
        -- a field left out of the payload keeps what the row had
        cases hsent : payload.config with
        | none => exact (hm s₀ hs₀).config htype
        | some config =>
          refine ⟨config, rfl, ?_⟩
          by_contra hrefused
          exact hkeeps ⟨s₀, hs₀, hid, .inl ⟨htype, config, hsent, hrefused⟩⟩
      · intro hne
        rw [hcodes, if_pos hid] at hne
        cases hsent : payload.capabilityCodes with
        | none =>
          rw [hsent] at hne
          exact (hm s₀ hs₀).capabilities hne
        | some codes =>
          rw [hsent] at hne
          by_contra htype
          obtain ⟨code, hcode⟩ := hne
          refine hkeeps ⟨s₀, hs₀, hid, .inr ⟨htype, codes, hsent, fun hnil => ?_⟩⟩
          rw [hnil] at hcode
          cases hcode
    · rename_i hid
      exact (hm s₀ hs₀).congr rfl rfl ((hcodes s₀.id).trans (if_neg hid))

/-- An accepted request keeps the skills consistent exactly when it breaks none. -/
private theorem consistent_accept_iff (hm : SkillsConsistent lib m)
    (h : req.accept lib m = some m') : SkillsConsistent lib m' ↔ ¬ BreaksSkill lib m req := by
  obtain ⟨hvalid, hhandle⟩ := accept_eq_some h
  cases hreq : req.changesSkills with
  | false =>
    -- Other requests write no skills.
    obtain ⟨hskills, hcodes, -⟩ := Metadata.skills_of_handle hhandle hreq
    refine iff_of_true (fun s hs => ?_) ?_
    · rw [hskills] at hs
      refine (hm s hs).congr rfl rfl ?_
      rw [SkillRepository.getCapabilityCodes, SkillRepository.getCapabilityCodes, hcodes]
    · cases req with
      | updateSkill skillId payload => cases hreq
      | _ => exact fun hbreaks => hbreaks
  | true =>
    -- Of those that do, only an update is not validated.
    cases req with
    | createSkill payload =>
      exact iff_of_true (consistent_create hm hvalid hhandle) fun hbreaks => hbreaks
    | updateSkill skillId payload => exact consistent_update_iff hm hhandle
    | deleteSkill skillId now =>
      exact iff_of_true (consistent_delete hm hhandle) fun hbreaks => hbreaks
    | assignSkill agentId skillId =>
      obtain ⟨-, rfl⟩ := Metadata.assignSkill_ok hhandle
      exact iff_of_true (fun s hs => (hm s hs).congr rfl rfl rfl) fun hbreaks => hbreaks
    | unassignSkill agentId skillId =>
      cases hhandle
      exact iff_of_true (fun s hs => (hm s hs).congr rfl rfl rfl) fun hbreaks => hbreaks
    | _ => cases hreq

/-! ## Histories -/

/-- In every history of accepted requests the stored skills are consistent in each state reached
    exactly when no `PUT` of the history breaks its skill. -/
theorem skillsConsistent_iff (lib : Pydantic) (prompts : KeyedTable Prompt.id)
    (models : KeyedTable ModelRegistry.id) (reqs : List MetadataRequest) (final : Metadata)
    (hrun : Runs.run (MetadataRequest.accept lib) (.initial prompts models) reqs = some final) :
    (∀ before m, before <+: reqs →
        Runs.run (MetadataRequest.accept lib) (.initial prompts models) before = some m →
        SkillsConsistent lib m) ↔
      ∀ before req m, before ++ [req] <+: reqs →
        Runs.run (MetadataRequest.accept lib) (.initial prompts models) before = some m →
        ¬ BreaksSkill lib m req :=
  Runs.throughout_iff (fun _ hs => by cases hs)
    (fun _ _ _ hm hstep => consistent_accept_iff hm hstep) hrun

/-! ## A configuration that is never validated -/

namespace StoredConfig

/-- Pydantic on integers and booleans. -/
def pydantic : Pydantic where
  int
    | .int i => some i
    | .bool b => some b.toNat
    | _ => none
  float
    | .int i => some (.finite i)
    | .bool b => some (.finite b.toNat)
    | _ => none
  bool
    | .bool b => some b
    | _ => none
  errorText _ := "1 validation error for KnowledgeSkillConfig"

/-- A configuration with the fields that are required, and a number of results. -/
def handbook (topK : Int) : Json.Dict where
  members := [("knowledgeBaseUrl", .str "http://knowledge"), ("collectionId", .str "handbook"),
    ("topK", .int topK)]
  wellFormed := by simp [Json.membersWellFormed_iff, Json.WellFormed]

/-- A knowledge skill. -/
def hrPolicy : SkillCreate where
  code := "hr-policy"
  name := "HR policy"
  skillType := .knowledge
  config := some (handbook 10)
  capabilityCodes := []

end StoredConfig

open StoredConfig in
/-- A `PUT` with a valid configuration keeps the skill consistent. -/
theorem skillsConsistent_example :
    let reqs := [.createSkill hrPolicy, .updateSkill 1 ⟨none, some (handbook 20), none⟩]
    (∀ before m, before <+: reqs →
        Runs.run (MetadataRequest.accept pydantic) (.initial .empty .empty) before = some m →
        SkillsConsistent pydantic m) ↔
      ∀ before req m, before ++ [req] <+: reqs →
        Runs.run (MetadataRequest.accept pydantic) (.initial .empty .empty) before = some m →
        ¬ BreaksSkill pydantic m req :=
  skillsConsistent_iff pydantic .empty .empty _ _ rfl

open StoredConfig in
/-- A `PUT` that asks for no results at all is accepted, and stores a configuration that
    `KnowledgeSkillConfig` refuses; so is one that gives the skill a capability code. -/
theorem stored_config_not_accepted :
    (∃ m, Runs.run (MetadataRequest.accept pydantic) (.initial .empty .empty)
        [.createSkill hrPolicy, .updateSkill 1 ⟨none, some (handbook 0), none⟩] = some m ∧
      ¬ SkillsConsistent pydantic m) ∧
    ∃ m, Runs.run (MetadataRequest.accept pydantic) (.initial .empty .empty)
        [.createSkill hrPolicy, .updateSkill 1 ⟨none, none, some ["crm.read"]⟩] = some m ∧
      ¬ SkillsConsistent pydantic m := by
  refine ⟨⟨_, rfl, fun h => ?_⟩, ⟨_, rfl, fun h => ?_⟩⟩
  · obtain ⟨config, hconfig, haccepts⟩ := (h _ (List.mem_singleton.mpr rfl)).config rfl
    obtain rfl : handbook 0 = config := Option.some.inj hconfig
    revert haccepts
    rw [AcceptsConfig]
    decide
  · have hmcp := (h _ (List.mem_singleton.mpr rfl)).capabilities ⟨"crm.read", by decide⟩
    cases hmcp

end AgnoRuntime
