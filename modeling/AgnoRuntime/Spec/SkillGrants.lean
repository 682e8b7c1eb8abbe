import AgnoRuntime.Model.MetadataApi

/-!
# Which skills contribute to a resolution

`list_skills_for_agent` shows an agent the skills that are assigned to it and
not deleted, while `get_capability_codes_for_agent` joins the assignment with
the skill's codes only. The two agree as long as every assigned skill is live.

We define the capabilities an agent is meant to have (`granted`), prove exactly
when `resolve` returns them, and prove that runs which delete a skill only after
it has been unassigned everywhere stay within that condition.
-/

namespace AgnoRuntime

open Civil CapabilityRepository SkillRepository

/-! ## The intended capabilities -/

/-- The codes of the skills `list_skills_for_agent` shows. -/
def liveSkillCaps (m : Metadata) (agentId : Uuid) : Finset String :=
  (listSkillsForAgent .stored m agentId).toFinset.biUnion (fun s => getCapabilityCodes m s.id)

/-- What an agent may use: the common codes of its AgentOS, its Team and itself with its
    live skills. -/
def granted (m : Metadata) (agentOsId teamId agentId : Uuid) : Finset String :=
  getAgentOsCapabilities m agentOsId ∩ getTeamCapabilities m teamId ∩
    (getAgentCapabilities m agentId ∪ liveSkillCaps m agentId)

/-- A code is contributed by a live skill that is assigned to the agent. -/
theorem mem_liveSkillCaps {m : Metadata} {agentId : Uuid} {code : String} :
    code ∈ liveSkillCaps m agentId ↔
      ∃ s ∈ m.skills.rows, isLive s = true ∧ (agentId, s.id) ∈ m.agentSkills ∧
        code ∈ getCapabilityCodes m s.id := by
  simp only [liveSkillCaps, Finset.mem_biUnion, List.mem_toFinset, mem_listSkillsForAgent]
  constructor
  · rintro ⟨s, ⟨hs, hlink, hlive⟩, hcode⟩
    exact ⟨s, hs, hlive, hlink, hcode⟩
  · rintro ⟨s, hs, hlive, hlink, hcode⟩
    exact ⟨s, ⟨hs, hlink, hlive⟩, hcode⟩

/-- Every code a deleted skill still contributes to the agent, and which AgentOS and Team
    allow, is one the agent also has directly or from a live skill. -/
def NoStaleSkillGrant (m : Metadata) (agentOsId teamId agentId : Uuid) : Prop :=
  ∀ s ∈ m.skills.rows, isLive s = false → (agentId, s.id) ∈ m.agentSkills →
    ∀ code ∈ getCapabilityCodes m s.id,
      code ∈ getAgentOsCapabilities m agentOsId → code ∈ getTeamCapabilities m teamId →
        code ∈ getAgentCapabilities m agentId ∪ liveSkillCaps m agentId

/-- `resolve` returns the granted codes, sorted, for every enabled AgentOS, Team and Agent
    that is not deleted. -/
def ResolvesGranted (m : Metadata) : Prop :=
  ∀ os ∈ m.agentOs.rows, isLive os = true → os.enabled = true →
  ∀ team ∈ m.teams.rows, isLive team = true → team.enabled = true →
  ∀ agent ∈ m.agents.rows, isLive agent = true → agent.enabled = true →
    (CapabilityService.resolve m os.id team.id agent.id).map (·.effectiveCapabilities) =
      .ok (CapabilityService.sorted (granted m os.id team.id agent.id))

/-! ## Invariants of the skill tables -/

/-- Every assignment names a stored skill. -/
def LinksStored (m : Metadata) : Prop :=
  ∀ link ∈ m.agentSkills, ∃ s ∈ m.skills.rows, s.id = link.2

/-- Every assigned skill is live. -/
def LinkedSkillsLive (m : Metadata) : Prop :=
  ∀ link ∈ m.agentSkills, ∀ s ∈ m.skills.rows, s.id = link.2 → isLive s = true

/-- The request deletes no skill that is assigned to an agent. -/
def DeletesUnassigned (m : Metadata) : MetadataRequest → Prop
  | .deleteSkill skillId _ => ∀ link ∈ m.agentSkills, link.2 ≠ skillId
  | _ => True

/-- Every request of the run deletes only skills that are unassigned when it runs. -/
def RunDeletesUnassigned (m : Metadata) : List MetadataRequest → Prop
  | [] => True
  | req :: reqs => DeletesUnassigned m req ∧ RunDeletesUnassigned (m.apply req) reqs

/-- The invariants of a change carry over to the request, which may also fail. -/
private theorem apply_induction {P : Metadata → Prop} {m : Metadata} {req : MetadataRequest}
    (hm : P m) (hstep : ∀ m', Metadata.SkillChange m m' req → P m') : P (m.apply req) := by
  unfold Metadata.apply
  split
  · rename_i m' hok
    exact hstep m' (Metadata.skillChange_of_handle hok)
  · exact hm

/-- A request keeps every assignment pointing at a stored skill. -/
theorem linksStored_apply {m : Metadata} {req : MetadataRequest} (hm : LinksStored m) :
    LinksStored (m.apply req) := by
  refine apply_induction hm fun m' hchange => ?_
  intro link hlink
  cases hchange with
  | unrelated _ hskills hlinks =>
    rw [hlinks] at hlink
    rw [hskills]
    exact hm link hlink
  | created _ s hlive hskills hlinks =>
    rw [hlinks] at hlink
    obtain ⟨s', hs', hid⟩ := hm link hlink
    exact ⟨s', by rw [hskills]; exact List.mem_append_left _ hs', hid⟩
  | updated _ _ f hf hskills hlinks =>
    rw [hlinks] at hlink
    obtain ⟨s', hs', hid⟩ := hm link hlink
    exact ⟨f s', by rw [hskills]; exact List.mem_map_of_mem hs', (hf s').1.trans hid⟩
  -- deletion is soft: the row of the skill stays in the table
  | deleted skillId now hskills hlinks =>
    rw [hlinks] at hlink
    obtain ⟨s', hs', hid⟩ := hm link hlink
    refine ⟨_, by rw [hskills]; exact List.mem_map_of_mem hs', ?_⟩
    split <;> exact hid
  | assigned agentId s hs hlive hskills hlinks =>
    rw [hlinks, Finset.mem_insert] at hlink
    rw [hskills]
    rcases hlink with rfl | hlink
    · exact ⟨s, hs, rfl⟩
    · exact hm link hlink
  | unassigned agentId skillId hskills hlinks =>
    rw [hlinks] at hlink
    rw [hskills]
    exact hm link (Finset.mem_of_mem_erase hlink)

/-- Every reachable state has its assignments pointing at stored skills. -/
theorem linksStored_of_reachable {m : Metadata} (hm : m.Reachable) : LinksStored m := by
  obtain ⟨prompts, models, reqs, rfl⟩ := hm
  have hstart : LinksStored (Metadata.initial prompts models) := fun _ h => by
    exact absurd h (Finset.notMem_empty _)
  generalize Metadata.initial prompts models = m at hstart
  induction reqs generalizing m with
  | nil => exact hstart
  | cons req reqs ih => exact ih (m.apply req) (linksStored_apply hstart)

/-- A request that deletes no assigned skill keeps every assigned skill live. -/
theorem linkedSkillsLive_apply {m : Metadata} {req : MetadataRequest}
    (hm : LinkedSkillsLive m) (hreq : DeletesUnassigned m req) :
    LinkedSkillsLive (m.apply req) := by
  refine apply_induction hm fun m' hchange => ?_
  intro link hlink s hs hid
  cases hchange with
  | unrelated _ hskills hlinks =>
    rw [hlinks] at hlink
    rw [hskills] at hs
    exact hm link hlink s hs hid
  | created _ s' hlive hskills hlinks =>
    rw [hlinks] at hlink
    rw [hskills, List.mem_append, List.mem_singleton] at hs
    rcases hs with hs | rfl
    · exact hm link hlink s hs hid
    · exact hlive
  | updated _ _ f hf hskills hlinks =>
    rw [hlinks] at hlink
    rw [hskills, List.mem_map] at hs
    obtain ⟨s₀, hs₀, rfl⟩ := hs
    have hlive := hm link hlink s₀ hs₀ ((hf s₀).1.symm.trans hid)
    have hmark : isLive (f s₀) = isLive s₀ := congrArg Option.isNone (hf s₀).2
    rw [hmark]
    exact hlive
  | deleted skillId now hskills hlinks =>
    rw [hlinks] at hlink
    rw [hskills, List.mem_map] at hs
    obtain ⟨s₀, hs₀, rfl⟩ := hs
    split at hid
    · -- The deleted skill is not assigned to any agent.
      rename_i hdel
      have hlinked : link.2 = skillId := by
        rw [← hid]
        exact hdel
      exact absurd hlinked (hreq link hlink)
    · rename_i hdel
      rw [if_neg hdel]
      exact hm link hlink s₀ hs₀ hid
  | assigned agentId s' hs' hlive hskills hlinks =>
    rw [hlinks, Finset.mem_insert] at hlink
    rw [hskills] at hs
    rcases hlink with rfl | hlink
    · rw [m.skills.eq_of_key_eq hs hs' hid]
      exact hlive
    · exact hm link hlink s hs hid
  | unassigned agentId skillId hskills hlinks =>
    rw [hlinks] at hlink
    rw [hskills] at hs
    exact hm link (Finset.mem_of_mem_erase hlink) s hs hid

/-- A run that deletes only unassigned skills keeps every assigned skill live. -/
theorem linkedSkillsLive_run {m : Metadata} {reqs : List MetadataRequest}
    (hm : LinkedSkillsLive m) (hrun : RunDeletesUnassigned m reqs) :
    LinkedSkillsLive (m.run reqs) := by
  induction reqs generalizing m with
  | nil => exact hm
  | cons req reqs ih =>
    obtain ⟨hreq, hrest⟩ := hrun
    exact ih (linkedSkillsLive_apply hm hreq) hrest

/-! ## When the resolution is the granted one -/

/-- The granted codes are always among the effective ones: a live skill's codes are joined in. -/
theorem granted_subset_effective (m : Metadata) (agentOsId teamId agentId : Uuid) :
    granted m agentOsId teamId agentId ⊆
      CapabilityService.effective m agentOsId teamId agentId := by
  intro code hcode
  simp only [granted, CapabilityService.effective, CapabilityService.effectiveAgentCaps,
    Finset.mem_inter, Finset.mem_union] at hcode ⊢
  refine ⟨hcode.1, hcode.2.imp_right fun hskill => ?_⟩
  obtain ⟨s, -, -, hlink, hcode⟩ := mem_liveSkillCaps.mp hskill
  exact mem_getCapabilityCodesForAgent.mpr ⟨s.id, hlink, hcode⟩

/-- When every assignment names a stored skill, the effective codes are the granted ones
    exactly when no deleted skill grants anything of its own. -/
theorem effective_eq_granted_iff {m : Metadata} (hstored : LinksStored m)
    (agentOsId teamId agentId : Uuid) :
    CapabilityService.effective m agentOsId teamId agentId = granted m agentOsId teamId agentId ↔
      NoStaleSkillGrant m agentOsId teamId agentId := by
  constructor
  -- A code of a deleted skill is effective, so it was granted.
  · intro heq s _ _ hlink code hcode hos hteam
    have hmem : code ∈ CapabilityService.effective m agentOsId teamId agentId := by
      simp only [CapabilityService.effective, CapabilityService.effectiveAgentCaps,
        Finset.mem_inter, Finset.mem_union]
      exact ⟨⟨hos, hteam⟩, Or.inr (mem_getCapabilityCodesForAgent.mpr ⟨s.id, hlink, hcode⟩)⟩
    rw [heq] at hmem
    exact (Finset.mem_inter.mp hmem).2
  -- A code is granted to the agent, or by a skill, which is live or stale.
  · intro hstale
    refine Finset.Subset.antisymm ?_ (granted_subset_effective m agentOsId teamId agentId)
    intro code hcode
    simp only [CapabilityService.effective, CapabilityService.effectiveAgentCaps,
      Finset.mem_inter, Finset.mem_union] at hcode
    obtain ⟨⟨hos, hteam⟩, hagent⟩ := hcode
    refine Finset.mem_inter.mpr ⟨Finset.mem_inter.mpr ⟨hos, hteam⟩, ?_⟩
    rcases hagent with hdirect | hskill
    · exact Finset.mem_union_left _ hdirect
    · obtain ⟨skillId, hlink, hcode⟩ := mem_getCapabilityCodesForAgent.mp hskill
      obtain ⟨s, hs, rfl⟩ := hstored _ hlink
      cases hlive : isLive s with
      | true => exact Finset.mem_union_right _ (mem_liveSkillCaps.mpr ⟨s, hs, hlive, hlink, hcode⟩)
      | false => exact hstale s hs hlive hlink code hcode hos hteam

private theorem sort_inj {s t : Finset String} : s.sort = t.sort ↔ s = t := by
  constructor
  · intro h
    rw [← Finset.sort_toFinset s (· ≤ ·), ← Finset.sort_toFinset t (· ≤ ·), h]
  · rintro rfl
    rfl

/-- For live, enabled rows of a reachable state, `resolve` returns the granted codes exactly
    when no deleted skill grants anything of its own. -/
theorem resolve_eq_granted_iff {m : Metadata} (hm : m.Reachable) {os : AgentOS} {team : Team}
    {agent : Agent} (hos : os ∈ m.agentOs.rows) (hosLive : isLive os = true)
    (hosOn : os.enabled = true) (hteam : team ∈ m.teams.rows) (hteamLive : isLive team = true)
    (hteamOn : team.enabled = true) (hagent : agent ∈ m.agents.rows)
    (hagentLive : isLive agent = true) (hagentOn : agent.enabled = true) :
    (CapabilityService.resolve m os.id team.id agent.id).map (·.effectiveCapabilities) =
        .ok (CapabilityService.sorted (granted m os.id team.id agent.id)) ↔
      NoStaleSkillGrant m os.id team.id agent.id := by
  rw [CapabilityService.resolve_of_live hos hosLive hosOn hteam hteamLive hteamOn hagent
    hagentLive hagentOn, Except.ok.injEq, sort_inj]
  exact effective_eq_granted_iff (linksStored_of_reachable hm) os.id team.id agent.id

/-- When every assigned skill is live there is nothing stale. -/
theorem noStaleSkillGrant_of_live {m : Metadata} (hm : LinkedSkillsLive m)
    (agentOsId teamId agentId : Uuid) : NoStaleSkillGrant m agentOsId teamId agentId := by
  intro s hs hdead hlink
  exact absurd (hm (agentId, s.id) hlink s hs rfl) (by rw [hdead]; exact Bool.false_ne_true)

/-- Every state of a run that deletes only unassigned skills resolves to the granted codes. -/
theorem resolvesGranted_run {prompts : KeyedTable Prompt.id} {models : KeyedTable ModelRegistry.id}
    {reqs : List MetadataRequest}
    (hrun : RunDeletesUnassigned (.initial prompts models) reqs) :
    ResolvesGranted ((Metadata.initial prompts models).run reqs) := by
  intro os hos hosLive hosOn team hteam hteamLive hteamOn agent hagent hagentLive hagentOn
  refine (resolve_eq_granted_iff ⟨prompts, models, reqs, rfl⟩ hos hosLive hosOn hteam hteamLive
    hteamOn hagent hagentLive hagentOn).mpr (noStaleSkillGrant_of_live ?_ _ _ _)
  have hstart : LinkedSkillsLive (Metadata.initial prompts models) :=
    fun _ h => absurd h (Finset.notMem_empty _)
  exact linkedSkillsLive_run hstart hrun

/-- In reachable states a resolution is the granted one exactly when no deleted skill grants
    anything of its own; runs that delete only unassigned skills reach only such states. -/
theorem resolve_granted_of_runs (prompts : KeyedTable Prompt.id)
    (models : KeyedTable ModelRegistry.id) (reqs : List MetadataRequest) :
    let m := (Metadata.initial prompts models).run reqs
    (∀ os ∈ m.agentOs.rows, isLive os = true → os.enabled = true →
      ∀ team ∈ m.teams.rows, isLive team = true → team.enabled = true →
      ∀ agent ∈ m.agents.rows, isLive agent = true → agent.enabled = true →
        ((CapabilityService.resolve m os.id team.id agent.id).map (·.effectiveCapabilities) =
            .ok (CapabilityService.sorted (granted m os.id team.id agent.id)) ↔
          NoStaleSkillGrant m os.id team.id agent.id)) ∧
    (RunDeletesUnassigned (.initial prompts models) reqs → ResolvesGranted m) := by
  intro m
  refine ⟨?_, resolvesGranted_run⟩
  have hm : m.Reachable := ⟨prompts, models, reqs, rfl⟩
  intro os hos hosLive hosOn team hteam hteamLive hteamOn agent hagent hagentLive hagentOn
  exact resolve_eq_granted_iff hm hos hosLive hosOn hteam hteamLive hteamOn hagent hagentLive
    hagentOn

/-! ## A deleted skill that still grants -/

namespace StaleSkill

/-- The time the example requests run at. -/
def now : DateTime := .midnight (Date.firstOfMonth 2024 1 (by decide) (by decide))

/-- One AgentOS, Team and Agent, both upper levels allowing `crm.customer.create`. -/
def hierarchy : List MetadataRequest :=
  [.createAgentOs ⟨"enterprise", "Enterprise", none, none, true⟩ now,
   .createTeam ⟨1, "sales", "Sales", none, true⟩ now,
   .createAgent ⟨1, "crm", "CRM agent", none, none, true⟩ now,
   .setAssignment .agentOs 1 ["crm.customer.create"],
   .setAssignment .team 1 ["crm.customer.create"]]

/-- A skill with that capability is created and assigned to the agent. -/
def assignment : List MetadataRequest :=
  [.createSkill ⟨"crm-skill", "CRM skill", .mcp, none, ["crm.customer.create"]⟩, .assignSkill 1 1]

/-- The skill is deleted while it is assigned. -/
def deleteAssigned : Metadata :=
  (Metadata.initial .empty .empty).run (hierarchy ++ assignment ++ [.deleteSkill 1 now])

/-- The skill is unassigned first. -/
def deleteUnassigned : Metadata :=
  (Metadata.initial .empty .empty).run
    (hierarchy ++ assignment ++ [.unassignSkill 1 1, .deleteSkill 1 now])

/-- The rows of the hierarchy. -/
def enterprise : AgentOS := ⟨1, "enterprise", "Enterprise", none, none, true, now, none⟩
def sales : Team := ⟨1, 1, "sales", "Sales", none, true, now, none⟩
def crm : Agent := ⟨1, 1, "crm", "CRM agent", none, none, true, now, none⟩

end StaleSkill

open StaleSkill in
/-- Both parts at the example runs: the exact condition after the deletion of an assigned
    skill, and the granted codes after the deletion of an unassigned one. -/
theorem resolve_granted_of_runs_example :
    ((CapabilityService.resolve deleteAssigned 1 1 1).map (·.effectiveCapabilities) =
        .ok (CapabilityService.sorted (granted deleteAssigned 1 1 1)) ↔
      NoStaleSkillGrant deleteAssigned 1 1 1) ∧
    ResolvesGranted deleteUnassigned := by
  refine ⟨?_, ?_⟩
  · exact (resolve_granted_of_runs .empty .empty _).1 enterprise (by decide) rfl rfl
      sales (by decide) rfl rfl crm (by decide) rfl rfl
  · have hfree : ∀ link ∈ ((Metadata.initial .empty .empty).run
        (hierarchy ++ assignment ++ [.unassignSkill 1 1])).agentSkills, link.2 ≠ 1 := by
      decide
    exact (resolve_granted_of_runs .empty .empty _).2
      ⟨trivial, trivial, trivial, trivial, trivial, trivial, trivial, trivial, hfree, trivial⟩

open StaleSkill in
/-- Deleting an assigned skill leaves its code in the resolution of the agent. -/
theorem deleted_skill_still_grants : ¬ ∀ m : Metadata, m.Reachable → ResolvesGranted m := by
  intro hall
  have hreach : deleteAssigned.Reachable := ⟨.empty, .empty, _, rfl⟩
  have hres := hall deleteAssigned hreach enterprise (by decide) rfl rfl sales (by decide) rfl rfl
    crm (by decide) rfl rfl
  have hstale := (resolve_eq_granted_iff hreach (by decide) rfl rfl (by decide) rfl rfl (by decide)
    rfl rfl).mp hres
  -- The deleted skill is still linked, and nothing else gives the agent its code.
  have hcode := hstale ⟨1, "crm-skill", "CRM skill", .mcp, none, some now⟩
    (List.mem_singleton.mpr rfl) rfl (by decide)
    "crm.customer.create" (by decide) (by decide) (by decide)
  rw [Finset.mem_union, mem_liveSkillCaps] at hcode
  exact absurd hcode (by decide)

end AgnoRuntime
