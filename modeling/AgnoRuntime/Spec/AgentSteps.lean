import AgnoRuntime.Model.Requests
import AgnoRuntime.Model.WorkflowRegistry

/-!
# Agents of workflow steps

A step of type `AGENT` names its agent by a code, and the registry searches the teams of
the AgentOS for a matching, enabled agent. The search takes the first agent with the code
that it meets, enabled or not, and it goes through the first 500 teams only; so whether
it finds what it is for depends on the first of these teams that has an agent with the
code.

## Key results

- `findAgent_eq`: what the search returns
- `agentStep_resolved_iff`: when a step is resolved as it should be
-/

namespace AgnoRuntime

open WorkflowRegistry

variable {m : Metadata} {code : String} {agentOsId : Uuid}

/-- The agents of a team with a code that are not deleted. -/
def codeHolders (m : Metadata) (code : String) (team : Team) : List Agent :=
  m.agents.rows.filter fun r => r.teamId = team.id && r.code = code && isLive r

/-- The teams of an AgentOS that the search goes through. -/
def searchedTeams (scan : ScanOrder Team) (m : Metadata) (agentOsId : Uuid) : List Team :=
  (BaseRepository.list scan m.teams (fun t => t.agentOsId = agentOsId) 0 500).1

/-- An enabled agent with the code, not deleted, of a team of the AgentOS that is not deleted. -/
structure MatchingAgent (m : Metadata) (agentOsId : Uuid) (code : String) (agent : Agent) : Prop
    where
  stored : agent ∈ m.agents.rows
  live : isLive agent = true
  enabled : agent.enabled = true
  code : agent.code = code
  team : ∃ team ∈ m.teams.rows, isLive team = true ∧ team.agentOsId = agentOsId ∧
    agent.teamId = team.id

/-- The outcome a step should have: a matching agent if there is one, and `NotFoundError` exactly
    if there is none. -/
def ResolvesMatching (m : Metadata) (agentOsId : Uuid) (code : String)
    (outcome : Except PyError ResolvedStep) : Prop :=
  ((∃ agent, MatchingAgent m agentOsId code agent) →
    ∃ agent, MatchingAgent m agentOsId code agent ∧ outcome = .ok ⟨.agent, some agent.id, none⟩) ∧
  ((∃ message, outcome = .error (.notFound message)) ↔
    ¬∃ agent, MatchingAgent m agentOsId code agent)

/-- The agents with the code of the first of the teams that has any. -/
def firstHolders (m : Metadata) (code : String) (teams : List Team) : List Agent :=
  ((teams.map (codeHolders m code)).find? fun holders => !holders.isEmpty).getD []

/-! ## The search -/

/-- What an agent of a team with a code is. -/
theorem mem_codeHolders {team : Team} {agent : Agent} :
    agent ∈ codeHolders m code team ↔
      agent ∈ m.agents.rows ∧ agent.teamId = team.id ∧ agent.code = code ∧
        isLive agent = true := by
  simp [codeHolders, and_assoc]

/-- A team that the search goes through is stored, not deleted, and of the AgentOS. -/
theorem mem_of_mem_searchedTeams {scan : ScanOrder Team} {team : Team}
    (h : team ∈ searchedTeams scan m agentOsId) :
    team ∈ m.teams.rows ∧ isLive team = true ∧ team.agentOsId = agentOsId := by
  obtain ⟨hteam, hlive, hos⟩ := BaseRepository.mem_of_mem_list h
  exact ⟨hteam, hlive, of_decide_eq_true hos⟩

/-- An enabled agent with the code of a team that is searched is a matching one. -/
theorem matchingAgent_of_searched {scan : ScanOrder Team} {team : Team} {agent : Agent}
    (hteam : team ∈ searchedTeams scan m agentOsId) (hagent : agent ∈ codeHolders m code team)
    (henabled : agent.enabled = true) : MatchingAgent m agentOsId code agent := by
  obtain ⟨hstored, hid, hcode, hlive⟩ := mem_codeHolders.mp hagent
  obtain ⟨hteam, hteamLive, hos⟩ := mem_of_mem_searchedTeams hteam
  exact ⟨hstored, hlive, henabled, hcode, team, hteam, hteamLive, hos, hid⟩

/-- The first agents with the code are those of a team that is searched. -/
theorem exists_team_of_mem_firstHolders {teams : List Team} {agent : Agent}
    (h : agent ∈ firstHolders m code teams) : ∃ team ∈ teams, agent ∈ codeHolders m code team := by
  unfold firstHolders at h
  cases hfind : (teams.map (codeHolders m code)).find? fun holders => !holders.isEmpty with
  | none =>
    rw [hfind] at h
    cases h
  | some holders =>
    rw [hfind] at h
    obtain ⟨team, hteam, rfl⟩ := List.mem_map.mp (List.mem_of_find?_eq_some hfind)
    exact ⟨team, hteam, h⟩

/-- The search ends at the first team that has agents with the code: with the agent if there is
    one, and by raising if there are several. -/
theorem findAgent_eq (m : Metadata) (code : String) (teams : List Team) :
    findAgent m code teams = scalarOneOrNone (firstHolders m code teams) := by
  induction teams with
  | nil => rfl
  | cons team teams ih =>
    have hget : AgentRepository.getByCode m team.id code =
        scalarOneOrNone (codeHolders m code team) := rfl
    rw [findAgent, hget, firstHolders, List.map_cons]
    cases hholders : codeHolders m code team with
    | nil =>
      -- Nothing here: what follows decides.
      rw [List.find?_cons_of_neg (by simp)]
      exact ih
    | cons agent others =>
      rw [List.find?_cons_of_pos (by simp)]
      cases others with
      | nil => rfl
      | cons other others => rfl

/-! ## One step -/

section Step

variable {scan : ScanOrder Team} {step : WorkflowStepDefinition}

/-- A step of an agent is what the search makes of it. -/
private theorem resolveStep_of_agent (hagent : step.type = .agent) :
    resolveStep scan m agentOsId step =
      match findAgent m (step.agentCode.getD "") (searchedTeams scan m agentOsId) with
      | .ok (some agent) => .ok ⟨.agent, some agent.id, none⟩
      | .ok none => .error (.notFound ("No enabled agent with code '" ++
          step.agentCode.getD "" ++ "' found under this workflow's AgentOS"))
      | .error exc => .error exc := by
  simp only [resolveStep, hagent]
  show (findAgent m _ (searchedTeams scan m agentOsId) >>= _) = _
  cases findAgent m (step.agentCode.getD "") (searchedTeams scan m agentOsId) with
  | error exc => rfl
  | ok found =>
    cases found with
    | none => rfl
    | some agent => rfl

/-- A step of an agent is resolved to a matching agent, and refused only if there is none, exactly
    if the first team searched that has agents with the code has one and it is enabled, or if no
    team searched has any and there is no matching agent elsewhere. -/
theorem agentStep_resolved_iff (hagent : step.type = .agent) :
    ResolvesMatching m agentOsId (step.agentCode.getD "") (resolveStep scan m agentOsId step) ↔
      (∃ agent, firstHolders m (step.agentCode.getD "") (searchedTeams scan m agentOsId) = [agent] ∧
          agent.enabled = true) ∨
        (firstHolders m (step.agentCode.getD "") (searchedTeams scan m agentOsId) = [] ∧
          ¬∃ agent, MatchingAgent m agentOsId (step.agentCode.getD "") agent) := by
  rw [resolveStep_of_agent hagent, findAgent_eq]
  generalize step.agentCode.getD "" = code
  cases hfirst : firstHolders m code (searchedTeams scan m agentOsId) with
  | nil =>
    -- No team that is searched has one, so the step is refused.
    constructor
    · intro hresolves
      exact .inr ⟨rfl, hresolves.2.mp ⟨_, rfl⟩⟩
    · intro hcondition
      obtain ⟨agent, hnil, -⟩ | ⟨-, hnomatch⟩ := hcondition
      · cases hnil
      · exact ⟨fun hmatch => absurd hmatch hnomatch, iff_of_true ⟨_, rfl⟩ hnomatch⟩
  | cons agent others =>
    have hmem : agent ∈ firstHolders m code (searchedTeams scan m agentOsId) := by
      rw [hfirst]
      exact List.mem_cons_self
    obtain ⟨team, hteam, hholder⟩ := exists_team_of_mem_firstHolders hmem
    cases others with
    | nil =>
      constructor
      · intro hresolves
        refine .inl ⟨agent, rfl, ?_⟩
        by_cases hmatch : ∃ agent, MatchingAgent m agentOsId code agent
        · -- Agents with one id are one agent, so the agent returned is the matching one.
          obtain ⟨other, hother, hok⟩ := hresolves.1 hmatch
          have hids : ResolvedStep.mk .agent (some agent.id) none = ⟨.agent, some other.id, none⟩ :=
            Except.ok.inj hok
          simp only [ResolvedStep.mk.injEq, Option.some.injEq] at hids
          have hsame : agent = other :=
            m.agents.eq_of_key_eq (mem_codeHolders.mp hholder).1 hother.stored hids.2.1
          rw [hsame]
          exact hother.enabled
        · obtain ⟨message, hrefused⟩ := hresolves.2.mpr hmatch
          cases hrefused
      · intro hcondition
        obtain ⟨agent', hagent', henabled⟩ | ⟨hnil, -⟩ := hcondition
        · obtain ⟨rfl, -⟩ := List.cons.inj hagent'
          have hmatch := matchingAgent_of_searched hteam hholder henabled
          refine ⟨fun _ => ⟨agent, hmatch, rfl⟩, iff_of_false ?_ fun hnone => hnone ⟨agent, hmatch⟩⟩
          intro hrefused
          obtain ⟨message, hrefused⟩ := hrefused
          cases hrefused
        · cases hnil
    | cons other others =>
      -- `scalar_one_or_none` raises another exception.
      constructor
      · intro hresolves
        by_cases hmatch : ∃ agent, MatchingAgent m agentOsId code agent
        · obtain ⟨agent, -, hok⟩ := hresolves.1 hmatch
          cases hok
        · obtain ⟨message, hrefused⟩ := hresolves.2.mpr hmatch
          cases hrefused
      · intro hcondition
        obtain ⟨agent', hagent', -⟩ | ⟨hnil, -⟩ := hcondition
        · cases hagent'
        · cases hnil

end Step

namespace Deployment

/-- A second team. -/
def support (id : Uuid) : Team := ⟨id, 1, "support", "Support", none, true, morning, none⟩

/-- Its agent, with the code of the other one. -/
def supportCrm (id : Uuid) : Agent := { crm with id := id, teamId := 2 }

theorem support_id (id : Uuid) : (support id).id = id := rfl

theorem supportCrm_id (id : Uuid) : (supportCrm id).id = id := rfl

/-- The agent of the first team is disabled, and the second team has an enabled agent with the same
    code. -/
def disabledFirst : Metadata :=
  { metadata with
    teams := metadata.teams.insertFresh support support_id
    agents := (KeyedTable.singleton { crm with enabled := false }).insertFresh supportCrm
      supportCrm_id }

/-- A step of the agent. -/
def crmStep : WorkflowStepDefinition where
  type := .agent
  agentCode := some "crm"
  teamCode := none
  codeMatchesType := Eq.refl true

end Deployment

open Deployment

/-- A step of the only agent with its code. -/
theorem agentStep_resolved :
    ResolvesMatching metadata 1 "crm" (resolveStep .stored metadata 1 crmStep) := by
  have hfirst : firstHolders metadata "crm" (searchedTeams .stored metadata 1) = [crm] := by
    decide +kernel
  exact (@agentStep_resolved_iff metadata 1 .stored crmStep rfl).mpr (.inl ⟨crm, hfirst, rfl⟩)

/-- A step is resolved to a disabled agent although there is an enabled one with its code. -/
theorem agentStep_resolved_to_disabled :
    resolveStep .stored disabledFirst 1 crmStep = .ok ⟨.agent, some 1, none⟩ ∧
      MatchingAgent disabledFirst 1 "crm" (supportCrm 2) ∧
      ¬ResolvesMatching disabledFirst 1 "crm" (resolveStep .stored disabledFirst 1 crmStep) := by
  have hresolved : resolveStep .stored disabledFirst 1 crmStep = .ok ⟨.agent, some 1, none⟩ := by
    decide +kernel
  have hmatch : MatchingAgent disabledFirst 1 "crm" (supportCrm 2) := by
    constructor
    · decide +kernel
    · decide +kernel
    · rfl
    · rfl
    · exact ⟨support 2, by decide +kernel, by decide +kernel, rfl, rfl⟩
  refine ⟨hresolved, hmatch, fun hresolves => ?_⟩
  obtain ⟨other, hother, hok⟩ := hresolves.1 ⟨_, hmatch⟩
  rw [hresolved] at hok
  have hids : ResolvedStep.mk .agent (some 1) none = ⟨.agent, some other.id, none⟩ :=
    Except.ok.inj hok
  simp only [ResolvedStep.mk.injEq, Option.some.injEq] at hids
  -- The agent with this id is the disabled one.
  have hdisabled : other = { crm with enabled := false } := by
    refine disabledFirst.agents.eq_of_key_eq hother.stored ?_ hids.2.1.symm
    decide +kernel
  have henabled := hother.enabled
  rw [hdisabled] at henabled
  cases henabled

end AgnoRuntime
