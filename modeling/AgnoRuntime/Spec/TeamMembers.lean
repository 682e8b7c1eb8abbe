import AgnoRuntime.Spec.CodeConflicts
import AgnoRuntime.Spec.ToolScope
import AgnoRuntime.Model.Requests

/-!
# The members of a team and the teams of an AgentOS

A team is resolved into its enabled agents and an AgentOS into its enabled teams. Both go
through a listing of 200 rows in no particular order, and what is enabled is picked from
these rows afterwards; so an enabled agent or team that comes later is dropped without a
word. A team without an enabled agent raises, which `resolve_root_context` does not expect:
one such team takes all the others of the AgentOS with it.

## Key results

- `resolvesMembers_buildTeamContext_iff`, `forall_listed_iff`: the members of a team context
- `teamMembers_resolved_iff`: when a team is resolved into its enabled agents
- `rootTeams_resolved_iff`: when an AgentOS is resolved into its usable teams
-/

namespace AgnoRuntime

open Except AgnoRuntimeEngine

variable {m : Metadata} {os : AgentOS} {team : Team}

/-! ## What a resolution should return -/

/-- An enabled agent of the team, not deleted. -/
structure UsableMember (m : Metadata) (team : Team) (agent : Agent) : Prop where
  usable : Usable m.agents Agent.enabled agent
  member : agent.teamId = team.id

/-- An enabled team of the AgentOS, not deleted, that has such an agent. -/
structure UsableTeam (m : Metadata) (os : AgentOS) (team : Team) : Prop where
  usable : Usable m.teams Team.enabled team
  under : team.agentOsId = os.id
  member : ∃ agent, UsableMember m team agent

/-- The agents of a team context. -/
def ResolvedTeamContext.agents (ctx : ResolvedTeamContext) : List Agent :=
  ctx.memberContexts.map (·.agent)

/-- The teams of a root context. -/
def ResolvedRootContext.teams (ctx : ResolvedRootContext) : List Team :=
  ctx.teamContexts.map (·.team)

/-- One member context for each usable agent of the team, and `RuntimeExecutionError` exactly if
    there is none. -/
def ResolvesMembers (m : Metadata) (team : Team) (outcome : Except PyError ResolvedTeamContext) :
    Prop :=
  ((∃ agent, UsableMember m team agent) →
    ∃ ctx, outcome = .ok ctx ∧ ctx.agents.Nodup ∧
      ∀ agent, agent ∈ ctx.agents ↔ UsableMember m team agent) ∧
  ((∃ message, outcome = .error (.runtimeExecution message)) ↔
    ¬∃ agent, UsableMember m team agent)

/-- One team context for each usable team of the AgentOS. -/
def ResolvesTeams (m : Metadata) (os : AgentOS) (outcome : Except PyError ResolvedRootContext) :
    Prop :=
  ∃ ctx, outcome = .ok ctx ∧ ctx.teams.Nodup ∧ ∀ team, team ∈ ctx.teams ↔ UsableTeam m os team

/-! ## The listings -/

/-- The agents that a team is resolved from. -/
def listedAgents (scan : HierarchyScan) (m : Metadata) (team : Team) : List Agent :=
  (BaseRepository.list scan.agents m.agents (fun a => a.teamId = team.id) 0 200).1

/-- The teams that an AgentOS is resolved from. -/
def listedTeams (scan : HierarchyScan) (m : Metadata) (os : AgentOS) : List Team :=
  (BaseRepository.list scan.teams m.teams (fun t => t.agentOsId = os.id) 0 200).1

/-- The agents of a team that are not deleted. -/
def liveAgents (m : Metadata) (team : Team) : List Agent :=
  m.agents.rows.filter fun r => isLive r && decide (r.teamId = team.id)

variable {scan : HierarchyScan}

/-- An enabled agent that is listed is a usable one. -/
theorem usableMember_of_listed {agent : Agent}
    (h : agent ∈ (listedAgents scan m team).filter (·.enabled)) : UsableMember m team agent := by
  obtain ⟨hlisted, henabled⟩ := List.mem_filter.mp h
  obtain ⟨hstored, hlive, hmember⟩ := BaseRepository.mem_of_mem_list hlisted
  exact ⟨⟨hstored, hlive, henabled⟩, of_decide_eq_true hmember⟩

/-! ## One team -/

/-- An agent context is about the agent it was built for. -/
private theorem agent_of_buildResolvedContext {agent : Agent} {ctx : ResolvedRuntimeContext}
    (h : buildResolvedContext m os team agent = .ok ctx) : ctx.agent = agent := by
  simp only [buildResolvedContext, bind_eq_ok, pure_eq_ok] at h
  obtain ⟨result, -, rfl⟩ := h
  rfl

/-- A team context is about the team it was built for. -/
theorem team_of_buildTeamContext {ctx : ResolvedTeamContext}
    (h : buildTeamContext scan m os team = .ok ctx) : ctx.team = team := by
  simp only [buildTeamContext, bind_eq_ok, pure_eq_ok] at h
  obtain ⟨-, -, members, -, rfl⟩ := h
  rfl

/-- A team that is resolved has its listed enabled agents. -/
theorem agents_of_buildTeamContext {ctx : ResolvedTeamContext}
    (h : buildTeamContext scan m os team = .ok ctx) :
    ctx.agents = (listedAgents scan m team).filter (·.enabled) := by
  simp only [buildTeamContext, bind_eq_ok, pure_eq_ok] at h
  obtain ⟨-, -, members, hmembers, rfl⟩ := h
  exact map_of_mapM_eq_ok (fun _ _ => agent_of_buildResolvedContext) hmembers

/-- A usable agent of a valid chain is resolved. -/
private theorem exists_buildResolvedContext (hchain : ValidChain m os team) {agent : Agent}
    (hagent : UsableMember m team agent) :
    ∃ ctx, buildResolvedContext m os team agent = .ok ctx := by
  have hresolve := CapabilityService.resolve_of_live hchain.usableOs.stored hchain.usableOs.live
    hchain.usableOs.enabled hchain.usableTeam.stored hchain.usableTeam.live
    hchain.usableTeam.enabled hagent.usable.stored hagent.usable.live hagent.usable.enabled
  cases hresult : CapabilityService.resolve m os.id team.id agent.id with
  | error exc =>
    rw [hresult] at hresolve
    cases hresolve
  | ok result =>
    rw [buildResolvedContext, hresult]
    exact ⟨_, rfl⟩

variable (os) in
/-- A team without a listed enabled agent is refused. -/
theorem buildTeamContext_of_nil (h : (listedAgents scan m team).filter (·.enabled) = []) :
    ∃ message, buildTeamContext scan m os team = .error (.runtimeExecution message) := by
  refine ⟨"Team " ++ UuidText.text team.id ++ " has no enabled member agents", ?_⟩
  have hbuild : buildTeamContext scan m os team =
      raiseUnless (!((listedAgents scan m team).filter (·.enabled)).isEmpty) _ >>= _ := rfl
  rw [hbuild, h]
  rfl

/-- Any other team of a valid chain is resolved into its listed enabled agents. -/
theorem buildTeamContext_of_ne_nil (hchain : ValidChain m os team)
    (h : (listedAgents scan m team).filter (·.enabled) ≠ []) :
    ∃ ctx, buildTeamContext scan m os team = .ok ctx ∧
      ctx.agents = (listedAgents scan m team).filter (·.enabled) := by
  have hresolved : ∀ agent ∈ (listedAgents scan m team).filter (·.enabled),
      ∃ ctx, buildResolvedContext m os team agent = .ok ctx := by
    intro agent hagent
    exact exists_buildResolvedContext hchain (usableMember_of_listed hagent)
  obtain ⟨members, hmembers⟩ := exists_mapM_eq_ok hresolved
  have hagents := map_of_mapM_eq_ok (fun _ _ => agent_of_buildResolvedContext) hmembers
  refine ⟨⟨os, team, PromptCompositionService.composeTeamOnly m os team, members⟩, ?_, hagents⟩
  have hbuild : buildTeamContext scan m os team =
      raiseUnless (!((listedAgents scan m team).filter (·.enabled)).isEmpty) _ >>= fun _ =>
        ((listedAgents scan m team).filter (·.enabled)).mapM (buildResolvedContext m os team) >>= _ :=
    rfl
  rw [hbuild, hmembers, List.isEmpty_eq_false_iff.mpr h]
  rfl

/-- A team is resolved as it should be exactly if its usable agents are all listed. -/
theorem resolvesMembers_buildTeamContext_iff (hchain : ValidChain m os team) :
    ResolvesMembers m team (buildTeamContext scan m os team) ↔
      ∀ agent, UsableMember m team agent → agent ∈ listedAgents scan m team := by
  by_cases hnil : (listedAgents scan m team).filter (·.enabled) = []
  · obtain ⟨message, hrefused⟩ := buildTeamContext_of_nil os hnil
    rw [List.filter_eq_nil_iff] at hnil
    -- no listed agent is enabled: the team is refused, as one without a usable agent should be
    constructor
    · intro hresolves agent hagent
      exact absurd ⟨agent, hagent⟩ (hresolves.2.mp ⟨message, hrefused⟩)
    · intro hlisted
      have hnone : ¬∃ agent, UsableMember m team agent := by
        intro husable
        obtain ⟨agent, hagent⟩ := husable
        exact hnil agent (hlisted agent hagent) hagent.usable.enabled
      exact ⟨fun husable => absurd husable hnone, iff_of_true ⟨message, hrefused⟩ hnone⟩
  · obtain ⟨ctx, hok, hagents⟩ := buildTeamContext_of_ne_nil hchain hnil
    obtain ⟨listed, hlisted⟩ := List.exists_mem_of_ne_nil _ hnil
    have husable := usableMember_of_listed hlisted
    -- the team is resolved; what is listed is usable, so only an agent off the page can be missing
    constructor
    · intro hresolves agent hagent
      obtain ⟨ctx', hok', -, hexact⟩ := hresolves.1 ⟨listed, husable⟩
      obtain rfl := Except.ok.inj (hok.symm.trans hok')
      have hmem := (hexact agent).mpr hagent
      rw [hagents] at hmem
      exact (List.mem_filter.mp hmem).1
    · intro hall
      refine ⟨fun _ => ⟨ctx, hok, ?_, fun agent => ?_⟩, iff_of_false ?_ fun hnone =>
        hnone ⟨listed, husable⟩⟩
      · rw [hagents]
        exact BaseRepository.nodup_list.filter _
      · rw [hagents]
        refine ⟨usableMember_of_listed, fun hagent => ?_⟩
        exact List.mem_filter.mpr ⟨hall agent hagent, hagent.usable.enabled⟩
      · intro hrefused
        obtain ⟨message, hrefused⟩ := hrefused
        rw [hok] at hrefused
        cases hrefused

/-! ## By id and by code -/

/-- The enabled check passes on an enabled row. -/
private theorem enabledOr_of_enabled {α : Type} {row : Option α} {enabled : α → Bool}
    {message : String} {r : α} (hrow : row = some r) (hr : enabled r = true) :
    enabledOr row enabled message = .ok r := enabledOr_eq_ok.mpr ⟨hrow, hr⟩

/-- A team of a valid chain is resolved by its id. -/
theorem resolveTeamContextById_eq (hchain : ValidChain m os team) :
    resolveTeamContextById scan m team.id = buildTeamContext scan m os team := by
  have hteam := BaseRepository.get_of_mem hchain.usableTeam.stored hchain.usableTeam.live
  have hos := BaseRepository.get_of_mem hchain.usableOs.stored hchain.usableOs.live
  rw [← hchain.linked] at hos
  rw [resolveTeamContextById, enabledOr_of_enabled hteam hchain.usableTeam.enabled]
  show (enabledOr (BaseRepository.get m.agentOs team.agentOsId) AgentOS.enabled _ >>= _) = _
  rw [enabledOr_of_enabled hos hchain.usableOs.enabled]
  rfl

/-- An AgentOS that is usable is found by its code. -/
private theorem agentOsByCode_of_usable {db : Db} (hdb : UniqueCodes db)
    (hos : Usable db.metadata.agentOs AgentOS.enabled os) :
    agentOsByCode db.metadata os.code = .ok os := by
  rw [agentOsByCode, hdb.getAgentOs hos.stored hos.live]
  exact enabledOr_of_enabled rfl hos.enabled

/-- A team of a valid chain is resolved by the two codes. -/
theorem resolveTeamContextByCode_eq {db : Db} (hdb : UniqueCodes db)
    (hchain : ValidChain db.metadata os team) :
    resolveTeamContextByCode scan db.metadata os.code team.code =
      buildTeamContext scan db.metadata os team := by
  have hteam := hdb.getTeam hchain.usableTeam.stored hchain.usableTeam.live
  rw [hchain.linked] at hteam
  rw [resolveTeamContextByCode, agentOsByCode_of_usable hdb hchain.usableOs]
  show (teamByCode db.metadata os os.code team.code >>= _) = _
  rw [teamByCode, hteam]
  show (enabledOr (some team) Team.enabled _ >>= _) = _
  rw [enabledOr_of_enabled rfl hchain.usableTeam.enabled]
  rfl

/-- The usable agents of a team are all listed, whatever the order, exactly if the team has 200
    agents at most or no usable one. -/
theorem forall_listed_iff :
    (∀ scan agent, UsableMember m team agent → agent ∈ listedAgents scan m team) ↔
      (liveAgents m team).length ≤ 200 ∨ ¬∃ agent, UsableMember m team agent := by
  have hpage : ∀ agent, UsableMember m team agent →
      ((∀ scan : HierarchyScan, agent ∈ listedAgents scan m team) ↔
        (liveAgents m team).length ≤ 200) := by
    intro agent hagent
    rw [liveAgents, ← BaseRepository.forall_mem_list_iff hagent.usable.stored hagent.usable.live
      (decide_eq_true hagent.member)]
    exact ⟨fun hall order => hall ⟨order, .stored⟩, fun hall scan => hall scan.agents⟩
  constructor
  · intro hall
    by_cases husable : ∃ agent, UsableMember m team agent
    · obtain ⟨agent, hagent⟩ := husable
      exact .inl ((hpage agent hagent).mp fun scan => hall scan agent hagent)
    · exact .inr husable
  · intro hcond scan agent hagent
    cases hcond with
    | inl hlimit => exact (hpage agent hagent).mpr hlimit scan
    | inr hnone => exact absurd ⟨agent, hagent⟩ hnone

/-- A team of an enabled AgentOS is resolved into its usable agents, by id and by code, exactly if
    these agents are all among the 200 that are listed; and in every order of the listing exactly
    if the team has 200 agents at most, enabled or not, or no enabled one. -/
theorem teamMembers_resolved_iff {db : Db} (hdb : UniqueCodes db) (os : AgentOS) (team : Team)
    (hchain : ValidChain db.metadata os team) :
    (∀ scan,
      (ResolvesMembers db.metadata team (resolveTeamContextById scan db.metadata team.id) ↔
        ∀ agent, UsableMember db.metadata team agent → agent ∈ listedAgents scan db.metadata team) ∧
      (ResolvesMembers db.metadata team
          (resolveTeamContextByCode scan db.metadata os.code team.code) ↔
        ∀ agent, UsableMember db.metadata team agent →
          agent ∈ listedAgents scan db.metadata team)) ∧
    ((∀ scan, ResolvesMembers db.metadata team
          (resolveTeamContextById scan db.metadata team.id) ∧
        ResolvesMembers db.metadata team
          (resolveTeamContextByCode scan db.metadata os.code team.code)) ↔
      (liveAgents db.metadata team).length ≤ 200 ∨
        ¬∃ agent, UsableMember db.metadata team agent) := by
  simp only [resolveTeamContextById_eq hchain, resolveTeamContextByCode_eq hdb hchain, and_self,
    resolvesMembers_buildTeamContext_iff hchain, forall_listed_iff, implies_true]

/-! ## A team of 201 agents -/

namespace LargeTeam

open Civil Deployment

/-- One of the agents; the one with id 201 is enabled. -/
def member (id : Nat) : Agent :=
  { crm with id := id, code := String.ofList (List.replicate id 'a'), enabled := decide (id = 201) }

/-- The agents have different ids. -/
theorem keysNodup : (((List.range' 1 201).map member).map Agent.id).Nodup := by
  rw [List.map_map]
  exact (List.nodup_range' ..).map fun _ _ h => h

/-- The agents have different codes. -/
theorem codesNodup :
    (((List.range' 1 201).map member).map fun r => (r.teamId, r.code)).Nodup := by
  rw [List.map_map]
  refine (List.nodup_range' ..).map fun id id' h => ?_
  have hcode := congrArg (fun p => p.2.toList.length) h
  simpa only [Function.comp, member, String.toList_ofList, List.length_replicate] using hcode

/-- The tables. -/
def db : Db :=
  { Deployment.db with metadata := { Deployment.metadata with agents := ⟨_, keysNodup⟩ } }

/-- Codes are unique. -/
theorem uniqueCodes : UniqueCodes db where
  agentOs := List.nodup_singleton _
  teams := List.nodup_singleton _
  agents := codesNodup
  skills := List.nodup_nil
  workflows := List.nodup_singleton _

/-- The AgentOS. -/
def enterprise : AgentOS := ⟨1, "enterprise", "Enterprise", some 1, none, true, morning, none⟩

/-- The team. -/
def sales : Team := ⟨1, 1, "sales", "Sales", none, true, morning, none⟩

/-- Both are enabled. -/
theorem validChain : ValidChain db.metadata enterprise sales :=
  ⟨⟨List.mem_singleton_self _, rfl, rfl⟩, ⟨List.mem_singleton_self _, rfl, rfl⟩, rfl⟩

/-- There is an enabled agent. -/
theorem usableMember : UsableMember db.metadata sales (member 201) where
  usable := ⟨List.mem_map_of_mem (by decide), rfl, rfl⟩
  member := rfl

/-- All of them are the team's. -/
theorem length_liveAgents : (liveAgents db.metadata sales).length = 201 := by
  have hall : ∀ r ∈ (List.range' 1 201).map member, isLive r && decide (r.teamId = sales.id) := by
    intro r hr
    obtain ⟨id, -, rfl⟩ := List.mem_map.mp hr
    rfl
  rw [liveAgents, show db.metadata.agents.rows = (List.range' 1 201).map member from rfl,
    List.filter_eq_self.mpr hall, List.length_map, List.length_range']

end LargeTeam

/-- The enabled agent can be missing, and the team then has no member at all. -/
theorem teamMembers_resolved_iff_large :
    (∀ scan,
      (ResolvesMembers LargeTeam.db.metadata LargeTeam.sales
          (resolveTeamContextById scan LargeTeam.db.metadata 1) ↔
        ∀ agent, UsableMember LargeTeam.db.metadata LargeTeam.sales agent →
          agent ∈ listedAgents scan LargeTeam.db.metadata LargeTeam.sales) ∧
      (ResolvesMembers LargeTeam.db.metadata LargeTeam.sales
          (resolveTeamContextByCode scan LargeTeam.db.metadata "enterprise" "sales") ↔
        ∀ agent, UsableMember LargeTeam.db.metadata LargeTeam.sales agent →
          agent ∈ listedAgents scan LargeTeam.db.metadata LargeTeam.sales)) ∧
    ((∀ scan, ResolvesMembers LargeTeam.db.metadata LargeTeam.sales
          (resolveTeamContextById scan LargeTeam.db.metadata 1) ∧
        ResolvesMembers LargeTeam.db.metadata LargeTeam.sales
          (resolveTeamContextByCode scan LargeTeam.db.metadata "enterprise" "sales")) ↔
      (liveAgents LargeTeam.db.metadata LargeTeam.sales).length ≤ 200 ∨
        ¬∃ agent, UsableMember LargeTeam.db.metadata LargeTeam.sales agent) :=
  teamMembers_resolved_iff LargeTeam.uniqueCodes LargeTeam.enterprise LargeTeam.sales
    LargeTeam.validChain

/-- The enabled agent comes last, and the team is refused. -/
theorem teamMembers_enabledAgentLast :
    ∃ scan, UsableMember LargeTeam.db.metadata LargeTeam.sales (LargeTeam.member 201) ∧
      (∃ message, resolveTeamContextById scan LargeTeam.db.metadata 1 =
        .error (.runtimeExecution message)) ∧
      ¬ResolvesMembers LargeTeam.db.metadata LargeTeam.sales
        (resolveTeamContextById scan LargeTeam.db.metadata 1) := by
  have hagent := LargeTeam.usableMember
  -- The query returns the enabled agent after 200 others.
  let scan : HierarchyScan := ⟨.putLast (LargeTeam.member 201), .stored⟩
  have hrows : LargeTeam.db.metadata.agents.rows.Nodup := .of_map Agent.id LargeTeam.keysNodup
  have hlimit : 200 < (liveAgents LargeTeam.db.metadata LargeTeam.sales).length := by
    rw [LargeTeam.length_liveAgents]
    decide
  -- So none of the agents that it returns is enabled.
  have hnil : (listedAgents scan LargeTeam.db.metadata LargeTeam.sales).filter (·.enabled) = [] := by
    refine List.filter_eq_nil_iff.mpr fun agent hlisted henabled => ?_
    obtain ⟨hstored, -, -⟩ := BaseRepository.mem_of_mem_list hlisted
    obtain ⟨id, -, rfl⟩ := List.mem_map.mp hstored
    rw [of_decide_eq_true henabled] at hlisted
    exact ScanOrder.notMem_take_putLast (hrows.filter _) hlimit hlisted
  -- The team is refused, although it has a member.
  obtain ⟨message, hrefused⟩ := buildTeamContext_of_nil LargeTeam.enterprise hnil
  have hbyId : resolveTeamContextById scan LargeTeam.db.metadata LargeTeam.sales.id =
      buildTeamContext scan LargeTeam.db.metadata LargeTeam.enterprise LargeTeam.sales :=
    resolveTeamContextById_eq LargeTeam.validChain
  refine ⟨scan, hagent, ⟨message, hbyId.trans hrefused⟩, fun hresolves => ?_⟩
  exact hresolves.2.mp ⟨message, hbyId.trans hrefused⟩ ⟨_, hagent⟩

/-! ## The teams of an AgentOS -/

/-- A team of a valid chain is resolved exactly if an enabled agent of it is listed. -/
theorem exists_buildTeamContext_iff (hchain : ValidChain m os team) :
    (∃ ctx, buildTeamContext scan m os team = .ok ctx) ↔
      ∃ agent ∈ listedAgents scan m team, agent.enabled = true := by
  by_cases hnil : (listedAgents scan m team).filter (·.enabled) = []
  · obtain ⟨message, hrefused⟩ := buildTeamContext_of_nil os hnil
    rw [hrefused]
    rw [List.filter_eq_nil_iff] at hnil
    refine iff_of_false (fun hok => ?_) fun hagent => ?_
    · obtain ⟨ctx, hok⟩ := hok
      cases hok
    · obtain ⟨agent, hlisted, henabled⟩ := hagent
      exact hnil agent hlisted henabled
  · obtain ⟨ctx, hok, -⟩ := buildTeamContext_of_ne_nil hchain hnil
    obtain ⟨agent, hagent⟩ := List.exists_mem_of_ne_nil _ hnil
    exact iff_of_true ⟨ctx, hok⟩ ⟨agent, List.mem_filter.mp hagent⟩

/-- An AgentOS is resolved into its listed enabled teams, each of which has to be resolved. -/
theorem resolveRootContext_eq_ok {db : Db} (hdb : UniqueCodes db)
    (hos : Usable db.metadata.agentOs AgentOS.enabled os) {ctx : ResolvedRootContext} :
    resolveRootContext scan db.metadata os.code = .ok ctx ↔
      (listedTeams scan db.metadata os).filter (·.enabled) ≠ [] ∧
      ∃ contexts, ((listedTeams scan db.metadata os).filter (·.enabled)).mapM
          (buildTeamContext scan db.metadata os) = .ok contexts ∧
        ⟨os, PromptCompositionService.composeRootOnly db.metadata os, contexts⟩ = ctx := by
  rw [resolveRootContext, agentOsByCode_of_usable hdb hos]
  show (raiseUnless (!((listedTeams scan db.metadata os).filter (·.enabled)).isEmpty) _ >>= _) = _ ↔
    _
  simp only [bind_eq_ok, raiseUnless_eq_ok, pure_eq_ok, Bool.not_eq_true', List.isEmpty_eq_false_iff,
    exists_const]
  rfl

/-- A listed enabled team is the end of a valid chain. -/
theorem validChain_of_listed (hos : Usable m.agentOs AgentOS.enabled os)
    (h : team ∈ (listedTeams scan m os).filter (·.enabled)) : ValidChain m os team := by
  obtain ⟨hlisted, henabled⟩ := List.mem_filter.mp h
  obtain ⟨hstored, hlive, hunder⟩ := BaseRepository.mem_of_mem_list hlisted
  exact ⟨hos, ⟨hstored, hlive, henabled⟩, of_decide_eq_true hunder⟩

/-- A listed enabled team that has a listed enabled agent is a usable one. -/
theorem usableTeam_of_listed (hos : Usable m.agentOs AgentOS.enabled os)
    (h : team ∈ (listedTeams scan m os).filter (·.enabled))
    (hagent : ∃ agent ∈ listedAgents scan m team, agent.enabled = true) :
    UsableTeam m os team := by
  have hchain := validChain_of_listed hos h
  obtain ⟨agent, hlisted⟩ := hagent
  exact ⟨hchain.usableTeam, hchain.linked, agent,
    usableMember_of_listed (List.mem_filter.mpr hlisted)⟩

/-- An AgentOS with a usable team is resolved into its usable teams exactly if they are all among
    the 200 teams that are listed and every enabled team that is listed has an enabled agent among
    the 200 listed of it. -/
theorem rootTeams_resolved_iff {db : Db} (hdb : UniqueCodes db) (os : AgentOS)
    (hos : Usable db.metadata.agentOs AgentOS.enabled os)
    (hsome : ∃ team, UsableTeam db.metadata os team) (scan : HierarchyScan) :
    ResolvesTeams db.metadata os (resolveRootContext scan db.metadata os.code) ↔
      (∀ team, UsableTeam db.metadata os team → team ∈ listedTeams scan db.metadata os) ∧
      ∀ team ∈ listedTeams scan db.metadata os, team.enabled = true →
        ∃ agent ∈ listedAgents scan db.metadata team, agent.enabled = true := by
  constructor
  · intro hresolves
    obtain ⟨ctx, hok, -, hexact⟩ := hresolves
    obtain ⟨-, contexts, hcontexts, rfl⟩ := (resolveRootContext_eq_ok hdb hos).mp hok
    have hteams : contexts.map (·.team) = (listedTeams scan db.metadata os).filter (·.enabled) :=
      map_of_mapM_eq_ok (fun _ _ => team_of_buildTeamContext) hcontexts
    constructor
    · intro team hteam
      have hmem : team ∈ contexts.map (·.team) := (hexact team).mpr hteam
      rw [hteams] at hmem
      exact (List.mem_filter.mp hmem).1
    · -- one listed team that is refused would have refused the AgentOS
      intro team hlisted henabled
      have hmem := List.mem_filter.mpr ⟨hlisted, henabled⟩
      obtain ⟨ctx, -, hctx⟩ := exists_of_mapM_mem hcontexts hmem
      exact (exists_buildTeamContext_iff (validChain_of_listed hos hmem)).mp ⟨ctx, hctx⟩
  · intro hcond
    obtain ⟨hall, hagents⟩ := hcond
    have hagents' : ∀ team ∈ (listedTeams scan db.metadata os).filter (·.enabled),
        ∃ agent ∈ listedAgents scan db.metadata team, agent.enabled = true := by
      intro team hteam
      obtain ⟨hlisted, henabled⟩ := List.mem_filter.mp hteam
      exact hagents team hlisted henabled
    have hmem : ∀ team, UsableTeam db.metadata os team →
        team ∈ (listedTeams scan db.metadata os).filter (·.enabled) := by
      intro team hteam
      exact List.mem_filter.mpr ⟨hall team hteam, hteam.usable.enabled⟩
    obtain ⟨contexts, hcontexts⟩ := exists_mapM_eq_ok fun team hteam =>
      (exists_buildTeamContext_iff (validChain_of_listed hos hteam)).mpr (hagents' team hteam)
    have hteams : contexts.map (·.team) = (listedTeams scan db.metadata os).filter (·.enabled) :=
      map_of_mapM_eq_ok (fun _ _ => team_of_buildTeamContext) hcontexts
    obtain ⟨team, hteam⟩ := hsome
    refine ⟨_, (resolveRootContext_eq_ok hdb hos).mpr
      ⟨List.ne_nil_of_mem (hmem team hteam), contexts, hcontexts, rfl⟩, ?_, fun team => ?_⟩
    · rw [ResolvedRootContext.teams, hteams]
      exact BaseRepository.nodup_list.filter _
    · rw [ResolvedRootContext.teams, hteams]
      exact ⟨fun h => usableTeam_of_listed hos h (hagents' team h), hmem team⟩

/-! ## A team without agents beside another -/

namespace EmptyTeam

open Civil Deployment

/-- A team that has no agents. -/
def support : Team := ⟨2, 1, "support", "Support", none, true, morning, none⟩

/-- The tables: the team beside the one with an agent. -/
def db : Db :=
  { Deployment.db with metadata :=
      { Deployment.metadata with teams := ⟨[LargeTeam.sales, support], by decide⟩ } }

/-- Codes are unique. -/
theorem uniqueCodes : UniqueCodes db where
  agentOs := List.nodup_singleton _
  teams := by decide
  agents := List.nodup_singleton _
  skills := List.nodup_nil
  workflows := List.nodup_singleton _

/-- The AgentOS is enabled. -/
theorem usableOs : Usable db.metadata.agentOs AgentOS.enabled LargeTeam.enterprise :=
  ⟨List.mem_singleton_self _, rfl, rfl⟩

/-- The other team has an enabled agent. -/
theorem usableTeam : UsableTeam db.metadata LargeTeam.enterprise LargeTeam.sales where
  usable := ⟨List.mem_cons_self, rfl, rfl⟩
  under := rfl
  member := ⟨crm, ⟨List.mem_singleton_self _, rfl, rfl⟩, rfl⟩

end EmptyTeam

/-- What is asked for in that AgentOS. -/
theorem rootTeams_resolved_iff_emptyTeam :
    ResolvesTeams EmptyTeam.db.metadata LargeTeam.enterprise
        (resolveRootContext ⟨.stored, .stored⟩ EmptyTeam.db.metadata "enterprise") ↔
      (∀ team, UsableTeam EmptyTeam.db.metadata LargeTeam.enterprise team →
        team ∈ listedTeams ⟨.stored, .stored⟩ EmptyTeam.db.metadata LargeTeam.enterprise) ∧
      ∀ team ∈ listedTeams ⟨.stored, .stored⟩ EmptyTeam.db.metadata LargeTeam.enterprise,
        team.enabled = true →
          ∃ agent ∈ listedAgents ⟨.stored, .stored⟩ EmptyTeam.db.metadata team,
            agent.enabled = true :=
  rootTeams_resolved_iff EmptyTeam.uniqueCodes LargeTeam.enterprise EmptyTeam.usableOs
    ⟨_, EmptyTeam.usableTeam⟩ ⟨.stored, .stored⟩

/-- The team without agents takes the other one with it. -/
theorem rootTeams_emptyTeam :
    UsableTeam EmptyTeam.db.metadata LargeTeam.enterprise LargeTeam.sales ∧
    resolveRootContext ⟨.stored, .stored⟩ EmptyTeam.db.metadata "enterprise" =
      .error (.runtimeExecution
        "Team 00000000-0000-0000-0000-000000000002 has no enabled member agents") ∧
    ¬ResolvesTeams EmptyTeam.db.metadata LargeTeam.enterprise
      (resolveRootContext ⟨.stored, .stored⟩ EmptyTeam.db.metadata "enterprise") := by
  have hrefused : resolveRootContext ⟨.stored, .stored⟩ EmptyTeam.db.metadata "enterprise" =
      .error (.runtimeExecution
        "Team 00000000-0000-0000-0000-000000000002 has no enabled member agents") := rfl
  refine ⟨EmptyTeam.usableTeam, hrefused, fun hresolves => ?_⟩
  obtain ⟨ctx, hok, -⟩ := hresolves
  rw [hrefused] at hok
  cases hok

end AgnoRuntime
