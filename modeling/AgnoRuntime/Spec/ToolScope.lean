import AgnoRuntime.Model.EngineRun
import AgnoRuntime.Spec.SkillGrants

/-!
# The tools an execution can reach

A resolved context is `Valid` when its three levels are enabled, not deleted and
linked, and its effective capabilities are the sorted intersection. Every
resolver returns valid contexts only; every execution method enters one MCP
session for each agent context at most, filtered to that context's effective
capabilities. Together: no session reaches beyond the codes of the agent's own
AgentOS and Team.
-/

namespace AgnoRuntime

open CapabilityRepository

/-! ## Valid contexts -/

/-- A row that is stored, not deleted and enabled. -/
structure Usable {α : Type} [SoftDelete α] {key : α → Uuid} (t : KeyedTable key)
    (enabled : α → Bool) (r : α) : Prop where
  stored : r ∈ t.rows
  live : isLive r = true
  enabled : enabled r = true

/-- The chain above an agent: an enabled Team of an enabled AgentOS. -/
structure ValidChain (m : Metadata) (agentOs : AgentOS) (team : Team) : Prop where
  usableOs : Usable m.agentOs AgentOS.enabled agentOs
  usableTeam : Usable m.teams Team.enabled team
  linked : team.agentOsId = agentOs.id

/-- An agent context as the metadata supports it. -/
structure ResolvedRuntimeContext.Valid (m : Metadata) (ctx : ResolvedRuntimeContext) : Prop where
  chain : ValidChain m ctx.agentOs ctx.team
  usableAgent : Usable m.agents Agent.enabled ctx.agent
  linked : ctx.agent.teamId = ctx.team.id
  capabilities : ctx.effectiveCapabilities =
    CapabilityService.sorted
      (CapabilityService.effective m ctx.agentOs.id ctx.team.id ctx.agent.id)

/-- The effective capabilities of a valid context are codes of its AgentOS and of its Team. -/
theorem ResolvedRuntimeContext.Valid.mem_codes {m : Metadata} {ctx : ResolvedRuntimeContext}
    (h : ctx.Valid m) {code : String} (hcode : code ∈ ctx.effectiveCapabilities) :
    code ∈ getAgentOsCapabilities m ctx.agentOs.id ∧ code ∈ getTeamCapabilities m ctx.team.id := by
  rw [h.capabilities, Finset.mem_sort] at hcode
  exact ⟨CapabilityService.effective_subset_agentOs m _ _ _ hcode,
    CapabilityService.effective_subset_team m _ _ _ hcode⟩

namespace AgnoRuntimeEngine

variable {scan : HierarchyScan} {m : Metadata}

/-! ## Resolvers return valid contexts -/

/-- The row an enabled check lets through. -/
theorem enabledOr_eq_ok {α : Type} {row : Option α} {enabled : α → Bool} {message : String}
    {r : α} : enabledOr row enabled message = .ok r ↔ row = some r ∧ enabled r = true := by
  cases row with
  | none => simp [enabledOr]
  | some r' =>
    rw [enabledOr]
    cases h : enabled r' with
    | false =>
      simp only [Bool.false_eq_true, if_false, reduceCtorEq, Option.some.injEq, false_iff, not_and]
      rintro rfl
      rw [h]
      exact Bool.false_ne_true
    | true =>
      simp only [if_true, Except.ok.injEq, Option.some.injEq]
      constructor
      · rintro rfl
        exact ⟨rfl, h⟩
      · exact fun hr => hr.1

/-- A row looked up by id that passes its enabled check. -/
private theorem usable_of_get {α : Type} [SoftDelete α] {key : α → Uuid} {t : KeyedTable key}
    {id : Uuid} {enabled : α → Bool} {message : String} {r : α}
    (h : enabledOr (BaseRepository.get t id) enabled message = .ok r) :
    Usable t enabled r ∧ key r = id := by
  obtain ⟨hget, hon⟩ := enabledOr_eq_ok.mp h
  obtain ⟨hmem, hkey, hlive⟩ := BaseRepository.mem_of_get hget
  exact ⟨⟨hmem, hlive, hon⟩, hkey⟩

/-- The AgentOS found by its code. -/
theorem usable_of_agentOsByCode {code : String} {os : AgentOS}
    (h : agentOsByCode m code = .ok os) : Usable m.agentOs AgentOS.enabled os := by
  simp only [agentOsByCode, Except.bind_eq_ok] at h
  obtain ⟨row, hrow, h⟩ := h
  obtain ⟨rfl, hon⟩ := enabledOr_eq_ok.mp h
  obtain ⟨hmem, -, hlive⟩ := AgentOSRepository.getByCode_some hrow
  exact ⟨hmem, hlive, hon⟩

/-- The Team found by its code is a Team of the AgentOS it was looked up under. -/
theorem validChain_of_teamByCode {os : AgentOS} {osCode code : String} {team : Team}
    (hos : Usable m.agentOs AgentOS.enabled os) (h : teamByCode m os osCode code = .ok team) :
    ValidChain m os team := by
  simp only [teamByCode, Except.bind_eq_ok] at h
  obtain ⟨row, hrow, h⟩ := h
  obtain ⟨rfl, hon⟩ := enabledOr_eq_ok.mp h
  obtain ⟨hmem, hlink, -, hlive⟩ := TeamRepository.getByCode_some hrow
  exact ⟨hos, ⟨hmem, hlive, hon⟩, hlink⟩

/-- `_build_resolved_context` on a valid chain and an agent of the team. -/
theorem valid_of_buildResolvedContext {os : AgentOS} {team : Team} {agent : Agent}
    {ctx : ResolvedRuntimeContext} (hchain : ValidChain m os team)
    (hagent : Usable m.agents Agent.enabled agent) (hlink : agent.teamId = team.id)
    (h : buildResolvedContext m os team agent = .ok ctx) : ctx.Valid m := by
  simp only [buildResolvedContext, Except.bind_eq_ok, Except.pure_eq_ok] at h
  obtain ⟨r, hr, rfl⟩ := h
  exact ⟨hchain, hagent, hlink, CapabilityService.effectiveCapabilities_of_resolve hr⟩

/-- By code or as the first enabled one, the agent found is a live agent of the Team. -/
theorem mem_of_agentInTeam {team : Team} {agentCode : Option String} {agent : Agent}
    (h : agentInTeam scan m team agentCode = .ok (some agent)) :
    agent ∈ m.agents.rows ∧ agent.teamId = team.id ∧ isLive agent = true := by
  cases agentCode with
  | none =>
    rw [agentInTeam, Except.ok.injEq] at h
    obtain ⟨hmem, hlink, -, hlive⟩ := AgentRepository.getFirstEnabledInTeam_some h
    exact ⟨hmem, hlink, hlive⟩
  | some code =>
    rw [agentInTeam] at h
    split at h
    · rw [Except.ok.injEq] at h
      obtain ⟨hmem, hlink, -, hlive⟩ := AgentRepository.getFirstEnabledInTeam_some h
      exact ⟨hmem, hlink, hlive⟩
    · obtain ⟨hmem, hlink, -, hlive⟩ := AgentRepository.getByCode_some h
      exact ⟨hmem, hlink, hlive⟩

/-- `resolve_context`. -/
theorem valid_of_resolveContext {osCode teamCode : String} {agentCode : Option String}
    {ctx : ResolvedRuntimeContext} (h : resolveContext scan m osCode teamCode agentCode = .ok ctx) :
    ctx.Valid m := by
  simp only [resolveContext, Except.bind_eq_ok] at h
  obtain ⟨os, hos, team, hteam, row, hrow, agent, hagent, hctx⟩ := h
  have hchain := validChain_of_teamByCode (usable_of_agentOsByCode hos) hteam
  obtain ⟨rfl, hon⟩ := enabledOr_eq_ok.mp hagent
  obtain ⟨hmem, hlink, hlive⟩ := mem_of_agentInTeam hrow
  exact valid_of_buildResolvedContext hchain ⟨hmem, hlive, hon⟩ hlink hctx

/-- `resolve_context_by_id`. -/
theorem valid_of_resolveContextById {agentId : Uuid} {ctx : ResolvedRuntimeContext}
    (h : resolveContextById m agentId = .ok ctx) : ctx.Valid m := by
  simp only [resolveContextById, Except.bind_eq_ok] at h
  obtain ⟨agent, hagent, team, hteam, os, hos, hctx⟩ := h
  obtain ⟨hagent, -⟩ := usable_of_get hagent
  obtain ⟨hteam, hteamId⟩ := usable_of_get hteam
  obtain ⟨hos, hosId⟩ := usable_of_get hos
  exact valid_of_buildResolvedContext ⟨hos, hteam, hosId.symm⟩ hagent hteamId.symm hctx

/-- `_build_team_context`: every member context is valid. -/
theorem valid_of_buildTeamContext {os : AgentOS} {team : Team} {ctx : ResolvedTeamContext}
    (hchain : ValidChain m os team) (h : buildTeamContext scan m os team = .ok ctx) :
    ∀ member ∈ ctx.memberContexts, member.Valid m := by
  simp only [buildTeamContext, Except.bind_eq_ok, Except.pure_eq_ok] at h
  obtain ⟨-, -, memberContexts, hmembers, rfl⟩ := h
  intro member hmember
  obtain ⟨agent, hagent, hctx⟩ := Except.exists_of_mem_mapM hmembers hmember
  obtain ⟨hlisted, hon⟩ := List.mem_filter.mp hagent
  obtain ⟨hmem, hlive, hlink⟩ := BaseRepository.mem_of_mem_list hlisted
  exact valid_of_buildResolvedContext hchain ⟨hmem, hlive, hon⟩ (of_decide_eq_true hlink) hctx

/-- `resolve_team_context_by_id`. -/
theorem valid_of_resolveTeamContextById {teamId : Uuid} {ctx : ResolvedTeamContext}
    (h : resolveTeamContextById scan m teamId = .ok ctx) :
    ∀ member ∈ ctx.memberContexts, member.Valid m := by
  simp only [resolveTeamContextById, Except.bind_eq_ok] at h
  obtain ⟨team, hteam, os, hos, hctx⟩ := h
  obtain ⟨hteam, -⟩ := usable_of_get hteam
  obtain ⟨hos, hosId⟩ := usable_of_get hos
  exact valid_of_buildTeamContext ⟨hos, hteam, hosId.symm⟩ hctx

/-- `resolve_team_context_by_code`. -/
theorem valid_of_resolveTeamContextByCode {osCode teamCode : String} {ctx : ResolvedTeamContext}
    (h : resolveTeamContextByCode scan m osCode teamCode = .ok ctx) :
    ∀ member ∈ ctx.memberContexts, member.Valid m := by
  simp only [resolveTeamContextByCode, Except.bind_eq_ok] at h
  obtain ⟨os, hos, team, hteam, hctx⟩ := h
  exact valid_of_buildTeamContext
    (validChain_of_teamByCode (usable_of_agentOsByCode hos) hteam) hctx

/-- `resolve_root_context`: every member of every team is valid. -/
theorem valid_of_resolveRootContext {osCode : String} {ctx : ResolvedRootContext}
    (h : resolveRootContext scan m osCode = .ok ctx) :
    ∀ teamCtx ∈ ctx.teamContexts, ∀ member ∈ teamCtx.memberContexts, member.Valid m := by
  simp only [resolveRootContext, Except.bind_eq_ok, Except.pure_eq_ok] at h
  obtain ⟨os, hos, -, -, teamContexts, hteams, rfl⟩ := h
  intro teamCtx hteamCtx
  obtain ⟨team, hteam, hctx⟩ := Except.exists_of_mem_mapM hteams hteamCtx
  obtain ⟨hlisted, hon⟩ := List.mem_filter.mp hteam
  obtain ⟨hmem, hlive, hlink⟩ := BaseRepository.mem_of_mem_list hlisted
  exact valid_of_buildTeamContext
    ⟨usable_of_agentOsByCode hos, ⟨hmem, hlive, hon⟩, of_decide_eq_true hlink⟩ hctx

/-- Whatever way a dispatch was resolved, its agent contexts are valid. -/
theorem valid_of_resolves {d : Dispatch} (h : Resolves scan m d) :
    ∀ ctx ∈ d.agentContexts, ctx.Valid m := by
  intro ctx hctx
  cases h with
  | context _ _ _ ctx' h =>
    rw [List.mem_singleton.mp hctx]
    exact valid_of_resolveContext h
  | contextById _ ctx' h =>
    rw [List.mem_singleton.mp hctx]
    exact valid_of_resolveContextById h
  | teamContextById _ ctx' h => exact valid_of_resolveTeamContextById h ctx hctx
  | teamContextByCode _ _ ctx' h => exact valid_of_resolveTeamContextByCode h ctx hctx
  | rootContext _ ctx' h =>
    obtain ⟨teamCtx, hteamCtx, hmember⟩ := List.mem_flatMap.mp hctx
    exact valid_of_resolveRootContext h teamCtx hteamCtx ctx hmember

/-! ## Executions enter the sessions of their agents only -/

/-- The entered sessions grow by sessions that satisfy `P`. -/
def GrowsBy (P : Agent × MCPSession → Prop) (entered entered' : List (Agent × MCPSession)) :
    Prop :=
  ∃ added, entered' = entered ++ added ∧ ∀ e ∈ added, P e

variable {P : Agent × MCPSession → Prop}

instance : Std.Refl (GrowsBy P) :=
  ⟨fun entered => ⟨[], (List.append_nil entered).symm, fun _ h => by cases h⟩⟩

instance : IsTrans _ (GrowsBy P) := ⟨by
  rintro s t u ⟨added, rfl, hadded⟩ ⟨added', rfl, hadded'⟩
  refine ⟨added ++ added', List.append_assoc _ _ _, fun e he => ?_⟩
  exact (List.mem_append.mp he).elim (hadded e) (hadded' e)⟩

variable (call : AgnoCall) (m' : Metadata)

/-- The session of an agent context: filtered to the context's effective capabilities. -/
def sessionOf (ctx : ResolvedRuntimeContext) : Agent × MCPSession :=
  (ctx.agent, ToolCatalogBuilder.build call.gatewayUrl ctx.effectiveCapabilities)

/-- Entering a session adds that session. -/
theorem keeps_enterSession {agent : Agent} {session : MCPSession} (h : P (agent, session)) :
    (enterSession call agent session).Keeps (GrowsBy P) := by
  refine Prog.keeps_bind Prog.keeps_read fun entered => ?_
  refine Prog.keeps_bind (Prog.keeps_modify fun s => ?_) fun _ => ?_
  · exact ⟨[(agent, session)], rfl, fun e he => List.mem_singleton.mp he ▸ h⟩
  · split
    · exact Prog.keeps_pure _
    · exact Prog.keeps_raise _

/-- Opening an agent enters its context's session. -/
theorem keeps_openAgent {ctx : ResolvedRuntimeContext} (args : RunArgs)
    (h : P (sessionOf call ctx)) : (openAgent call m' ctx args).Keeps (GrowsBy P) :=
  Prog.keeps_bind (keeps_enterSession call h) fun _ => Prog.keeps_lift _

/-- Building a team enters its members' sessions. -/
theorem keeps_buildAgnoTeam {ctx : ResolvedTeamContext} (args : RunArgs)
    (h : ∀ member ∈ ctx.memberContexts, P (sessionOf call member)) :
    (buildAgnoTeam call m' ctx args).Keeps (GrowsBy P) := by
  refine Prog.keeps_bind (Prog.keeps_mapM fun member hmember => ?_) fun _ => ?_
  · exact keeps_openAgent call m' args (h member hmember)
  · refine Prog.keeps_bind (Prog.keeps_lift _) fun _ => ?_
    exact Prog.keeps_bind (Prog.keeps_lift _) fun _ => Prog.keeps_pure _

/-- Building what a dispatch is executed with enters the sessions of its agent contexts. -/
theorem keeps_buildRunnable {d : Dispatch} (args : RunArgs)
    (h : ∀ ctx ∈ d.agentContexts, P (sessionOf call ctx)) :
    (buildRunnable call m' args d).Keeps (GrowsBy P) := by
  cases d with
  | runtime ctx =>
    exact Prog.keeps_map _ (keeps_openAgent call m' args (h ctx (List.mem_singleton_self ctx)))
  | team ctx => exact Prog.keeps_map _ (keeps_buildAgnoTeam call m' args h)
  | root ctx =>
    refine Prog.keeps_map _ (Prog.keeps_bind (Prog.keeps_mapM fun teamCtx hteamCtx => ?_) fun _ => ?_)
    · refine keeps_buildAgnoTeam call m' args fun member hmember => ?_
      exact h member (List.mem_flatMap.mpr ⟨teamCtx, hteamCtx, hmember⟩)
    · refine Prog.keeps_bind (Prog.keeps_lift _) fun _ => ?_
      exact Prog.keeps_bind (Prog.keeps_lift _) fun _ => Prog.keeps_pure _

/-- The plain methods enter the sessions of the agent contexts. -/
theorem keeps_execute {d : Dispatch} (message : String) (args : RunArgs)
    (h : ∀ ctx ∈ d.agentContexts, P (sessionOf call ctx)) :
    (execute call m' message d args).Keeps (GrowsBy P) := by
  refine Prog.keeps_bind (Prog.keeps_handleError ?_ fun _ => Prog.keeps_raise _)
    fun _ => Prog.keeps_pure _
  exact Prog.keeps_bind (keeps_buildRunnable call m' args h) fun _ => Prog.keeps_lift _

/-- The streaming methods enter the sessions of the agent contexts. -/
theorem keeps_executeStream {d : Dispatch} (message : String) (mapped : AgnoEvent → StreamEvent)
    (args : RunArgs) (h : ∀ ctx ∈ d.agentContexts, P (sessionOf call ctx)) :
    (executeStream call m' message mapped d args).Keeps (GrowsBy P) := by
  refine Prog.keeps_bind (Prog.keeps_attempt (keeps_buildRunnable call m' args h)) fun outcome => ?_
  cases outcome with
  | error exc => exact Prog.keeps_pure _
  | ok runnable =>
    dsimp only
    split <;> exact Prog.keeps_pure _

/-- The sessions that the execution method for a dispatch enters. -/
def sessionsEntered (streaming : Bool) (args : RunArgs) : Dispatch → List (Agent × MCPSession)
  | .runtime ctx =>
    if streaming then (runStream call m' ctx args []).2 else (run call m' ctx args []).2
  | .team ctx =>
    if streaming then (runTeamStream call m' ctx args []).2 else (runTeam call m' ctx args []).2
  | .root ctx =>
    if streaming then (runRootStream call m' ctx args []).2 else (runRoot call m' ctx args []).2

/-- Every session an execution enters is the session of one of its agent contexts. -/
theorem sessionsEntered_subset (streaming : Bool) (args : RunArgs) (d : Dispatch) :
    ∀ entry ∈ sessionsEntered call m' streaming args d,
      ∃ ctx ∈ d.agentContexts, entry = sessionOf call ctx := by
  have hall : ∀ ctx ∈ d.agentContexts, ∃ ctx' ∈ d.agentContexts,
      sessionOf call ctx = sessionOf call ctx' := fun ctx hctx => ⟨ctx, hctx, rfl⟩
  have hgrow : GrowsBy (fun entry => ∃ ctx ∈ d.agentContexts, entry = sessionOf call ctx) []
      (sessionsEntered call m' streaming args d) := by
    cases d <;> cases streaming
    · exact keeps_execute call m' _ args hall []
    · exact keeps_executeStream call m' _ _ args hall []
    · exact keeps_execute call m' _ args hall []
    · exact keeps_executeStream call m' _ _ args hall []
    · exact keeps_execute call m' _ args hall []
    · exact keeps_executeStream call m' _ _ args hall []
  obtain ⟨added, heq, hadded⟩ := hgrow
  rw [List.nil_append] at heq
  rw [heq]
  exact hadded

/-! ## No session reaches beyond its agent's AgentOS and Team -/

/-- However a dispatch is resolved, its agents sit in enabled, live, linked chains; however
    it is then executed, each session is filtered to codes of the agent's AgentOS and Team. -/
theorem resolves_valid_and_scoped {d : Dispatch} (h : Resolves scan m d) :
    (∀ ctx ∈ d.agentContexts,
      Usable m.agentOs AgentOS.enabled ctx.agentOs ∧ Usable m.teams Team.enabled ctx.team ∧
        Usable m.agents Agent.enabled ctx.agent ∧
        ctx.agent.teamId = ctx.team.id ∧ ctx.team.agentOsId = ctx.agentOs.id) ∧
    (∀ (call : AgnoCall) (m' : Metadata) (streaming : Bool) (args : RunArgs),
      ∀ entry ∈ sessionsEntered call m' streaming args d,
        ∃ ctx ∈ d.agentContexts, entry.1 = ctx.agent ∧
          ∃ codes, entry.2.includeTools = some codes ∧
            (CapabilityService.effective m ctx.agentOs.id ctx.team.id ctx.agent.id = ∅ →
              codes = []) ∧
            ∀ code ∈ codes, code ∈ getAgentOsCapabilities m ctx.agentOs.id ∧
              code ∈ getTeamCapabilities m ctx.team.id) := by
  have hvalid := valid_of_resolves h
  refine ⟨fun ctx hctx => ?_, fun call m' streaming args entry hentry => ?_⟩
  · have hctx' := hvalid ctx hctx
    exact ⟨hctx'.chain.usableOs, hctx'.chain.usableTeam, hctx'.usableAgent, hctx'.linked,
      hctx'.chain.linked⟩
  · obtain ⟨ctx, hctx, rfl⟩ := sessionsEntered_subset call m' streaming args d entry hentry
    refine ⟨ctx, hctx, rfl, ctx.effectiveCapabilities, rfl, fun hempty => ?_, fun code hcode => ?_⟩
    · rw [(hvalid ctx hctx).capabilities, hempty, CapabilityService.sorted, Finset.sort_empty]
    · exact (hvalid ctx hctx).mem_codes hcode

/-! ## An agent resolved by its id -/

namespace ScopeExample

/-- One AgentOS, Team and Agent, with one capability allowed above the agent. -/
def metadata : Metadata := (Metadata.initial .empty .empty).run StaleSkill.hierarchy

/-- The context of the agent. -/
def context : ResolvedRuntimeContext where
  agentOs := StaleSkill.enterprise
  team := StaleSkill.sales
  agent := StaleSkill.crm
  finalPrompt := "You are CRM agent, an agent within team Sales."
  effectiveCapabilities := CapabilityService.sorted (CapabilityService.effective metadata 1 1 1)

end ScopeExample

/-- The resolution of the example agent: a usable chain, and only filtered sessions. -/
theorem resolves_valid_and_scoped_example :
    StaleSkill.crm.teamId = StaleSkill.sales.id ∧
    ∀ (call : AgnoCall) (streaming : Bool) (args : RunArgs),
      ∀ entry ∈ sessionsEntered call ScopeExample.metadata streaming args
        (.runtime ScopeExample.context), entry.2.includeTools ≠ none := by
  have hresolves : Resolves ⟨.stored, .stored⟩ ScopeExample.metadata
      (.runtime ScopeExample.context) := .contextById 1 _ rfl
  obtain ⟨hchain, hscoped⟩ := resolves_valid_and_scoped hresolves
  refine ⟨(hchain _ (List.mem_singleton_self _)).2.2.2.1, ?_⟩
  intro call streaming args entry hentry
  obtain ⟨-, -, -, codes, hcodes, -⟩ := hscoped call _ streaming args entry hentry
  rw [hcodes]
  exact Option.some_ne_none codes

end AgnoRuntimeEngine

end AgnoRuntime
