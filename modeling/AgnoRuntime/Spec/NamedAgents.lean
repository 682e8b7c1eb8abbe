import AgnoRuntime.Spec.OpenTurns
import AgnoRuntime.Spec.RequestCalls
import AgnoRuntime.Spec.TeamMembers

/-!
# A request that names an agent

`ChatRequest` has a field for the code of an agent, and both entry points have a branch that
executes a turn with one agent. But the dispatch is resolved from the codes of the AgentOS and
of the team alone, so that branch is never taken: the turn is executed by the whole team, and
stored under the agent that happens to be listed first.

## Key results

- `wholeTeam_of_resolveDispatchContext`: a request that names a team is dispatched to all of it
- `namedAgent_notExecuted`: the named agent never executes the turn
-/

namespace AgnoRuntime

open Except Svc Prog AgnoRuntimeEngine ChatService

/-- The turn was executed, with this agent and nothing else, and what was stored for it since
    carries the id of the agent. -/
structure ExecutedBy (agent : Agent) (store : Store) (w : World) : Prop where
  executed : w.engineCalls ≠ []
  alone : ∀ call ∈ w.engineCalls, ∃ ctx, call.dispatch = .runtime ctx ∧ ctx.agent = agent
  runs : ∀ run ∈ w.committed.agentRuns.rows,
    run.id ∉ store.db.agentRuns.rows.map (·.id) → run.agentId = agent.id
  sessions : ∀ session ∈ w.committed.chatSessions.rows,
    session.id ∉ store.db.chatSessions.rows.map (·.id) → session.agentId = some agent.id

/-- The dispatch is for all the listed enabled agents of the team. -/
def ForWholeTeam (scan : HierarchyScan) (m : Metadata) (team : Team) (dispatch : Dispatch) :
    Prop :=
  ∃ ctx, dispatch = .team ctx ∧ ctx.team = team ∧
    ctx.agents = (listedAgents scan m team).filter (·.enabled)

variable {env : Env} {payload : ChatRequest}

/-- A dispatch is never for one agent. -/
theorem resolveDispatchContext_ne_runtime {scan : HierarchyScan} {m : Metadata}
    {agentOsCode : String} {teamCode : Option String} (ctx : ResolvedRuntimeContext) :
    resolveDispatchContext scan m agentOsCode teamCode ≠ .ok (.runtime ctx) := by
  intro h
  rw [resolveDispatchContext.eq_def] at h
  split at h
  · split at h
    · obtain ⟨root, -, hroot⟩ := map_eq_ok.mp h
      cases hroot
    · obtain ⟨team, -, hteam⟩ := map_eq_ok.mp h
      cases hteam
  · obtain ⟨root, -, hroot⟩ := map_eq_ok.mp h
    cases hroot

/-- What every dispatch that is resolved satisfies, the calls of the turns do. -/
theorem turnsSatisfy_of_dispatch {db : Db} {P : Dispatch → Prop}
    (h : ∀ dispatch, resolveDispatchContext env.hierarchyScan db.metadata payload.agentOs
      payload.team = .ok dispatch → P dispatch) :
    TurnsSatisfy env db payload fun call => P call.dispatch := by
  intro w w₁ w₂ dispatch turn uiContext hw hresolve hopen
  obtain ⟨agentOs, team, agent, session, runId, w₃, w₄, w₅, rfl, -⟩ := openTurn_eq_ok hopen
  obtain ⟨hresolved, -⟩ := resolveDispatch_eq_ok hresolve
  rw [hw] at hresolved
  exact h dispatch hresolved

/-- A request that names a team is dispatched to the whole team. -/
theorem wholeTeam_of_resolveDispatchContext {db : Db} {scan : HierarchyScan} {os : AgentOS}
    {team : Team} {dispatch : Dispatch} (hdb : UniqueCodes db)
    (hchain : ValidChain db.metadata os team) (hcode : team.code ≠ "")
    (h : resolveDispatchContext scan db.metadata os.code (some team.code) = .ok dispatch) :
    ForWholeTeam scan db.metadata team dispatch := by
  rw [resolveDispatchContext, if_neg hcode, resolveTeamContextByCode_eq hdb hchain] at h
  by_cases hnil : (listedAgents scan db.metadata team).filter (·.enabled) = []
  · obtain ⟨message, hrefused⟩ := buildTeamContext_of_nil os hnil
    rw [hrefused] at h
    cases h
  · obtain ⟨ctx, hok, hagents⟩ := buildTeamContext_of_ne_nil hchain hnil
    rw [hok] at h
    cases h
    exact ⟨ctx, rfl, team_of_buildTeamContext hok, hagents⟩

/-- What every dispatch that is resolved satisfies, the calls of both requests do. -/
theorem calls_of_dispatch {store : Store} {P : Dispatch → Prop}
    (h : ∀ dispatch, resolveDispatchContext env.hierarchyScan store.db.metadata payload.agentOs
      payload.team = .ok dispatch → P dispatch) :
    ∀ request ∈ [Request.chat payload, Request.chatStream payload],
      ∀ call ∈ (request.served env store).engineCalls, P call.dispatch := by
  intro request hrequest
  have hturns := turnsSatisfy_of_dispatch h
  have hsatisfy : CallsSatisfy (fun call => P call.dispatch) (World.start store)
      (request.served env store) := by
    rcases List.mem_cons.mp hrequest with rfl | hrequest
    · exact entryFrame_callsSatisfy.chat (decides_true _ _ _) hturns
    · obtain rfl := List.mem_singleton.mp hrequest
      exact entryFrame_callsSatisfy.chatStream (decides_true _ _ _) hturns
  obtain ⟨new, heq, hnew⟩ := hsatisfy
  have hcalls : (request.served env store).engineCalls = new := heq
  rw [hcalls]
  exact hnew

/-- A turn is not executed by the agent that the request names, whichever it is, with streaming or
    without: the calls of the engine are for all the enabled agents of the team that are listed.
    (A team whose code is the empty text is not looked up: the calls are for all teams then.) -/
theorem namedAgent_notExecuted (env : Env) (store : Store) (payload : ChatRequest) (os : AgentOS)
    (team : Team) (agent : Agent) (hdb : UniqueCodes store.db)
    (hchain : ValidChain store.db.metadata os team) (hos : payload.agentOs = os.code)
    (hteam : payload.team = some team.code) :
    ∀ request ∈ [Request.chat payload, Request.chatStream payload],
      ¬ExecutedBy agent store (request.served env store) ∧
      ∀ call ∈ (request.served env store).engineCalls,
        (∀ ctx, call.dispatch ≠ .runtime ctx) ∧
        (team.code ≠ "" → ForWholeTeam env.hierarchyScan store.db.metadata team call.dispatch) := by
  intro request hrequest
  have halone : ∀ call ∈ (request.served env store).engineCalls,
      ∀ ctx, call.dispatch ≠ .runtime ctx := by
    refine calls_of_dispatch (P := fun dispatch => ∀ ctx, dispatch ≠ .runtime ctx) ?_ request hrequest
    intro dispatch h ctx hctx
    exact resolveDispatchContext_ne_runtime ctx (hctx ▸ h)
  constructor
  · intro hexecuted
    obtain ⟨call, hcall⟩ := List.exists_mem_of_ne_nil _ hexecuted.executed
    obtain ⟨ctx, hctx, -⟩ := hexecuted.alone call hcall
    exact halone call hcall ctx hctx
  · refine fun call hcall => ⟨halone call hcall, fun hcode => ?_⟩
    refine calls_of_dispatch (fun dispatch h => ?_) request hrequest call hcall
    rw [hos, hteam] at h
    exact wholeTeam_of_resolveDispatchContext hdb hchain hcode h

/-! ## A team of two -/

namespace TwoAgents

open Deployment

/-- The other agent of the team. -/
def billing : Agent := { crm with id := 2, code := "billing" }

/-- The store: both agents are enabled. -/
def store : Store :=
  ⟨{ Deployment.db with metadata :=
      { Deployment.metadata with agents := ⟨[crm, billing], by decide⟩ } }, .empty⟩

/-- Codes are unique. -/
theorem uniqueCodes : UniqueCodes store.db where
  agentOs := List.nodup_singleton _
  teams := List.nodup_singleton _
  agents := by decide
  skills := List.nodup_nil
  workflows := List.nodup_singleton _

/-- The team and its AgentOS are enabled. -/
theorem validChain : ValidChain store.db.metadata LargeTeam.enterprise LargeTeam.sales :=
  ⟨⟨List.mem_singleton_self _, rfl, rfl⟩, ⟨List.mem_singleton_self _, rfl, rfl⟩, rfl⟩

/-- The request: it names the second one. -/
def request : ChatRequest := { hello (some "sales") none with agent := some "billing" }

/-- The deployment: Agno answers. -/
def deployment : Env := Deployment.env .trustClientUserId none (answering "Done")

end TwoAgents

/-- What is said of that request, streamed: the second agent does not execute the turn. -/
theorem namedAgent_notExecuted_billing :
    ¬ExecutedBy TwoAgents.billing TwoAgents.store
        ((Request.chatStream TwoAgents.request).served TwoAgents.deployment TwoAgents.store) ∧
    ∀ call ∈ ((Request.chatStream TwoAgents.request).served TwoAgents.deployment
        TwoAgents.store).engineCalls,
      (∀ ctx, call.dispatch ≠ .runtime ctx) ∧
      ("sales" ≠ "" → ForWholeTeam TwoAgents.deployment.hierarchyScan
        TwoAgents.store.db.metadata LargeTeam.sales call.dispatch) :=
  namedAgent_notExecuted TwoAgents.deployment TwoAgents.store TwoAgents.request
    LargeTeam.enterprise LargeTeam.sales TwoAgents.billing TwoAgents.uniqueCodes
    TwoAgents.validChain rfl rfl (.chatStream TwoAgents.request)
    (List.mem_cons_of_mem _ (List.mem_singleton_self _))

/-- The second agent is enabled and named; the run is stored for the first one. -/
theorem namedAgent_runOfAnother :
    UsableMember TwoAgents.store.db.metadata LargeTeam.sales TwoAgents.billing ∧
    TwoAgents.request.agent = some TwoAgents.billing.code ∧
    ∀ request ∈ [Request.chat TwoAgents.request, Request.chatStream TwoAgents.request],
      (request.served TwoAgents.deployment TwoAgents.store).committed.agentRuns.rows.map
        (·.agentId) = [1] ∧
      ¬ExecutedBy TwoAgents.billing TwoAgents.store
        (request.served TwoAgents.deployment TwoAgents.store) := by
  -- The run is of the first agent of the team.
  have hruns : ∀ request ∈ [Request.chat TwoAgents.request, Request.chatStream TwoAgents.request],
      (request.served TwoAgents.deployment TwoAgents.store).committed.agentRuns.rows.map
        (·.agentId) = [1] := by
    intro request hrequest
    rcases List.mem_cons.mp hrequest with rfl | hrequest
    · decide +kernel
    · obtain rfl := List.mem_singleton.mp hrequest
      decide +kernel
  refine ⟨⟨⟨List.mem_cons_of_mem _ (List.mem_singleton_self _), rfl, rfl⟩, rfl⟩, rfl, ?_⟩
  refine fun request hrequest => ⟨hruns request hrequest, fun hexecuted => ?_⟩
  -- The agent that was named would have to be it.
  have hfirst : 1 ∈ (request.served TwoAgents.deployment TwoAgents.store).committed.agentRuns.rows.map
      (·.agentId) := by
    rw [hruns request hrequest]
    exact List.mem_singleton_self _
  obtain ⟨run, hrun, hagent⟩ := List.mem_map.mp hfirst
  have hnew := hexecuted.runs run hrun List.not_mem_nil
  rw [hagent] at hnew
  exact absurd hnew (by decide)

end AgnoRuntime
