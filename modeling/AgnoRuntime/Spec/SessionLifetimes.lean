import AgnoRuntime.ForStd.Runs
import AgnoRuntime.Model.SessionScopes
import AgnoRuntime.Spec.ToolScope

/-!
# The lifetime of an MCP session

Whichever of the six execution methods is called, whatever fails and wherever the task
is cancelled or its stream closed: the sessions are opened in the order of the agents,
Agno runs while all of them are open, and each one that was opened is closed once,
the last first. Here an entry that failed or was cancelled has opened nothing, and a
session is closed when its `__aexit__` begins.

## Key results

- `SessionEvent.happen`: the order of what may happen
- `sessions_closed`: every execution keeps to it, and leaves no session open
-/

namespace AgnoRuntime

namespace SessionScopes

open Prog
open AgnoRuntimeEngine (sessionOf wrapException)

/-! ## The order of events -/

/-- The sessions opened and those closed so far, each in the order in which that happened. -/
structure Progress where
  opened : List (Agent × MCPSession)
  closed : List (Agent × MCPSession)
deriving DecidableEq

namespace Progress

/-- Nothing has happened yet. -/
def start : Progress := ⟨[], []⟩

/-- The next one to be opened. -/
def CanOpen (sessions : List (Agent × MCPSession)) (p : Progress)
    (entry : Agent × MCPSession) : Prop :=
  p.closed = [] ∧ p.opened ++ [entry] <+: sessions

/-- All sessions are open. -/
def AllOpen (sessions : List (Agent × MCPSession)) (p : Progress) : Prop :=
  p.opened = sessions ∧ p.closed = []

/-- All that were opened have been closed, the last first. -/
def AllClosed (p : Progress) : Prop := p.closed = p.opened.reverse

instance (sessions : List (Agent × MCPSession)) (p : Progress) (entry : Agent × MCPSession) :
    Decidable (CanOpen sessions p entry) := by unfold CanOpen; infer_instance

instance (sessions : List (Agent × MCPSession)) (p : Progress) : Decidable (AllOpen sessions p) := by
  unfold AllOpen; infer_instance

instance (p : Progress) : Decidable (AllClosed p) := by unfold AllClosed; infer_instance

end Progress

open SessionScopes.Progress

/-- What may happen next in an execution with these sessions. An agent on its own reports an
    error when its session is closed; a team does so before it closes any. -/
def SessionEvent.happen (dispatch : Dispatch) (sessions : List (Agent × MCPSession))
    (p : Progress) : SessionEvent → Option Progress
  | opened entry =>
    if CanOpen sessions p entry then some { p with opened := p.opened ++ [entry] } else none
  | refused entry => if CanOpen sessions p entry then some p else none
  | ran _ | forwarded _ => if AllOpen sessions p then some p else none
  | reported _ =>
    match dispatch with
    | .runtime _ => if AllClosed p then some p else none
    | .team _ | .root _ => if p.closed = [] then some p else none
  | appended _ => if AllClosed p then some p else none
  | closed entry =>
    if p.closed ++ [entry] <+: p.opened.reverse then
      some { p with closed := p.closed ++ [entry] } else none

section Order

variable {α : Type} (dispatch : Dispatch) (sessions : List (Agent × MCPSession))

/-- The log keeps to the order, and has got this far. -/
def At (p : Progress) (t : Trace) : Prop :=
  Runs.run (SessionEvent.happen dispatch sessions) start t.log = some p

/-- Inside of a scope: these are open, and the exit stack knows all of them. -/
def OpenAt (opened acquired : List (Agent × MCPSession)) (t : Trace) : Prop :=
  acquired = opened.reverse ∧ At dispatch sessions ⟨opened, []⟩ t

/-- The rest of what was opened is still to be closed. -/
def Closing (acquired : List (Agent × MCPSession)) (t : Trace) : Prop :=
  ∃ p, At dispatch sessions p t ∧ p.opened.reverse = p.closed ++ acquired

variable {dispatch sessions}

/-- Some of the sessions are open: where a body can end. -/
theorem OpenAt.closing {opened acquired : List (Agent × MCPSession)} {t : Trace}
    (h : OpenAt dispatch sessions opened acquired t) : Closing dispatch sessions acquired t :=
  ⟨_, h.2, h.1.symm⟩

/-- Everything has been closed. -/
theorem Closing.allClosed {t : Trace} (h : Closing dispatch sessions [] t) :
    ∃ p, At dispatch sessions p t ∧ AllClosed p := by
  obtain ⟨p, hat, hclosed⟩ := h
  rw [List.append_nil] at hclosed
  exact ⟨p, hat, hclosed.symm⟩

/-- One more event. -/
theorem triple_note {p p' : Progress} {event : SessionEvent} {E : PyError → Trace → Prop}
    (h : event.happen dispatch sessions p = some p') :
    Triple (At dispatch sessions p) (note event) (fun _ => At dispatch sessions p') E :=
  triple_modify fun _ hat => Runs.run_concat.mpr ⟨p, hat, h⟩

variable (sur : Surroundings)

/-- Giving way leaves the log alone, whatever comes of it. -/
theorem triple_suspend {I : Trace → Prop} (hI : ∀ t n, I t → I { t with suspensions := n })
    (exc : PyError) : Triple I (suspend sur exc) (fun _ => I) fun _ => I := by
  have hcount : Triple I (Prog.modify fun t => { t with suspensions := t.suspensions + 1 })
      (fun _ => I) fun (_ : PyError) => I := triple_modify fun t ht => hI t _ ht
  refine triple_read_bind fun before => triple_bind hcount fun _ => ?_
  split
  · exact triple_raise fun _ ht => ht
  · exact triple_pure fun _ ht => ht

/-- In particular how far it has got. -/
theorem triple_await {p : Progress} :
    Triple (At dispatch sessions p) (await sur) (fun _ => At dispatch sessions p)
      fun _ => At dispatch sessions p :=
  triple_suspend sur (fun _ _ hat => hat) _

theorem triple_yieldEvent {p : Progress} {event : SessionEvent}
    (h : event.happen dispatch sessions p = some p) :
    Triple (At dispatch sessions p) (yieldEvent sur event) (fun _ => At dispatch sessions p)
      fun _ => At dispatch sessions p :=
  triple_bind (triple_note h) fun _ => triple_suspend sur (fun _ _ hat => hat) _

/-! ## Opening and closing -/

/-- Entering a session that is next. -/
theorem triple_aenter {opened : List (Agent × MCPSession)} {entry : Agent × MCPSession}
    (hnext : opened ++ [entry] <+: sessions) :
    Triple (At dispatch sessions ⟨opened, []⟩) (aenter sur entry)
      (fun _ => At dispatch sessions ⟨opened ++ [entry], []⟩)
      fun _ => At dispatch sessions ⟨opened, []⟩ := by
  have hcan : CanOpen sessions ⟨opened, []⟩ entry := ⟨rfl, hnext⟩
  refine triple_bind (triple_await sur) fun _ => triple_read_bind fun t => ?_
  split
  · exact triple_note (if_pos hcan)
  · exact triple_bind (triple_note (if_pos hcan)) fun _ => triple_raise fun _ hat => hat

/-- Closing the session on top of the stack; also where the transport fails or the task is
    cancelled. -/
theorem triple_aexit (entry : Agent × MCPSession) (acquired : List (Agent × MCPSession)) :
    Triple (Closing dispatch sessions (entry :: acquired)) (aexit sur entry)
      (fun _ => Closing dispatch sessions acquired) fun _ => Closing dispatch sessions acquired := by
  refine triple_exists fun p => ?_
  have hclose : Triple (fun t => At dispatch sessions p t ∧ p.opened.reverse =
      p.closed ++ entry :: acquired) (note (.closed entry))
      (fun _ => Closing dispatch sessions acquired)
      fun _ => Closing dispatch sessions acquired := by
    refine triple_modify fun t hp => ?_
    obtain ⟨hat, hrest⟩ := hp
    have hsplit : p.opened.reverse = (p.closed ++ [entry]) ++ acquired := by
      rw [List.append_assoc]
      exact hrest
    have hhappen : SessionEvent.happen dispatch sessions p (.closed entry) =
        some { p with closed := p.closed ++ [entry] } := if_pos ⟨acquired, hsplit.symm⟩
    exact ⟨_, Runs.run_concat.mpr ⟨p, hat, hhappen⟩, hsplit⟩
  refine triple_bind hclose fun _ => ?_
  -- from here on the log stays as it is
  have hkept (exc : PyError) : Triple (Closing dispatch sessions acquired) (suspend sur exc)
      (fun _ => Closing dispatch sessions acquired) fun _ => Closing dispatch sessions acquired :=
    triple_suspend sur (fun _ _ h => h) exc
  refine triple_handleError (triple_bind (hkept _) fun _ => ?_) fun exc => ?_
  · split
    · exact triple_pure fun _ h => h
    · exact triple_raise fun _ h => h
  · split
    · exact triple_pure fun _ h => h
    · exact triple_raise fun _ h => h

/-! ## Bodies -/

variable (m : Metadata) {contexts : List ResolvedRuntimeContext}

/-- The sessions of some agents. -/
def sessionsOf (contexts : List ResolvedRuntimeContext) : List (Agent × MCPSession) :=
  contexts.map (sessionOf sur.call)

/-- Inside of the scope of an execution, the sessions of these agents are open. -/
def Opened (dispatch : Dispatch) (done : List ResolvedRuntimeContext)
    (s : Scope Trace (Agent × MCPSession)) : Prop :=
  OpenAt dispatch (sessionsOf sur dispatch.agentContexts) (sessionsOf sur done) s.acquired s.around

/-- Some sessions are open. -/
def SomeOpen (dispatch : Dispatch) (s : Scope Trace (Agent × MCPSession)) : Prop :=
  ∃ opened, OpenAt dispatch (sessionsOf sur dispatch.agentContexts) opened s.acquired s.around

/-- What gets no further leaves the sessions open. -/
theorem triple_inside_at {x : SessionM α} {opened : List (Agent × MCPSession)}
    (h : Triple (At dispatch sessions ⟨opened, []⟩) x (fun _ => At dispatch sessions ⟨opened, []⟩)
      fun _ => At dispatch sessions ⟨opened, []⟩) :
    Triple (fun s : Scope Trace (Agent × MCPSession) =>
        OpenAt dispatch sessions opened s.acquired s.around) (inside x)
      (fun _ s => OpenAt dispatch sessions opened s.acquired s.around)
      fun _ s => OpenAt dispatch sessions opened s.acquired s.around :=
  triple_inside (P := OpenAt dispatch sessions opened)
    (Q := fun _ => OpenAt dispatch sessions opened) (E := fun _ => OpenAt dispatch sessions opened)
    fun _ => triple_given fun hacquired =>
      h.mono (fun _ hat => hat) (fun _ _ hat => ⟨hacquired, hat⟩) fun _ _ hat => ⟨hacquired, hat⟩

/-- The same at some point on the way. -/
theorem triple_inside_of_at {x : SessionM α} {done : List ResolvedRuntimeContext}
    (h : Triple (At dispatch (sessionsOf sur dispatch.agentContexts) ⟨sessionsOf sur done, []⟩) x
      (fun _ => At dispatch (sessionsOf sur dispatch.agentContexts) ⟨sessionsOf sur done, []⟩)
      fun _ => At dispatch (sessionsOf sur dispatch.agentContexts) ⟨sessionsOf sur done, []⟩) :
    Triple (Opened sur dispatch done) (inside x) (fun _ => Opened sur dispatch done)
      fun _ => SomeOpen sur dispatch :=
  (triple_inside_at h).onError fun _ _ hopen => ⟨_, hopen⟩

/-- The next agent. -/
theorem triple_openAgent {done : List ResolvedRuntimeContext} {ctx : ResolvedRuntimeContext}
    (hnext : done ++ [ctx] <+: dispatch.agentContexts) (args : RunArgs) :
    Triple (Opened sur dispatch done) (openAgent sur m ctx args)
      (fun _ => Opened sur dispatch (done ++ [ctx])) fun _ => SomeOpen sur dispatch := by
  have hsessions :
      sessionsOf sur (done ++ [ctx]) = sessionsOf sur done ++ [sessionOf sur.call ctx] := by
    simp [sessionsOf]
  -- The session of the agent is the next one.
  have hprefix : sessionsOf sur done ++ [sessionOf sur.call ctx] <+:
      sessionsOf sur dispatch.agentContexts := by
    rw [← hsessions]
    exact hnext.map _
  -- To enter it puts it on the stack, which so far holds the ones before.
  have henter := triple_enter (sessionOf sur.call ctx) (aenter sur (sessionOf sur.call ctx))
    (P := OpenAt dispatch (sessionsOf sur dispatch.agentContexts) (sessionsOf sur done))
    (Q := OpenAt dispatch (sessionsOf sur dispatch.agentContexts) (sessionsOf sur (done ++ [ctx])))
    (E := fun _ => OpenAt dispatch (sessionsOf sur dispatch.agentContexts) (sessionsOf sur done))
    fun _ => triple_given fun hacquired => by
      refine (triple_aenter sur hprefix).mono (fun _ hat => hat) (fun _ t hat => ?_)
        fun _ _ hat => ⟨hacquired, hat⟩
      rw [← hsessions] at hat
      refine ⟨?_, hat⟩
      rw [hsessions, List.reverse_append, hacquired]
      rfl
  refine triple_bind (henter.onError fun _ _ hopen => ⟨_, hopen⟩) fun _ => ?_
  -- The agent is built inside.
  refine triple_bind (triple_inside_of_at sur (triple_await sur)) fun _ => ?_
  exact triple_lift (fun _ _ _ hopen => hopen) fun _ _ _ hopen => ⟨_, hopen⟩

/-- What comes after the agents of a team. -/
theorem triple_buildModel {done : List ResolvedRuntimeContext} (modelId : Option Uuid)
    (f : ModelRegistry → α) :
    Triple (Opened sur dispatch done)
      (do
        Prog.inside (await sur)
        let modelEntry ← Prog.lift (AgnoRuntimeEngine.resolveRegistryEntry m none modelId)
        Prog.lift (sur.call.buildModel modelEntry)
        pure (f modelEntry))
      (fun _ => Opened sur dispatch done) fun _ => SomeOpen sur dispatch := by
  refine triple_bind (triple_inside_of_at sur (triple_await sur)) fun _ => ?_
  refine triple_bind (triple_lift (fun _ _ _ hopen => hopen) fun _ _ _ hopen => ⟨_, hopen⟩) fun _ => ?_
  refine triple_bind (triple_lift (fun _ _ _ hopen => hopen) fun _ _ _ hopen => ⟨_, hopen⟩) fun _ => ?_
  exact triple_pure fun _ hopen => hopen

/-- The agents of a team, after those of the teams before it. -/
theorem triple_buildAgnoTeam {done : List ResolvedRuntimeContext} {ctx : ResolvedTeamContext}
    (hnext : done ++ ctx.memberContexts <+: dispatch.agentContexts) (args : RunArgs) :
    Triple (Opened sur dispatch done) (buildAgnoTeam sur m ctx args)
      (fun _ => Opened sur dispatch (done ++ ctx.memberContexts))
      fun _ => SomeOpen sur dispatch := by
  have hmembers : Triple (Opened sur dispatch (done ++ []))
      (ctx.memberContexts.mapM (openAgent sur m · args))
      (fun _ => Opened sur dispatch (done ++ ctx.memberContexts)) fun _ => SomeOpen sur dispatch := by
    refine triple_mapM _ (P := fun members => Opened sur dispatch (done ++ members))
      fun members member hmember => ?_
    rw [← List.append_assoc]
    refine triple_openAgent sur m ?_ args
    rw [List.append_assoc]
    exact ((List.prefix_append_right_inj done).mpr hmember).trans hnext
  rw [List.append_nil] at hmembers
  exact triple_bind hmembers fun _ => triple_buildModel sur m _ _

/-- Once everything has been built, every session is open. -/
theorem triple_buildRunnable (args : RunArgs) (dispatch : Dispatch) :
    Triple (Opened sur dispatch []) (buildRunnable sur m args dispatch)
      (fun _ => Opened sur dispatch dispatch.agentContexts) fun _ => SomeOpen sur dispatch := by
  cases dispatch with
  | runtime ctx =>
    refine triple_bind (triple_openAgent sur m (List.prefix_refl _) args) fun _ => ?_
    exact triple_pure fun _ hopen => hopen
  | team ctx =>
    refine triple_bind (triple_buildAgnoTeam sur m (List.prefix_refl _) args) fun _ => ?_
    exact triple_pure fun _ hopen => hopen
  | root ctx =>
    -- The teams open the sessions of their members one team after the other.
    have hteams := triple_mapM ctx.teamContexts (f := (buildAgnoTeam sur m · args))
      (P := fun teams => Opened sur (.root ctx) (teams.flatMap (·.memberContexts)))
      (E := fun _ => SomeOpen sur (.root ctx)) fun teams team hteam => by
        -- The members of this team follow those of the teams before.
        rw [List.flatMap_append, List.flatMap_singleton]
        refine triple_buildAgnoTeam sur m ?_ args
        obtain ⟨rest, hrest⟩ := hteam
        refine ⟨rest.flatMap (·.memberContexts), ?_⟩
        show _ = ctx.teamContexts.flatMap (·.memberContexts)
        rw [← hrest]
        simp
    refine triple_bind (triple_bind hteams fun _ => triple_buildModel sur m _ _) fun _ => ?_
    exact triple_pure fun _ hopen => hopen

/-! ## Whole executions -/

/-- Everything the execution has opened is closed. -/
def Settled (dispatch : Dispatch) (t : Trace) : Prop :=
  Closing dispatch (sessionsOf sur dispatch.agentContexts) [] t

/-- A body that leaves some sessions open, in a scope. -/
theorem triple_session {body : ScopeM α}
    (h : Triple (Opened sur dispatch []) body (fun _ => SomeOpen sur dispatch)
      fun _ => SomeOpen sur dispatch) :
    Triple (At dispatch (sessionsOf sur dispatch.agentContexts) start)
      (withScope (aexit sur) body) (fun _ => Settled sur dispatch) fun _ => Settled sur dispatch := by
  refine triple_withScope (h.mono (fun s hs => ?_) (fun _ s hs => ?_) fun _ s hs => ?_)
    (triple_aexit sur)
  · exact ⟨hs.1, hs.2⟩
  · obtain ⟨opened, hopen⟩ := hs
    exact hopen.closing
  · obtain ⟨opened, hopen⟩ := hs
    exact hopen.closing

/-- What happens while all sessions are open. -/
theorem happen_allOpen (runnable : AgnoRunnable) (sessions : List (Agent × MCPSession)) :
    SessionEvent.happen dispatch sessions ⟨sessions, []⟩ (.ran runnable) = some ⟨sessions, []⟩ :=
  if_pos ⟨rfl, rfl⟩

theorem triple_respond (args : RunArgs) (dispatch : Dispatch) :
    Triple (Opened sur dispatch []) (respond sur m args dispatch) (fun _ => SomeOpen sur dispatch)
      fun _ => SomeOpen sur dispatch := by
  refine triple_bind (triple_buildRunnable sur m args dispatch) fun runnable => ?_
  refine (triple_inside_of_at sur ?_).mono (fun _ hopen => hopen) (fun _ _ hopen => ⟨_, hopen⟩)
    fun _ _ hopen => hopen
  refine triple_bind (triple_note (happen_allOpen runnable _)) fun _ => ?_
  refine triple_bind (triple_await sur) fun _ => ?_
  exact triple_lift (fun _ _ _ hat => hat) fun _ _ _ hat => hat

theorem triple_forward (mapped : AgnoEvent → StreamEvent) (args : RunArgs) (dispatch : Dispatch) :
    Triple (Opened sur dispatch []) (forward sur m mapped args dispatch)
      (fun _ => SomeOpen sur dispatch) fun _ => SomeOpen sur dispatch := by
  refine triple_bind (triple_buildRunnable sur m args dispatch) fun runnable => ?_
  refine (triple_inside_of_at sur ?_).mono (fun _ hopen => hopen) (fun _ _ hopen => ⟨_, hopen⟩)
    fun _ _ hopen => hopen
  refine triple_bind (triple_note (happen_allOpen runnable _)) fun _ => ?_
  refine triple_bind (triple_await sur) fun _ => ?_
  refine triple_bind (triple_forEach (fun event => ?_) _) fun _ => ?_
  · exact triple_bind (triple_await sur) fun _ => triple_yieldEvent sur (if_pos ⟨rfl, rfl⟩)
  · refine triple_bind (triple_await sur) fun _ => ?_
    split
    · exact triple_pure fun _ hat => hat
    · exact triple_raise fun _ hat => hat

/-- What is yielded at some point leaves that point as it is. -/
theorem triple_report {sessions : List (Agent × MCPSession)} {p : Progress} (message : String)
    (exc : PyError) (h : ∀ event, SessionEvent.happen dispatch sessions p (.reported event) = some p) :
    Triple (At dispatch sessions p) (report sur message exc) (fun _ => At dispatch sessions p)
      fun _ => At dispatch sessions p := by
  rw [report]
  split
  · exact triple_bind (triple_yieldEvent sur (h _)) fun _ => triple_raise fun _ hat => hat
  · exact triple_raise fun _ hat => hat

/-- What may happen once everything is closed. -/
theorem triple_settled {x : SessionM α}
    (h : ∀ p, AllClosed p → Triple (At dispatch (sessionsOf sur dispatch.agentContexts) p) x
      (fun _ => At dispatch (sessionsOf sur dispatch.agentContexts) p)
      fun _ => At dispatch (sessionsOf sur dispatch.agentContexts) p) :
    Triple (Settled sur dispatch) x (fun _ => Settled sur dispatch)
      fun _ => Settled sur dispatch := by
  refine triple_exists fun p => ?_
  have hgiven : Triple (fun t => p.opened.reverse = p.closed ++ [] ∧
      At dispatch (sessionsOf sur dispatch.agentContexts) p t) x
      (fun _ => Settled sur dispatch) fun _ => Settled sur dispatch := by
    refine triple_given fun hclosed => ?_
    have hall : AllClosed p := by
      rw [AllClosed, hclosed, List.append_nil]
    exact (h p hall).mono (fun _ hat => hat) (fun _ _ hat => ⟨p, hat, hclosed⟩)
      fun _ _ hat => ⟨p, hat, hclosed⟩
  exact hgiven.mono (fun _ hs => hs.symm) (fun _ _ hs => hs) fun _ _ hs => hs

/-- The events after the last event of Agno. -/
theorem triple_appendEvents (dispatch : Dispatch) :
    Triple (Settled sur dispatch) (appendEvents sur dispatch) (fun _ => Settled sur dispatch)
      fun _ => Settled sur dispatch := by
  refine triple_forEach (fun event => triple_settled sur fun p hall => ?_) _
  have hhappen : SessionEvent.happen dispatch (sessionsOf sur dispatch.agentContexts) p
      (.appended event) = some p := if_pos hall
  exact triple_yieldEvent sur hhappen

theorem triple_execution (args : RunArgs) (dispatch : Dispatch) :
    Triple (At dispatch (sessionsOf sur dispatch.agentContexts) start)
      (execution sur m args dispatch) (fun _ => Settled sur dispatch)
      fun _ => Settled sur dispatch := by
  have hmembers (message : String) (dispatch : Dispatch) :
      Triple (At dispatch (sessionsOf sur dispatch.agentContexts) start)
        (runMembers sur m message dispatch args) (fun _ => Settled sur dispatch)
        fun _ => Settled sur dispatch := by
    refine triple_bind (triple_session sur ?_) fun _ => triple_pure fun _ hs => hs
    exact triple_handleError (triple_respond sur m args dispatch) fun exc =>
      triple_raise fun _ hs => hs
  cases dispatch with
  | runtime ctx =>
    have hsession := triple_session sur (triple_respond sur m args (.runtime ctx))
    refine triple_bind (triple_handleError hsession fun exc => ?_) fun _ => ?_
    · exact triple_raise fun _ hs => hs
    · exact triple_pure fun _ hs => hs
  | team ctx => exact hmembers _ _
  | root ctx => exact hmembers _ _

theorem triple_streaming (args : RunArgs) (dispatch : Dispatch) :
    Triple (At dispatch (sessionsOf sur dispatch.agentContexts) start)
      (streaming sur m args dispatch) (fun _ => Settled sur dispatch)
      fun _ => Settled sur dispatch := by
  have hmembers (message : String) (mapped : AgnoEvent → StreamEvent) (dispatch : Dispatch)
      (h : ∀ opened event, SessionEvent.happen dispatch (sessionsOf sur dispatch.agentContexts)
        ⟨opened, []⟩ (.reported event) = some ⟨opened, []⟩) :
      Triple (At dispatch (sessionsOf sur dispatch.agentContexts) start)
        (runMembersStream sur m message mapped dispatch args) (fun _ => Settled sur dispatch)
        fun _ => Settled sur dispatch := by
    refine triple_bind (triple_session sur ?_) fun _ => triple_appendEvents sur dispatch
    refine triple_handleError (triple_forward sur m mapped args dispatch) fun exc => ?_
    refine triple_exists fun opened => ?_
    exact (triple_inside_at (triple_report sur message exc (h opened))).mono (fun _ hopen => hopen)
      (fun _ _ hopen => ⟨opened, hopen⟩) fun _ _ hopen => ⟨opened, hopen⟩
  cases dispatch with
  | runtime ctx =>
    have hsession := triple_session sur
      (triple_forward sur m (mapEvent agnoEventMap agentEventPayload) args (.runtime ctx))
    refine triple_bind (triple_handleError hsession fun exc => ?_) fun _ => ?_
    · -- the session has been closed when the error is reported
      exact triple_settled sur fun p hall => triple_report sur _ exc fun event => if_pos hall
    · exact triple_appendEvents sur _
  | team ctx => exact hmembers _ _ _ fun _ _ => rfl
  | root ctx => exact hmembers _ _ _ fun _ _ => rfl

end Order

/-- Every execution keeps to the order, whatever fails and wherever it is disturbed, and in
    the end each session that was opened has been closed, the last first. -/
theorem sessions_closed (sur : Surroundings) (m : Metadata) (streamed : Bool) (args : RunArgs)
    (dispatch : Dispatch) :
    ∃ opened, Runs.run (SessionEvent.happen dispatch (dispatch.agentContexts.map (sessionOf sur.call)))
      start (traceOf sur m streamed args dispatch).log = some ⟨opened, opened.reverse⟩ := by
  have hsettled : Settled sur dispatch (traceOf sur m streamed args dispatch) := by
    rw [traceOf]
    split
    · exact (triple_streaming sur m args dispatch).state (Runs.run_nil _ _)
    · exact (triple_execution sur m args dispatch).state (Runs.run_nil _ _)
  obtain ⟨p, hat, hclosed⟩ := hsettled.allClosed
  have hp : p = ⟨p.opened, p.opened.reverse⟩ := by
    rw [← show p.closed = p.opened.reverse from hclosed]
  exact ⟨p.opened, hp ▸ hat⟩

end SessionScopes

end AgnoRuntime
