import AgnoRuntime.ForStd.Interruptions
import AgnoRuntime.Model.Service
import AgnoRuntime.Model.SessionScopes

/-!
# Disturbed executions

Sessions, exit stacks and places to wait make no difference to what an execution returns
and to what a stream delivers: undisturbed, it is what the services are modelled with.
Cancelled or closed on the way, an execution ends with just that, neither wrapped nor
swallowed, and its consumer has received some of the first events.

## Key results

- `mirrors_buildRunnable`: agents are built as without a scope
- `disturbed_executions`: what a disturbed execution and an undisturbed one come to
-/

namespace AgnoRuntime

namespace SessionScopes

open Prog
open AgnoRuntimeEngine (wrapException failedStream trailingEvents executeStream)

variable {α : Type} (sur : Surroundings) (m : Metadata)

/-- The task has not got over one of its suspensions. -/
def Surroundings.Disturbed (t : Trace) : Prop := ∃ n < t.suspensions, sur.disturbed n = true

/-- An exception that `except Exception` does not catch. -/
def Uncaught (exc : PyError) : Prop := exc.isException = false

/-! ## Giving way -/

theorem suspend_apply (exc : PyError) (t : Trace) :
    suspend sur exc t =
      (if sur.disturbed t.suspensions then Prog.raise exc else pure () : SessionM Unit)
        { t with suspensions := t.suspensions + 1 } := rfl

/-- Either nothing happens, or the task is disturbed. -/
theorem suspend_cases (exc : PyError) {t : Trace} (ht : ¬sur.Disturbed t) :
    (suspend sur exc t = (.ok (), { t with suspensions := t.suspensions + 1 }) ∧
      ¬sur.Disturbed { t with suspensions := t.suspensions + 1 }) ∨
    suspend sur exc t = (.error exc, { t with suspensions := t.suspensions + 1 }) ∧
      sur.Disturbed { t with suspensions := t.suspensions + 1 } := by
  rw [suspend_apply]
  split
  · next hdisturbed => exact .inr ⟨rfl, t.suspensions, Nat.lt_succ_self _, hdisturbed⟩
  · next hdisturbed =>
    refine .inl ⟨rfl, fun hlater => ?_⟩
    obtain ⟨n, hn, hn'⟩ := hlater
    rcases Nat.lt_succ_iff_lt_or_eq.mp hn with hlt | rfl
    · exact ht ⟨n, hlt, hn'⟩
    · exact hdisturbed hn'

theorem log_suspend (exc : PyError) (t : Trace) : (suspend sur exc t).2.log = t.log := by
  rw [suspend_apply]
  split
  · rfl
  · rfl

/-- Waiting is doing nothing. -/
theorem mirrors_await :
    Mirrors Trace.attempts sur.Disturbed Uncaught (await sur) (pure ()) := by
  intro t ht
  rcases suspend_cases sur .cancelledError ht with ⟨hok, hlater⟩ | ⟨herror, hlater⟩
  · rw [await, hok]
    exact .inl ⟨hlater, rfl⟩
  · rw [await, herror]
    exact .inr ⟨hlater, _, rfl, rfl⟩

/-! ## Building -/

/-- An event that is no attempt. -/
theorem attempts_note {event : SessionEvent} (h : event.attempted? = none) (t : Trace) :
    (note event t).2.attempts = t.attempts := by
  show (t.log ++ [event]).filterMap SessionEvent.attempted? = t.log.filterMap SessionEvent.attempted?
  simp [h]

/-- One that is. -/
theorem attempts_note_some (event : SessionEvent) {entry : Agent × MCPSession}
    (h : event.attempted? = some entry) (t : Trace) :
    (note event t).2.attempts = t.attempts ++ [entry] := by
  show (t.log ++ [event]).filterMap SessionEvent.attempted? =
    t.log.filterMap SessionEvent.attempted? ++ [entry]
  simp [h]

/-- Entering a session. -/
theorem mirrors_aenter (entry : Agent × MCPSession) :
    Mirrors Trace.attempts sur.Disturbed Uncaught (aenter sur entry)
      (AgnoRuntimeEngine.enterSession sur.call entry.1 entry.2) := by
  have hmirrors : Mirrors Trace.attempts sur.Disturbed Uncaught (aenter sur entry)
      (pure () >>= fun _ => AgnoRuntimeEngine.enterSession sur.call entry.1 entry.2) := by
    refine (mirrors_await sur).bind fun _ t ht => .inl ?_
    simp only [AgnoRuntimeEngine.enterSession, read_bind_apply, modify_bind_apply]
    cases sur.call.connect t.attempts.length entry.2 with
    | none =>
      exact ⟨ht, congrArg (Prod.mk _) (attempts_note_some (.opened entry) rfl t).symm⟩
    | some message =>
      exact ⟨ht, congrArg (Prod.mk _) (attempts_note_some (.refused entry) rfl t).symm⟩
  exact hmirrors

/-- What a program inside of a scope is compared with. -/
abbrev MirrorsIn (x : ScopeM α) (y : EngineM α) : Prop :=
  Mirrors (fun s : Scope Trace (Agent × MCPSession) => s.around.attempts)
    (fun s => sur.Disturbed s.around) Uncaught x y

theorem mirrors_openAgent (ctx : ResolvedRuntimeContext) (args : RunArgs) :
    MirrorsIn sur (openAgent sur m ctx args) (AgnoRuntimeEngine.openAgent sur.call m ctx args) :=
  ((mirrors_aenter sur _).enter _).bind fun _ =>
    (mirrors_await sur).inside.bind fun _ => mirrors_lift _

theorem mirrors_buildAgnoTeam (ctx : ResolvedTeamContext) (args : RunArgs) :
    MirrorsIn sur (buildAgnoTeam sur m ctx args)
      (AgnoRuntimeEngine.buildAgnoTeam sur.call m ctx args) :=
  (mirrors_mapM (fun member => mirrors_openAgent sur m member args) _).bind fun _ =>
    (mirrors_await sur).inside.bind fun _ => (mirrors_lift _).bind fun _ =>
      (mirrors_lift _).bind fun _ => mirrors_pure _

theorem mirrors_buildAgnoRootTeam (ctx : ResolvedRootContext) (args : RunArgs) :
    MirrorsIn sur (buildAgnoRootTeam sur m ctx args)
      (AgnoRuntimeEngine.buildAgnoRootTeam sur.call m ctx args) :=
  (mirrors_mapM (fun team => mirrors_buildAgnoTeam sur m team args) _).bind fun _ =>
    (mirrors_await sur).inside.bind fun _ => (mirrors_lift _).bind fun _ =>
      (mirrors_lift _).bind fun _ => mirrors_pure _

/-- Agents are built as without a scope. -/
theorem mirrors_buildRunnable (args : RunArgs) (dispatch : Dispatch) :
    MirrorsIn sur (buildRunnable sur m args dispatch)
      (AgnoRuntimeEngine.buildRunnable sur.call m args dispatch) := by
  cases dispatch with
  | runtime ctx => exact (mirrors_openAgent sur m ctx args).map _
  | team ctx => exact (mirrors_buildAgnoTeam sur m ctx args).map _
  | root ctx => exact (mirrors_buildAgnoRootTeam sur m ctx args).map _

/-! ## Closing -/

theorem aexit_apply (entry : Agent × MCPSession) (t : Trace) :
    aexit sur entry t = (if sur.disturbed t.suspensions then .error .cancelledError else .ok (),
      ⟨t.log ++ [.closed entry], t.suspensions + 1⟩) := by
  rw [aexit, note, modify_bind_apply, await, handleError]
  cases hdisturbed : sur.disturbed t.suspensions with
  | true =>
    -- The session is closed, and the task cancelled while it waits.
    have hawait : suspend sur .cancelledError { t with log := t.log ++ [.closed entry] } =
        (.error .cancelledError, ⟨t.log ++ [.closed entry], t.suspensions + 1⟩) := by
      rw [suspend_apply, if_pos hdisturbed]
      rfl
    rw [bind_apply_error hawait]
    rfl
  | false =>
    have hawait : suspend sur .cancelledError { t with log := t.log ++ [.closed entry] } =
        (.ok (), ⟨t.log ++ [.closed entry], t.suspensions + 1⟩) := by
      rw [suspend_apply, if_neg (by simp [hdisturbed])]
      rfl
    rw [bind_apply_ok hawait]
    -- Whether the server is left in order or not, the error is only logged.
    cases sur.disconnect entry.2 with
    | none => rfl
    | some message => rfl

/-- Closing a session is seen neither among the sessions entered nor among the events. -/
theorem unseen_aexit {β : Type} {f : SessionEvent → Option β}
    (hclosed : ∀ entry, f (.closed entry) = none)
    (entry : Agent × MCPSession) :
    Unseen (fun t : Trace => t.log.filterMap f) sur.Disturbed Uncaught (aexit sur entry) := by
  refine { view := fun t => ?_, stays := fun t ht => ?_, error := ?_, ok := ?_ }
  -- What is logged is not looked at.
  · rw [aexit_apply]
    simp [hclosed]
  -- What has disturbed the task has done so before.
  · rw [aexit_apply]
    obtain ⟨n, hn, hn'⟩ := ht
    exact ⟨n, Nat.lt_succ_of_lt hn, hn'⟩
  -- An exception is the cancellation.
  · intro t exc t' h
    rw [aexit_apply] at h
    split at h
    · next hdisturbed =>
      cases h
      exact ⟨⟨t.suspensions, Nat.lt_succ_self _, hdisturbed⟩, rfl⟩
    · cases h
  -- Without it, the task has not been disturbed.
  · intro t t' h ht hlater
    rw [aexit_apply] at h
    split at h
    · cases h
    · next hdisturbed =>
      cases h
      obtain ⟨n, hn, hn'⟩ := hlater
      rcases Nat.lt_succ_iff_lt_or_eq.mp hn with hlt | rfl
      · exact ht ⟨n, hlt, hn'⟩
      · exact hdisturbed hn'

/-! ## Runs -/

/-- What is no attempt is not seen. -/
theorem mirrors_note {event : SessionEvent} (h : event.attempted? = none) :
    Mirrors Trace.attempts sur.Disturbed Uncaught (note event) (pure ()) :=
  fun t ht => .inl ⟨ht, congrArg (Prod.mk _) (attempts_note h t).symm⟩

/-- `raise RuntimeExecutionError(..) from exc`, but for what is no `Exception`. -/
theorem uncaught_wrapException (message : String) {exc : PyError} (h : Uncaught exc) :
    Uncaught (wrapException message exc) := by
  rw [Uncaught] at h
  simp [wrapException, h, Uncaught]

theorem mirrors_respond (args : RunArgs) (dispatch : Dispatch) :
    MirrorsIn sur (respond sur m args dispatch) (do
      let runnable ← AgnoRuntimeEngine.buildRunnable sur.call m args dispatch
      Prog.lift (sur.call.arun runnable args)) := by
  refine (mirrors_buildRunnable sur m args dispatch).bind fun runnable => ?_
  have harun : Mirrors Trace.attempts sur.Disturbed Uncaught (arun sur runnable args)
      (Prog.lift (sur.call.arun runnable args)) :=
    (mirrors_note sur rfl).bind fun _ => (mirrors_await sur).bind fun _ => mirrors_lift _
  exact harun.inside

/-- The execution methods. -/
theorem mirrors_execution (args : RunArgs) (dispatch : Dispatch) :
    Mirrors Trace.attempts sur.Disturbed Uncaught (execution sur m args dispatch)
      (Svc.runMethod dispatch args sur.call m) := by
  have hexit := unseen_aexit sur (f := SessionEvent.attempted?) fun _ => rfl
  have hmembers (message : String) (dispatch : Dispatch) :
      Mirrors Trace.attempts sur.Disturbed Uncaught (runMembers sur m message dispatch args)
        (AgnoRuntimeEngine.execute sur.call m message dispatch args) := by
    refine Mirrors.bind (mirrors_withScope ?_ hexit) fun response => mirrors_pure _
    exact (mirrors_respond sur m args dispatch).handleError (fun exc => mirrors_raise _)
      fun exc hexc => stuck_raise (uncaught_wrapException message hexc)
  cases dispatch with
  | runtime ctx =>
    have hsession := mirrors_withScope (mirrors_respond sur m args (.runtime ctx)) hexit
    refine (hsession.handleError (fun exc => mirrors_raise _) fun exc hexc => ?_).bind
      fun response => mirrors_pure _
    exact stuck_raise (uncaught_wrapException _ hexc)
  | team ctx => exact hmembers _ _
  | root ctx => exact hmembers _ _

/-! ## Streams -/

/-- How a stream ends. -/
def outcomeOf : Option PyError → Except PyError Unit
  | none => .ok ()
  | some exc => .error exc

/-- What a program adds to the events of a stream. -/
abbrev Yields (x : SessionM α) (t : Trace) (events : List StreamEvent) (outcome : Except PyError α) :
    Prop :=
  Emits Trace.yielded sur.Disturbed Uncaught x t events outcome

/-- The same inside of a scope. -/
abbrev YieldsIn (x : ScopeM α) (s : Scope Trace (Agent × MCPSession)) (events : List StreamEvent)
    (outcome : Except PyError α) : Prop :=
  Emits (fun s : Scope Trace (Agent × MCPSession) => s.around.yielded)
    (fun s => sur.Disturbed s.around) Uncaught x s events outcome

/-- An event that the consumer does not receive. -/
theorem keeps_note {event : SessionEvent} (h : event.yielded? = none) :
    Keeps (Same Trace.yielded) (note event) := by
  intro t
  show (t.log ++ [event]).filterMap SessionEvent.yielded? = t.log.filterMap SessionEvent.yielded?
  simp [h]

theorem keeps_await : Keeps (Same Trace.yielded) (await sur) := by
  intro t
  show (await sur t).2.log.filterMap _ = t.log.filterMap _
  rw [await, log_suspend]

theorem keeps_aenter (entry : Agent × MCPSession) : Keeps (Same Trace.yielded) (aenter sur entry) := by
  refine keeps_bind (keeps_await sur) fun _ => keeps_bind keeps_read fun t => ?_
  split
  · exact keeps_note rfl
  · exact keeps_bind (keeps_note rfl) fun _ => keeps_raise _

/-- Nothing is yielded before the agents have been built. -/
theorem keeps_openAgent (ctx : ResolvedRuntimeContext) (args : RunArgs) :
    Keeps (Same fun s : Scope Trace (Agent × MCPSession) => s.around.yielded)
      (openAgent sur m ctx args) :=
  keeps_bind (keeps_enter _ (keeps_aenter sur _)) fun _ =>
    keeps_bind (keeps_inside (keeps_await sur)) fun _ => keeps_lift _

theorem keeps_buildAgnoTeam (ctx : ResolvedTeamContext) (args : RunArgs) :
    Keeps (Same fun s : Scope Trace (Agent × MCPSession) => s.around.yielded)
      (buildAgnoTeam sur m ctx args) :=
  keeps_bind (keeps_mapM fun member _ => keeps_openAgent sur m member args) fun _ =>
    keeps_bind (keeps_inside (keeps_await sur)) fun _ => keeps_bind (keeps_lift _) fun _ =>
      keeps_bind (keeps_lift _) fun _ => keeps_pure _

theorem keeps_buildRunnable (args : RunArgs) (dispatch : Dispatch) :
    Keeps (Same fun s : Scope Trace (Agent × MCPSession) => s.around.yielded)
      (buildRunnable sur m args dispatch) := by
  cases dispatch with
  | runtime ctx => exact keeps_map _ (keeps_openAgent sur m ctx args)
  | team ctx => exact keeps_map _ (keeps_buildAgnoTeam sur m ctx args)
  | root ctx =>
    refine keeps_map _ (keeps_bind (keeps_mapM fun team _ => keeps_buildAgnoTeam sur m team args)
      fun _ => ?_)
    exact keeps_bind (keeps_inside (keeps_await sur)) fun _ => keeps_bind (keeps_lift _) fun _ =>
      keeps_bind (keeps_lift _) fun _ => keeps_pure _

theorem yields_await {t : Trace} (ht : ¬sur.Disturbed t) : Yields sur (await sur) t [] (.ok ()) :=
  (mirrors_await sur).emits (keeps_await sur) ht

theorem yields_note {event : SessionEvent} (h : event.attempted? = none) (h' : event.yielded? = none)
    {t : Trace} (ht : ¬sur.Disturbed t) : Yields sur (note event) t [] (.ok ()) :=
  (mirrors_note sur h).emits (keeps_note h') ht

/-- The consumer receives the event, even if it closes the stream then. -/
theorem yields_yieldEvent (event : SessionEvent) {yielded : StreamEvent}
    (h : event.yielded? = some yielded) {t : Trace} (ht : ¬sur.Disturbed t) :
    Yields sur (yieldEvent sur event) t [yielded] (.ok ()) := by
  have hnoted : ¬sur.Disturbed { t with log := t.log ++ [event] } := ht
  have hyielded : ∀ n, (⟨t.log ++ [event], n⟩ : Trace).yielded = t.yielded ++ [yielded] := by
    intro n
    simp [Trace.yielded, h]
  have hyield : yieldEvent sur event t =
      suspend sur .generatorExit { t with log := t.log ++ [event] } := rfl
  unfold Yields Emits
  rw [hyield]
  rcases suspend_cases sur .generatorExit hnoted with ⟨hok, hlater⟩ | ⟨herror, hlater⟩
  · rw [hok]
    exact .inl ⟨hlater, rfl, hyielded _⟩
  · rw [herror]
    exact .inr ⟨hlater, ⟨_, rfl, rfl⟩, [yielded], List.prefix_refl _, hyielded _⟩

/-- The events of Agno, then the end of its stream. -/
theorem yields_forwardEvents (mapped : AgnoEvent → StreamEvent) (events : List AgnoEvent)
    (failure : Option PyError) {t : Trace} (ht : ¬sur.Disturbed t) :
    Yields sur (forwardEvents sur mapped events failure) t (events.map mapped)
      (outcomeOf failure) := by
  have hloop := emits_forEach mapped (f := fun event => do
      await sur
      yieldEvent sur (.forwarded (mapped event)))
    (fun event t ht => (yields_await sur ht).bind fun t' ht' =>
      yields_yieldEvent sur (.forwarded (mapped event)) rfl ht') events ht
  rw [← List.append_nil (events.map mapped)]
  refine hloop.bind fun t' ht' => (yields_await sur ht').bind fun t'' ht'' => ?_
  cases failure with
  | none => exact emits_lift (.ok ()) ht''
  | some exc => exact emits_lift (.error exc) ht''

/-- The events of Agno that a stream forwards, and the exception that ends them. -/
def forwarded (mapped : AgnoEvent → StreamEvent) (args : RunArgs) (dispatch : Dispatch) :
    List StreamEvent × Option PyError :=
  match (AgnoRuntimeEngine.buildRunnable sur.call m args dispatch []).1 with
  | .error exc => ([], some exc)
  | .ok runnable =>
    ((sur.call.arunStream runnable args).1.map mapped, (sur.call.arunStream runnable args).2)

/-- What the services make of them. -/
theorem streamOutcome_eq {message : String} {mapped : AgnoEvent → StreamEvent} {args : RunArgs}
    (dispatch : Dispatch) (h : Svc.streamMethod dispatch args sur.call m =
      executeStream sur.call m message mapped dispatch args) :
    Svc.streamOutcome dispatch args sur.call m =
      match forwarded sur m mapped args dispatch with
      | (events, none) => ⟨events ++ trailingEvents sur.call dispatch, none⟩
      | (events, some exc) => failedStream message events exc := by
  rw [Svc.streamOutcome, h, executeStream, bind_apply_ok (attempt_apply _ _), forwarded]
  cases (AgnoRuntimeEngine.buildRunnable sur.call m args dispatch []).1 with
  | error exc => rfl
  | ok runnable =>
    rcases hevents : sur.call.arunStream runnable args with ⟨events, _ | exc⟩
    · simp only [hevents]
      rfl
    · simp only [hevents]
      rfl

theorem yields_forward (mapped : AgnoEvent → StreamEvent) (args : RunArgs) (dispatch : Dispatch) :
    YieldsIn sur (forward sur m mapped args dispatch) ⟨.start, []⟩
      (forwarded sur m mapped args dispatch).1
      (outcomeOf (forwarded sur m mapped args dispatch).2) := by
  -- Nothing can have happened before the first suspension.
  have hstart : ¬sur.Disturbed .start := fun ⟨_, hn, _⟩ => absurd hn (Nat.not_lt_zero _)
  have hbuild := (mirrors_buildRunnable sur m args dispatch).emits (s := ⟨.start, []⟩)
    (keeps_buildRunnable sur m args dispatch) hstart
  rw [forwarded]
  change Emits _ _ _ _ _ _ (AgnoRuntimeEngine.buildRunnable sur.call m args dispatch []).1 at hbuild
  -- The agents are not built, or Agno runs.
  rcases hr : (AgnoRuntimeEngine.buildRunnable sur.call m args dispatch []).1 with exc | runnable
  · rw [hr] at hbuild
    exact hbuild.bind_error
  · rw [hr] at hbuild
    refine hbuild.bind fun s hs => ?_
    -- Inside of the scope, the events of Agno are forwarded one by one.
    have hrun : Yields sur (do
        note (.ran runnable)
        await sur
        forwardEvents sur mapped (sur.call.arunStream runnable args).1
          (sur.call.arunStream runnable args).2) s.around
        ((sur.call.arunStream runnable args).1.map mapped)
        (outcomeOf (sur.call.arunStream runnable args).2) :=
      (yields_note sur rfl rfl hs).bind fun t ht => (yields_await sur ht).bind fun t' ht' =>
        yields_forwardEvents sur mapped _ _ ht'
    exact hrun.inside

/-- The event that reports an exception, if it is one that is caught. -/
def reportOf (exc : PyError) : List StreamEvent :=
  if exc.isException then
    [{ eventType := "error", payload := { Payload.empty with error := some exc.str } }]
  else []

theorem failedStream_eq (message : String) (events : List StreamEvent) (exc : PyError) :
    failedStream message events exc =
      ⟨events ++ reportOf exc, some (wrapException message exc)⟩ := by
  rw [failedStream, reportOf, wrapException]
  split
  · rfl
  · rw [List.append_nil]

theorem report_uncaught (message : String) {exc : PyError} (h : Uncaught exc) :
    report sur message exc = Prog.raise exc := by
  rw [Uncaught] at h
  simp [report, h]

theorem yields_report (message : String) (exc : PyError) {t : Trace} (ht : ¬sur.Disturbed t) :
    Yields sur (report sur message exc) t (reportOf exc) (.error (wrapException message exc)) := by
  rw [report, reportOf, wrapException]
  split
  · exact (yields_yieldEvent sur (.reported _) rfl ht).bind fun t' ht' =>
      emits_lift (.error _) ht'
  · exact emits_lift (.error exc) ht

theorem yields_appendEvents (dispatch : Dispatch) {t : Trace} (ht : ¬sur.Disturbed t) :
    Yields sur (appendEvents sur dispatch) t (trailingEvents sur.call dispatch) (.ok ()) := by
  have hloop := emits_forEach id (f := fun event => yieldEvent sur (.appended event))
    (fun event t ht => yields_yieldEvent sur (.appended event) rfl ht)
    (trailingEvents sur.call dispatch) ht
  rw [List.map_id] at hloop
  exact hloop

/-- A stream of an agent: the error is reported after the session. -/
theorem yields_runStream (args : RunArgs) (ctx : ResolvedRuntimeContext) :
    Yields sur (runStream sur m ctx args) .start
      (Svc.streamOutcome (.runtime ctx) args sur.call m).events
      (outcomeOf (Svc.streamOutcome (.runtime ctx) args sur.call m).error) := by
  have hexit := unseen_aexit sur (f := SessionEvent.yielded?) fun _ => rfl
  have hforward := emits_withScope
    (yields_forward sur m (mapEvent agnoEventMap agentEventPayload) args (.runtime ctx)) hexit
  rw [streamOutcome_eq sur m (.runtime ctx) rfl]
  rcases hforwarded : forwarded sur m (mapEvent agnoEventMap agentEventPayload) args (.runtime ctx)
    with ⟨events, _ | exc⟩
  · rw [hforwarded] at hforward
    refine Emits.bind (hforward.handleError_ok fun exc => report_uncaught sur _) fun t ht => ?_
    exact yields_appendEvents sur _ ht
  · rw [hforwarded] at hforward
    simp only [failedStream_eq]
    refine Emits.bind_error (hforward.handleError (fun exc => report_uncaught sur _) fun t ht => ?_)
    exact yields_report sur _ exc ht

/-- A stream of a team: the error is reported within its sessions. -/
theorem yields_runMembersStream {message : String} {mapped : AgnoEvent → StreamEvent}
    {args : RunArgs} {dispatch : Dispatch} (h : Svc.streamMethod dispatch args sur.call m =
      executeStream sur.call m message mapped dispatch args) :
    Yields sur (runMembersStream sur m message mapped dispatch args) .start
      (Svc.streamOutcome dispatch args sur.call m).events
      (outcomeOf (Svc.streamOutcome dispatch args sur.call m).error) := by
  have hexit := unseen_aexit sur (f := SessionEvent.yielded?) fun _ => rfl
  have hforward := yields_forward sur m mapped args dispatch
  have hreport (exc : PyError) (hexc : Uncaught exc) :
      (inside (report sur message exc) : ScopeM Unit) = Prog.raise exc := by
    rw [report_uncaught sur message hexc]
    rfl
  rw [streamOutcome_eq sur m dispatch h]
  rcases hforwarded : forwarded sur m mapped args dispatch with ⟨events, _ | exc⟩
  · rw [hforwarded] at hforward
    refine Emits.bind (emits_withScope (hforward.handleError_ok hreport) hexit) fun t ht => ?_
    exact yields_appendEvents sur dispatch ht
  · rw [hforwarded] at hforward
    simp only [failedStream_eq]
    refine Emits.bind_error (emits_withScope (hforward.handleError hreport fun s hs => ?_) hexit)
    exact (yields_report sur message exc hs).inside

theorem yields_streaming (args : RunArgs) (dispatch : Dispatch) :
    Yields sur (streaming sur m args dispatch) .start
      (Svc.streamOutcome dispatch args sur.call m).events
      (outcomeOf (Svc.streamOutcome dispatch args sur.call m).error) := by
  cases dispatch with
  | runtime ctx => exact yields_runStream sur m args ctx
  | team ctx => exact yields_runMembersStream sur m rfl
  | root ctx => exact yields_runMembersStream sur m rfl

/-- An execution that nobody disturbs comes to what the services are modelled with: a result, or
    the events of a stream and how it ends. One that is disturbed ends with `CancelledError` or
    `GeneratorExit`, and its consumer has received some of the first of these events. -/
theorem disturbed_executions (args : RunArgs) (dispatch : Dispatch) :
    ((¬sur.Disturbed (execution sur m args dispatch .start).2 ∧
        (execution sur m args dispatch .start).1 = Svc.runOutcome dispatch args sur.call m) ∨
      sur.Disturbed (execution sur m args dispatch .start).2 ∧
        ∃ exc, (execution sur m args dispatch .start).1 = .error exc ∧ exc.isException = false) ∧
    ((¬sur.Disturbed (streaming sur m args dispatch .start).2 ∧
        (streaming sur m args dispatch .start).1 =
          outcomeOf (Svc.streamOutcome dispatch args sur.call m).error ∧
        (streaming sur m args dispatch .start).2.yielded =
          (Svc.streamOutcome dispatch args sur.call m).events) ∨
      sur.Disturbed (streaming sur m args dispatch .start).2 ∧
        (∃ exc, (streaming sur m args dispatch .start).1 = .error exc ∧ exc.isException = false) ∧
        (streaming sur m args dispatch .start).2.yielded <+:
          (Svc.streamOutcome dispatch args sur.call m).events) := by
  have hstart : ¬sur.Disturbed .start := fun ⟨_, hn, _⟩ => absurd hn (Nat.not_lt_zero _)
  have hnothing : Trace.start.yielded = [] := rfl
  refine ⟨?_, ?_⟩
  · refine (mirrors_execution sur m args dispatch .start hstart).imp_left fun hend => ?_
    obtain ⟨hundisturbed, hsame⟩ := hend
    have houtcome : Svc.runOutcome dispatch args sur.call m =
        (execution sur m args dispatch .start).1 := congrArg Prod.fst hsame
    exact ⟨hundisturbed, houtcome.symm⟩
  · refine (yields_streaming sur m args dispatch).imp (fun hend => ?_) fun hend => ?_
    · obtain ⟨hundisturbed, houtcome, hyielded⟩ := hend
      rw [hnothing, List.nil_append] at hyielded
      exact ⟨hundisturbed, houtcome, hyielded⟩
    · obtain ⟨hdisturbed, herror, part, hpart, hyielded⟩ := hend
      rw [hnothing, List.nil_append] at hyielded
      exact ⟨hdisturbed, herror, hyielded ▸ hpart⟩

end SessionScopes

end AgnoRuntime
