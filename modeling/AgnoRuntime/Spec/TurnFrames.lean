import AgnoRuntime.Spec.Frames
import AgnoRuntime.Spec.Outcomes

/-!
# The rows of a turn while it is executed

`Frame` and its siblings say what a program leaves alone outside of its transaction.
A `TurnFrame` is about the transaction of a chat turn itself: while the engine is
executed, only tools and the events of the run write to it.
-/

namespace AgnoRuntime

open Svc Prog ChatService

/-- The two worlds have the same session. -/
structure SameSession (w w' : World) : Prop where
  committed : w'.committed = w.committed
  working : w'.working = w.working
  failed : w'.failed = w.failed
  expired : w'.expired = w.expired
  statements : w'.statements = w.statements

/-- A relation that allows what happens while the engine is executed for a run. -/
structure TurnFrame (env : Env) (runId : Uuid) (R : World → World → Prop) : Prop where
  sameSession : ∀ w w', SameSession w w' → R w w'
  tools : ∀ {args : RunArgs} (writes : ToolWrites args) w, R w (w.tooled writes)
  emitted : ∀ eventType payload, Keeps R (RunTrackingService.emitEvent env runId eventType payload)

variable {env : Env} {α : Type} {runId : Uuid} {R : World → World → Prop}

/-! ## Without streaming -/

section TurnFrame

variable [Std.Refl R] [IsTrans World R]

omit [Std.Refl R] [IsTrans World R] in
theorem TurnFrame.useTools (hR : TurnFrame env runId R) {args : RunArgs}
    (writes : ToolWrites args) :
    Keeps R (Svc.useTools writes) :=
  fun w => hR.tools writes w

theorem TurnFrame.engineOutcome (hR : TurnFrame env runId R) (outcome : Except PyError α) :
    Keeps R (Svc.engineOutcome outcome) := by
  cases outcome with
  | ok a => exact keeps_pure a
  | error exc =>
    exact keeps_bind (keeps_modify fun w => hR.sameSession _ _ ⟨rfl, rfl, rfl, rfl, rfl⟩) fun _ =>
      keeps_raise exc

theorem TurnFrame.noteCall (hR : TurnFrame env runId R) (dispatch : Dispatch) (args : RunArgs) :
    Keeps R (Svc.noteCall dispatch args) :=
  keeps_bind keeps_read fun _ =>
    keeps_bind (keeps_modify fun _ => hR.sameSession _ _ ⟨rfl, rfl, rfl, rfl, rfl⟩) fun _ =>
      keeps_pure _

theorem TurnFrame.run (hR : TurnFrame env runId R) (dispatch : Dispatch) (args : RunArgs) :
    Keeps R (Svc.run env dispatch args) :=
  keeps_bind keeps_read fun _ => keeps_bind (hR.noteCall _ _) fun _ =>
    keeps_bind (hR.useTools _) fun _ => hR.engineOutcome _

theorem TurnFrame.openStream (hR : TurnFrame env runId R) (dispatch : Dispatch) (args : RunArgs) :
    Keeps R (Svc.openStream env dispatch args) :=
  keeps_bind keeps_read fun _ => keeps_bind (hR.noteCall _ _) fun _ => keeps_pure _

theorem TurnFrame.endStream (hR : TurnFrame env runId R) {args : RunArgs} (live : LiveStream args) :
    Keeps R (Svc.endStream live) := by
  refine keeps_bind (hR.useTools _) fun _ => ?_
  split
  · exact keeps_pure _
  · exact hR.engineOutcome _

theorem TurnFrame.collectEvents {turn : ChatTurn} (hR : TurnFrame env turn.runId R)
    {args : RunArgs} (live : LiveStream args) (events : List StreamEvent) (i : Nat)
    (progress : Progress) :
    Keeps R (collectEvents env turn live events i progress) := by
  induction events generalizing i progress with
  | nil => exact keeps_pure _
  | cons event events ih =>
    exact keeps_bind (hR.useTools _) fun _ => keeps_bind (hR.emitted _ _) fun _ => ih _ _

/-- The execution of a turn, where it succeeds. -/
theorem TurnFrame.ok_execute {turn : ChatTurn} (hR : TurnFrame env turn.runId R) :
    OkKeeps R (execute env turn) := by
  have hconsume (uiContext : Option UIContextFields) :
      OkKeeps R (consumeStream env turn uiContext) := by
    refine okKeeps_handleError_raise (Keeps.ok ?_) fun exc w result w' => ?_
    · exact keeps_bind (hR.openStream _ _) fun live =>
        keeps_bind (hR.collectEvents live _ _ _) fun _ =>
          keeps_bind (hR.endStream live) fun _ => keeps_pure _
    · rw [ChatService.failAndRaise]
      split
      · exact bind_raise_ne_ok
      · exact fun h => by cases congrArg Prod.fst h
  rw [ChatService.execute]
  split
  · exact hconsume _
  · exact Keeps.ok (keeps_bind (hR.run _ _) fun _ => keeps_pure _)
  · exact hconsume _

end TurnFrame

/-! ## Streaming -/

/-- The loop of `handle_chat_stream` without what it does on a cancellation: the progress made, and
    whether the run was cancelled. -/
def processEvents (env : Env) (turn : ChatTurn) {args : RunArgs} (live : LiveStream args) :
    List StreamEvent → Nat → Progress → Svc (Progress × Bool)
  | [], _, progress => pure (progress, false)
  | event :: events, i, progress => do
    useTools (live.tools i)
    if ← isCancelled env turn.runId then return (progress, true)
    else do
      RunTrackingService.emitEvent env turn.runId (safeEventType event.eventType)
        (.engine event.payload)
      commit env
      yieldItem env (turn.item event.eventType (.engine event.payload))
      processEvents env turn live events (i + 1) (progress.add event.payload)

/-- What the loop does when it is over. -/
def concludeEvents (env : Env) (turn : ChatTurn) (processed : Progress × Bool) :
    Svc (Option Progress) :=
  if processed.2 then do
    handleCancellation env turn processed.1
    return none
  else return some processed.1

/-- The loop processes events until the run is cancelled, and concludes. -/
theorem streamEvents_eq (turn : ChatTurn) {args : RunArgs} (live : LiveStream args)
    (events : List StreamEvent) (i : Nat)
    (progress : Progress) :
    streamEvents env turn live events i progress =
      processEvents env turn live events i progress >>= concludeEvents env turn := by
  induction events generalizing i progress with
  | nil => rfl
  | cons event events ih =>
    rw [streamEvents, processEvents, bind_assoc]
    refine bind_congr fun _ => ?_
    rw [bind_assoc]
    refine bind_congr fun cancelled => ?_
    cases cancelled with
    | true => rfl
    | false =>
      simp only [Bool.false_eq_true, if_false, bind_assoc, ih]

/-- A turn whose stream is consumed to its end has met no cancellation and no exception. -/
theorem forwardStream_eq_some {turn : ChatTurn} {progress : Progress} {w w' : World}
    (h : forwardStream env turn w = (.ok (some progress), w')) :
    ∃ live w₁ w₂, Svc.openStream env turn.dispatch (turn.args turn.request.uiContext) w =
        (.ok live, w₁) ∧
      processEvents env turn live live.stream.events 0 Progress.empty w₁ =
        (.ok (progress, false), w₂) ∧
      Svc.endStream live w₂ = (.ok (), w') := by
  rw [forwardStream, handleError] at h
  split at h
  · next outcome w₃ htry =>
    rw [Prod.mk.injEq, Except.ok.injEq] at h
    obtain ⟨rfl, rfl⟩ := h
    obtain ⟨live, w₁, hopen, htry⟩ := bind_eq_ok.mp htry
    obtain ⟨outcome, w₂, hevents, htry⟩ := bind_eq_ok.mp htry
    rw [streamEvents_eq] at hevents
    obtain ⟨⟨processed, cancelled⟩, w₄, hprocess, hconclude⟩ := bind_eq_ok.mp hevents
    -- a cancelled stream ends the turn with `none`, so the events were all read
    cases cancelled with
    | true =>
      obtain ⟨_, w₅, -, hconclude⟩ := bind_eq_ok.mp hconclude
      rw [pure_apply, Prod.mk.injEq, Except.ok.injEq] at hconclude
      rw [← hconclude.1] at htry
      cases congrArg Prod.fst htry
    | false =>
      obtain ⟨rfl, rfl⟩ : some processed = outcome ∧ w₄ = w₂ := by
        rw [concludeEvents, if_neg Bool.false_ne_true, pure_apply, Prod.mk.injEq,
          Except.ok.injEq] at hconclude
        exact hconclude
      obtain ⟨_, w₅, hend, htry⟩ := bind_eq_ok.mp htry
      rw [pure_apply, Prod.mk.injEq, Except.ok.injEq, Option.some.injEq] at htry
      obtain ⟨rfl, rfl⟩ := htry
      exact ⟨live, w₁, w₄, hopen, hprocess, hend⟩
  · next exc w₃ htry =>
    -- the handler either ends with `none` or raises again
    rw [failStream] at h
    split at h
    · obtain ⟨_, w₄, -, h⟩ := bind_eq_ok.mp h
      obtain ⟨_, w₅, -, h⟩ := bind_eq_ok.mp h
      obtain ⟨_, w₆, -, h⟩ := bind_eq_ok.mp h
      cases congrArg Prod.fst h
    · cases congrArg Prod.fst h

/-- A relation that allows commits on top. -/
structure StreamTurnFrame (env : Env) (runId : Uuid) (R : World → World → Prop) : Prop
    extends TurnFrame env runId R where
  committed : Keeps R (commit env)

section StreamTurnFrame

variable [Std.Refl R] [IsTrans World R]

omit [Std.Refl R] [IsTrans World R] in
theorem TurnFrame.redisCommand (hR : TurnFrame env runId R) (f : Redis → Redis) :
    Keeps R (Svc.redisCommand env f) := by
  intro w
  rw [Svc.redisCommand]
  split
  · exact hR.sameSession _ _ ⟨rfl, rfl, rfl, rfl, rfl⟩
  · exact hR.sameSession _ _ ⟨rfl, rfl, rfl, rfl, rfl⟩

theorem TurnFrame.isCancelled (hR : TurnFrame env runId R) (id : Uuid) :
    Keeps R (Svc.isCancelled env id) :=
  keeps_bind keeps_read fun _ => keeps_bind (hR.redisCommand _) fun _ => keeps_pure _

theorem TurnFrame.yieldItem (hR : TurnFrame env runId R) (item : StreamItem) :
    Keeps R (Svc.yieldItem env item) := by
  refine keeps_bind keeps_read fun w => ?_
  refine keeps_bind (keeps_modify fun w => hR.sameSession _ _ ⟨rfl, rfl, rfl, rfl, rfl⟩) fun _ => ?_
  split
  · exact keeps_raise _
  · exact keeps_pure _

theorem StreamTurnFrame.processEvents {turn : ChatTurn} (hR : StreamTurnFrame env turn.runId R)
    {args : RunArgs} (live : LiveStream args) (events : List StreamEvent) (i : Nat)
    (progress : Progress) :
    Keeps R (processEvents env turn live events i progress) := by
  induction events generalizing i progress with
  | nil => exact keeps_pure _
  | cons event events ih =>
    refine keeps_bind (hR.useTools _) fun _ => keeps_bind (hR.isCancelled _) fun cancelled => ?_
    split
    · exact keeps_pure _
    · exact keeps_bind (hR.emitted _ _) fun _ => keeps_bind hR.committed fun _ =>
        keeps_bind (hR.yieldItem _) fun _ => ih _ _

/-- The execution of a streamed turn, where it succeeds. -/
theorem StreamTurnFrame.forwardStream {turn : ChatTurn} (hR : StreamTurnFrame env turn.runId R)
    {progress : Progress} {w w' : World}
    (h : forwardStream env turn w = (.ok (some progress), w')) : R w w' := by
  obtain ⟨live, w₁, w₂, hopen, hprocess, hend⟩ := forwardStream_eq_some h
  have hopened := (hR.openStream _ _).ok _ _ _ hopen
  have hprocessed := (hR.processEvents live _ _ _).ok _ _ _ hprocess
  exact IsTrans.trans _ _ _ (IsTrans.trans _ _ _ hopened hprocessed)
    ((hR.endStream live).ok _ _ _ hend)

end StreamTurnFrame

end AgnoRuntime
