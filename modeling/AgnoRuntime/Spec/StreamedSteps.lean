import AgnoRuntime.Spec.Disturbances

/-!
# The events of a streamed step

`forwardEvents` sends the events of a step on and collects the assistant's content,
as long as the client stays.
-/

namespace AgnoRuntime

open Svc Prog WorkflowExecutionService

/-- The assistant's content in an event. -/
def assistantContent (event : StreamEvent) : List String :=
  if event.payload.isAssistantContent.getD false then [event.payload.content.getD ""] else []

/-- The assistant's content in some events. -/
def assistantContents (events : List StreamEvent) : List String := events.flatMap assistantContent

/-- The output of a streamed step. -/
def answerOf (events : List StreamEvent) : String := String.join (assistantContents events)

section Forwarded

variable {env : Env} (opened : OpenRun) (step : WorkflowStep) {args : RunArgs} (live : LiveStream args)

/-- The world after the events of a step have been sent. -/
def World.forwarded : List StreamEvent → Nat → World → World
  | [], _, w => w
  | event :: events, i, w =>
    World.forwarded events (i + 1) ((w.tooled (live.tools i)).shown
      (opened.item ("WorkflowStep:" ++ event.eventType)
        (.stepEvent step.stepOrder event.payload)))

/-- The moment after the events of a step have been sent. -/
def Moment.forwarded : List StreamEvent → Nat → Moment → Moment
  | [], _, m => m
  | _ :: events, i, m => Moment.forwarded events (i + 1) (m.tooled (live.tools i)).shown

theorem moment_forwarded (events : List StreamEvent) (i : Nat) (w : World) :
    (World.forwarded opened step live events i w).moment =
      Moment.forwarded live events i w.moment := by
  induction events generalizing i w with
  | nil => rfl
  | cons event events ih =>
    rw [World.forwarded, Moment.forwarded, ih, moment_shown, moment_tooled]

theorem failed_forwarded (events : List StreamEvent) (i : Nat) (w : World) :
    (World.forwarded opened step live events i w).failed = w.failed := by
  induction events generalizing i w with
  | nil => rfl
  | cons event events ih =>
    rw [World.forwarded, ih]
    rfl

/-- Sending an event on. -/
theorem forwardEvents_cons (event : StreamEvent) (events : List StreamEvent) (i : Nat)
    (collected : List String) :
    forwardEvents env opened step live (event :: events) i collected = (do
      useTools (live.tools i)
      yieldItem env (opened.item ("WorkflowStep:" ++ event.eventType)
        (.stepEvent step.stepOrder event.payload))
      forwardEvents env opened step live events (i + 1) (collected ++ assistantContent event)) := by
  rw [forwardEvents]
  refine bind_congr fun _ => bind_congr fun _ => ?_
  rw [assistantContent]
  split
  · rfl
  · rw [List.append_nil]

/-- The events are sent to a client that stays for them. -/
theorem forwardEvents_attended (events : List StreamEvent) (i : Nat) (collected : List String)
    (w : World) (h : ∀ j < events.length, env.closes (w.yielded.length + j) = false) :
    forwardEvents env opened step live events i collected w =
      (.ok (collected ++ assistantContents events),
        World.forwarded opened step live events i w) := by
  induction events generalizing i collected w with
  | nil => rw [forwardEvents, assistantContents, List.flatMap_nil, List.append_nil]; rfl
  | cons event events ih =>
    have hfirst : env.closes (w.tooled (live.tools i)).yielded.length = false :=
      h 0 (Nat.succ_pos _)
    rw [forwardEvents_cons, bind_apply_ok (useTools_apply _ w),
      bind_apply_ok (yieldItem_apply _ hfirst), ih]
    · have hcons : assistantContents (event :: events) =
          assistantContent event ++ assistantContents events := List.flatMap_cons
      rw [hcons, List.append_assoc]
      rfl
    · intro j hj
      rw [World.shown_yielded, World.tooled_yielded, List.length_append, List.length_singleton]
      have hlater := h (j + 1) (Nat.succ_lt_succ hj)
      rw [Nat.add_assoc, Nat.add_comm 1 j]
      exact hlater

/-- A client that leaves closes the generator. -/
theorem forwardEvents_left (events : List StreamEvent) (i : Nat) (collected : List String)
    (w : World) (h : ¬∀ j < events.length, env.closes (w.yielded.length + j) = false) :
    ∃ w', forwardEvents env opened step live events i collected w =
      (.error .generatorExit, w') := by
  induction events generalizing i collected w with
  | nil => exact absurd (fun j hj => by cases hj) h
  | cons event events ih =>
    rw [forwardEvents_cons, bind_apply_ok (useTools_apply _ w)]
    cases hcloses : env.closes w.yielded.length with
    -- The client leaves at this event,
    | true =>
      exact ⟨_, bind_apply_error (yieldItem_apply_closed _ (by exact hcloses))⟩
    -- or at a later one.
    | false =>
      have hfirst : env.closes (w.tooled (live.tools i)).yielded.length = false := hcloses
      rw [bind_apply_ok (yieldItem_apply _ hfirst)]
      refine ih (i + 1) _ _ fun hrest => h fun j hj => ?_
      cases j with
      | zero => exact hcloses
      | succ j =>
        have hlater := hrest j (Nat.lt_of_succ_lt_succ hj)
        rw [World.shown_yielded, World.tooled_yielded, List.length_append,
          List.length_singleton, Nat.add_assoc, Nat.add_comm 1 j] at hlater
        exact hlater

end Forwarded

/-! ## A step -/

/-- The world after the engine has raised. -/
def World.raised (w : World) (exc : PyError) : World :=
  { w with engineErrors := w.engineErrors ++ [exc] }

@[simp] theorem moment_raised (w : World) (exc : PyError) : (w.raised exc).moment = w.moment := rfl

section Step

variable {env : Env} {w : World} {opened : OpenRun} {context : WorkflowContext}
  {step : WorkflowStep} {dispatch : Dispatch} {stepInput : String} {exc : PyError}

/-- A step whose agent or team is found. -/
theorem resolve_apply_ok (hw : w.failed = false)
    (h : WorkflowRunner.resolveStep env.hierarchyScan w.working.metadata step = .ok dispatch) :
    WorkflowRunner.resolve env step w = (.ok dispatch, w) := by
  rw [WorkflowRunner.resolve, bind_apply_ok (query_apply hw _), h]
  rfl

/-- A step whose agent or team is not found. -/
theorem resolve_apply_error (hw : w.failed = false)
    (h : WorkflowRunner.resolveStep env.hierarchyScan w.working.metadata step = .error exc) :
    WorkflowRunner.resolve env step w = (.error exc, w.raised exc) := by
  rw [WorkflowRunner.resolve, bind_apply_ok (query_apply hw _), h]
  rfl

/-- The stream of a step, at the moment it is opened. -/
def streamOf (env : Env) (m : Moment) (dispatch : Dispatch) (args : RunArgs) :
    LiveStream args :=
  ⟨streamOutcome dispatch args (env.call m.calls) m.db.metadata, env.tools m.calls args⟩

theorem runStepStream_apply_ok (hw : w.failed = false)
    (h : WorkflowRunner.resolveStep env.hierarchyScan w.working.metadata step = .ok dispatch) :
    WorkflowRunner.runStepStream env step stepInput context w =
      (.ok (streamOf env w.moment dispatch (WorkflowRunner.args stepInput context)),
        w.called ⟨dispatch, WorkflowRunner.args stepInput context⟩) := by
  rw [WorkflowRunner.runStepStream, bind_apply_ok (resolve_apply_ok hw h), openStream_apply]
  rfl

/-- The world after the events of a step, and what tools wrote after the last of them. -/
def World.streamed (opened : OpenRun) (step : WorkflowStep) {args : RunArgs}
    (live : LiveStream args) (w : World) :
    World :=
  (World.forwarded opened step live live.stream.events 0 w).tooled
    (live.tools live.stream.events.length)

/-- The moment of that world. -/
def Moment.streamed {args : RunArgs} (live : LiveStream args) (m : Moment) : Moment :=
  (Moment.forwarded live live.stream.events 0 m).tooled (live.tools live.stream.events.length)

theorem moment_streamed {args : RunArgs} (live : LiveStream args) :
    (World.streamed opened step live w).moment = w.moment.streamed live := by
  rw [World.streamed, moment_tooled, moment_forwarded, Moment.streamed]

theorem failed_streamed {args : RunArgs} (live : LiveStream args) :
    (World.streamed opened step live w).failed = w.failed :=
  failed_forwarded opened step live live.stream.events 0 w

theorem forwardStep_unresolved (hw : w.failed = false)
    (h : WorkflowRunner.resolveStep env.hierarchyScan w.working.metadata step = .error exc) :
    forwardStep env opened context step stepInput w = (.error exc, w.raised exc) := by
  rw [forwardStep, WorkflowRunner.runStepStream]
  exact bind_apply_error (bind_apply_error (resolve_apply_error hw h))

section Streamed

variable {live : LiveStream (WorkflowRunner.args stepInput context)} {called : World}
  (hopen : WorkflowRunner.runStepStream env step stepInput context w = (.ok live, called))

include hopen

theorem forwardStep_left
    (h : ¬∀ j < live.stream.events.length, env.closes (called.yielded.length + j) = false) :
    ∃ w', forwardStep env opened context step stepInput w = (.error .generatorExit, w') := by
  obtain ⟨w', hleft⟩ := forwardEvents_left opened step live live.stream.events 0 [] called h
  refine ⟨w', ?_⟩
  rw [forwardStep, bind_apply_ok hopen, bind_apply_error hleft]

variable (h : ∀ j < live.stream.events.length, env.closes (called.yielded.length + j) = false)

include h

theorem forwardStep_completed (hend : live.stream.error = none) :
    forwardStep env opened context step stepInput w =
      (.ok (answerOf live.stream.events), World.streamed opened step live called) := by
  rw [forwardStep, bind_apply_ok hopen,
    bind_apply_ok (forwardEvents_attended opened step live _ 0 [] called h),
    bind_apply_ok (endStream_apply_ok hend _), List.nil_append]
  rfl

theorem forwardStep_failed (hend : live.stream.error = some exc) :
    forwardStep env opened context step stepInput w =
      (.error exc, (World.streamed opened step live called).raised exc) := by
  rw [forwardStep, bind_apply_ok hopen,
    bind_apply_ok (forwardEvents_attended opened step live _ 0 [] called h),
    bind_apply_error (endStream_apply_error hend _)]
  rfl

end Streamed

end Step

end AgnoRuntime
