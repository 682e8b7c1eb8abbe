import AgnoRuntime.Model.Requests

/-!
# The content of a stream

What a stream forwards as `content` should be the answer being written: the deltas of
the agent or team that is executed, marked as assistant content. `_build_stream_payload`
takes the content out of the payload of every other event, but `run_stream` updates the
payload it had with the result, which takes nothing out, and the streams of teams do not
use it. So every event that has a text forwards it, and a stream forwards only deltas
exactly where Agno emits no other event with a text.

## Key results

- `content_eventOf`: an event is forwarded with its own text, whichever it is
- `executeStream_events`: the events of a stream
- `forwardsOwnDeltas_iff`: when a stream forwards only the deltas of what is executed
-/

namespace AgnoRuntime

open Prog Svc AgnoRuntimeEngine

/-! ## Events -/

/-- A response-content delta of the agent, the team or the root team that is executed. -/
def Dispatch.isOwnDelta (dispatch : Dispatch) (event : AgnoEvent) : Bool :=
  match dispatch with
  | .runtime _ => event.event = "RunResponseContent"
  | .team ctx =>
    event.event = "TeamRunResponseContent" && event.teamId = some (UuidText.text ctx.team.id)
  | .root ctx =>
    event.event = "TeamRunResponseContent" && event.teamId = some (rootTeamId ctx.agentOs)

/-- The event dict that the stream of a context yields for an event of Agno. -/
def eventOf (dispatch : Dispatch) : AgnoEvent → StreamEvent :=
  match dispatch with
  | .runtime _ => mapEvent agnoEventMap agentEventPayload
  | .team ctx => mapEvent agnoTeamEventMap (teamEventPayload (UuidText.text ctx.team.id))
  | .root ctx => mapEvent agnoTeamEventMap (teamEventPayload (rootTeamId ctx.agentOs))

/-- The events Agno emits while a context is executed as a stream: none if it cannot be built. -/
def agnoEvents (call : AgnoCall) (m : Metadata) (args : RunArgs) (dispatch : Dispatch) :
    List AgnoEvent :=
  match (buildRunnable call m args dispatch []).1 with
  | .ok runnable => (call.arunStream runnable args).1
  | .error _ => []

/-- An event has a text if its content is not empty. -/
theorem text_ne_none_iff (event : AgnoEvent) : event.text ≠ none ↔ truthy event.content := by
  unfold AgnoEvent.text
  by_cases htruthy : truthy event.content
  · -- An absent content is not truthy, so there is one to take a copy of.
    cases hcontent : event.content with
    | none =>
      rw [hcontent] at htruthy
      cases htruthy
    | some content =>
      rw [hcontent] at htruthy
      simp [htruthy]
  · simp [htruthy]

/-- An event is forwarded with its own text, whichever it is. -/
theorem content_eventOf (dispatch : Dispatch) (event : AgnoEvent) :
    (eventOf dispatch event).payload.content = event.text := by
  cases dispatch with
  | runtime ctx =>
    -- `payload.update` with the key popped leaves the key that was there.
    show ((if isAssistantContentEvent event.event then event.text else none).or event.text) = _
    by_cases hassistant : isAssistantContentEvent event.event
    · rw [if_pos hassistant, Option.or_self]
    · rw [if_neg hassistant, Option.none_or]
  | team ctx => rfl
  | root ctx => rfl

/-- A delta of what is executed that has a text is marked as assistant content. -/
theorem isAssistantContent_eventOf {dispatch : Dispatch} {event : AgnoEvent}
    (hown : dispatch.isOwnDelta event) (htext : event.text ≠ none) :
    (eventOf dispatch event).payload.isAssistantContent = some true := by
  have htext' : ∃ text, event.text = some text := Option.ne_none_iff_exists'.mp htext
  obtain ⟨text, htext'⟩ := htext'
  cases dispatch with
  | runtime ctx =>
    have hname : event.event = "RunResponseContent" := of_decide_eq_true hown
    show some (isAssistantContentEvent event.event) = some true
    rw [hname]
    rfl
  | team ctx =>
    show event.text.map (fun _ => Dispatch.isOwnDelta (.team ctx) event) = some true
    rw [htext', hown]
    rfl
  | root ctx =>
    show event.text.map (fun _ => Dispatch.isOwnDelta (.root ctx) event) = some true
    rw [htext', hown]
    rfl

/-! ## Streams -/

/-- The metrics and the plan that follow a stream are no content. -/
theorem content_of_mem_trailingEvents {call : AgnoCall} {dispatch : Dispatch} {e : StreamEvent}
    (h : e ∈ trailingEvents call dispatch) : e.payload.content = none := by
  simp only [trailingEvents] at h
  obtain hmetrics | hplan := List.mem_append.mp h
  -- The metrics have no content,
  · cases hfinal : call.finalMetrics with
    | none =>
      rw [hfinal] at hmetrics
      cases hmetrics
    | some metrics =>
      rw [hfinal] at hmetrics
      cases metrics with
      | nil => cases hmetrics
      | cons metric metrics =>
        rw [List.mem_singleton.mp hmetrics]
        rfl
  -- and neither has the plan of UI actions.
  · by_cases hempty : (aggregateUiActionPlan call dispatch).isEmpty
    · rw [if_pos hempty] at hplan
      cases hplan
    · rw [if_neg hempty] at hplan
      rw [List.mem_singleton.mp hplan]
      rfl

/-- A stream that fails ends with its events, or with an `error` event after them. -/
private theorem failedStream_events (message : String) (events : List StreamEvent)
    (exc : PyError) :
    ∃ tail, (failedStream message events exc).events = events ++ tail ∧
      ∀ e ∈ tail, e.payload.content = none := by
  unfold failedStream
  by_cases hexception : exc.isException
  · rw [if_pos hexception]
    exact ⟨_, rfl, by simp [Payload.empty]⟩
  · rw [if_neg hexception]
    exact ⟨[], (List.append_nil events).symm, by simp⟩

/-- A stream yields one event for each of Agno, in their order, and after them events without
    content. -/
theorem executeStream_events (call : AgnoCall) (m : Metadata) (message : String)
    (mapped : AgnoEvent → StreamEvent) (dispatch : Dispatch) (args : RunArgs) :
    ∃ stream s' tail, executeStream call m message mapped dispatch args [] = (.ok stream, s') ∧
      stream.events = (agnoEvents call m args dispatch).map mapped ++ tail ∧
      ∀ e ∈ tail, e.payload.content = none := by
  rw [executeStream, bind_apply_ok (attempt_apply _ _), agnoEvents]
  -- Where the agents cannot be built, nothing is streamed but the error.
  cases (buildRunnable call m args dispatch []).1 with
  | error exc =>
    obtain ⟨tail, htail, hnone⟩ := failedStream_events message [] exc
    exact ⟨_, _, tail, rfl, htail, hnone⟩
  | ok runnable =>
    cases hfailure : (call.arunStream runnable args).2 with
    -- The stream breaks off, and the error is its last event.
    | some exc =>
      obtain ⟨tail, htail, hnone⟩ :=
        failedStream_events message ((call.arunStream runnable args).1.map mapped) exc
      refine ⟨_, (buildRunnable call m args dispatch []).2, tail, ?_, htail, hnone⟩
      simp only [hfailure]
      rfl
    | none =>
      -- The stream ends, and the metrics and the plan follow.
      refine ⟨⟨_ ++ trailingEvents call dispatch, none⟩,
        (buildRunnable call m args dispatch []).2, trailingEvents call dispatch, ?_, rfl,
        fun e he => content_of_mem_trailingEvents he⟩
      simp only [hfailure]
      rfl

/-- What the stream of a context yields. -/
theorem streamOutcome_events (dispatch : Dispatch) (args : RunArgs) (call : AgnoCall)
    (m : Metadata) :
    ∃ tail, (streamOutcome dispatch args call m).events =
        (agnoEvents call m args dispatch).map (eventOf dispatch) ++ tail ∧
      ∀ e ∈ tail, e.payload.content = none := by
  have hstream : ∃ stream s' tail, streamMethod dispatch args call m [] = (.ok stream, s') ∧
      stream.events = (agnoEvents call m args dispatch).map (eventOf dispatch) ++ tail ∧
      ∀ e ∈ tail, e.payload.content = none := by
    cases dispatch with
    | runtime ctx => exact executeStream_events call m _ _ _ args
    | team ctx => exact executeStream_events call m _ _ _ args
    | root ctx => exact executeStream_events call m _ _ _ args
  obtain ⟨stream, s', tail, hstream, hevents, hnone⟩ := hstream
  refine ⟨tail, ?_, hnone⟩
  rw [streamOutcome, hstream]
  exact hevents

/-! ## Forwarding deltas only -/

/-- Every event of the stream that has content is marked as assistant content and stems from a
    delta of what is executed: the event of Agno it was yielded for is one, and has that text. -/
def ForwardsOwnDeltas (dispatch : Dispatch) (emitted : List AgnoEvent) (stream : EventStream) :
    Prop :=
  ∀ (i : Nat) (e : StreamEvent), stream.events[i]? = some e → e.payload.content ≠ none →
    e.payload.isAssistantContent = some true ∧
      ∃ event, emitted[i]? = some event ∧ dispatch.isOwnDelta event ∧
        e.payload.content = event.text

/-- Whatever Agno emits, a stream forwards only the deltas of what is executed if and only if no
    other event that Agno emits has a text. -/
theorem forwardsOwnDeltas_iff (dispatch : Dispatch) (args : RunArgs) (call : AgnoCall)
    (m : Metadata) :
    ForwardsOwnDeltas dispatch (agnoEvents call m args dispatch)
        (streamOutcome dispatch args call m) ↔
      ∀ event ∈ agnoEvents call m args dispatch,
        truthy event.content → dispatch.isOwnDelta event := by
  obtain ⟨tail, hevents, hnone⟩ := streamOutcome_events dispatch args call m
  generalize agnoEvents call m args dispatch = emitted at hevents ⊢
  constructor
  · intro hforwards event hevent htruthy
    obtain ⟨i, hi⟩ := List.mem_iff_getElem?.mp hevent
    obtain ⟨hlt, -⟩ := List.getElem?_eq_some_iff.mp hi
    have hyielded : (streamOutcome dispatch args call m).events[i]? =
        some (eventOf dispatch event) := by
      rw [hevents, List.getElem?_append_left (by simpa using hlt), List.getElem?_map, hi,
        Option.map_some]
    have hcontent : (eventOf dispatch event).payload.content ≠ none := by
      rw [content_eventOf]
      exact (text_ne_none_iff event).mpr htruthy
    obtain ⟨-, event', hi', hown, -⟩ := hforwards i _ hyielded hcontent
    rw [hi, Option.some.injEq] at hi'
    rw [hi']
    exact hown
  · intro honly i e hyielded hcontent
    rw [hevents] at hyielded
    by_cases hlt : i < emitted.length
    · -- The event is the one that was yielded for the i-th of Agno.
      rw [List.getElem?_append_left (by simpa using hlt), List.getElem?_map,
        List.getElem?_eq_getElem hlt, Option.map_some, Option.some.injEq] at hyielded
      rw [← hyielded, content_eventOf] at hcontent
      have hown : dispatch.isOwnDelta emitted[i] :=
        honly _ (List.getElem_mem hlt) ((text_ne_none_iff _).mp hcontent)
      rw [← hyielded]
      exact ⟨isAssistantContent_eventOf hown hcontent, emitted[i], List.getElem?_eq_getElem hlt,
        hown, content_eventOf dispatch _⟩
    · -- What follows has no content.
      rw [List.getElem?_append_right (by simpa using hlt)] at hyielded
      exact absurd (hnone e (List.mem_of_getElem? hyielded)) hcontent

namespace Deployment

/-- The context of the agent. -/
def crmContext : ResolvedRuntimeContext where
  agentOs := ⟨1, "enterprise", "Enterprise", some 1, none, true, morning, none⟩
  team := ⟨1, 1, "sales", "Sales", none, true, morning, none⟩
  agent := crm
  finalPrompt := ""
  effectiveCapabilities := []

/-- An Agno whose agent says a text, and whose run is completed with all of it. -/
def completing (text : String) : AgnoCall :=
  agno (.ok ⟨some text, text⟩)
    [⟨"RunResponseContent", some text, [], none⟩, ⟨"RunCompleted", some text, [], none⟩] none

end Deployment

/-- The content of `RunCompleted` is forwarded after the delta that said it already. -/
theorem runCompleted_forwarded :
    (streamOutcome (.runtime Deployment.crmContext) ⟨"Hi", 1, none, none⟩
      (Deployment.completing "Hello") Deployment.metadata).events.map (·.payload.content) =
        [some "Hello", some "Hello"] ∧
    ¬ForwardsOwnDeltas (.runtime Deployment.crmContext)
      (agnoEvents (Deployment.completing "Hello") Deployment.metadata ⟨"Hi", 1, none, none⟩
        (.runtime Deployment.crmContext))
      (streamOutcome (.runtime Deployment.crmContext) ⟨"Hi", 1, none, none⟩
        (Deployment.completing "Hello") Deployment.metadata) := by
  constructor
  · decide +kernel
  · intro hforwards
    obtain ⟨hassistant, -⟩ := hforwards 1
      ⟨"agent_completed", { Payload.empty with
        agnoEvent := some "RunCompleted", content := some "Hello",
        isAssistantContent := some false }⟩
      (by decide +kernel) (by simp)
    cases hassistant

end AgnoRuntime
