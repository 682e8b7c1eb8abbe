import AgnoRuntime.Spec.RequestSteps
import AgnoRuntime.Spec.StreamedTurns

/-!
# What the rows of a run tell

A run is a row, its events and its messages, in three tables. Together they tell a
story: what the user asked, which events of the engine were recorded, what the
assistant said and how far the turn is. `TurnStory` is that story and
`TurnStory.rows` the rows that tell it. Where every run of the tables tells one,
`RunsTold` holds, and what a request does to the tables is one run further.
-/

namespace AgnoRuntime

open Svc Prog ChatService

/-! ## Stories -/

/-- How far a turn is. -/
inductive TurnPhase where
  | pending
  | running
  | ended (ending : TurnEnd)
deriving DecidableEq

namespace TurnPhase

/-- The status of the run. -/
def status : TurnPhase → RunStatus
  | pending => .pending
  | running => .running
  | ended ending => ending.status

/-- `run.output`, where the assistant has said `text`. -/
def output (text : String) : TurnPhase → Option String
  | pending | running => none
  | ended ending => ending.output text

/-- `run.error_message`. -/
def errorMessage : TurnPhase → Option String
  | pending | running => none
  | ended ending => ending.errorMessage

/-- What the assistant's message says, if there is one. -/
def reply (text : String) : TurnPhase → Option String
  | pending | running => none
  | ended ending => ending.reply text

/-- The event that ends the run. -/
def event (runId : Uuid) (text : String) : TurnPhase → Option AgentEvent
  | pending | running => none
  | ended ending => some (ending.event runId text)

end TurnPhase

/-- The story of a turn. -/
structure TurnStory where
  runId : Uuid
  sessionId : Uuid
  agentId : Uuid
  input : String
  recorded : List StreamEvent
  text : String
  phase : TurnPhase

/-- The rows of a turn. -/
structure TurnRows where
  run : AgentRun
  events : List AgentEvent
  messages : List ChatMessage

namespace TurnRows

/-- One more event. -/
def withEvent (rows : TurnRows) (e : AgentEvent) : TurnRows :=
  { rows with events := rows.events ++ [e] }

/-- One more message. -/
def withMessage (rows : TurnRows) (m : ChatMessage) : TurnRows :=
  { rows with messages := rows.messages ++ [m] }

/-- The run changed. -/
def withRun (rows : TurnRows) (status : RunStatus) (f : AgentRun → AgentRun) : TurnRows :=
  { rows with run := { f rows.run with status := status } }

end TurnRows

namespace TurnStory

variable (story : TurnStory)

/-- A message of the turn. -/
def message (role : MessageRole) (content : String) : ChatMessage :=
  ⟨story.sessionId, some story.runId, role, content⟩

/-- The rows that tell the story. -/
def rows : TurnRows where
  run := ⟨story.runId, story.sessionId, story.agentId, story.phase.status, story.input,
    story.phase.output story.text, story.phase.errorMessage⟩
  events := ⟨story.runId, .agentStarted, .input story.input⟩ ::
    (story.recorded.map (engineEvent story.runId) ++
      (story.phase.event story.runId story.text).toList)
  messages := story.message .user story.input ::
    ((story.phase.reply story.text).map (story.message .assistant)).toList

/-- Nothing is recorded before the turn runs, and the assistant has said what was recorded; a team
    that answers at once has no events. -/
structure Possible : Prop where
  pending : story.phase = .pending → story.recorded = []
  text : story.text = assistantText story.recorded ∨
    story.recorded = [] ∧ story.phase = .ended .completed

/-- One more event of the engine. -/
def recording (event : StreamEvent) : TurnStory :=
  { story with
    recorded := story.recorded ++ [event]
    text := assistantText (story.recorded ++ [event]) }

variable {story}

/-- Each row of a story is one of its run. -/
theorem runId_of_mem_events {e : AgentEvent} (h : e ∈ story.rows.events) :
    e.runId = story.runId := by
  simp only [rows, List.mem_cons, List.mem_append, List.mem_map, Option.mem_toList] at h
  obtain rfl | ⟨event, -, rfl⟩ | hlast := h
  · rfl
  · rfl
  · cases hphase : story.phase with
    | pending => simp [hphase, TurnPhase.event] at hlast
    | running => simp [hphase, TurnPhase.event] at hlast
    | ended ending =>
      simp only [hphase, TurnPhase.event, Option.some.injEq] at hlast
      rw [← hlast]
      cases ending with
      | completed => rfl
      | failed message => rfl
      | cancelled => rfl

theorem runId_of_mem_messages {m : ChatMessage} (h : m ∈ story.rows.messages) :
    m.runId = some story.runId := by
  simp only [rows, List.mem_cons, Option.mem_toList, Option.map_eq_some_iff] at h
  obtain rfl | ⟨content, -, rfl⟩ := h
  · rfl
  · rfl

/-! ### How a story goes on -/

variable (story)

/-- The run is marked as running. -/
theorem rows_running (h : story.phase = .pending) :
    story.rows.withRun .running (fun r => r) = { story with phase := .running : TurnStory }.rows := by
  simp [rows, TurnRows.withRun, h, TurnPhase.status, TurnPhase.output, TurnPhase.errorMessage,
    TurnPhase.event, TurnPhase.reply, message]

/-- An event of the engine is recorded. -/
theorem rows_recording (h : story.phase = .running) (event : StreamEvent) :
    story.rows.withEvent (engineEvent story.runId event) = (story.recording event).rows := by
  simp [rows, recording, TurnRows.withEvent, h, TurnPhase.output, TurnPhase.event, TurnPhase.reply,
    message]

/-- The message of the assistant, the row of the run and the last event end a turn. -/
theorem rows_completed (h : story.phase = .running) (text : String) :
    ((story.rows.withMessage (story.message .assistant text)).withRun .completed
      fun r => { r with output := some text }).withEvent
        ⟨story.runId, .agentCompleted, .outputLength text.length⟩ =
      { story with text := text, phase := .ended .completed : TurnStory }.rows := by
  simp [rows, TurnRows.withRun, TurnRows.withEvent, TurnRows.withMessage, h, TurnPhase.status,
    TurnPhase.output, TurnPhase.errorMessage, TurnPhase.event, TurnPhase.reply, message,
    TurnEnd.status, TurnEnd.output, TurnEnd.errorMessage, TurnEnd.event, TurnEnd.reply]

theorem rows_failed (h : story.phase = .running) (error : String) :
    (story.rows.withRun .failed fun r => { r with errorMessage := some error }).withEvent
        ⟨story.runId, .error, .error error⟩ =
      { story with phase := .ended (.failed error) : TurnStory }.rows := by
  simp [rows, TurnRows.withRun, TurnRows.withEvent, h, TurnPhase.status,
    TurnPhase.output, TurnPhase.errorMessage, TurnPhase.event, TurnPhase.reply, message,
    TurnEnd.status, TurnEnd.output, TurnEnd.errorMessage, TurnEnd.event, TurnEnd.reply]

/-- What the assistant has said is saved, if it has said anything. -/
def said : TurnRows :=
  if story.text = "" then story.rows
  else story.rows.withMessage (story.message .assistant story.text)

/-- What the assistant has said until a cancellation, the row of the run and the last event. -/
theorem rows_cancelled (h : story.phase = .running) :
    (story.said.withRun .cancelled fun r => { r with
        output := if story.text = "" then none else some story.text
        errorMessage := some RunTrackingService.cancelledReason }).withEvent
      ⟨story.runId, .runCancelled,
        .cancelled RunTrackingService.cancelledReason story.text.length⟩ =
      { story with phase := .ended .cancelled : TurnStory }.rows := by
  by_cases htext : story.text = ""
  · simp [said, rows, TurnRows.withRun, TurnRows.withEvent, h, htext, TurnPhase.status,
      TurnPhase.output, TurnPhase.errorMessage, TurnPhase.event, TurnPhase.reply, message,
      TurnEnd.status, TurnEnd.output, TurnEnd.errorMessage, TurnEnd.event, TurnEnd.reply]
  · simp [said, rows, TurnRows.withRun, TurnRows.withEvent, TurnRows.withMessage, h, htext,
      TurnPhase.status, TurnPhase.output, TurnPhase.errorMessage, TurnPhase.event,
      TurnPhase.reply, message, TurnEnd.status, TurnEnd.output, TurnEnd.errorMessage,
      TurnEnd.event, TurnEnd.reply]

end TurnStory

/-! ## The tables -/

/-- The messages that belong to a run. -/
def runMessages (db : Db) : List ChatMessage := db.chatMessages.filter fun m => m.runId.isSome

/-- The tables have the same runs, with the same events and messages. -/
structure SameTurns (base db : Db) : Prop where
  metadata : db.metadata = base.metadata
  runs : db.agentRuns.rows = base.agentRuns.rows
  events : db.agentEvents = base.agentEvents
  messages : runMessages db = runMessages base

/-- The tables have one run more than `base`, with these rows. -/
structure TurnRows.In (rows : TurnRows) (base db : Db) : Prop where
  fresh : base.agentRuns.Lacks rows.run.id
  metadata : db.metadata = base.metadata
  runs : db.agentRuns.rows = base.agentRuns.rows ++ [rows.run]
  events : db.agentEvents = base.agentEvents ++ rows.events
  messages : runMessages db = runMessages base ++ rows.messages

section Tables

variable {base db : Db} {rows : TurnRows}

theorem runMessages_tools {args : RunArgs} (writes : ToolWrites args) (db : Db) :
    runMessages (writes.apply db) = runMessages db := by
  obtain ⟨new, hnew, hnoRun⟩ := (writes.kept db).chatMessages
  have hnone : new.filter (fun m => m.runId.isSome) = [] :=
    List.filter_eq_nil_iff.mpr fun m hm => by simp [hnoRun m hm]
  rw [runMessages, hnew, List.filter_append, hnone, List.append_nil, runMessages]

theorem runMessages_withMessage {m : ChatMessage} {id : Uuid} (hm : m.runId = some id) (db : Db) :
    runMessages (db.withMessage m) = runMessages db ++ [m] := by
  rw [runMessages, Db.withMessage, List.filter_append, List.filter_cons_of_pos (by simp [hm]),
    List.filter_nil, runMessages]

/-- The messages of a run are among those that belong to runs. -/
theorem messagesOf_eq (id : Uuid) (db : Db) :
    messagesOf id db = (runMessages db).filter fun m => m.runId = some id := by
  rw [messagesOf, runMessages, List.filter_filter]
  refine List.filter_congr fun m _ => ?_
  cases m.runId with
  | none => simp
  | some id' => simp

namespace SameTurns

theorem refl (db : Db) : SameTurns db db := ⟨rfl, rfl, rfl, rfl⟩

theorem tools (h : SameTurns base db) {args : RunArgs} (writes : ToolWrites args) :
    SameTurns base (writes.apply db) := by
  have hkept := writes.kept db
  exact ⟨hkept.metadata.trans h.metadata, by rw [hkept.agentRuns, h.runs],
    by rw [hkept.agentEvents, h.events], by rw [runMessages_tools, h.messages]⟩

/-- A message that belongs to no run. -/
theorem message (h : SameTurns base db) {m : ChatMessage} (hm : m.runId = none) :
    SameTurns base (db.withMessage m) := by
  refine ⟨h.metadata, h.runs, h.events, ?_⟩
  rw [← h.messages, runMessages, Db.withMessage, List.filter_append,
    List.filter_cons_of_neg (by simp [hm]), List.filter_nil, List.append_nil, runMessages]

/-- A run is inserted. -/
theorem newRun (h : SameTurns base db) (sessionId agentId : Uuid) (input : String) :
    (TurnRows.mk ⟨db.agentRuns.freshKey, sessionId, agentId, .pending, input, none, none⟩ []
      []).In base (db.withNewRun sessionId agentId input) where
  fresh := (KeyedTable.lacks_freshKey db.agentRuns).of_subset fun r hr => h.runs ▸ hr
  metadata := h.metadata
  runs := by
    rw [← h.runs]
    exact KeyedTable.rows_insertFresh _ _ _
  events := by rw [List.append_nil, ← h.events]; rfl
  messages := by rw [List.append_nil, ← h.messages]; rfl

end SameTurns

namespace TurnRows.In

theorem tools (h : rows.In base db) {args : RunArgs} (writes : ToolWrites args) :
    rows.In base (writes.apply db) := by
  have hkept := writes.kept db
  exact ⟨h.fresh, hkept.metadata.trans h.metadata, by rw [hkept.agentRuns, h.runs],
    by rw [hkept.agentEvents, h.events], by rw [runMessages_tools, h.messages]⟩

theorem event (h : rows.In base db) (e : AgentEvent) :
    (rows.withEvent e).In base (db.withAgentEvent e) :=
  ⟨h.fresh, h.metadata, h.runs,
    by rw [withEvent, ← List.append_assoc, ← h.events]; rfl, h.messages⟩

theorem message (h : rows.In base db) {m : ChatMessage} {id : Uuid} (hm : m.runId = some id) :
    (rows.withMessage m).In base (db.withMessage m) :=
  ⟨h.fresh, h.metadata, h.runs, h.events,
    by rw [withMessage, ← List.append_assoc, ← h.messages, runMessages_withMessage hm]⟩

/-- The row of the run changes, and no other. -/
theorem run (h : rows.In base db) (status : RunStatus) (f : AgentRun → AgentRun)
    (hf : ∀ r, (f r).id = r.id) :
    (rows.withRun status f).In base (db.withRun rows.run.id status f hf) where
  fresh := by
    show base.agentRuns.Lacks (f rows.run).id
    rw [hf]
    exact h.fresh
  metadata := h.metadata
  runs := by
    have hothers : base.agentRuns.rows.map
        (fun r => if r.id = rows.run.id then { f r with status := status } else r) =
          base.agentRuns.rows :=
      (List.map_congr_left fun r hr => if_neg (h.fresh r hr)).trans (List.map_id' _)
    show db.agentRuns.rows.map
      (fun r => if r.id = rows.run.id then { f r with status := status } else r) = _
    rw [h.runs, List.map_append, hothers, List.map_singleton, if_pos rfl]
    rfl
  events := h.events
  messages := h.messages

end TurnRows.In

end Tables

/-! ## Runs that tell a story -/

/-- Every run tells a story, and every event and message of a run belongs to one. -/
structure RunsTold (db : Db) : Prop where
  stories : ∀ r ∈ db.agentRuns.rows, ∃ story : TurnStory, story.Possible ∧
    story.rows = ⟨r, agentEventsOf r.id db, messagesOf r.id db⟩
  events : ∀ e ∈ db.agentEvents, ∃ r ∈ db.agentRuns.rows, r.id = e.runId
  messages : ∀ m ∈ db.chatMessages, ∀ id, m.runId = some id → ∃ r ∈ db.agentRuns.rows, r.id = id

section Told

variable {base db : Db}

/-- Messages of a run are among those that belong to runs, and the other way around. -/
private theorem mem_runMessages {m : ChatMessage} {id : Uuid} (h : m.runId = some id) :
    m ∈ runMessages db ↔ m ∈ db.chatMessages := by
  rw [runMessages, List.mem_filter, h]
  exact and_iff_left rfl

theorem RunsTold.of_same (h : RunsTold base) (hsame : SameTurns base db) : RunsTold db where
  stories r hr := by
    rw [hsame.runs] at hr
    obtain ⟨story, hpossible, hrows⟩ := h.stories r hr
    refine ⟨story, hpossible, ?_⟩
    rw [hrows, agentEventsOf, agentEventsOf, hsame.events, messagesOf_eq, messagesOf_eq, hsame.messages]
  events e he := by
    rw [hsame.events] at he
    rw [hsame.runs]
    exact h.events e he
  messages m hm id hid := by
    have hbase : m ∈ runMessages base := hsame.messages ▸ (mem_runMessages hid).mpr hm
    rw [hsame.runs]
    exact h.messages m ((mem_runMessages hid).mp hbase) id hid

/-- One run further. -/
theorem RunsTold.of_in (h : RunsTold base) {story : TurnStory} (hpossible : story.Possible)
    (hin : story.rows.In base db) : RunsTold db where
  stories r hr := by
    rw [hin.runs, List.mem_append, List.mem_singleton] at hr
    rcases hr with hold | rfl
    · -- the rows of an earlier run are those it had
      obtain ⟨earlier, hearlier, hrows⟩ := h.stories r hold
      refine ⟨earlier, hearlier, ?_⟩
      have hne : r.id ≠ story.runId := hin.fresh r hold
      have hevents : story.rows.events.filter (fun e => e.runId = r.id) = [] :=
        List.filter_eq_nil_iff.mpr fun e he => by
          simp [TurnStory.runId_of_mem_events he, Ne.symm hne]
      have hmessages : story.rows.messages.filter (fun m => m.runId = some r.id) = [] :=
        List.filter_eq_nil_iff.mpr fun m hm => by
          simp [TurnStory.runId_of_mem_messages hm, Ne.symm hne]
      rw [hrows, messagesOf_eq, messagesOf_eq, hin.messages, List.filter_append, hmessages,
        List.append_nil, agentEventsOf, agentEventsOf, hin.events, List.filter_append, hevents,
        List.append_nil]
    · -- no event and no message is there before its run
      refine ⟨story, hpossible, ?_⟩
      have hevents : base.agentEvents.filter (fun e => e.runId = story.runId) = [] :=
        List.filter_eq_nil_iff.mpr fun e he heq => by
          obtain ⟨r, hr, hid⟩ := h.events e he
          exact hin.fresh r hr (hid.trans (of_decide_eq_true heq))
      have hmessages : (runMessages base).filter (fun m => m.runId = some story.runId) = [] :=
        List.filter_eq_nil_iff.mpr fun m hm heq => by
          have hid : m.runId = some story.runId := of_decide_eq_true heq
          obtain ⟨r, hr, hrun⟩ := h.messages m ((mem_runMessages hid).mp hm) _ hid
          exact hin.fresh r hr hrun
      have hown : story.rows.events.filter (fun e => e.runId = story.runId) = story.rows.events :=
        List.filter_eq_self.mpr fun e he => by simp [TurnStory.runId_of_mem_events he]
      have hsaid : story.rows.messages.filter (fun m => m.runId = some story.runId) =
          story.rows.messages :=
        List.filter_eq_self.mpr fun m hm => by simp [TurnStory.runId_of_mem_messages hm]
      show story.rows = ⟨story.rows.run, agentEventsOf story.runId db, messagesOf story.runId db⟩
      rw [messagesOf_eq, hin.messages, List.filter_append, hmessages, List.nil_append, hsaid,
        agentEventsOf, hin.events, List.filter_append, hevents, List.nil_append, hown]
  events e he := by
    rw [hin.runs]
    rw [hin.events, List.mem_append] at he
    rcases he with hold | hnew
    · obtain ⟨r, hr, hid⟩ := h.events e hold
      exact ⟨r, List.mem_append_left _ hr, hid⟩
    · exact ⟨_, List.mem_append_right _ (List.mem_singleton_self _),
        (TurnStory.runId_of_mem_events hnew).symm⟩
  messages m hm id hid := by
    have hmem : m ∈ runMessages db := (mem_runMessages hid).mpr hm
    rw [hin.runs]
    rw [hin.messages, List.mem_append] at hmem
    rcases hmem with hold | hnew
    · obtain ⟨r, hr, hrun⟩ := h.messages m ((mem_runMessages hid).mp hold) id hid
      exact ⟨r, List.mem_append_left _ hr, hrun⟩
    · refine ⟨_, List.mem_append_right _ (List.mem_singleton_self _), ?_⟩
      rw [TurnStory.runId_of_mem_messages hnew, Option.some.injEq] at hid
      exact hid

end Told

end AgnoRuntime
