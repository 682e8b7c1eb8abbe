import Mathlib.Data.Rat.Defs
import AgnoRuntime.ForStd.Runs
import AgnoRuntime.ForStd.UuidText
import AgnoRuntime.Model.Tables

/-!
# Cancelling runs

A run is streamed by one instance and cancelled through another (`app/core/run_control.py`,
`POST /runs/{id}/cancel` in `app/api/v1/runs.py`). The two share the row of the run and a key in
Redis that expires: the endpoint sets it, and the loop of `handle_chat_stream`
(`app/services/chat_service.py`) asks for it before it records an event of the engine.

Here all runs, all cancel requests, Redis and the clock are one system, whose steps interleave. Of
a turn, only what concerns the signal is kept: which events of the engine are committed and which
status the row has. The events themselves are a parameter.
-/

namespace AgnoRuntime

namespace RunControl

/-- `_key`. -/
def key (runId : Uuid) : String := "run:cancel:" ++ UuidText.text runId

/-- Where the streaming of a run stands. -/
inductive Turn (ε : Type) where
  /-- There is no row yet. -/
  | absent
  | pending
  /-- The loop waits for the engine. -/
  | waiting
  | polling (event : ε)
  | recording (event : ε)
  /-- `_handle_cancellation`, until its commit. -/
  | cancelling
  | clearing
  | over
deriving DecidableEq

/-- Where a request to `cancel_run` stands. -/
inductive CancelRequest where
  | arrived
  | read (status : RunStatus)
  | answered (status : RunStatus) (cancelRequested : Bool)
  /-- The key is set, but Redis did not say so, and the request failed. -/
  | lost (status : RunStatus)
  | notFound
  | failed
deriving DecidableEq

/-- The request has set the key of its run, which it saw as `status`. -/
def CancelRequest.HasSet (r : CancelRequest) (status : RunStatus) : Prop :=
  r = .answered status true ∨ r = .lost status

/-- The client has its answer, or its error. -/
def CancelRequest.isOver : CancelRequest → Bool
  | .arrived | .read _ => false
  | .answered _ _ | .lost _ | .notFound | .failed => true

/-- The clock, the keys in Redis with the time they expire, the committed rows and engine events,
    the turns and the cancel requests. -/
structure System (κ ε : Type) where
  clock : ℚ
  flags : String → Option ℚ
  status : Uuid → Option RunStatus
  recorded : Uuid → List ε
  turn : Uuid → Turn ε
  request : κ → CancelRequest

/-- A step of the system. -/
inductive Event (κ ε : Type) where
  | tick (clock : ℚ)
  | create (runId : Uuid)
  | start (runId : Uuid)
  | produce (runId : Uuid) (event : ε)
  | poll (runId : Uuid)
  | record (runId : Uuid)
  | finish (runId : Uuid)
  /-- The engine raises a `RuntimeExecutionError`. -/
  | engineError (runId : Uuid)
  | cancel (runId : Uuid)
  | clear (runId : Uuid)
  /-- A statement or a Redis command fails, the client leaves, or the process ends. -/
  | abort (runId : Uuid)
  | look (c : κ)
  | signal (c : κ)
  /-- `SET` takes effect, and the request fails. -/
  | lose (c : κ)
  | drop (c : κ)

section Step

variable {κ ε : Type} [DecidableEq κ]

namespace System

/-- Change where one turn stands. -/
def setTurn (s : System κ ε) (runId : Uuid) (t : Turn ε) : System κ ε :=
  { s with turn := fun i => if i = runId then t else s.turn i }

/-- Commit a status. -/
def setStatus (s : System κ ε) (runId : Uuid) (status : RunStatus) : System κ ε :=
  { s with status := fun i => if i = runId then some status else s.status i }

/-- Change where one request stands. -/
def setRequest (s : System κ ε) (c : κ) (r : CancelRequest) : System κ ε :=
  { s with request := fun d => if d = c then r else s.request d }

/-- Set or delete a key. -/
def setFlag (s : System κ ε) (name : String) (expiry : Option ℚ) : System κ ε :=
  { s with flags := fun other => if other = name then expiry else s.flags other }

/-- `request_cancel`. -/
def requestCancel (s : System κ ε) (ttl : ℚ) (runId : Uuid) : System κ ε :=
  s.setFlag (key runId) (some (s.clock + ttl))

/-- `is_cancelled`. -/
def isCancelled (s : System κ ε) (runId : Uuid) : Bool :=
  (s.flags (key runId)).any fun expiry => s.clock < expiry

/-- `clear_cancel`. -/
def clearCancel (s : System κ ε) (runId : Uuid) : System κ ε := s.setFlag (key runId) none

/-- `cancel_run`, up to its look at the row. -/
def look (s : System κ ε) (c : κ) (runId : Uuid) : System κ ε :=
  match s.status runId with
  | none => s.setRequest c .notFound
  | some status => s.setRequest c (.read status)

/-- The rest of `cancel_run`. -/
def answer (s : System κ ε) (ttl : ℚ) (c : κ) (runId : Uuid) (status : RunStatus) :
    System κ ε :=
  if status.isTerminal then s.setRequest c (.answered status false)
  else (s.requestCancel ttl runId).setRequest c (.answered status true)

/-- An event of the engine is committed. -/
def append (s : System κ ε) (runId : Uuid) (event : ε) : System κ ε :=
  { s with recorded := fun i => if i = runId then s.recorded i ++ [event] else s.recorded i }

variable (ttl : ℚ) (target : κ → Uuid)

/-- One step. -/
def step (s : System κ ε) : Event κ ε → Option (System κ ε)
  | .tick clock => if s.clock ≤ clock then some { s with clock } else none
  | .create i =>
    match s.turn i with
    | .absent => some ((s.setStatus i .pending).setTurn i .pending)
    | _ => none
  | .start i =>
    match s.turn i with
    | .pending => some ((s.setStatus i .running).setTurn i .waiting)
    | _ => none
  | .produce i event =>
    match s.turn i with
    | .waiting => some (s.setTurn i (.polling event))
    | _ => none
  | .poll i =>
    match s.turn i with
    | .polling event =>
      -- the event at hand is dropped
      if s.isCancelled i then some (s.setTurn i .cancelling)
      else some (s.setTurn i (.recording event))
    | _ => none
  | .record i =>
    match s.turn i with
    | .recording event => some ((s.append i event).setTurn i .waiting)
    | _ => none
  | .finish i =>
    match s.turn i with
    | .waiting => some ((s.setStatus i .completed).setTurn i .over)
    | _ => none
  | .engineError i =>
    match s.turn i with
    -- `stream.aclose()` is in the same `try`
    | .waiting | .cancelling => some ((s.setStatus i .failed).setTurn i .over)
    | _ => none
  | .cancel i =>
    match s.turn i with
    | .cancelling => some ((s.setStatus i .cancelled).setTurn i .clearing)
    | _ => none
  | .clear i =>
    match s.turn i with
    | .clearing => some ((s.clearCancel i).setTurn i .over)
    | _ => none
  | .abort i =>
    match s.turn i with
    | .absent | .over => none
    | _ => some (s.setTurn i .over)
  | .look c =>
    match s.request c with
    | .arrived => some (s.look c (target c))
    | _ => none
  | .signal c =>
    match s.request c with
    | .read status => some (s.answer ttl c (target c) status)
    | _ => none
  | .lose c =>
    match s.request c with
    | .read status =>
      if status.isTerminal then none
      else some ((s.requestCancel ttl (target c)).setRequest c (.lost status))
    | _ => none
  | .drop c =>
    match s.request c with
    | .arrived | .read _ => some (s.setRequest c .failed)
    | _ => none

/-- No run has begun, and no cancel request has come in. -/
def start (clock : ℚ) : System κ ε where
  clock := clock
  flags _ := none
  status _ := none
  recorded _ := []
  turn _ := .absent
  request _ := .arrived

end System

end Step

/-! ## A run that is cancelled while it records an event -/

namespace LongRun

def target (_ : Unit) : Uuid := 7

def events : List (Event Unit String) :=
  [.tick 10, .create 7, .start 7, .produce 7 "first", .poll 7, .look ()]

/-- What follows the signal. -/
def later : List (Event Unit String) :=
  [.record 7, .tick 20, .produce 7 "second", .poll 7, .cancel 7, .clear 7]

end LongRun

end RunControl

end AgnoRuntime
