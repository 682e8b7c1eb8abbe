import AgnoRuntime.Spec.Outcomes
import AgnoRuntime.Spec.TurnViews

/-!
# What can strike a request

The database may refuse a statement, a Redis command may fail, the client may be
gone. What lies outside decides this by the moment the request has come to: how many
exchanges there were, how many items were sent, and the tables. Here is what each
operation of the session asks of it in order to return.
-/

namespace AgnoRuntime

open Svc Prog

/-! ## Moments -/

/-- Where a request stands, as far as the outside can tell. -/
structure Moment where
  ticks : Nat
  sent : Nat
  calls : Nat
  db : Db

/-- The moment a world is in. -/
def World.moment (w : World) : Moment where
  ticks := w.ticks
  sent := w.yielded.length
  calls := w.engineCalls.length
  db := w.working

namespace Moment

/-- A statement later. -/
def wrote (m : Moment) (f : Db → Db) : Moment :=
  { m with
    ticks := m.ticks + 1
    db := f m.db }

/-- Some statements later. -/
def wroteAll (m : Moment) (writes : List (Statement × (Db → Db))) : Moment :=
  writes.foldl (fun m write => m.wrote write.2) m

/-- After tools have been used. -/
def tooled {args : RunArgs} (m : Moment) (writes : ToolWrites args) : Moment :=
  { m with db := writes.apply m.db }

/-- A Redis command later. -/
def commanded (m : Moment) : Moment := { m with ticks := m.ticks + 1 }

/-- An item later. -/
def shown (m : Moment) : Moment := { m with sent := m.sent + 1 }

/-- A call of the engine later. -/
def called (m : Moment) : Moment := { m with calls := m.calls + 1 }

end Moment

section Moments

variable (w : World)

@[simp] theorem moment_wrote (s : Statement) (f : Db → Db) :
    (w.wrote s f).moment = w.moment.wrote f := rfl

@[simp] theorem moment_saved : w.saved.moment = w.moment.wrote id := rfl

@[simp] theorem moment_tooled {args : RunArgs} (writes : ToolWrites args) :
    (w.tooled writes).moment = w.moment.tooled writes := rfl

@[simp] theorem moment_commanded (f : Redis → Redis) :
    (w.commanded f).moment = w.moment.commanded := rfl

@[simp] theorem moment_shown (item : StreamItem) : (w.shown item).moment = w.moment.shown := by
  rw [World.moment, World.shown_yielded, List.length_append]
  rfl

@[simp] theorem moment_called (call : EngineCall) : (w.called call).moment = w.moment.called := by
  simp [World.moment, Moment.called, World.called]

end Moments

/-- The database takes the statements, one after the other. -/
def Takes (env : Env) : List (Statement × (Db → Db)) → Moment → Prop
  | [], _ => True
  | (s, f) :: writes, m =>
    env.refuses m.ticks s (f m.db) = none ∧ Takes env writes (m.wrote f)

/-! ## Operations that return -/

section Returning

variable {env : Env} {w : World} {Q : Unit → World → Prop}

theorem returns_useTools {args : RunArgs} (writes : ToolWrites args) :
    Returns (useTools writes) Q w ↔ Q () (w.tooled writes) :=
  returns_of_ok (useTools_apply writes w)

theorem returns_write (hw : w.failed = false) (s : Statement) (f : Db → Db) :
    Returns (write env s f) Q w ↔
      env.refuses w.ticks s (f w.working) = none ∧ Q () (w.wrote s f) := by
  cases hrefuses : env.refuses w.ticks s (f w.working) with
  | none => simp only [returns_of_ok (write_apply hw hrefuses), true_and]
  | some message =>
    simp only [not_returns_of_error (write_apply_refused hw hrefuses), reduceCtorEq, false_and]

theorem returns_commit (hw : w.failed = false) :
    Returns (commit env) Q w ↔ env.refuses w.ticks .commit w.working = none ∧ Q () w.saved := by
  cases hrefuses : env.refuses w.ticks .commit w.working with
  | none => simp only [returns_of_ok (commit_apply hw hrefuses), true_and]
  | some message =>
    have herror : commit env w =
        (.error (.other message), { w with failed := true, ticks := w.ticks + 1 }) := by
      rw [commit, bind_apply_error (send_apply_refused hw hrefuses)]
    simp only [not_returns_of_error herror, reduceCtorEq, false_and]

theorem returns_redisCommand (f : Redis → Redis) :
    Returns (redisCommand env f) Q w ↔
      env.redisFails w.ticks = none ∧ Q () (w.commanded f) := by
  cases hfails : env.redisFails w.ticks with
  | none =>
    have hok : redisCommand env f w = (.ok (), w.commanded f) := by
      rw [redisCommand, hfails]
      rfl
    simp only [returns_of_ok hok, true_and]
  | some message =>
    have herror : redisCommand env f w =
        (.error (.other message), { w with ticks := w.ticks + 1 }) := by
      rw [redisCommand, hfails]
    simp only [not_returns_of_error herror, reduceCtorEq, false_and]

theorem returns_isCancelled {Q : Bool → World → Prop} (runId : Uuid) :
    Returns (isCancelled env runId) Q w ↔ env.redisFails w.ticks = none ∧
      Q (env.cancelRequested w.ticks runId) (w.commanded id) := by
  rw [isCancelled, returns_bind, returns_of_ok (read_apply w), returns_bind, returns_redisCommand,
    returns_pure]

/-- An item for a client that is there. -/
theorem yieldItem_apply (item : StreamItem) (h : env.closes w.yielded.length = false) :
    yieldItem env item w = (.ok (), w.shown item) := by
  rw [yieldItem, bind_apply_ok (read_apply w), bind_apply_ok (modify_apply _ w), h]
  rfl

/-- An item for a client that is gone. -/
theorem yieldItem_apply_closed (item : StreamItem) (h : env.closes w.yielded.length = true) :
    yieldItem env item w = (.error .generatorExit, w.shown item) := by
  rw [yieldItem, bind_apply_ok (read_apply w), bind_apply_ok (modify_apply _ w), h]
  rfl

theorem returns_yieldItem (item : StreamItem) :
    Returns (yieldItem env item) Q w ↔
      env.closes w.yielded.length = false ∧ Q () (w.shown item) := by
  cases hcloses : env.closes w.yielded.length with
  | true =>
    simp only [not_returns_of_error (yieldItem_apply_closed item hcloses), Bool.true_eq_false,
      false_and]
  | false => simp only [returns_of_ok (yieldItem_apply item hcloses), true_and]

end Returning

/-! ## What they raise -/

section Foreign

variable {env : Env}

/-- An exception that is none of the engine's. -/
abbrev Foreign (exc : PyError) : Prop := exc.isRuntimeExecution = false

/-- `RuntimeExecutionError` is an `Exception`. -/
theorem foreign_of_not_exception {exc : PyError} (h : exc.isException = false) : Foreign exc := by
  cases exc with
  | runtimeExecution message => cases h
  | _ => rfl

/-- A client that is gone is no `RuntimeExecutionError`. -/
theorem foreign_yieldItem (item : StreamItem) : RaisesOnly Foreign (yieldItem env item) := by
  intro w exc w' h
  rw [yieldItem, bind_apply_ok (read_apply w), bind_apply_ok (modify_apply _ w)] at h
  split at h
  · rw [raise_apply, Prod.mk.injEq, Except.error.injEq] at h
    rw [← h.1]
    rfl
  · cases congrArg Prod.fst h

/-- Neither is a Redis command that fails. -/
theorem foreign_redisCommand (f : Redis → Redis) : RaisesOnly Foreign (redisCommand env f) := by
  intro w exc w' h
  rw [redisCommand] at h
  split at h
  · rw [Prod.mk.injEq, Except.error.injEq] at h
    rw [← h.1]
    rfl
  · cases congrArg Prod.fst h

/-- Neither is the database. -/
theorem foreign_send (s : Statement) : RaisesOnly Foreign (send env s) := by
  intro w exc w' h
  rw [send] at h
  split at h
  · rw [Prod.mk.injEq, Except.error.injEq] at h
    rw [← h.1]
    rfl
  · split at h
    · rw [Prod.mk.injEq, Except.error.injEq] at h
      rw [← h.1]
      rfl
    · cases congrArg Prod.fst h

theorem foreign_modify (f : World → World) : RaisesOnly Foreign (Prog.modify f : Svc Unit) :=
  fun _ _ _ h => by cases congrArg Prod.fst h

theorem foreign_write (s : Statement) (f : Db → Db) : RaisesOnly Foreign (write env s f) :=
  raisesOnly_bind (foreign_modify _) fun _ => foreign_send s

theorem foreign_commit : RaisesOnly Foreign (commit env) :=
  raisesOnly_bind (foreign_send _) fun _ => foreign_modify _

theorem foreign_isCancelled (runId : Uuid) : RaisesOnly Foreign (isCancelled env runId) :=
  raisesOnly_bind (fun _ _ _ h => by cases congrArg Prod.fst h) fun _ =>
    raisesOnly_bind (foreign_redisCommand _) fun _ => raisesOnly_pure _

end Foreign

end AgnoRuntime
