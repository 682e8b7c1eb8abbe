import AgnoRuntime.Model.EventTails

/-!
# What the tail of an entity delivers

Each poll asks for a page of 200 rows and loops over what it gets. That is a pair,
the rows and their number, so the loop asks a list for its `id`: the first poll ends
the tail, and no event is ever delivered.
-/

namespace AgnoRuntime

namespace EntityTail

variable {entityType entityId : String}

/-- The events of the entity that are committed. -/
def eventsOf (table : RuntimeEventTable) (entityType entityId : String) : List RuntimeEvent :=
  table.rows.filter fun e => e.entityType = entityType && e.entityId = entityId

/-- The table after a history. -/
def tableOf (history : List Step) : RuntimeEventTable :=
  history.foldl (fun table st =>
    match st with
    | .emit payload now => emitRuntimeEvent payload now table
    | .poll => table) KeyedTable.empty

/-- After each poll of the history what was yielded are the events committed
    before the poll, each once. -/
def DeliversAll (entityType entityId : String) (scan : Nat → ScanOrder RuntimeEvent)
    (history : List Step) : Prop :=
  ∀ before, before ++ [.poll] <+: history →
    (run entityType entityId scan (before ++ [.poll])).2.yielded.Perm
      (eventsOf (tableOf before) entityType entityId)

/-! ## Histories, one step longer -/

theorem run_concat (scan : Nat → ScanOrder RuntimeEvent) (history : List Step) (st : Step) :
    run entityType entityId scan (history ++ [st]) =
      step entityType entityId (scan history.length) (run entityType entityId scan history) st := by
  simp [run, List.zipIdx_append]

/-! ## The polls -/

/-- The first member of every page is a list, whatever the page holds. -/
theorem forward_membersOf (page : List RuntimeEvent × Nat) (tail : EntityTail) :
    tail.forward (LoopValue.membersOf page) =
      { tail with raised := some (attributeError "list" "id") } := rfl

/-- After a poll the tail has ended. -/
theorem raised_poll (scan : ScanOrder RuntimeEvent) (table : RuntimeEventTable)
    (tail : EntityTail) : (tail.poll scan table entityType entityId).raised ≠ none := by
  unfold poll
  cases h : tail.raised with
  | some exc => simp [h]
  | none => simp [forward_membersOf]

/-- A poll yields nothing. -/
theorem yielded_poll (scan : ScanOrder RuntimeEvent) (table : RuntimeEventTable)
    (tail : EntityTail) : (tail.poll scan table entityType entityId).yielded = tail.yielded := by
  unfold poll
  cases tail.raised with
  | some exc => rfl
  | none => rw [forward_membersOf]

/-- No history delivers an event. -/
theorem yielded_run (scan : Nat → ScanOrder RuntimeEvent) (history : List Step) :
    (run entityType entityId scan history).2.yielded = [] := by
  induction history using List.reverseRecOn with
  | nil => rfl
  | append_singleton history st ih =>
    rw [run_concat]
    cases st with
    | emit payload now => exact ih
    | poll =>
      show ((run entityType entityId scan history).2.poll _ _ _ _).yielded = []
      rw [yielded_poll, ih]

/-- The polls of a history deliver every event exactly when there is none to deliver, and each of
    them leaves the tail ended by an exception. -/
theorem stream_deliversAll_iff (entityType entityId : String)
    (scan : Nat → ScanOrder RuntimeEvent) (history : List Step) :
    (DeliversAll entityType entityId scan history ↔
      ∀ before, before ++ [.poll] <+: history →
        eventsOf (tableOf before) entityType entityId = []) ∧
    ∀ before, before ++ [.poll] <+: history →
      (run entityType entityId scan (before ++ [.poll])).2.raised ≠ none := by
  have hdelivers (before : List Step) :
      (run entityType entityId scan (before ++ [.poll])).2.yielded.Perm
        (eventsOf (tableOf before) entityType entityId) ↔
      eventsOf (tableOf before) entityType entityId = [] := by
    rw [yielded_run, List.nil_perm]
  constructor
  · unfold DeliversAll
    simp only [hdelivers]
  · intro before _
    rw [run_concat]
    exact raised_poll _ _ _

/-! ## One event -/

/-- A field change of one page. -/
def fieldChanged : RuntimeEventCreate where
  entityType := "page"
  entityId := "orders"
  eventName := "FieldChanged"
  payload := .obj []
  correlationId := none

/-- An event that is emitted before the first poll is not delivered. -/
theorem stream_loses_events :
    ¬ ∀ (entityType entityId : String) (scan : Nat → ScanOrder RuntimeEvent)
        (history : List Step), DeliversAll entityType entityId scan history := by
  intro h
  have hpoll := h "page" "orders" (fun _ => .stored) [.emit fieldChanged 0, .poll]
    [.emit fieldChanged 0] (List.prefix_refl _)
  rw [yielded_run, List.nil_perm] at hpoll
  exact absurd hpoll (by simp [eventsOf, tableOf, emitRuntimeEvent, fieldChanged])

end EntityTail

end AgnoRuntime
