import AgnoRuntime.Spec.MemoryStore

/-!
# Facts saved by `remember_fact`

The tool saves a row without a `source_memory_id`, and `read_memories` selects
rows that have one. So a saved fact stays in the table until it is deleted and
is never read; it is among the memories read only where Agno itself has stored
the same text for the same user.
-/

namespace AgnoRuntime

open PlatformMemoryDb

/-! ## The saved row -/

/-- The row `remember_fact` inserts. -/
def rememberedRow (table : MemoryTable) (agentId : Uuid) (userId fact : String) (now : Int) :
    AgentMemory where
  id := table.freshKey
  agentId := agentId
  userId := some userId
  memoryType := .fact
  content := fact
  sourceMemoryId := none
  createdAt := now
  updatedAt := now

/-- The row with this id is in the table after every event so far. -/
def KeptSince (id : Uuid) (table : MemoryTable) (events : List MemoryEvent) : Prop :=
  ∀ before, before <+: events → ∃ r ∈ (MemoryEvent.run table before).rows, r.id = id

/-- The tool, called for a user that is known, adds its row. -/
theorem apply_remember {userId : String} (huser : userId ≠ "") (table : MemoryTable)
    (agentId : Uuid) (fact : String) (now : Int) :
    (MemoryEvent.apply table (.remember agentId userId fact now)).rows =
      table.rows ++ [rememberedRow table agentId userId fact now] := by
  have htruthy : truthy (some userId) = true := by simpa [truthy] using huser
  simp only [MemoryEvent.apply, buildRememberTool, htruthy, if_true]
  rfl

/-- `record` keeps every row. -/
theorem mem_record {agentId : Uuid} {userId : Option String} {memoryType : MemoryType}
    {content : String} {sourceMemoryId : Option String} {now : Int} {table table' : MemoryTable}
    (h : MemoryService.record agentId userId memoryType content sourceMemoryId now table =
      .ok table') {r : AgentMemory} (hr : r ∈ table.rows) : r ∈ table'.rows := by
  rw [MemoryService.record, Except.bind_eq_ok] at h
  obtain ⟨_, -, h⟩ := h
  rw [Except.pure_eq_ok] at h
  rw [← h]
  simp [hr]

/-- An entry of `sync_from_agno` leaves a row without a source alone. -/
private theorem mem_syncEntry {agentId : Uuid} {userId : String} {now : Int}
    {table table' : MemoryTable} {um : MemoryService.UserMemory}
    (h : MemoryService.syncEntry agentId userId now table um = .ok table') {r : AgentMemory}
    (hr : r ∈ table.rows) (hnull : r.sourceMemoryId = none) : r ∈ table'.rows := by
  unfold MemoryService.syncEntry at h
  split at h
  -- An entry that is not stored changes nothing.
  · rw [Except.pure_eq_ok] at h
    exact h ▸ hr
  · rw [Except.pure_eq_ok] at h
    exact h ▸ hr
  · split at h
    · rw [Except.bind_eq_ok] at h
      obtain ⟨existing?, hfind, h⟩ := h
      cases existing? with
      | none => exact mem_record h hr
      | some existing =>
        rw [Except.pure_eq_ok] at h
        -- The row that is rewritten has a source, and this one has none.
        have hsel := List.mem_filter.mp (mem_of_scalarOneOrNone hfind)
        have hne : r.id ≠ existing.id := by
          intro hid
          have hsame := table.eq_of_key_eq hr hsel.1 hid
          rw [← hsame, hnull] at hsel
          simp at hsel
        rw [← h, KeyedTable.mem_rows_update]
        exact ⟨r, hr, (if_neg hne).symm⟩
    · exact mem_record h hr

/-- `sync_from_agno` leaves a row without a source alone. -/
private theorem mem_syncFromAgno {agentId : Uuid} {userId : String}
    {entries : List MemoryService.UserMemory} {now : Int} {table table' : MemoryTable}
    (h : MemoryService.syncFromAgno agentId userId entries now table = .ok table')
    {r : AgentMemory} (hr : r ∈ table.rows) (hnull : r.sourceMemoryId = none) :
    r ∈ table'.rows := by
  induction entries generalizing table with
  | nil =>
    rw [MemoryService.syncFromAgno, List.foldlM_nil, Except.pure_eq_ok] at h
    exact h ▸ hr
  | cons um entries ih =>
    rw [MemoryService.syncFromAgno, List.foldlM_cons, Except.bind_eq_ok] at h
    obtain ⟨table₁, hentry, hrest⟩ := h
    exact ih hrest (mem_syncEntry hentry hr hnull)

/-- An event keeps a row without a source, or deletes it by its id. -/
theorem mem_apply_or_gone {table : MemoryTable} {r : AgentMemory} (hr : r ∈ table.rows)
    (hnull : r.sourceMemoryId = none) (event : MemoryEvent) :
    r ∈ (event.apply table).rows ∨ ∀ r' ∈ (event.apply table).rows, r'.id ≠ r.id := by
  cases event with
  | db event => exact .inl (mem_apply_of_unsourced hr hnull event)
  -- Remembering, and syncing, only add rows beside it.
  | remember agentId userId fact now =>
    left
    by_cases huser : userId = ""
    · subst huser
      exact hr
    · rw [apply_remember huser]
      exact List.mem_append_left _ hr
  | sync agentId userId entries now =>
    left
    simp only [MemoryEvent.apply]
    split
    · rename_i htable
      exact mem_syncFromAgno htable hr hnull
    · exact hr
  -- A row is deleted by its id.
  | forget memoryId =>
    simp only [MemoryEvent.apply, deleteMemoryById]
    cases hfind : table.find? memoryId with
    | none => exact .inl hr
    | some found =>
      by_cases hid : r.id = memoryId
      · right
        intro r' hr'
        simp only [KeyedTable.rows_deleteWhere, List.mem_filter] at hr'
        simpa [hid] using hr'.2
      · exact .inl (by simp [hr, hid])

/-- A row without a source is kept as long as its id is. -/
theorem mem_run_of_keptSince {events : List MemoryEvent} {table : MemoryTable} {r : AgentMemory}
    (hr : r ∈ table.rows) (hnull : r.sourceMemoryId = none) (hkept : KeptSince r.id table events) :
    r ∈ (MemoryEvent.run table events).rows := by
  induction events generalizing table with
  | nil => exact hr
  | cons event events ih =>
    have hnext : r ∈ (event.apply table).rows := by
      obtain ⟨r', hr', hid⟩ := hkept [event] (List.cons_prefix_cons.mpr ⟨rfl, List.nil_prefix⟩)
      rcases mem_apply_or_gone hr hnull event with h | h
      · exact h
      · exact absurd hid (h r' hr')
    refine ih hnext fun before hinit => ?_
    exact hkept (event :: before) (List.cons_prefix_cons.mpr ⟨rfl, hinit⟩)

/-! ## What is read -/

/-- The stored memory says the fact: its text is the fact, or it is a dict whose
    `memory` is. -/
def AgentMemory.Says (r : AgentMemory) (fact : String) : Prop :=
  (Json.loads r.content = none ∧ r.content = fact) ∨
    ∃ members, Json.loads r.content = some (.obj members) ∧
      Json.get? members "memory" = some (.str fact)

/-- The stored content is no JSON, or a JSON object. -/
def AgentMemory.Readable (r : AgentMemory) : Prop :=
  Json.loads r.content = none ∨ ∃ members, Json.loads r.content = some (.obj members)

/-- The fact is among the memories read for the user. -/
def FactIsRead (scan : ScanOrder AgentMemory) (table : MemoryTable) (agentId : Uuid)
    (userId fact : String) : Prop :=
  ∃ memories, readMemories scan agentId (some userId) none none table = .ok memories ∧
    ∃ m ∈ memories, m.memory.get? "memory" = some (.str fact)

/-- What is read of a readable row says what the row says. -/
theorem readRow_of_readable {r : AgentMemory} (h : r.Readable) :
    ∃ m, readRow r = .ok m ∧ ∀ fact, m.memory.get? "memory" = some (.str fact) ↔ r.Says fact := by
  unfold readRow
  split
  · rename_i members hmembers
    refine ⟨_, rfl, fun fact => ?_⟩
    rw [Json.Dict.get?_setItem, if_neg (by decide)]
    simp [AgentMemory.Says, hmembers, Json.Dict.get?]
  · rename_i v hnot hv
    rcases h with h | ⟨members, h⟩
    · rw [h] at hv
      cases hv
    · exact absurd (Option.some.inj (hv.symm.trans h)) (hnot members)
  · rename_i hnone
    refine ⟨_, rfl, fun fact => ?_⟩
    rw [Json.Dict.get?_setItem, if_neg (by decide)]
    simp [AgentMemory.Says, hnone, Json.Dict.get?, Json.get?]

/-- A row that is read is readable. -/
theorem readable_of_readRow {r : AgentMemory} {m : MemoryRow} (h : readRow r = .ok m) :
    r.Readable := by
  unfold readRow at h
  split at h
  · rename_i members hmembers
    exact .inr ⟨members, hmembers⟩
  · cases h
  · rename_i hnone
    exact .inl hnone

/-- A fact is read exactly when every memory of the user is readable and one says it. -/
theorem factIsRead_iff (scan : ScanOrder AgentMemory) (table : MemoryTable) (agentId : Uuid)
    (userId fact : String) :
    FactIsRead scan table agentId userId fact ↔
      (∀ r ∈ table.rows, isRead agentId (some userId) r = true → r.Readable) ∧
        ∃ r ∈ table.rows, isRead agentId (some userId) r = true ∧ r.Says fact := by
  -- The scan returns the selected rows, in some order.
  have hmem (r : AgentMemory) : r ∈ readRows scan agentId (some userId) none none table ↔
      r ∈ table.rows ∧ isRead agentId (some userId) r = true := by
    simp [readRows]
  constructor
  · intro h
    obtain ⟨memories, hread, m, hm, hsays⟩ := h
    -- The read did not raise, so all selected rows are readable.
    have hreadable : ∀ r ∈ table.rows, isRead agentId (some userId) r = true → r.Readable := by
      intro r hr hsel
      obtain ⟨m', -, hm'⟩ := Except.exists_of_mapM_mem hread ((hmem r).mpr ⟨hr, hsel⟩)
      exact readable_of_readRow hm'
    refine ⟨hreadable, ?_⟩
    obtain ⟨r, hr, hrow⟩ := Except.exists_of_mem_mapM hread hm
    obtain ⟨hr, hsel⟩ := (hmem r).mp hr
    obtain ⟨m', hrow', hiff⟩ := readRow_of_readable (hreadable r hr hsel)
    rw [hrow, Except.ok.injEq] at hrow'
    subst hrow'
    exact ⟨r, hr, hsel, (hiff fact).mp hsays⟩
  · intro h
    -- All selected rows are readable, so the read returns.
    obtain ⟨hreadable, r, hr, hsel, hsays⟩ := h
    obtain ⟨memories, hread⟩ : ∃ memories,
        readMemories scan agentId (some userId) none none table = .ok memories := by
      refine Except.exists_mapM_eq_ok fun r' hr' => ?_
      obtain ⟨hr', hsel'⟩ := (hmem r').mp hr'
      obtain ⟨m, hm, -⟩ := readRow_of_readable (hreadable r' hr' hsel')
      exact ⟨m, hm⟩
    obtain ⟨m, hm, hrow⟩ := Except.exists_of_mapM_mem hread ((hmem r).mpr ⟨hr, hsel⟩)
    obtain ⟨m', hrow', hiff⟩ := readRow_of_readable (hreadable r hr hsel)
    rw [hrow, Except.ok.injEq] at hrow'
    subst hrow'
    exact ⟨memories, hread, m, hm, (hiff fact).mpr hsays⟩

/-- After any history in which the saved row was not deleted, it is still in the
    table, no reading depends on it, and its fact is read exactly when some row
    of the user that has a source says it (and every such row is readable). -/
theorem rememberFact_isRead_iff (before after : List MemoryEvent) (agentId : Uuid)
    {userId : String} (huser : userId ≠ "") (fact : String) (now : Int)
    (scan : ScanOrder AgentMemory) {saved : AgentMemory}
    (hsaved : saved =
      rememberedRow (MemoryEvent.run KeyedTable.empty before) agentId userId fact now)
    {table : MemoryTable}
    (htable : table =
      MemoryEvent.run KeyedTable.empty (before ++ .remember agentId userId fact now :: after))
    (hkept : KeptSince saved.id
      (MemoryEvent.run KeyedTable.empty (before ++ [.remember agentId userId fact now])) after) :
    saved ∈ table.rows ∧
      (∀ agentId' userId' limit sort,
        readMemories scan agentId' userId' limit sort (table.deleteWhere (·.id = saved.id)) =
          readMemories scan agentId' userId' limit sort table) ∧
      (FactIsRead scan table agentId userId fact ↔
        (∀ r ∈ table.rows, isRead agentId (some userId) r = true → r.Readable) ∧
          ∃ r ∈ table.rows, r ≠ saved ∧ isRead agentId (some userId) r = true ∧ r.Says fact) := by
  -- the tool leaves `source_memory_id` null, so no read of the engine selects the row
  have hnull : saved.sourceMemoryId = none := by rw [hsaved]; rfl
  have hunread (agentId' : Uuid) (userId' : Option String) :
      isRead agentId' userId' saved = false := by
    simp [isRead, isSourced, hnull]
  -- nothing after it deletes the row: it is still there when the table is read
  have hmem : saved ∈ table.rows := by
    have hfirst : saved ∈
        (MemoryEvent.run KeyedTable.empty (before ++ [.remember agentId userId fact now])).rows := by
      rw [MemoryEvent.run, List.foldl_append, List.foldl_cons, List.foldl_nil,
        apply_remember huser, hsaved]
      exact List.mem_append_right _ List.mem_cons_self
    have hrun := mem_run_of_keptSince hfirst hnull hkept
    rw [MemoryEvent.run, MemoryEvent.run, ← List.foldl_append, List.append_assoc] at hrun
    rw [htable]
    exact hrun
  refine ⟨hmem, fun agentId' userId' limit sort => ?_, ?_⟩
  -- taking the row out leaves the rows that a read selects as they are
  · have hrows : (table.deleteWhere (·.id = saved.id)).rows.filter (isRead agentId' userId') =
        table.rows.filter (isRead agentId' userId') := by
      have hother : ∀ r ∈ table.rows, isRead agentId' userId' r = true →
          decide (r.id = saved.id) = false := by
        intro r hr hread
        refine decide_eq_false fun hid => ?_
        rw [table.eq_of_key_eq hr hmem hid, hunread] at hread
        cases hread
      rw [KeyedTable.rows_deleteWhere, List.filter_filter]
      refine List.filter_congr fun r hr => ?_
      cases hread : isRead agentId' userId' r with
      | false => rfl
      | true => simp [hother r hr hread]
    simp only [readMemories, readRows, hrows]
  · rw [factIsRead_iff]
    refine and_congr_right fun _ => exists_congr fun r => and_congr_right fun _ => ?_
    constructor
    · intro h
      refine ⟨fun hr => ?_, h⟩
      rw [hr, hunread] at h
      cases h.1
    · exact fun h => h.2

/-- Ann's agent saves a fact, and Agno stores another memory of hers afterwards. -/
theorem rememberFact_isRead_iff_example :
    let fact := "Ann is a nurse"
    let after := [MemoryEvent.db (.upsert 1 (.ofText "m1" "ann" "likes tea") 20)]
    let saved := rememberedRow KeyedTable.empty 1 "ann" fact 10
    let table := MemoryEvent.run KeyedTable.empty (.remember 1 "ann" fact 10 :: after)
    FactIsRead .stored table 1 "ann" fact ↔
      (∀ r ∈ table.rows, isRead 1 (some "ann") r = true → r.Readable) ∧
        ∃ r ∈ table.rows, r ≠ saved ∧ isRead 1 (some "ann") r = true ∧ r.Says fact := by
  refine (rememberFact_isRead_iff [] _ 1 (by decide) "Ann is a nurse" 10 .stored rfl rfl ?_).2.2
  intro before hinit
  rcases List.prefix_cons_iff.mp hinit with rfl | ⟨rest, rfl, hrest⟩
  · exact ⟨rememberedRow KeyedTable.empty 1 "ann" "Ann is a nurse" 10, List.mem_cons_self, rfl⟩
  · rw [List.prefix_nil.mp hrest]
    exact ⟨rememberedRow KeyedTable.empty 1 "ann" "Ann is a nurse" 10, List.mem_cons_self, rfl⟩

/-- A fact just saved is not among the memories read. -/
theorem rememberFact_not_read :
    ¬ ∀ (before after : List MemoryEvent) (agentId : Uuid) (userId fact : String) (now : Int)
        (scan : ScanOrder AgentMemory), userId ≠ "" →
      KeptSince (rememberedRow (MemoryEvent.run KeyedTable.empty before) agentId userId fact now).id
        (MemoryEvent.run KeyedTable.empty (before ++ [.remember agentId userId fact now])) after →
      FactIsRead scan
        (MemoryEvent.run KeyedTable.empty (before ++ .remember agentId userId fact now :: after))
        agentId userId fact := by
  intro h
  obtain ⟨memories, hread, m, hm, -⟩ := h [] [] 1 "ann" "Ann is a nurse" 10 .stored (by decide) (by
    intro before hinit
    rw [List.prefix_nil.mp hinit]
    exact ⟨rememberedRow KeyedTable.empty 1 "ann" "Ann is a nurse" 10, List.mem_cons_self, rfl⟩)
  have hnone : readMemories .stored 1 (some "ann") none none
      (MemoryEvent.run KeyedTable.empty [.remember 1 "ann" "Ann is a nurse" 10]) = .ok [] := rfl
  have hempty : memories = [] := Except.ok.inj (hread.symm.trans hnone)
  rw [hempty] at hm
  cases hm

end AgnoRuntime
