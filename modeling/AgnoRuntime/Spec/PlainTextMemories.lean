import AgnoRuntime.Spec.RememberedFacts

/-!
# Memories that are plain text

`upsert_memory` writes a dict as JSON, and the platform writes the text of a memory as it is.
`read_memories` tells the two apart by parsing: what is no JSON is a text. But a text can be JSON of
another kind, a number for one, and then the id is assigned to a value that is no dict: one
such memory and none of the user's memories is read.
-/

namespace AgnoRuntime

open PlatformMemoryDb

/-- What `read_memories` should return for a stored memory: its id, its user and its age, and as
    the memory the text, unless that is a JSON object. -/
structure ReturnedAs (r : AgentMemory) (row : MemoryRow) : Prop where
  id : r.sourceMemoryId = some row.id
  userId : row.userId = r.userId
  lastUpdated : row.lastUpdated = some r.createdAt
  text : (¬∃ members, Json.loads r.content = some (.obj members)) →
    row.memory.get? "memory" = some (.str r.content)

/-- `read_memories` returns one row for each stored memory of the agent, or of the agent and the
    user. -/
def ReadsEach (scan : ScanOrder AgentMemory) (agentId : Uuid) (userId sort : Option String)
    (table : MemoryTable) : Prop :=
  ∃ rows results, rows.Perm (table.rows.filter (isRead agentId userId)) ∧
    readMemories scan agentId userId none sort table = .ok results ∧
    List.Forall₂ ReturnedAs rows results

/-- What is read of a row with a source. -/
theorem returnedAs_of_readRow {r : AgentMemory} {row : MemoryRow} (hsource : r.sourceMemoryId.isSome)
    (h : readRow r = .ok row) : ReturnedAs r row := by
  obtain ⟨row', hrow, hmemory⟩ := readRow_of_readable (readable_of_readRow h)
  obtain rfl := Except.ok.inj (h.symm.trans hrow)
  -- The fields are those of the row, whether its content is an object or a text.
  have hfields : row.id = r.sourceMemoryId.getD "" ∧ row.userId = r.userId ∧
      row.lastUpdated = some r.createdAt := by
    unfold readRow at h
    split at h
    · cases h
      exact ⟨rfl, rfl, rfl⟩
    · cases h
    · cases h
      exact ⟨rfl, rfl, rfl⟩
  obtain ⟨source, hsource⟩ := Option.isSome_iff_exists.mp hsource
  constructor
  · rw [hfields.1, hsource]
    rfl
  · exact hfields.2.1
  · exact hfields.2.2
  -- A content that is no object is the memory.
  · intro hobject
    exact (hmemory r.content).mpr (.inl ⟨(readable_of_readRow h).resolve_right hobject, rfl⟩)

/-- Without a limit, the rows that are selected are read. -/
theorem readRows_perm (scan : ScanOrder AgentMemory) (agentId : Uuid) (userId sort : Option String)
    (table : MemoryTable) : (readRows scan agentId userId none sort table).Perm
      (table.rows.filter (isRead agentId userId)) := by
  rw [readRows]
  split
  · exact (List.perm_insertionSort _ _).trans (scan.perm _)
  · exact (List.perm_insertionSort _ _).trans (scan.perm _)

/-- A readable row is one whose content is no JSON of another kind than an object. -/
theorem readable_iff {r : AgentMemory} :
    r.Readable ↔ ∀ v, Json.loads r.content = some v → ∃ members, v = .obj members := by
  constructor
  · intro h v hv
    rcases h with hnone | ⟨members, hmembers⟩
    · rw [hnone] at hv
      cases hv
    · exact ⟨members, Option.some.inj (hv.symm.trans hmembers)⟩
  · intro h
    cases hv : Json.loads r.content with
    | none => exact .inl hv
    | some v =>
      obtain ⟨members, rfl⟩ := h v hv
      exact .inr ⟨members, hv⟩

/-- The memories are read, each as what it is, exactly if none of them is JSON of another kind than
    an object. -/
theorem readMemories_each_iff (scan : ScanOrder AgentMemory) (agentId : Uuid)
    (userId sort : Option String) (table : MemoryTable) :
    ReadsEach scan agentId userId sort table ↔
      ∀ r ∈ table.rows, isRead agentId userId r = true →
        ∀ v, Json.loads r.content = some v → ∃ members, v = .obj members := by
  have hperm := readRows_perm scan agentId userId sort table
  have hmem : ∀ r, r ∈ readRows scan agentId userId none sort table ↔
      r ∈ table.rows ∧ isRead agentId userId r = true := by
    intro r
    rw [hperm.mem_iff, List.mem_filter]
  constructor
  · -- a single row that cannot be read makes the whole read fail
    intro h r hr hsel
    obtain ⟨-, results, -, hread, -⟩ := h
    obtain ⟨row, -, hrow⟩ := Except.exists_of_mapM_mem hread ((hmem r).mpr ⟨hr, hsel⟩)
    exact readable_iff.mp (readable_of_readRow hrow)
  · intro h
    have hrows : ∀ r ∈ readRows scan agentId userId none sort table, ∃ row, readRow r = .ok row := by
      intro r hr
      obtain ⟨hr, hsel⟩ := (hmem r).mp hr
      obtain ⟨row, hrow, -⟩ := readRow_of_readable (readable_iff.mpr (h r hr hsel))
      exact ⟨row, hrow⟩
    obtain ⟨results, hread⟩ := Except.exists_mapM_eq_ok hrows
    refine ⟨_, results, hperm, hread, ?_⟩
    have hsourced : ∀ r ∈ readRows scan agentId userId none sort table, r.sourceMemoryId.isSome := by
      intro r hr
      obtain ⟨-, hsel⟩ := (hmem r).mp hr
      exact (isSourced_iff.mp (Bool.and_eq_true_iff.mp hsel).1).2
    have hall := (List.forall₂_and_left _ _).mpr ⟨hsourced, Except.forall₂_of_mapM_eq_ok hread⟩
    exact hall.imp fun _ _ hrow => returnedAs_of_readRow hrow.1 hrow.2

/-- A user's memory is the text 42, which Agno extracted and the platform stored. -/
theorem readMemories_number :
    let table := MemoryEvent.run KeyedTable.empty [.sync 1 "ann" [⟨some "m1", some "42"⟩] 10]
    (table.rows.map fun r => (r.sourceMemoryId, r.content)) = [(some "m1", "42")] ∧
    readMemories .stored 1 (some "ann") none none table =
      .error (.other "object does not support item assignment") ∧
    ¬ReadsEach .stored 1 (some "ann") none table := by
  intro table
  have hread : readMemories .stored 1 (some "ann") none none table =
      .error (.other "object does not support item assignment") := rfl
  refine ⟨rfl, hread, fun h => ?_⟩
  obtain ⟨rows, results, -, hok, -⟩ := h
  rw [hread] at hok
  cases hok

end AgnoRuntime
