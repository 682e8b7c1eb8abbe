import AgnoRuntime.Model.Memory

/-!
# The memory store as a map

What `PlatformMemoryDb` is for: a map from an agent, a user and the memory's id
to the memory. The table represents the map (`Represents`) as long as no
upsert carries an id that the same agent keeps for another user, because
`upsert_memory` looks a memory up by agent and id alone.
-/

namespace AgnoRuntime

/-! ## The map -/

/-- A stored memory and when it was first stored. -/
structure MemoryEntry where
  memory : Json.Dict
  createdAt : Int

/-- The memories by agent, user and id. -/
abbrev MemoryMap := Uuid → Option String → String → Option MemoryEntry

namespace MemoryMap

/-- Store a memory under its user; a memory that is there keeps its place in time. -/
def upsert (map : MemoryMap) (agentId : Uuid) (memory : MemoryRow) (now : Int) : MemoryMap :=
  fun a u id =>
    if a = agentId ∧ u = memory.userId ∧ id = memory.id then
      some ⟨memory.memory, ((map a u id).map MemoryEntry.createdAt).getD now⟩
    else map a u id

/-- What a call means for the map. -/
def apply (map : MemoryMap) : MemoryDbEvent → MemoryMap
  | .upsert agentId memory now => map.upsert agentId memory now
  | .delete agentId memoryId => fun a u id => if a = agentId ∧ id = memoryId then none else map a u id
  | .clear agentId => fun a u id => if a = agentId then none else map a u id
  | .platformRow _ _ _ _ _ => map

/-- The map after a history of calls. -/
def of (events : List MemoryDbEvent) : MemoryMap :=
  events.foldl apply fun _ _ _ => none

/-- How an entry is read back: its dict with `memory_id` set. -/
def row (userId : String) (id : String) (entry : MemoryEntry) : MemoryRow where
  id := id
  userId := some userId
  memory := entry.memory.setItem "memory_id" (Json.ofString id)
  lastUpdated := some entry.createdAt

/-- The list is a reading of a user's memories: each entry once, the oldest first. -/
def IsReading (map : MemoryMap) (agentId : Uuid) (userId : String) (memories : List MemoryRow) :
    Prop :=
  ∃ entries : List (String × MemoryEntry),
    memories = entries.map (fun p => row userId p.1 p.2) ∧
      entries.Pairwise (fun p q => p.2.createdAt ≤ q.2.createdAt) ∧
      (entries.map Prod.fst).Nodup ∧
      ∀ id entry, (id, entry) ∈ entries ↔ map agentId (some userId) id = some entry

end MemoryMap

/-! ## The condition -/

/-- No upsert carries an id that its agent keeps for another user. -/
def MemoryDbEvent.KeepsUsersApart (map : MemoryMap) : MemoryDbEvent → Prop
  | upsert agentId memory _ =>
    ∀ userId entry, map agentId userId memory.id = some entry → userId = memory.userId
  | _ => True

/-- Every call of the history keeps the users of an agent apart. -/
def UsersApart (events : List MemoryDbEvent) : Prop :=
  ∀ before event, before ++ [event] <+: events → event.KeepsUsersApart (MemoryMap.of before)

/-- The agent a call is about. -/
def MemoryDbEvent.agent : MemoryDbEvent → Uuid
  | upsert agentId _ _ | delete agentId _ | clear agentId | platformRow agentId _ _ _ _ => agentId

/-! ## The table represents the map -/

/-- The rows with a source are the entries of the map, one row an entry. -/
structure Represents (table : MemoryTable) (map : MemoryMap) : Prop where
  stored : ∀ r ∈ table.rows, ∀ id, r.sourceMemoryId = some id →
    ∃ entry, map r.agentId r.userId id = some entry ∧
      r.content = Json.dumps (.obj entry.memory.members) ∧ r.createdAt = entry.createdAt
  found : ∀ a u id entry, map a u id = some entry →
    ∃ r ∈ table.rows, r.agentId = a ∧ r.userId = u ∧ r.sourceMemoryId = some id
  once : ∀ r ∈ table.rows, ∀ r' ∈ table.rows, r.agentId = r'.agentId →
    r.sourceMemoryId.isSome → r.sourceMemoryId = r'.sourceMemoryId → r = r'

namespace PlatformMemoryDb

theorem isSource_iff {agentId : Uuid} {sourceId : String} {r : AgentMemory} :
    isSource agentId sourceId r = true ↔ r.agentId = agentId ∧ r.sourceMemoryId = some sourceId := by
  simp [isSource]

theorem isSourced_iff {agentId : Uuid} {r : AgentMemory} :
    isSourced agentId r = true ↔ r.agentId = agentId ∧ r.sourceMemoryId.isSome := by
  simp [isSourced]

/-- What `read_memories` selects for a user. -/
theorem isRead_some_iff {agentId : Uuid} {userId : String} {r : AgentMemory} :
    isRead agentId (some userId) r = true ↔
      r.agentId = agentId ∧ r.sourceMemoryId.isSome ∧ r.userId = some userId := by
  simp [isRead, isSourced, and_assoc]

end PlatformMemoryDb

open PlatformMemoryDb

/-- The row an upsert leaves behind keeps who and when. -/
private theorem upserted_fields (content : String) (now : Int) (agentId : Uuid) (id : String)
    (r : AgentMemory) :
    let r' := if isSource agentId id r then { r with content := content, updatedAt := now } else r
    r'.agentId = r.agentId ∧ r'.userId = r.userId ∧ r'.sourceMemoryId = r.sourceMemoryId ∧
      r'.createdAt = r.createdAt ∧ r'.id = r.id := by
  dsimp only
  split <;> simp

/-- An upsert whose id the table has changes that row only. -/
private theorem represents_update {table : MemoryTable} {map : MemoryMap} (h : Represents table map)
    {agentId : Uuid} {memory : MemoryRow} {now : Int}
    (hapart : (MemoryDbEvent.upsert agentId memory now).KeepsUsersApart map) {r₀ : AgentMemory}
    (hr₀ : r₀ ∈ table.rows) (hsource : isSource agentId memory.id r₀ = true) :
    Represents
      (table.updateWhere (isSource agentId memory.id)
        (fun r => { r with
          content := Json.dumps (.obj memory.memory.members)
          updatedAt := now }) (fun _ => rfl))
      (map.upsert agentId memory now) := by
  obtain ⟨hagent₀, hid₀⟩ := isSource_iff.mp hsource
  obtain ⟨entry₀, hentry₀, -, hcreated₀⟩ := h.stored r₀ hr₀ memory.id hid₀
  rw [hagent₀] at hentry₀
  have huser₀ : r₀.userId = memory.userId := hapart r₀.userId entry₀ hentry₀
  have hfields := upserted_fields (Json.dumps (.obj memory.memory.members)) now agentId memory.id
  refine ⟨?stored, ?found, ?once⟩
  case stored =>
    intro r' hr' id hid
    obtain ⟨r, hr, rfl⟩ := List.mem_map.mp hr'
    obtain ⟨hagent, huser, hsrc, hcreated, -⟩ := hfields r
    rw [hsrc] at hid
    rw [hagent, huser, hcreated]
    by_cases hr₀r : isSource agentId memory.id r = true
    · -- the row the statement selects: it is the one of the memory's own user
      obtain ⟨hag, hsid⟩ := isSource_iff.mp hr₀r
      have hsame : r = r₀ := by
        refine h.once r hr r₀ hr₀ (hag.trans hagent₀.symm) ?_ (hsid.trans hid₀.symm)
        rw [hsid]
        rfl
      subst hsame
      have hidm : id = memory.id := Option.some.inj (hid.symm.trans hsid)
      subst hidm
      refine ⟨⟨memory.memory, r.createdAt⟩, ?_, by rw [if_pos hr₀r], rfl⟩
      rw [MemoryMap.upsert, if_pos ⟨hag, huser₀, rfl⟩, hag, hentry₀, hcreated₀]
      rfl
    · obtain ⟨entry, hentry, hcontent, hat⟩ := h.stored r hr id hid
      refine ⟨entry, ?_, by rw [if_neg hr₀r, hcontent], hat⟩
      rw [MemoryMap.upsert, if_neg, hentry]
      intro hkey
      exact hr₀r (isSource_iff.mpr ⟨hkey.1, hkey.2.2 ▸ hid⟩)
  case found =>
    intro a u id entry hentry
    have hrow : ∃ r ∈ table.rows, r.agentId = a ∧ r.userId = u ∧ r.sourceMemoryId = some id := by
      rw [MemoryMap.upsert] at hentry
      split at hentry
      · rename_i hkey
        exact ⟨r₀, hr₀, hagent₀.trans hkey.1.symm, huser₀.trans hkey.2.1.symm,
          hkey.2.2 ▸ hid₀⟩
      · exact h.found a u id entry hentry
    obtain ⟨r, hr, hag, hus, hsid⟩ := hrow
    obtain ⟨hagent, huser, hsrc, -, -⟩ := hfields r
    exact ⟨_, List.mem_map_of_mem hr, hagent.trans hag, huser.trans hus, hsrc.trans hsid⟩
  case once =>
    intro r₁ hr₁ r₂ hr₂ hag hsome hsid
    obtain ⟨r, hr, rfl⟩ := List.mem_map.mp hr₁
    obtain ⟨r', hr', rfl⟩ := List.mem_map.mp hr₂
    obtain ⟨hagent, -, hsrc, -, -⟩ := hfields r
    obtain ⟨hagent', -, hsrc', -, -⟩ := hfields r'
    have hrr' : r = r' := h.once r hr r' hr' (hagent.symm.trans (hag.trans hagent'))
      (hsrc ▸ hsome) (hsrc.symm.trans (hsid.trans hsrc'))
    rw [hrr']

/-- An upsert whose id the table does not have adds a row. -/
private theorem represents_insert {table : MemoryTable} {map : MemoryMap} (h : Represents table map)
    {agentId : Uuid} {memory : MemoryRow} {now : Int}
    (hnone : table.rows.any (isSource agentId memory.id) = false)
    {mk : Nat → AgentMemory} (hmk : ∀ k, (mk k).id = k)
    (hrow : ∀ k, (mk k).agentId = agentId ∧ (mk k).userId = memory.userId ∧
      (mk k).sourceMemoryId = some memory.id ∧
      (mk k).content = Json.dumps (.obj memory.memory.members) ∧ (mk k).createdAt = now) :
    Represents (table.insertFresh mk hmk) (map.upsert agentId memory now) := by
  obtain ⟨hagent, huser, hsrc, hcontent, hcreated⟩ := hrow table.freshKey
  -- the branch was taken because no row has this agent and this source id
  have hfree : ∀ r ∈ table.rows, ¬(r.agentId = agentId ∧ r.sourceMemoryId = some memory.id) := by
    intro r hr hkey
    have hfalse := List.any_eq_false.mp hnone r hr
    exact hfalse (isSource_iff.mpr hkey)
  -- so the abstract map has no entry there for any user
  have hnew : ∀ u, map agentId u memory.id = none := by
    intro u
    cases hentry : map agentId u memory.id with
    | none => rfl
    | some entry =>
      obtain ⟨r, hr, hag, -, hsid⟩ := h.found agentId u memory.id entry hentry
      exact absurd ⟨hag, hsid⟩ (hfree r hr)
  refine ⟨?stored, ?found, ?once⟩
  case stored =>
    intro r hr id hid
    rw [KeyedTable.rows_insertFresh, List.mem_append, List.mem_singleton] at hr
    rcases hr with hr | rfl
    · obtain ⟨entry, hentry, hrest⟩ := h.stored r hr id hid
      refine ⟨entry, ?_, hrest⟩
      rw [MemoryMap.upsert, if_neg, hentry]
      intro hkey
      exact hfree r hr ⟨hkey.1, hkey.2.2 ▸ hid⟩
    · have hidm : memory.id = id := Option.some.inj (hsrc.symm.trans hid)
      subst hidm
      refine ⟨⟨memory.memory, now⟩, ?_, hcontent, hcreated⟩
      rw [MemoryMap.upsert, if_pos ⟨hagent, huser, rfl⟩, hagent, hnew]
      rfl
  case found =>
    intro a u id entry hentry
    rw [MemoryMap.upsert] at hentry
    split at hentry
    · rename_i hkey
      obtain ⟨rfl, rfl, rfl⟩ := hkey
      exact ⟨mk table.freshKey, by simp, hagent, huser, hsrc⟩
    · obtain ⟨r, hr, hkey⟩ := h.found a u id entry hentry
      exact ⟨r, by simp [hr], hkey⟩
  case once =>
    intro r hr r' hr' hag hsome hsid
    rw [KeyedTable.rows_insertFresh, List.mem_append, List.mem_singleton] at hr hr'
    rcases hr with hr | rfl
    · rcases hr' with hr' | rfl
      · exact h.once r hr r' hr' hag hsome hsid
      · exact absurd ⟨hag.trans hagent, hsid.trans hsrc⟩ (hfree r hr)
    · rcases hr' with hr' | rfl
      · exact absurd ⟨hag.symm.trans hagent, hsid.symm.trans hsrc⟩ (hfree r' hr')
      · rfl

/-- Removing the rows of some keys removes the entries of these keys. -/
private theorem represents_deleteWhere {table : MemoryTable} {map : MemoryMap}
    (h : Represents table map) {p : AgentMemory → Bool} {map' : MemoryMap}
    (hgone : ∀ r ∈ table.rows, ∀ id, r.sourceMemoryId = some id →
      map' r.agentId r.userId id = if p r then none else map r.agentId r.userId id)
    (hkept : ∀ a u id entry, map' a u id = some entry → map a u id = some entry) :
    Represents (table.deleteWhere p) map' := by
  have hmem {r : AgentMemory} : r ∈ (table.deleteWhere p).rows ↔ r ∈ table.rows ∧ p r = false := by
    simp
  refine ⟨?stored, ?found, ?once⟩
  case stored =>
    intro r hr id hid
    -- A row that is left has kept its entry.
    obtain ⟨hr, hp⟩ := hmem.mp hr
    obtain ⟨entry, hentry, hrest⟩ := h.stored r hr id hid
    refine ⟨entry, ?_, hrest⟩
    rw [hgone r hr id hid, hp, hentry]
    rfl
  case found =>
    intro a u id entry hentry
    -- The row of an entry that is left is not deleted.
    obtain ⟨r, hr, rfl, rfl, hsid⟩ := h.found a u id entry (hkept a u id entry hentry)
    refine ⟨r, hmem.mpr ⟨hr, ?_⟩, rfl, rfl, hsid⟩
    rw [hgone r hr id hsid] at hentry
    cases hp : p r with
    | false => rfl
    | true =>
      rw [hp] at hentry
      cases hentry
  case once =>
    -- There are fewer rows than before.
    intro r hr r' hr'
    exact h.once r (hmem.mp hr).1 r' (hmem.mp hr').1

/-- A platform row is no entry. -/
private theorem represents_platformRow {table : MemoryTable} {map : MemoryMap}
    (h : Represents table map) {mk : Nat → AgentMemory} (hmk : ∀ k, (mk k).id = k)
    (hnull : ∀ k, (mk k).sourceMemoryId = none) : Represents (table.insertFresh mk hmk) map := by
  -- A row with a source is one of the old rows.
  have hmem {r : AgentMemory} (hr : r ∈ (table.insertFresh mk hmk).rows)
      (hsome : r.sourceMemoryId.isSome) : r ∈ table.rows := by
    rw [KeyedTable.rows_insertFresh, List.mem_append, List.mem_singleton] at hr
    rcases hr with hr | rfl
    · exact hr
    · rw [hnull] at hsome
      cases hsome
  refine ⟨?stored, ?found, ?once⟩
  case stored =>
    intro r hr id hid
    exact h.stored r (hmem hr (by rw [hid]; rfl)) id hid
  case found =>
    intro a u id entry hentry
    obtain ⟨r, hr, hkey⟩ := h.found a u id entry hentry
    -- The row of an entry is still there.
    exact ⟨r, by simp [hr], hkey⟩
  case once =>
    intro r hr r' hr' hag hsome hsid
    exact h.once r (hmem hr hsome) r' (hmem hr' (hsid ▸ hsome)) hag hsome hsid

/-- The table after a platform row is made. -/
theorem apply_platformRow (table : MemoryTable) (agentId : Uuid) (userId : Option String)
    (memoryType : MemoryType) (content : String) (now : Int) :
    MemoryDbEvent.apply table (.platformRow agentId userId memoryType content now) =
      table.insertFresh (fun id =>
        { id, agentId, userId, memoryType, content
          sourceMemoryId := none
          createdAt := now
          updatedAt := now }) (fun _ => rfl) := by
  simp [MemoryDbEvent.apply, MemoryService.record, pure, Except.pure]

/-- A call that keeps the users apart keeps the table a representation of the map. -/
theorem Represents.apply {table : MemoryTable} {map : MemoryMap} (h : Represents table map)
    {event : MemoryDbEvent} (hapart : event.KeepsUsersApart map) :
    Represents (event.apply table) (map.apply event) := by
  cases event with
  | upsert agentId memory now =>
    simp only [MemoryDbEvent.apply, upsertMemory, MemoryMap.apply]
    -- an existing source id is updated in place, a new one inserted
    split
    · rename_i hany
      obtain ⟨r₀, hr₀, hsource⟩ := List.any_eq_true.mp hany
      exact represents_update h hapart hr₀ hsource
    · rename_i hany
      refine represents_insert h (Bool.not_eq_true _ ▸ hany) _ fun k => ?_
      exact ⟨rfl, rfl, rfl, rfl, rfl⟩
  | delete agentId memoryId =>
    refine represents_deleteWhere h (fun r hr id hid => ?_) fun a u id entry hentry => ?_
    · have hiff : (r.agentId = agentId ∧ id = memoryId) ↔ isSource agentId memoryId r = true := by
        rw [isSource_iff, hid, Option.some.injEq]
      simp only [MemoryMap.apply, hiff]
    · simp only [MemoryMap.apply] at hentry
      split at hentry
      · cases hentry
      · exact hentry
  | clear agentId =>
    refine represents_deleteWhere h (fun r hr id hid => ?_) fun a u id entry hentry => ?_
    · have hiff : r.agentId = agentId ↔ isSourced agentId r = true := by
        rw [isSourced_iff, hid]
        simp
      simp only [MemoryMap.apply, hiff]
    · simp only [MemoryMap.apply] at hentry
      split at hentry
      · cases hentry
      · exact hentry
  | platformRow agentId userId memoryType content now =>
    rw [apply_platformRow]
    exact represents_platformRow h _ fun _ => rfl

/-- The empty table represents the empty map. -/
theorem represents_empty : Represents KeyedTable.empty (fun _ _ _ => none) where
  stored := fun _ hr => by cases hr
  found := fun _ _ _ _ hentry => by cases hentry
  once := fun _ hr => by cases hr

theorem table_concat (events : List MemoryDbEvent) (event : MemoryDbEvent) :
    MemoryDbEvent.table (events ++ [event]) = event.apply (MemoryDbEvent.table events) := by
  simp [MemoryDbEvent.table]

theorem MemoryMap.of_concat (events : List MemoryDbEvent) (event : MemoryDbEvent) :
    MemoryMap.of (events ++ [event]) = (MemoryMap.of events).apply event := by
  simp [MemoryMap.of]

theorem usersApart_nil : UsersApart [] := by
  intro before event hinit
  have hlength := hinit.length_le
  simp at hlength

/-- One more call keeps the users apart. -/
theorem usersApart_concat {events : List MemoryDbEvent} {event : MemoryDbEvent} :
    UsersApart (events ++ [event]) ↔
      UsersApart events ∧ event.KeepsUsersApart (MemoryMap.of events) := by
  constructor
  · intro h
    exact ⟨fun before ev hinit => h before ev (hinit.trans (List.prefix_append events [event])),
      h events event (List.prefix_refl _)⟩
  · intro h before ev hinit
    rcases List.prefix_concat_iff.mp hinit with heq | hinit
    · obtain ⟨rfl, hev⟩ := List.append_inj' heq rfl
      cases hev
      exact h.2
    · exact h.1 before ev hinit

/-- After a history that keeps the users apart the table represents the map. -/
theorem represents_of_usersApart {events : List MemoryDbEvent} (h : UsersApart events) :
    Represents (MemoryDbEvent.table events) (MemoryMap.of events) := by
  induction events using List.reverseRecOn with
  | nil => exact represents_empty
  | append_singleton events event ih =>
    obtain ⟨hbefore, hevent⟩ := usersApart_concat.mp h
    rw [table_concat, MemoryMap.of_concat]
    exact (ih hbefore).apply hevent

/-- A table that represents the map after a call was not asked to store another user's id. -/
theorem keepsUsersApart_of_represents {table : MemoryTable} {map : MemoryMap}
    {event : MemoryDbEvent} (hnext : Represents table (map.apply event)) :
    event.KeepsUsersApart map := by
  cases event with
  | upsert agentId memory now =>
    intro userId entry hentry
    by_contra hne
    -- The entry of this user and that of the other one would need two rows.
    have hown : map.upsert agentId memory now agentId memory.userId memory.id ≠ none := by
      simp [MemoryMap.upsert]
    obtain ⟨entry', hentry'⟩ := Option.ne_none_iff_exists'.mp hown
    have hother : map.upsert agentId memory now agentId userId memory.id = some entry := by
      rw [MemoryMap.upsert, if_neg (fun hkey => hne hkey.2.1), hentry]
    obtain ⟨r, hr, hag, hus, hsid⟩ := hnext.found _ _ _ _ hentry'
    obtain ⟨r', hr', hag', hus', hsid'⟩ := hnext.found _ _ _ _ hother
    -- The table takes a source once per agent, whoever the user is.
    have hsame : r = r' := by
      refine hnext.once r hr r' hr' (hag.trans hag'.symm) ?_ (hsid.trans hsid'.symm)
      rw [hsid]
      rfl
    rw [← hus', ← hsame, hus] at hne
    exact hne rfl
  | delete => trivial
  | clear => trivial
  | platformRow => trivial

/-- The table represents the map all along exactly when the history keeps the users apart. -/
theorem represents_iff_usersApart (events : List MemoryDbEvent) :
    (∀ before, before <+: events →
      Represents (MemoryDbEvent.table before) (MemoryMap.of before)) ↔ UsersApart events := by
  constructor
  · intro h before event hinit
    have hnext := h (before ++ [event]) hinit
    rw [MemoryMap.of_concat] at hnext
    exact keepsUsersApart_of_represents hnext
  · intro h before hinit
    exact represents_of_usersApart fun b ev hb => h b ev (hb.trans hinit)

/-! ## Reading the map -/

instance : Inhabited MemoryEntry := ⟨⟨⟨[], by simp [Json.WellFormed, Json.MembersWellFormed]⟩, 0⟩⟩

/-- A row that holds a dict is read back with its id in it. -/
theorem readRow_of_dumps {r : AgentMemory} {userId id : String} {entry : MemoryEntry}
    (huser : r.userId = some userId) (hid : r.sourceMemoryId = some id)
    (hcontent : r.content = Json.dumps (.obj entry.memory.members))
    (hcreated : r.createdAt = entry.createdAt) :
    readRow r = .ok (MemoryMap.row userId id entry) := by
  have hloads : Json.loads r.content = some (.obj entry.memory.members) := by
    rw [hcontent, Json.loads_dumps entry.memory.wellFormed]
  rw [readRow]
  split
  · rename_i members hmembers
    have hsame : members = entry.memory.members := by
      rw [hloads] at hmembers
      cases hmembers
      rfl
    subst hsame
    simp [MemoryMap.row, huser, hid, hcreated]
  · rename_i v hnot hv
    exact absurd (Option.some.inj (hv.symm.trans hloads)) (hnot _)
  · rename_i hnone
    rw [hloads] at hnone
    cases hnone

/-- `read_memories(user_id=u)` returns the selected rows, by age. -/
private theorem readRows_of_user (scan : ScanOrder AgentMemory) (table : MemoryTable)
    (agentId : Uuid) (userId : String) :
    let rows := readRows scan agentId (some userId) none none table
    rows.Perm (table.rows.filter (isRead agentId (some userId))) ∧
      rows.Pairwise (fun r r' => r.createdAt ≤ r'.createdAt) := by
  intro rows
  have hrows : rows = (scan.order (table.rows.filter (isRead agentId (some userId)))).insertionSort
      (fun r r' => r.createdAt ≤ r'.createdAt) := by simp [rows, readRows]
  rw [hrows]
  constructor
  · exact (List.perm_insertionSort _ _).trans (scan.perm _)
  · have htotal : Std.Total (fun r r' : AgentMemory => r.createdAt ≤ r'.createdAt) :=
      ⟨fun r r' => Int.le_total _ _⟩
    have htrans : IsTrans AgentMemory (fun r r' => r.createdAt ≤ r'.createdAt) :=
      ⟨fun _ _ _ => Int.le_trans⟩
    exact List.pairwise_insertionSort _ _

/-- What a table that represents the map returns for a user. -/
theorem Represents.isReading {table : MemoryTable} {map : MemoryMap} (h : Represents table map)
    (scan : ScanOrder AgentMemory) (agentId : Uuid) (userId : String) :
    ∃ memories, readMemories scan agentId (some userId) none none table = .ok memories ∧
      map.IsReading agentId userId memories := by
  obtain ⟨hperm, hordered⟩ := readRows_of_user scan table agentId userId
  obtain ⟨rows, hrows⟩ : ∃ rows, rows = readRows scan agentId (some userId) none none table :=
    ⟨_, rfl⟩
  rw [← hrows] at hperm hordered
  have hmem (r : AgentMemory) : r ∈ rows ↔
      r ∈ table.rows ∧ r.agentId = agentId ∧ r.sourceMemoryId.isSome ∧ r.userId = some userId := by
    rw [hperm.mem_iff, List.mem_filter, isRead_some_iff]
  -- each row selected is an entry of the map
  have hentry : ∀ r, ∃ p : String × MemoryEntry, r ∈ rows →
      r.sourceMemoryId = some p.1 ∧ map agentId (some userId) p.1 = some p.2 ∧
        r.content = Json.dumps (.obj p.2.memory.members) ∧ r.createdAt = p.2.createdAt := by
    intro r
    by_cases hr : r ∈ rows
    · obtain ⟨hr, rfl, hsome, huser⟩ := (hmem r).mp hr
      obtain ⟨id, hid⟩ := Option.isSome_iff_exists.mp hsome
      obtain ⟨entry, hentry, hrest⟩ := h.stored r hr id hid
      rw [huser] at hentry
      exact ⟨(id, entry), fun _ => ⟨hid, hentry, hrest⟩⟩
    · exact ⟨default, fun hr' => absurd hr' hr⟩
  choose entryOf hof using hentry
  have hread : ∀ r ∈ rows, readRow r =
      .ok (MemoryMap.row userId (entryOf r).1 (entryOf r).2) := by
    intro r hr
    obtain ⟨hid, -, hcontent, hcreated⟩ := hof r hr
    exact readRow_of_dumps ((hmem r).mp hr).2.2.2 hid hcontent hcreated
  refine ⟨_, ?_, rows.map entryOf, rfl, ?ordered, ?once, ?entries⟩
  · rw [readMemories, ← hrows, Except.mapM_eq_ok_map hread, List.map_map]
    rfl
  case ordered =>
    rw [List.pairwise_map]
    refine hordered.imp_of_mem fun hr hr' hle => ?_
    rw [← (hof _ hr).2.2.2, ← (hof _ hr').2.2.2]
    exact hle
  case once =>
    have hnodup : rows.Nodup :=
      hperm.nodup_iff.mpr ((List.Nodup.of_map _ table.keysNodup).filter _)
    rw [List.map_map]
    refine hnodup.map_on fun r hr r' hr' hsame => ?_
    obtain ⟨hrow, hag, hsome, -⟩ := (hmem r).mp hr
    obtain ⟨hrow', hag', -, -⟩ := (hmem r').mp hr'
    refine h.once r hrow r' hrow' (hag.trans hag'.symm) hsome ?_
    rw [(hof r hr).1, (hof r' hr').1]
    exact congrArg some hsame
  case entries =>
    intro id entry
    rw [List.mem_map]
    constructor
    · intro hin
      obtain ⟨r, hr, hp⟩ := hin
      have hmap := (hof r hr).2.1
      rwa [hp] at hmap
    · intro hmap
      obtain ⟨r, hr, hag, hus, hsid⟩ := h.found agentId (some userId) id entry hmap
      have hin : r ∈ rows := (hmem r).mpr ⟨hr, hag, by rw [hsid]; rfl, hus⟩
      obtain ⟨hid, hentry, -, -⟩ := hof r hin
      have hidm : (entryOf r).1 = id := Option.some.inj (hid.symm.trans hsid)
      rw [hidm, hmap] at hentry
      exact ⟨r, hin, Prod.ext hidm (Option.some.inj hentry).symm⟩

/-! ## What a call leaves alone -/

/-- A reading depends on the selected rows only. -/
private theorem readMemories_congr {table table' : MemoryTable} {agentId : Uuid}
    {userId : Option String}
    (h : table'.rows.filter (isRead agentId userId) = table.rows.filter (isRead agentId userId))
    (scan : ScanOrder AgentMemory) (limit : Option Nat) (sort : Option String) :
    readMemories scan agentId userId limit sort table' =
      readMemories scan agentId userId limit sort table := by
  simp only [readMemories, readRows, h]

/-- No call affects the memories of another agent. -/
theorem readMemories_of_agent_ne {event : MemoryDbEvent} {agentId : Uuid}
    (hne : event.agent ≠ agentId) (table : MemoryTable) (scan : ScanOrder AgentMemory)
    (userId : Option String) (limit : Option Nat) (sort : Option String) :
    readMemories scan agentId userId limit sort (event.apply table) =
      readMemories scan agentId userId limit sort table := by
  -- a row of the other agent is selected neither before nor after the event
  have hother {r : AgentMemory} (hag : r.agentId = event.agent) :
      isRead agentId userId r = false := by
    simp [isRead, isSourced, hag, hne]
  refine readMemories_congr ?_ scan limit sort
  cases event with
  | upsert agentId' memory now =>
    simp only [MemoryDbEvent.apply, upsertMemory]
    split
    · refine KeyedTable.filter_updateWhere fun r _ hsource => ?_
      have hag := (isSource_iff.mp hsource).1
      exact ⟨hother hag, hother hag⟩
    · exact KeyedTable.filter_insertFresh fun _ => hother rfl
  | delete agentId' memoryId =>
    refine KeyedTable.filter_deleteWhere fun r hr => ?_
    by_contra hsource
    rw [Bool.not_eq_false] at hsource
    rw [hother (isSource_iff.mp hsource).1] at hr
    cases hr
  | clear agentId' =>
    refine KeyedTable.filter_deleteWhere fun r hr => ?_
    by_contra hsource
    rw [Bool.not_eq_false] at hsource
    rw [hother (isSourced_iff.mp hsource).1] at hr
    cases hr
  | platformRow agentId' userId' memoryType content now =>
    rw [apply_platformRow]
    exact KeyedTable.filter_insertFresh fun _ => hother rfl

/-- No call removes or changes a row without a source. -/
theorem mem_apply_of_unsourced {table : MemoryTable} {r : AgentMemory} (hr : r ∈ table.rows)
    (hnull : r.sourceMemoryId = none) (event : MemoryDbEvent) : r ∈ (event.apply table).rows := by
  have hsource (agentId : Uuid) (id : String) : isSource agentId id r = false := by
    simp [isSource, hnull]
  cases event with
  | upsert agentId memory now =>
    simp only [MemoryDbEvent.apply, upsertMemory]
    split
    · exact List.mem_map.mpr ⟨r, hr, by rw [hsource]; rfl⟩
    · simp [hr]
  | delete agentId memoryId => simp [MemoryDbEvent.apply, deleteMemory, hr, hsource]
  | clear agentId => simp [MemoryDbEvent.apply, clear, isSourced, hr, hnull]
  | platformRow agentId userId memoryType content now =>
    rw [apply_platformRow]
    simp [hr]

/-- An upsert that keeps the users apart is seen by its own user only. -/
theorem readMemories_upsert_of_user_ne {table : MemoryTable} {map : MemoryMap}
    (h : Represents table map) {agentId : Uuid} {memory : MemoryRow} {now : Int}
    (hapart : (MemoryDbEvent.upsert agentId memory now).KeepsUsersApart map) {userId : String}
    (hne : some userId ≠ memory.userId) (agentId' : Uuid) (scan : ScanOrder AgentMemory)
    (limit : Option Nat) (sort : Option String) :
    readMemories scan agentId' (some userId) limit sort (upsertMemory agentId now memory table) =
      readMemories scan agentId' (some userId) limit sort table := by
  have hother {r : AgentMemory} (huser : r.userId = memory.userId) :
      isRead agentId' (some userId) r = false := by
    simp [isRead, huser, Ne.symm hne]
  refine readMemories_congr ?_ scan limit sort
  rw [upsertMemory]
  split
  · refine KeyedTable.filter_updateWhere fun r hr hsource => ?_
    -- the representation says whose row it is, the condition that it is the upsert's own user
    obtain ⟨hag, hid⟩ := isSource_iff.mp hsource
    obtain ⟨entry, hentry, -⟩ := h.stored r hr memory.id hid
    rw [hag] at hentry
    have huser : r.userId = memory.userId := hapart r.userId entry hentry
    exact ⟨hother huser, hother huser⟩
  · exact KeyedTable.filter_insertFresh fun _ => hother rfl

/-! ## Histories -/

/-- In a history that keeps the users of an agent apart the store is the map:
    a user's memories are read back as the map has them, an upsert is seen by
    its own user only, no call is seen by another agent, and none removes a row
    without a source. -/
theorem memoryDb_refines_map {events : List MemoryDbEvent} (h : UsersApart events)
    (scan : ScanOrder AgentMemory) :
    (∀ agentId userId, ∃ memories,
      readMemories scan agentId (some userId) none none (MemoryDbEvent.table events) =
          .ok memories ∧
        (MemoryMap.of events).IsReading agentId userId memories) ∧
      (∀ agentId memory now, UsersApart (events ++ [.upsert agentId memory now]) →
        ∀ agentId' userId, some userId ≠ memory.userId → ∀ limit sort,
          readMemories scan agentId' (some userId) limit sort
              (MemoryDbEvent.table (events ++ [.upsert agentId memory now])) =
            readMemories scan agentId' (some userId) limit sort (MemoryDbEvent.table events)) ∧
      (∀ event agentId, event.agent ≠ agentId → ∀ userId limit sort,
        readMemories scan agentId userId limit sort (MemoryDbEvent.table (events ++ [event])) =
          readMemories scan agentId userId limit sort (MemoryDbEvent.table events)) ∧
      ∀ event, ∀ r ∈ (MemoryDbEvent.table events).rows, r.sourceMemoryId = none →
        r ∈ (MemoryDbEvent.table (events ++ [event])).rows := by
  have hrep := represents_of_usersApart h
  refine ⟨fun agentId userId => hrep.isReading scan agentId userId, ?upsert, ?agent, ?unsourced⟩
  case upsert =>
    intro agentId memory now hnext agentId' userId hne limit sort
    rw [table_concat]
    exact readMemories_upsert_of_user_ne hrep (hnext events _ (List.prefix_refl _)) hne agentId'
      scan limit sort
  case agent =>
    intro event agentId hne userId limit sort
    rw [table_concat]
    exact readMemories_of_agent_ne hne _ scan userId limit sort
  case unsourced =>
    intro event r hr hnull
    rw [table_concat]
    exact mem_apply_of_unsourced hr hnull event

/-- A memory Agno extracted, as its manager upserts it. -/
def MemoryRow.ofText (id : String) (userId : String) (text : String) : MemoryRow where
  id := id
  userId := some userId
  memory := ⟨[("memory", .str text)], by simp [Json.WellFormed, Json.MembersWellFormed]⟩
  lastUpdated := none

/-- Ann's memory `m1` is stored, and stored again with another text. -/
theorem memoryDb_refines_map_example :
    UsersApart [.upsert 1 (.ofText "m1" "ann" "likes tea") 10,
        .upsert 1 (.ofText "m1" "ann" "likes coffee") 20] ∧
      ∃ memories, readMemories .stored 1 (some "ann") none none
          (MemoryDbEvent.table [.upsert 1 (.ofText "m1" "ann" "likes tea") 10,
            .upsert 1 (.ofText "m1" "ann" "likes coffee") 20]) = .ok memories ∧
        (MemoryMap.of [.upsert 1 (.ofText "m1" "ann" "likes tea") 10,
          .upsert 1 (.ofText "m1" "ann" "likes coffee") 20]).IsReading 1 "ann" memories := by
  have hapart : UsersApart [.upsert 1 (.ofText "m1" "ann" "likes tea") 10,
      .upsert 1 (.ofText "m1" "ann" "likes coffee") 20] := by
    refine usersApart_concat.mpr ⟨usersApart_concat.mpr ⟨usersApart_nil, ?_⟩, ?_⟩
    · exact fun _ _ hentry => by cases hentry
    · intro userId entry hentry
      by_contra hne
      have hnone : MemoryMap.of [.upsert 1 (.ofText "m1" "ann" "likes tea") 10] 1 userId "m1" =
          none := if_neg fun hkey => hne hkey.2.1
      cases hentry.symm.trans hnone
  exact ⟨hapart, (memoryDb_refines_map hapart .stored).1 1 "ann"⟩

/-- Ann and Bob upsert an id of the same name: Ann's memory is overwritten, and
    Bob, who has one in the map, reads nothing. -/
theorem memoryDb_mixes_users :
    ¬ ∀ (events : List MemoryDbEvent) (scan : ScanOrder AgentMemory) (agentId : Uuid)
        (userId : String), ∃ memories,
      readMemories scan agentId (some userId) none none (MemoryDbEvent.table events) =
          .ok memories ∧
        (MemoryMap.of events).IsReading agentId userId memories := by
  intro h
  obtain ⟨memories, hread, entries, rfl, -, -, hentries⟩ :=
    h [.upsert 1 (.ofText "m1" "ann" "likes tea") 10,
      .upsert 1 (.ofText "m1" "bob" "likes milk") 20] .stored 1 "bob"
  have hnone : readMemories .stored 1 (some "bob") none none
      (MemoryDbEvent.table [.upsert 1 (.ofText "m1" "ann" "likes tea") 10,
        .upsert 1 (.ofText "m1" "bob" "likes milk") 20]) = .ok [] := rfl
  rw [hnone, Except.ok.injEq, eq_comm, List.map_eq_nil_iff] at hread
  subst hread
  have hbob := (hentries "m1" ⟨(MemoryRow.ofText "m1" "bob" "likes milk").memory, 20⟩).mpr rfl
  cases hbob

end AgnoRuntime
