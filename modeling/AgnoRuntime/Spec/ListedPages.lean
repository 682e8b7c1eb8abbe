import AgnoRuntime.ForStd.Pages
import AgnoRuntime.Model.Pages

/-!
# What the pages of a listing add up to

The pages of a list endpoint are separate queries. Where every query returns the
rows in one order, they are slices of one list, and a client that reads them to
the end receives each row once. `BaseRepository.list` asks for no order, so the
database may choose another one for each page: then only a listing that fits on
its first page is read completely.

## Key results

- `receivesEachOnce_of_slices`: pages cut from one list
- `receivesEachOnce_iff`: the pages of `BaseRepository.list`
- `listUiMetadata_receivesEachOnce`: a listing that cuts its pages itself
- `listSkillAgents_receivesEachOnce`: pages of rows that are ordered
-/

namespace AgnoRuntime

open Pages

/-- The rows of a table that are not deleted and match the filters. -/
def BaseRepository.matching {α : Type} [SoftDelete α] {key : α → Uuid} (t : KeyedTable key)
    (filters : α → Bool) : List α :=
  t.rows.filter fun r => isLive r && filters r

/-- No row matches twice. -/
theorem BaseRepository.nodup_matching {α : Type} [SoftDelete α] {key : α → Uuid}
    (t : KeyedTable key) (filters : α → Bool) : (matching t filters).Nodup :=
  .filter _ (.of_map key t.keysNodup)

/-- A client that reads the pages from `p` on, for as long as `has_next` is true, receives every
    matching row exactly once, and each `total` is their number. -/
def ReceivesEachOnce {α : Type} (respond : PaginationParams → PaginatedResponse α)
    (p : PaginationParams) (matching : List α) : Prop :=
  ∃ responses, Reads respond .next (·.hasNext) p responses ∧
    (responses.flatMap (·.items)).Perm matching ∧ ∀ r ∈ responses, r.total = matching.length

/-! ## One order for all pages -/

section Client

variable {α : Type} {respond : PaginationParams → PaginatedResponse α} {rows matching : List α}

/-- Pages cut from one list of the matching rows. -/
theorem receivesEachOnce_of_slices (hrows : rows.Perm matching)
    (hpage : ∀ q, respond q = paginated q ((rows.drop q.offset).take q.limit, matching.length))
    (p : PaginationParams) : ReceivesEachOnce respond p.first matching := by
  -- The pages are slices of the rows, and know when they are the last.
  have hslices : Slices respond .next (·.hasNext) (·.items) PaginationParams.offset
      PaginationParams.limit rows := by
    constructor
    · intro q
      rw [hpage]
      rfl
    · intro q
      rw [hpage, hrows.length_eq]
      rfl
    · exact PaginationParams.offset_next
    · exact PaginationParams.limit_pos
  obtain ⟨responses, hreads, hitems⟩ := hslices.exists_reads p.first
  refine ⟨responses, hreads, ?_, ?_⟩
  -- From the first page on, the slices are all rows.
  · rw [hitems, PaginationParams.offset_first, List.drop_zero]
    exact hrows
  · refine hreads.forall_mem fun q => ?_
    rw [hpage]
    rfl

/-- A row on page 1 and again on page 2 is received twice. -/
theorem not_receivesEachOnce_of_mem_twice {p : PaginationParams} {a : α}
    (hnodup : matching.Nodup) (hmore : (respond p).hasNext = true) (hfirst : a ∈ (respond p).items)
    (hsecond : a ∈ (respond p.next).items) : ¬ReceivesEachOnce respond p matching := by
  intro h
  obtain ⟨responses, hreads, hperm, -⟩ := h
  obtain ⟨rest, rfl⟩ := hreads.eq_cons_cons hmore
  rw [List.flatMap_cons, List.flatMap_cons] at hperm
  have hdistinct := List.nodup_append.mp (hperm.nodup_iff.mpr hnodup)
  exact hdistinct.2.2 a hfirst a (List.mem_append_left _ hsecond) rfl

end Client

/-! ## The pages of `BaseRepository.list` -/

namespace ScanOrder

/-- The first row after the next `n` of them. -/
def putAfter {α : Type} (n : Nat) : List α → List α
  | [] => []
  | a :: rest => rest.take n ++ a :: rest.drop n

/-- Only the place of the first row is another one. -/
theorem putAfter_perm {α : Type} (n : Nat) (rows : List α) : (putAfter n rows).Perm rows := by
  cases rows with
  | nil => exact .refl _
  | cons a rest =>
    have hrest := List.take_append_drop n rest
    refine List.perm_middle.trans ?_
    rw [hrest]

/-- The order with the first row behind the next `n`. -/
def firstAfter (α : Type) (n : Nat) : ScanOrder α := ⟨putAfter n, putAfter_perm n⟩

end ScanOrder

section Listed

open BaseRepository

variable {α : Type} [SoftDelete α] {key : α → Uuid} {t : KeyedTable key} {filters : α → Bool}

/-- A page of `BaseRepository.list`. -/
theorem listPage_eq (scan : ScanOrder α) (t : KeyedTable key) (filters : α → Bool)
    (q : PaginationParams) : listPage scan t filters q =
      paginated q (((scan.order (matching t filters)).drop q.offset).take q.limit,
        (matching t filters).length) := rfl

/-- With one order for all pages each row is received once. -/
theorem receivesEachOnce_of_sameOrder (scan : ScanOrder α) (t : KeyedTable key)
    (filters : α → Bool) (p : PaginationParams) :
    ReceivesEachOnce (listPage scan t filters) p.first (matching t filters) :=
  receivesEachOnce_of_slices (scan.perm _) (listPage_eq scan t filters) p

/-- A listing that fits on one page is read in one query. -/
theorem receivesEachOnce_of_le {p : PaginationParams}
    (hfits : (matching t filters).length ≤ p.pageSize) (scans : Nat → ScanOrder α) :
    ReceivesEachOnce (fun q => listPage (scans q.page) t filters q) p.first
      (matching t filters) := by
  have hlast : ¬p.first.offset + p.first.limit < (matching t filters).length := by
    rw [PaginationParams.offset_first, PaginationParams.limit_first, PaginationParams.limit]
    omega
  refine ⟨_, .last (decide_eq_false hlast), ?_, ?_⟩
  · rw [List.flatMap_singleton, listPage_eq, paginated, PaginationParams.offset_first,
      List.drop_zero, PaginationParams.limit_first]
    refine (List.Perm.of_eq ?_).trans ((scans 1).perm _)
    exact List.take_of_length_le (((scans 1).perm _).length_eq.trans_le hfits)
  · intro r hr
    rw [List.mem_singleton.mp hr]
    rfl

/-- The order of the first query is the stored one, the others put its first row on page 2. -/
def repeatingScans (α : Type) (pageSize : Nat) (page : Nat) : ScanOrder α :=
  if page = 1 then .stored else .firstAfter α pageSize

/-- A listing that goes on after page 1 can show a row twice. -/
theorem not_receivesEachOnce_of_lt {p : PaginationParams}
    (hlong : p.pageSize < (matching t filters).length) :
    ¬ReceivesEachOnce (fun q => listPage (repeatingScans α p.pageSize q.page) t filters q) p.first
      (matching t filters) := by
  -- The first row, and the others, of which there is a page at least.
  have hpos : 0 < p.pageSize := p.pageSizeGe
  obtain ⟨a, rest, hrows⟩ := List.exists_cons_of_length_pos (Nat.zero_lt_of_lt hlong)
  have hrest : p.pageSize ≤ rest.length := by
    rw [hrows, List.length_cons] at hlong
    exact Nat.le_of_lt_succ hlong
  have hhead : ∀ xs : List α, a ∈ (a :: xs).take p.pageSize := by
    intro xs
    obtain ⟨n, hn⟩ := Nat.exists_eq_succ_of_ne_zero (Nat.ne_of_gt hpos)
    rw [hn, List.take_succ_cons]
    exact List.mem_cons_self
  refine not_receivesEachOnce_of_mem_twice (a := a) (nodup_matching t filters) ?_ ?_ ?_
  -- The first page is not the last one.
  · refine decide_eq_true ?_
    rw [PaginationParams.offset_first, Nat.zero_add]
    exact hlong
  -- The row is the first of page 1,
  · show a ∈ ((matching t filters).drop p.first.offset).take p.pageSize
    rw [PaginationParams.offset_first, List.drop_zero, hrows]
    exact hhead rest
  -- and, put after the rows of page 1, also the first of page 2.
  · have hoffset : p.first.next.offset = p.pageSize := Nat.one_mul _
    show a ∈ ((ScanOrder.putAfter p.pageSize (matching t filters)).drop
      p.first.next.offset).take p.pageSize
    rw [hoffset, hrows, ScanOrder.putAfter, List.drop_left' (List.length_take_of_le hrest)]
    exact hhead _

/-- Whatever orders the database chooses, a client receives each matching row exactly once:
    this holds exactly of the listings that fit on their first page. -/
theorem receivesEachOnce_iff (t : KeyedTable key) (filters : α → Bool) (p : PaginationParams) :
    (∀ scans : Nat → ScanOrder α, ReceivesEachOnce
      (fun q => listPage (scans q.page) t filters q) p.first (matching t filters)) ↔
        (matching t filters).length ≤ p.pageSize := by
  constructor
  · intro hall
    by_contra hlong
    exact not_receivesEachOnce_of_lt (Nat.lt_of_not_le hlong) (hall _)
  · intro hfits scans
    exact receivesEachOnce_of_le hfits scans

end Listed

namespace TwoRuns

/-- A run of session 1. -/
def run (id : Uuid) : AgentRun := ⟨id, 1, 1, .completed, "Hello", some "Hi", none⟩

/-- Two of them. -/
def stored : KeyedTable AgentRun.id := ⟨[run 1, run 2], by decide⟩

theorem one_le_one : 1 ≤ 1 := Nat.le_refl 1

theorem one_le_maximum : 1 ≤ 200 := by decide

/-- One row to a page. -/
def singly : PaginationParams := ⟨1, 1, one_le_one, one_le_one, one_le_maximum⟩

/-- `list_runs` for session 1, over a database that changes its order. -/
def respond (q : PaginationParams) : PaginatedResponse AgentRun :=
  listRuns (repeatingScans AgentRun 1 q.page) stored (some 1) q

end TwoRuns

open TwoRuns in
/-- The client receives run 1 on both pages, and run 2 on none of them. -/
theorem listRuns_repeats_row :
    Reads respond .next (·.hasNext) singly [⟨[run 1], 2, 1, 1, true⟩, ⟨[run 1], 2, 2, 1, false⟩] ∧
      ¬ReceivesEachOnce respond singly
        (BaseRepository.matching stored (filterBy (·.sessionId) (some 1))) := by
  constructor
  · have hfirst : respond singly = ⟨[run 1], 2, 1, 1, true⟩ := by decide
    have hsecond : respond singly.next = ⟨[run 1], 2, 2, 1, false⟩ := by decide
    rw [← hfirst, ← hsecond]
    exact .more (by decide) (.last (by decide))
  · exact not_receivesEachOnce_of_mem_twice (a := run 1) (BaseRepository.nodup_matching _ _)
      (by decide) (by decide) (by decide)

/-! ## Other listings -/

/-- The rows `list_ui_metadata` is asked for; with a parent the kind does not matter. -/
def uiMetadataFilters (kind : Option UIMetadataKind) (parentCode : Option String) :
    UIMetadataEntry → Bool :=
  match parentCode with
  | some parentCode => fun e => e.parentCode = some parentCode
  | none => filterBy UIMetadataEntry.kind kind

/-- A page cut out of all children is a page of `BaseRepository.list`, order and all. -/
theorem listUiMetadata_eq (features : RegistryFeatures)
    (henabled : features.uiMetadataRegistry = true) (scan : ScanOrder UIMetadataEntry)
    (t : KeyedTable UIMetadataEntry.id) (kind : Option UIMetadataKind)
    (parentCode : Option String) (q : PaginationParams) :
    listUiMetadata features scan t kind parentCode q =
      .ok (listPage scan t (uiMetadataFilters kind parentCode) q) := by
  rw [listUiMetadata.eq_def, Registries.requireEnabled, henabled]
  cases parentCode with
  | none => rfl
  | some parentCode =>
    have hchildren : UIMetadataRepository.listChildren scan t parentCode =
        scan.order (BaseRepository.matching t (uiMetadataFilters kind (some parentCode))) :=
      congrArg scan.order (List.filter_congr fun e _ => Bool.and_comm _ _)
    have hpage : listPage scan t (uiMetadataFilters kind (some parentCode)) q = paginated q
        (((UIMetadataRepository.listChildren scan t parentCode).drop q.offset).take q.limit,
          (UIMetadataRepository.listChildren scan t parentCode).length) := by
      rw [listPage_eq, hchildren, (scan.perm _).length_eq]
    rw [hpage]
    rfl

/-- `GET /ui-metadata` is read completely where it fits on one page. -/
theorem listUiMetadata_receivesEachOnce (features : RegistryFeatures)
    (henabled : features.uiMetadataRegistry = true) (scans : Nat → ScanOrder UIMetadataEntry)
    (t : KeyedTable UIMetadataEntry.id) (kind : Option UIMetadataKind)
    (parentCode : Option String) {p : PaginationParams}
    (hfits : (BaseRepository.matching t (uiMetadataFilters kind parentCode)).length ≤ p.pageSize) :
    ∃ respond : PaginationParams → PaginatedResponse UIMetadataEntry,
      (∀ q, listUiMetadata features (scans q.page) t kind parentCode q = .ok (respond q)) ∧
        ReceivesEachOnce respond p.first
          (BaseRepository.matching t (uiMetadataFilters kind parentCode)) :=
  ⟨_, fun q => listUiMetadata_eq features henabled (scans q.page) t kind parentCode q,
    receivesEachOnce_of_le hfits scans⟩

/-- The agents `list_agents_for_skill` counts. -/
def agentsWithSkill (m : Metadata) (skillId : Uuid) : List Agent :=
  m.agents.rows.filter fun a => (a.id, skillId) ∈ m.agentSkills && isLive a

/-- `GET /skills/{id}/agents` orders its rows: a client receives each agent exactly once, unless
    two of them were created at one instant. -/
theorem listSkillAgents_receivesEachOnce (scans : Nat → ScanOrder Agent) {m : Metadata}
    {skillId : Uuid} {skill : Skill}
    (hskill : BaseRepository.getOr404 m.skills "Skill" skillId = .ok skill)
    (hdistinct : ((agentsWithSkill m skillId).map (·.createdAt.micros)).Nodup)
    (p : PaginationParams) : ∃ respond : PaginationParams → PaginatedResponse Agent,
      (∀ q, listSkillAgents (scans q.page) m skillId q = .ok (respond q)) ∧
        ReceivesEachOnce respond p.first (agentsWithSkill m skillId) := by
  refine ⟨fun q => paginated q (SkillRepository.listAgentsForSkill (scans q.page) m skillId
    q.offset q.limit false), fun q => ?_, ?_⟩
  · rw [listSkillAgents, hskill]
    rfl
  · refine receivesEachOnce_of_slices (List.mergeSort_perm (agentsWithSkill m skillId)
      fun a b => a.createdAt.micros ≤ b.createdAt.micros) (fun q => ?_) p
    rw [← mergeSort_eq_of_perm ((scans q.page).perm _) hdistinct]
    rfl

end AgnoRuntime
