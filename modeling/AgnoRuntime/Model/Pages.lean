import AgnoRuntime.Model.Registries
import AgnoRuntime.Model.Tables

/-!
# Pages of a listing

`app/api/deps.py`, `app/schemas/common.py` and the list endpoints of
`app/api/v1/`. They page with OFFSET and LIMIT, most of them through
`BaseRepository.list`, whose SELECT has no ORDER BY: every query comes with a
`ScanOrder` of its own. `GET /skills/{id}/agents` orders its rows.
-/

namespace AgnoRuntime

open Civil Except

/-- `PaginationParams`, with the bounds FastAPI checks. -/
structure PaginationParams where
  page : Nat := 1
  pageSize : Nat := 50
  pageGe : 1 ≤ page
  pageSizeGe : 1 ≤ pageSize
  pageSizeLe : pageSize ≤ 200

namespace PaginationParams

/-- `PaginationParams.offset`. -/
def offset (p : PaginationParams) : Nat := (p.page - 1) * p.pageSize

/-- `PaginationParams.limit`. -/
def limit (p : PaginationParams) : Nat := p.pageSize

/-- Page 1 of the same size. -/
def first (p : PaginationParams) : PaginationParams :=
  { p with page := 1, pageGe := Nat.le_refl 1 }

/-- The page after. -/
def next (p : PaginationParams) : PaginationParams :=
  { p with page := p.page + 1, pageGe := Nat.le_add_left 1 p.page }

@[simp] theorem limit_first (p : PaginationParams) : p.first.limit = p.limit := rfl

@[simp] theorem limit_next (p : PaginationParams) : p.next.limit = p.limit := rfl

@[simp] theorem offset_first (p : PaginationParams) : p.first.offset = 0 := Nat.zero_mul _

/-- The next page starts where this one ends. -/
theorem offset_next (p : PaginationParams) : p.next.offset = p.offset + p.limit := by
  obtain ⟨n, hn⟩ : ∃ n, p.page = n + 1 := ⟨p.page - 1, by have := p.pageGe; omega⟩
  rw [offset, offset, next, limit]
  simp only [hn, Nat.add_sub_cancel]
  exact Nat.succ_mul n p.pageSize

/-- A page has room for a row. -/
theorem limit_pos (p : PaginationParams) : 0 < p.limit := p.pageSizeGe

end PaginationParams

/-- `PaginatedResponse`. -/
structure PaginatedResponse (α : Type) where
  items : List α
  total : Nat
  page : Nat
  pageSize : Nat
  hasNext : Bool
deriving DecidableEq

/-- The response an endpoint builds from a page of rows and their total. -/
def paginated {α : Type} (pagination : PaginationParams) (listed : List α × Nat) :
    PaginatedResponse α where
  items := listed.1
  total := listed.2
  page := pagination.page
  pageSize := pagination.pageSize
  hasNext := pagination.offset + pagination.limit < listed.2

/-! ## Endpoints -/

/-- An endpoint that pages through `BaseRepository.list`. -/
def listPage {α : Type} [SoftDelete α] {key : α → Uuid} (scan : ScanOrder α)
    (t : KeyedTable key) (filters : α → Bool) (pagination : PaginationParams) :
    PaginatedResponse α :=
  paginated pagination (BaseRepository.list scan t filters pagination.offset pagination.limit)

/-- `**filters` of `BaseRepository.list`: a value that is `None` does not filter. -/
def filterBy {α β : Type} [DecidableEq β] (column : α → β) (value : Option β) (r : α) : Bool :=
  value.all (column r = ·)

/-- The model has no `deleted_at`. -/
instance : SoftDelete AgentRun := ⟨fun _ => none⟩

/-- `list_runs`. -/
def listRuns (scan : ScanOrder AgentRun) (agentRuns : KeyedTable AgentRun.id)
    (sessionId : Option Uuid) (pagination : PaginationParams) : PaginatedResponse AgentRun :=
  listPage scan agentRuns (filterBy AgentRun.sessionId sessionId) pagination

/-- `list_children`. -/
def UIMetadataRepository.listChildren (scan : ScanOrder UIMetadataEntry)
    (t : KeyedTable UIMetadataEntry.id) (parentCode : String) : List UIMetadataEntry :=
  scan.order (t.rows.filter fun e => e.parentCode = some parentCode && isLive e)

/-- `list_ui_metadata`. -/
def listUiMetadata (features : RegistryFeatures) (scan : ScanOrder UIMetadataEntry)
    (t : KeyedTable UIMetadataEntry.id) (kind : Option UIMetadataKind)
    (parentCode : Option String) (pagination : PaginationParams) :
    Except PyError (PaginatedResponse UIMetadataEntry) := do
  Registries.requireEnabled features.uiMetadataRegistry "UI Metadata Registry"
  match parentCode with
  | some parentCode =>
    -- the page is cut out of all children
    let items := UIMetadataRepository.listChildren scan t parentCode
    return paginated pagination
      ((items.drop pagination.offset).take pagination.limit, items.length)
  | none => return listPage scan t (filterBy UIMetadataEntry.kind kind) pagination

/-- `list_agents_for_skill`; `scan` is the order among agents created at one instant. -/
def SkillRepository.listAgentsForSkill (scan : ScanOrder Agent) (m : Metadata) (skillId : Uuid)
    (offset limit : Nat) (includeDeletedAgents : Bool) : List Agent × Nat :=
  let found := m.agents.rows.filter fun a =>
    (a.id, skillId) ∈ m.agentSkills && (includeDeletedAgents || isLive a)
  let ordered := (scan.order found).mergeSort fun a b => a.createdAt.micros ≤ b.createdAt.micros
  ((ordered.drop offset).take limit, found.length)

/-- `list_skill_agents`. -/
def listSkillAgents (scan : ScanOrder Agent) (m : Metadata) (skillId : Uuid)
    (pagination : PaginationParams) : Except PyError (PaginatedResponse Agent) := do
  let _ ← BaseRepository.getOr404 m.skills "Skill" skillId
  return paginated pagination
    (SkillRepository.listAgentsForSkill scan m skillId pagination.offset pagination.limit false)

end AgnoRuntime
