import AgnoRuntime.ForStd.KeyedTable
import AgnoRuntime.ForStd.Civil
import AgnoRuntime.ForStd.UuidText
import Mathlib.Data.Rat.Defs

/-!
# Errors and the repository base

The exceptions the platform raises or lets through (`app/core/exceptions.py`
and the SQLAlchemy ones the services meet), and `BaseRepository`
(`app/repositories/base.py`): lookups that skip soft-deleted rows and pages of
a listing.

A listing has no ORDER BY, so the order in which the database returns the rows
is a parameter: a `ScanOrder` is any rearrangement of the matching rows.
-/

namespace AgnoRuntime

open Civil

/-- Primary keys. `uuid4` is modelled by a key that no row of the table has. -/
abbrev Uuid := Nat

/-- What `QuotaExceededError` reports in its `details`. -/
structure QuotaDetails where
  scopeType : String
  scopeValue : String
  metric : String
  period : String
  used : ℚ
  limit : Nat
deriving DecidableEq

/-- Exceptions. `cancelledError` and `generatorExit` are no `Exception`. -/
inductive PyError where
  | notFound (message : String)
  | conflict (message : String)
  | validationFailed (message : String)
  | capabilityResolution (message : String)
  | mcpGateway (message : String)
  | runtimeExecution (message : String)
  | quotaExceeded (details : QuotaDetails)
  | multipleResultsFound
  | integrityError (constraint : String)
  | pendingRollback
  | other (message : String)
  | cancelledError
  | generatorExit
deriving DecidableEq

namespace PyError

/-- `str(exc)`. -/
def str : PyError → String
  | notFound m | conflict m | validationFailed m | capabilityResolution m
  | mcpGateway m | runtimeExecution m | other m => m
  | quotaExceeded d => "Quota exceeded for " ++ d.metric ++ " (" ++ d.period ++ ")"
  | multipleResultsFound => "Multiple rows were found when one or none was required"
  | integrityError c => c
  | pendingRollback => "This Session's transaction has been rolled back"
  | cancelledError | generatorExit => ""

/-- Caught by `except Exception`. -/
def isException : PyError → Bool
  | cancelledError | generatorExit => false
  | _ => true

/-- Caught by `except RuntimeExecutionError`. -/
def isRuntimeExecution : PyError → Bool
  | runtimeExecution _ => true
  | _ => false

end PyError

/-- Python's truth value of an optional string: `None` and `""` are false. -/
def truthy : Option String → Bool
  | some s => s ≠ ""
  | none => false

/-- What is true is a text that is not empty. -/
theorem truthy_iff_exists {o : Option String} : truthy o = true ↔ ∃ s, o = some s ∧ s ≠ "" := by
  cases o <;> simp [truthy]

/-- So there is a text, which `getD` returns. -/
theorem eq_some_of_truthy {o : Option String} (h : truthy o = true) : o = some (o.getD "") := by
  obtain ⟨s, rfl, -⟩ := truthy_iff_exists.mp h
  rfl

/-- Models with a `deleted_at` column (`SoftDeleteMixin`). -/
class SoftDelete (α : Type) where
  deletedAt : α → Option DateTime

/-- `deleted_at IS NULL`. -/
def isLive {α : Type} [SoftDelete α] (r : α) : Bool := (SoftDelete.deletedAt r).isNone

/-- `Result.scalar_one_or_none()`. -/
def scalarOneOrNone {α : Type} : List α → Except PyError (Option α)
  | [] => .ok none
  | [r] => .ok (some r)
  | _ => .error .multipleResultsFound

/-- The row `scalar_one_or_none` returns is one of the rows selected. -/
theorem mem_of_scalarOneOrNone {α : Type} {rows : List α} {r : α}
    (h : scalarOneOrNone rows = .ok (some r)) : r ∈ rows := by
  match rows with
  | [] => simp [scalarOneOrNone] at h
  | [a] =>
    simp only [scalarOneOrNone, Except.ok.injEq, Option.some.injEq] at h
    exact h ▸ List.mem_singleton_self a
  | _ :: _ :: _ => simp [scalarOneOrNone] at h

/-- The order in which the database returns the rows of a query without ORDER BY. -/
structure ScanOrder (α : Type) where
  order : List α → List α
  perm : ∀ rows, (order rows).Perm rows

namespace ScanOrder

variable {α : Type}

/-- Rows in the order they are stored. -/
def stored : ScanOrder α := ⟨fun rows => rows, List.Perm.refl⟩

@[simp] theorem mem_order (scan : ScanOrder α) {rows : List α} {r : α} :
    r ∈ scan.order rows ↔ r ∈ rows :=
  (scan.perm rows).mem_iff

variable [DecidableEq α]

/-- The others, and then the row itself, are all rows. -/
theorem putLast_perm (r : α) (rows : List α) :
    (rows.filter (fun r' => !decide (r' = r)) ++ rows.filter (fun r' => r' = r)).Perm rows := by
  have hsplit := List.filter_append_perm (fun r' => !decide (r' = r)) rows
  simpa only [Bool.not_not] using hsplit

/-- One row after all the others. -/
def putLast (r : α) : ScanOrder α where
  order rows := rows.filter (fun r' => !decide (r' = r)) ++ rows.filter (fun r' => r' = r)
  perm := putLast_perm r

/-- The row put last is on no page that is shorter than the listing. -/
theorem notMem_take_putLast {rows : List α} {r : α} (hrows : rows.Nodup) {limit : Nat}
    (hlimit : limit < rows.length) : r ∉ ((putLast r).order rows).take limit := by
  have hlast : (rows.filter fun r' => r' = r).length ≤ 1 := by
    rw [List.filter_eq, List.length_replicate]
    exact List.nodup_iff_count_le_one.mp hrows r
  have hlength := (putLast_perm r rows).length_eq
  rw [List.length_append] at hlength
  -- the page ends among the others
  have hpage : limit ≤ (rows.filter fun r' => !decide (r' = r)).length := by omega
  rw [putLast, List.take_append_of_le_length hpage]
  intro hr
  have hother := (List.mem_filter.mp (List.mem_of_mem_take hr)).2
  simp at hother

end ScanOrder

namespace BaseRepository

variable {α : Type} [SoftDelete α] {key : α → Uuid}

/-- `BaseRepository.get`: the row with this id unless it is soft-deleted. -/
def get (t : KeyedTable key) (id : Uuid) : Option α :=
  (t.find? id).filter isLive

/-- A row `get` returns is stored, has the id asked for and is not deleted. -/
theorem mem_of_get {t : KeyedTable key} {id : Uuid} {r : α} (h : get t id = some r) :
    r ∈ t.rows ∧ key r = id ∧ isLive r = true := by
  obtain ⟨hfind, hlive⟩ := Option.filter_eq_some_iff.mp h
  obtain ⟨hmem, hkey⟩ := KeyedTable.mem_of_find? hfind
  exact ⟨hmem, hkey, hlive⟩

/-- Every stored row that is not deleted is returned under its id. -/
theorem get_of_mem {t : KeyedTable key} {r : α} (hr : r ∈ t.rows) (hlive : isLive r = true) :
    get t (key r) = some r := by
  rw [get, KeyedTable.find?_of_mem hr]
  exact Option.filter_eq_some_iff.mpr ⟨rfl, hlive⟩

/-- `BaseRepository.get_or_404`; `name` is the model's class name. -/
def getOr404 (t : KeyedTable key) (name : String) (id : Uuid) : Except PyError α :=
  match get t id with
  | some r => .ok r
  | none => .error (.notFound (name ++ " with id=" ++ UuidText.text id ++ " not found"))

/-- A row `get_or_404` returns is stored, has the id asked for and is not deleted. -/
theorem getOr404_ok {t : KeyedTable key} {name : String} {id : Uuid} {r : α}
    (h : getOr404 t name id = .ok r) : r ∈ t.rows ∧ key r = id ∧ isLive r = true := by
  unfold getOr404 at h
  split at h
  · rename_i r' hget
    cases h
    exact mem_of_get hget
  · cases h

/-- What `get_or_404` does not find is no row that is stored and not deleted. -/
theorem getOr404_error {t : KeyedTable key} {name : String} {id : Uuid} {e : PyError}
    (h : getOr404 t name id = .error e) : ¬ ∃ r ∈ t.rows, key r = id ∧ isLive r = true := by
  intro hrow
  obtain ⟨r, hr, rfl, hlive⟩ := hrow
  rw [getOr404, get_of_mem hr hlive] at h
  cases h

/-- `BaseRepository.list`: one page of the rows that are not deleted and match
    the filters, and how many there are in all. -/
def list (scan : ScanOrder α) (t : KeyedTable key) (filters : α → Bool) (offset limit : Nat) :
    List α × Nat :=
  let found := t.rows.filter (fun r => isLive r && filters r)
  (((scan.order found).drop offset).take limit, found.length)

/-- No row is listed twice. -/
theorem nodup_list {scan : ScanOrder α} {t : KeyedTable key} {filters : α → Bool}
    {offset limit : Nat} : (list scan t filters offset limit).1.Nodup := by
  have hrows : t.rows.Nodup := .of_map key t.keysNodup
  have hfound := hrows.filter fun r => isLive r && filters r
  have hscan := (scan.perm _).nodup_iff.mpr hfound
  exact hscan.sublist ((List.take_sublist _ _).trans (List.drop_sublist _ _))

/-- A row is on the first page whatever the order exactly if all rows fit on it. -/
theorem forall_mem_list_iff [DecidableEq α] {t : KeyedTable key} {filters : α → Bool} {limit : Nat}
    {r : α} (hr : r ∈ t.rows) (hlive : isLive r = true) (hfilters : filters r = true) :
    (∀ scan, r ∈ (list scan t filters 0 limit).1) ↔
      (t.rows.filter fun r => isLive r && filters r).length ≤ limit := by
  constructor
  · intro hall
    by_contra hlimit
    have hrows : t.rows.Nodup := .of_map key t.keysNodup
    exact ScanOrder.notMem_take_putLast (hrows.filter _) (Nat.lt_of_not_le hlimit)
      (hall (ScanOrder.putLast r))
  · intro hlimit scan
    rw [list, List.drop_zero, List.take_of_length_le ((scan.perm _).length_eq.trans_le hlimit),
      ScanOrder.mem_order, List.mem_filter, hlive, hfilters]
    exact ⟨hr, rfl⟩

/-- A listed row is stored, not deleted, and matches the filters. -/
theorem mem_of_mem_list {scan : ScanOrder α} {t : KeyedTable key} {filters : α → Bool}
    {offset limit : Nat} {r : α} (h : r ∈ (list scan t filters offset limit).1) :
    r ∈ t.rows ∧ isLive r = true ∧ filters r = true := by
  have hscan := List.mem_of_mem_drop (List.mem_of_mem_take h)
  rw [ScanOrder.mem_order, List.mem_filter, Bool.and_eq_true] at hscan
  exact ⟨hscan.1, hscan.2.1, hscan.2.2⟩

end BaseRepository

end AgnoRuntime
