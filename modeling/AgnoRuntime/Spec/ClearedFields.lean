import AgnoRuntime.Model.MetadataUpdates
import Mathlib.Logic.Relation

/-!
# Fields that are set to null

A PUT request sends some of the fields of an entity, and these fields should have the values sent
afterwards: `null` where the request clears a field, and the others as they were. The routes
tell a field that is sent as `null` from one that is not sent, but the repository does not, so
a field that has a value is never cleared.
-/

namespace AgnoRuntime

open Except UpdateSession

/-- The columns that the service of an entity computes itself. -/
def UpdatedEntity.computed : UpdatedEntity → List String
  | .schedule => ["next_run_at"]
  | .agentOs | .team | .agent | .workflow | .webhook | .quotaPolicy => []

/-- The row after an update has the values sent, `null` included where the column allows it, and
    otherwise its own. -/
structure SetsExactly (entity : UpdatedEntity) (fields : List (String × ColumnValue))
    (row row' : Row) : Prop where
  sent : ∀ p ∈ fields, (p.2 = .null → p.1 ∈ entity.nullableFields) → row' p.1 = p.2
  kept : ∀ column, column ∉ fields.map Prod.fst → column ∉ entity.computed → row' column = row column

variable {session : UpdateSession} {entity : UpdatedEntity} {row row' : Row}

/-- A field of a payload is computed by no service. -/
theorem notMem_computed {payload : PartialPayload entity} {field : String}
    (h : field ∈ payload.fields.map Prod.fst) : field ∉ entity.computed := by
  have hcomputed : ∀ entity : UpdatedEntity, ∀ field ∈ entity.nullableFields ++ entity.requiredFields,
      field ∉ entity.computed := by
    intro entity
    cases entity <;> decide
  exact hcomputed entity field (payload.known field h)

/-- What `BaseRepository.update` returns. -/
theorem update_eq_ok {flush : Row → Except PyError Unit} {fields : List (String × ColumnValue)}
    (h : BaseRepository.update flush row fields = .ok row') :
    row' = Assignments.assign (· = .null) row fields := by
  obtain ⟨-, -, hreturn⟩ := bind_eq_ok.mp h
  exact (Except.ok.inj hreturn).symm

/-- Apart from the columns that it computes, a service assigns the fields that are no `null`. -/
theorem updateEntity_eq_ok {fields : List (String × ColumnValue)}
    (h : session.updateEntity entity row fields = .ok row') {column : String}
    (hcolumn : column ∉ entity.computed) :
    row' column = Assignments.assign (· = .null) row fields column := by
  cases entity with
  | workflow =>
    rw [updateEntity, updateWorkflow] at h
    obtain ⟨obj, hobj, hrest⟩ := bind_eq_ok.mp h
    obtain ⟨-, -, hreturn⟩ := bind_eq_ok.mp hrest
    obtain rfl := Except.ok.inj hreturn
    split at hobj
    · -- nothing is assigned where no field of the row was sent
      rename_i hempty
      rw [List.isEmpty_iff.mp hempty, ← Except.ok.inj hobj]
      rfl
    · rw [update_eq_ok hobj]
  | schedule =>
    rw [updateEntity, updateSchedule] at h
    obtain ⟨obj, hobj, hrest⟩ := bind_eq_ok.mp h
    rw [← update_eq_ok hobj]
    split at hrest
    · -- the next run is computed anew and assigned last
      obtain ⟨next, -, hrest⟩ := bind_eq_ok.mp hrest
      obtain ⟨-, -, hreturn⟩ := bind_eq_ok.mp hrest
      have hne : column ≠ "next_run_at" := by
        rintro rfl
        exact hcolumn (List.mem_singleton_self _)
      rw [← Except.ok.inj hreturn]
      exact Function.update_of_ne hne _ _
    · rw [← Except.ok.inj hrest]
  | agentOs | team | agent | webhook | quotaPolicy => rw [update_eq_ok h]

/-! ## Runs of updates -/

/-- Some update of the entity that succeeds takes the row to the other. -/
def Updates (entity : UpdatedEntity) (row row' : Row) : Prop :=
  ∃ (session : UpdateSession) (payload : PartialPayload entity),
    session.updateEntity entity row payload.fields = .ok row'

/-- An update takes no value away. -/
theorem ne_null_of_updates (h : Updates entity row row') {column : String}
    (hcolumn : column ∉ entity.computed) (hvalue : row column ≠ .null) : row' column ≠ .null := by
  obtain ⟨session, payload, hupdate⟩ := h
  rw [updateEntity_eq_ok hupdate hcolumn]
  by_cases hmem : column ∈ payload.fields.map Prod.fst
  · obtain ⟨p, hp, rfl⟩ := List.mem_map.mp hmem
    rw [Assignments.assign_of_mem payload.keysNodup hp]
    split
    · exact hvalue
    · rename_i hset
      simpa using hset
  · rwa [Assignments.assign_of_notMem hmem]

/-- Once a field has been set, no sequence of updates makes it `null` again. -/
theorem ne_null_of_run (h : Relation.ReflTransGen (Updates entity) row row') {column : String}
    (hcolumn : column ∉ entity.computed) (hvalue : row column ≠ .null) : row' column ≠ .null := by
  induction h with
  | refl => exact hvalue
  | tail _ hstep ih => exact ne_null_of_updates hstep hcolumn ih

/-! ## Requests -/

/-- A request that succeeds has updated a stored row. -/
theorem put_eq_ok {stored : Uuid → Option Row} {id : Uuid} {payload : PartialPayload entity}
    (hstored : stored id = some row) (h : session.put stored entity id payload = .ok row') :
    session.updateEntity entity row payload.fields = .ok row' := by
  obtain ⟨-, -, hfound⟩ := bind_eq_ok.mp h
  obtain ⟨obj, hobj, hupdate⟩ := bind_eq_ok.mp hfound
  rw [getOr404, hstored] at hobj
  obtain rfl := Except.ok.inj hobj
  obtain ⟨updated, hupdated, hread⟩ := bind_eq_ok.mp hupdate
  obtain ⟨-, -, hreturn⟩ := bind_eq_ok.mp hread
  exact hupdated.trans hreturn

/-- What a field that was sent has after a request that succeeds. -/
theorem put_field_iff {stored : Uuid → Option Row} {id : Uuid} {payload : PartialPayload entity}
    (hstored : stored id = some row) (h : session.put stored entity id payload = .ok row')
    {p : String × ColumnValue} (hp : p ∈ payload.fields) :
    row' p.1 = p.2 ↔ (p.2 = .null → row p.1 = .null) := by
  have hcolumn : p.1 ∉ entity.computed := notMem_computed (List.mem_map_of_mem hp)
  rw [updateEntity_eq_ok (put_eq_ok hstored h) hcolumn,
    Assignments.assign_eq_iff payload.keysNodup hp, decide_eq_true_eq]
  constructor
  · intro hkept hnull
    rw [hkept hnull, hnull]
  · intro hkept hnull
    rw [hkept hnull, hnull]

/-- A request that succeeds has set the fields sent, and no others, exactly if every nullable field
    that it sends as `null` was `null` before. -/
theorem put_setsExactly_iff {stored : Uuid → Option Row} {id : Uuid}
    {payload : PartialPayload entity} (hstored : stored id = some row)
    (h : session.put stored entity id payload = .ok row') :
    SetsExactly entity payload.fields row row' ↔
      ∀ p ∈ payload.fields, p.2 = .null → p.1 ∈ entity.nullableFields → row p.1 = .null := by
  constructor
  · intro hsets p hp hnull hnullable
    exact (put_field_iff hstored h hp).mp (hsets.sent p hp fun _ => hnullable) hnull
  · intro hnulls
    constructor
    · intro p hp hallowed
      rw [put_field_iff hstored h hp]
      intro hnull
      exact hnulls p hp hnull (hallowed hnull)
    · intro column hcolumn hcomputed
      rw [updateEntity_eq_ok (put_eq_ok hstored h) hcomputed, Assignments.assign_of_notMem hcolumn]

namespace SecretWebhook

/-- A webhook whose requests have been signed so far. -/
def signed : Row := fun column =>
  if column = "id" then .uuid 1
  else if column = "webhook_token" then .str "t"
  else if column = "secret" then .str "k"
  else if column = "enabled" then .bool true
  else .null

/-- The stored webhooks. -/
def stored (id : Uuid) : Option Row := if id = 1 then some signed else none

/-- A deployment that takes every update. -/
def accepting : UpdateSession where
  enabled _ := true
  flush _ := .ok ()
  computeNextRunAt _ := .ok .null
  replaceSteps _ := .ok ()
  modelValidate _ _ := .ok ()

/-- The request takes the secret away. -/
def unsign : PartialPayload .webhook := ⟨[("secret", .null)], by decide, by decide⟩

/-- The request names the path of the input, and clears a field that is `null`. -/
def readMessage : PartialPayload .webhook :=
  ⟨[("input_field_path", .str "message"), ("user_id", .null)], by decide, by decide⟩

end SecretWebhook

open SecretWebhook in
theorem put_setsExactly_iff_readMessage :
    SetsExactly .webhook readMessage.fields signed
      (Function.update signed "input_field_path" (.str "message")) ↔
    ∀ p ∈ readMessage.fields, p.2 = .null → p.1 ∈ UpdatedEntity.webhook.nullableFields →
      signed p.1 = .null := by
  have hstored : stored 1 = some signed := rfl
  have hput : accepting.put stored .webhook 1 readMessage =
    .ok (Function.update signed "input_field_path" (.str "message")) := rfl
  exact put_setsExactly_iff hstored hput

open SecretWebhook in
/-- The secret is sent as `null`, the request succeeds, and the webhook still has it. -/
theorem put_unsign :
    accepting.put stored .webhook 1 unsign = .ok signed ∧ signed "secret" = .str "k" ∧
    ¬SetsExactly .webhook unsign.fields signed signed := by
  refine ⟨rfl, rfl, fun h => ?_⟩
  have hcleared := h.sent ("secret", .null) List.mem_cons_self fun _ => List.mem_cons_self
  exact absurd hcleared (by decide)

end AgnoRuntime
