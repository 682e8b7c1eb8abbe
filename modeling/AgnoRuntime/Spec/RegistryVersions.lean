import AgnoRuntime.ForStd.Runs
import AgnoRuntime.Model.Registries

/-!
# Versions in the registries

The next version of a code is computed from the rows that are not deleted,
while the unique constraint also ranges over the deleted ones. In every history
of requests the next versions are free in each state reached exactly when no
request deletes the last version of its code (`nextVersion_free_iff`).
-/

namespace AgnoRuntime

open Civil Except Versions

/-! ## The next version -/

/-- What `versions[0].version + 1` computes. -/
private theorem next_eq_of_versionsDesc {α κ : Type} [DecidableEq κ] [SoftDelete α] (key : α → κ)
    (version : α → Nat) (rows : List α) (k : κ) :
    next key version isLive rows k =
      match versionsDesc version (fun r => key r = k) rows with
      | [] => 1
      | r :: _ => version r + 1 :=
  (head_insertionSort (rows.filter fun r => key r = k && isLive r)).symm

theorem PromptRepository.nextVersion_eq (t : KeyedTable Prompt.id) (code : String) :
    nextVersion t code = next Prompt.code Prompt.version isLive t.rows code := by
  rw [next_eq_of_versionsDesc, nextVersion, listVersions]
  cases versionsDesc Prompt.version (fun r => r.code = code) t.rows <;> rfl

theorem UIMetadataRepository.nextVersion_eq (t : KeyedTable UIMetadataEntry.id) (code : String)
    (kind : UIMetadataKind) :
    nextVersion t code kind =
      next (fun r => (r.code, r.kind)) UIMetadataEntry.version isLive t.rows (code, kind) := by
  rw [next_eq_of_versionsDesc, nextVersion, listVersions]
  cases versionsDesc UIMetadataEntry.version (fun r => (r.code, r.kind) = (code, kind)) t.rows <;>
    rfl

theorem BusinessObjectRepository.nextVersion_eq (t : KeyedTable BusinessObjectDefinition.id)
    (code : String) :
    nextVersion t code =
      next BusinessObjectDefinition.code BusinessObjectDefinition.version isLive t.rows code := by
  rw [next_eq_of_versionsDesc, nextVersion]
  cases versionsDesc BusinessObjectDefinition.version (fun r => r.code = code) t.rows with
  | nil => rfl
  | cons r rest =>
    show (if r.version = 0 then 1 else r.version + 1) = r.version + 1
    split
    · rename_i hzero
      rw [hzero]
    · rfl

/-! ## Changes of one table -/

section Table

variable {α κ : Type} [DecidableEq κ] [SoftDelete α] {key : α → Uuid} {code : α → κ}
  {version : α → Nat} {t t' : KeyedTable key}

omit [SoftDelete α] in
/-- An inserted version is new among all rows of its code. -/
private theorem insertVersion_eq_ok {constraint : String} {mk : Uuid → α}
    {hmk : ∀ id, key (mk id) = id} :
    insertVersion t constraint code version mk hmk = .ok t' →
      t'.rows = t.rows ++ [mk t.freshKey] ∧
        ∀ r ∈ t.rows, code r = code (mk t.freshKey) → version r ≠ version (mk t.freshKey) := by
  intro h
  simp only [insertVersion, bind_eq_ok, raiseUnless_eq_ok, pure_eq_ok] at h
  obtain ⟨-, -, -, hfree, rfl⟩ := h
  refine ⟨rfl, fun r hr hcode hversion => ?_⟩
  have hclash := List.all_eq_true.mp hfree r hr
  simp [hcode, hversion] at hclash

/-- Inserting a version adds it. -/
private theorem change_insertVersion {constraint : String} {mk : Uuid → α}
    {hmk : ∀ id, key (mk id) = id} (h : insertVersion t constraint code version mk hmk = .ok t')
    (hlive : isLive (mk t.freshKey) = true)
    (hnext : version (mk t.freshKey) = next code version isLive t.rows (code (mk t.freshKey))) :
    Change code version isLive t.rows (fun _ => false) t'.rows := by
  obtain ⟨hrows, hfree⟩ := insertVersion_eq_ok h
  rw [hrows]
  exact .added (mk t.freshKey) hlive hnext hfree

/-- Where the next versions are free, the unique constraint lets the next version in. -/
private theorem insertVersion_free {constraint : String} {mk : Uuid → α}
    {hmk : ∀ id, key (mk id) = id} {e : PyError}
    (h : insertVersion t constraint code version mk hmk = .error e)
    (hnext : version (mk t.freshKey) = next code version isLive t.rows (code (mk t.freshKey)))
    (hfree : ∀ r ∈ t.rows, code r = code (mk t.freshKey) →
      version r ≠ next code version isLive t.rows (code (mk t.freshKey))) :
    e = .other "integer out of range" := by
  simp only [insertVersion, bind_eq_error, raiseUnless_eq_error, pure_ne_error, and_false,
    exists_false, or_false] at h
  rcases h with h | h
  · exact h.2.symm
  · obtain ⟨-, -, hclash, -⟩ := h
    obtain ⟨r, hr, hnot⟩ := List.all_eq_false.mp hclash
    simp only [ne_eq, decide_not, Bool.or_eq_true, Bool.not_eq_true', decide_eq_false_iff_not,
      not_or, not_not] at hnot
    exact absurd (hnot.2.trans hnext) (hfree r hr hnot.1)

/-- A stored row found by its id is hidden by deleting it. -/
private theorem change_delete (f : α → α) (hf : ∀ r, key (f r) = key r) (id : Uuid)
    (hcode : ∀ r, code (f r) = code r) (hversion : ∀ r, version (f r) = version r)
    (hdeleted : ∀ r, isLive (f r) = false) :
    Change code version isLive t.rows (fun r => key r = id) (t.update id f hf).rows := by
  have hrows : (t.update id f hf).rows =
      t.rows.map fun r => if (decide (key r = id)) = true then f r else r := by
    simp [KeyedTable.update]
  rw [hrows]
  exact .hidden _ f hcode hversion hdeleted

omit [DecidableEq κ] in
/-- A live row found by its id is no last version. -/
private theorem sparesLast_iff {name : String} {id : Uuid} {obj : α}
    (hobj : BaseRepository.getOr404 t name id = .ok obj) :
    SparesLast code version (fun r => key r = key obj) t.rows ↔
      ¬ ∃ r ∈ t.rows, key r = id ∧ isLive r = true ∧
        ∀ r' ∈ t.rows, code r' = code r → version r' ≤ version r := by
  obtain ⟨hmem, rfl, hlive⟩ := BaseRepository.getOr404_ok hobj
  simp only [SparesLast, decide_eq_true_eq, not_exists, not_and, not_forall, Nat.not_le]
  constructor
  · intro h r hr hkey _
    obtain ⟨r', hr', hcode, hlt⟩ := h r hr hkey
    exact ⟨r', hr', hcode, hlt⟩
  · intro h r hr hkey
    rw [t.eq_of_key_eq hr hmem hkey]
    obtain ⟨r', hr', hcode, hlt⟩ := h obj hmem rfl hlive
    exact ⟨r', hr', hcode, hlt⟩

end Table

namespace Registries

variable {features : RegistryFeatures} {s s' : Registries} {req : RegistryRequest}

/-! ## The law and its condition -/

/-- No stored row, deleted or not, carries the next version of its code. -/
structure NextVersionsFree (s : Registries) : Prop where
  prompts : ∀ code, ∀ r ∈ s.prompts.rows, r.code = code →
    r.version ≠ PromptRepository.nextVersion s.prompts code
  uiMetadata : ∀ code kind, ∀ r ∈ s.uiMetadata.rows, r.code = code → r.kind = kind →
    r.version ≠ UIMetadataRepository.nextVersion s.uiMetadata code kind
  businessObjects : ∀ code, ∀ r ∈ s.businessObjects.rows, r.code = code →
    r.version ≠ BusinessObjectRepository.nextVersion s.businessObjects code

/-- No version of a code is carried by two rows. -/
structure VersionsDistinct (s : Registries) : Prop where
  prompts : ∀ r ∈ s.prompts.rows, ∀ r' ∈ s.prompts.rows, r.code = r'.code →
    r.version = r'.version → r = r'
  uiMetadata : ∀ r ∈ s.uiMetadata.rows, ∀ r' ∈ s.uiMetadata.rows, r.code = r'.code →
    r.kind = r'.kind → r.version = r'.version → r = r'
  businessObjects : ∀ r ∈ s.businessObjects.rows, ∀ r' ∈ s.businessObjects.rows,
    r.code = r'.code → r.version = r'.version → r = r'

/-- Violations of the unique constraints on versions. -/
def isVersionViolation : PyError → Bool
  | .integrityError constraint => constraint = "uq_prompt_code_version" ||
      constraint = "uq_ui_metadata_code_kind_version" ||
      constraint = "uq_business_object_code_version"
  | _ => false

/-- What the version counters promise of a state. -/
structure VersionLaw (features : RegistryFeatures) (s : Registries) : Prop where
  free : NextVersionsFree s
  distinct : VersionsDistinct s
  inserts : ∀ req e, handle features s req = .error e → isVersionViolation e = false

/-- The request deletes a row, not yet deleted, that has the highest version of its code. -/
def DeletesLast (features : RegistryFeatures) (s : Registries) : RegistryRequest → Prop
  | .deletePrompt promptId _ => ∃ r ∈ s.prompts.rows, r.id = promptId ∧ isLive r = true ∧
      ∀ r' ∈ s.prompts.rows, r'.code = r.code → r'.version ≤ r.version
  | .deleteUiMetadata entryId _ => features.uiMetadataRegistry = true ∧
      ∃ r ∈ s.uiMetadata.rows, r.id = entryId ∧ isLive r = true ∧
        ∀ r' ∈ s.uiMetadata.rows, r'.code = r.code → r'.kind = r.kind → r'.version ≤ r.version
  | .deleteBusinessObject objectId _ => features.businessObjectRegistry = true ∧
      ∃ r ∈ s.businessObjects.rows, r.id = objectId ∧ isLive r = true ∧
        ∀ r' ∈ s.businessObjects.rows, r'.code = r.code → r'.version ≤ r.version
  | _ => False

/-! ## One request -/

/-- The versions of every code count from 1. -/
private structure Numbering (s : Registries) : Prop where
  prompts : Numbered Prompt.code Prompt.version s.prompts.rows
  uiMetadata : Numbered (fun r => (r.code, r.kind)) UIMetadataEntry.version s.uiMetadata.rows
  businessObjects : Numbered BusinessObjectDefinition.code BusinessObjectDefinition.version
    s.businessObjects.rows

/-- The last version of every code is not deleted. -/
private structure LastLive (s : Registries) : Prop where
  prompts : ∀ k, LastVisible Prompt.code Prompt.version isLive s.prompts.rows k
  uiMetadata : ∀ k, LastVisible (fun r => (r.code, r.kind)) UIMetadataEntry.version isLive
    s.uiMetadata.rows k
  businessObjects : ∀ k, LastVisible BusinessObjectDefinition.code
    BusinessObjectDefinition.version isLive s.businessObjects.rows k

/-- Which rows a request hides in each table, and whether a last version is among them. -/
private structure Changes (features : RegistryFeatures) (req : RegistryRequest)
    (s s' : Registries) (p : Prompt → Bool) (u : UIMetadataEntry → Bool)
    (o : BusinessObjectDefinition → Bool) : Prop where
  prompts : Change Prompt.code Prompt.version isLive s.prompts.rows p s'.prompts.rows
  uiMetadata : Change (fun r => (r.code, r.kind)) UIMetadataEntry.version isLive
    s.uiMetadata.rows u s'.uiMetadata.rows
  businessObjects : Change BusinessObjectDefinition.code BusinessObjectDefinition.version isLive
    s.businessObjects.rows o s'.businessObjects.rows
  spares : (SparesLast Prompt.code Prompt.version p s.prompts.rows ∧
      SparesLast (fun r => (r.code, r.kind)) UIMetadataEntry.version u s.uiMetadata.rows ∧
      SparesLast BusinessObjectDefinition.code BusinessObjectDefinition.version o
        s.businessObjects.rows) ↔ ¬ DeletesLast features s req

private theorem sparesLast_none {α κ : Type} {code : α → κ} {version : α → Nat} (rows : List α) :
    SparesLast code version (fun _ => false) rows := fun _ _ h => by cases h

/-- A request that hides no row. -/
private theorem changes_of_none_hidden
    (hprompts : Change Prompt.code Prompt.version isLive s.prompts.rows (fun _ => false)
      s'.prompts.rows)
    (hui : Change (fun r => (r.code, r.kind)) UIMetadataEntry.version isLive s.uiMetadata.rows
      (fun _ => false) s'.uiMetadata.rows)
    (hobjects : Change BusinessObjectDefinition.code BusinessObjectDefinition.version isLive
      s.businessObjects.rows (fun _ => false) s'.businessObjects.rows)
    (hreq : ¬ DeletesLast features s req) :
    Changes features req s s' (fun _ => false) (fun _ => false) (fun _ => false) where
  prompts := hprompts
  uiMetadata := hui
  businessObjects := hobjects
  spares := iff_of_true ⟨sparesLast_none _, sparesLast_none _, sparesLast_none _⟩ hreq

/-- An inserted UI metadata entry with the next version is a new version. -/
private theorem change_insertUiMetadata {row : Uuid → UIMetadataEntry}
    {hrow : ∀ id, (row id).id = id} (h : insertUiMetadata s row hrow = .ok s')
    (hlive : ∀ id, isLive (row id) = true)
    (hversion : ∀ id, (row id).version =
      UIMetadataRepository.nextVersion s.uiMetadata (row id).code (row id).kind)
    (hreq : ¬ DeletesLast features s req) :
    Changes features req s s' (fun _ => false) (fun _ => false) (fun _ => false) := by
  simp only [insertUiMetadata, bind_eq_ok, pure_eq_ok] at h
  obtain ⟨-, -, -, -, -, -, t, hinsert, -, -, rfl⟩ := h
  refine changes_of_none_hidden .same ?_ .same hreq
  exact change_insertVersion hinsert (hlive _)
    ((hversion _).trans (UIMetadataRepository.nextVersion_eq _ _ _))

/-- An inserted business object with the next version is a new version. -/
private theorem change_insertBusinessObject {row : Uuid → BusinessObjectDefinition}
    {hrow : ∀ id, (row id).id = id} (h : insertBusinessObject s row hrow = .ok s')
    (hlive : ∀ id, isLive (row id) = true)
    (hversion : ∀ id, (row id).version =
      BusinessObjectRepository.nextVersion s.businessObjects (row id).code)
    (hreq : ¬ DeletesLast features s req) :
    Changes features req s s' (fun _ => false) (fun _ => false) (fun _ => false) := by
  simp only [insertBusinessObject, bind_eq_ok, pure_eq_ok] at h
  obtain ⟨-, -, t, hinsert, -, -, rfl⟩ := h
  refine changes_of_none_hidden .same .same ?_ hreq
  exact change_insertVersion hinsert (hlive _)
    ((hversion _).trans (BusinessObjectRepository.nextVersion_eq _ _))

/-- What a successful request changes. -/
private theorem changes_of_handle (h : handle features s req = .ok s') :
    ∃ p u o, Changes features req s s' p u o := by
  cases req with
  | createPrompt payload =>
    simp only [handle, createPrompt, bind_eq_ok, pure_eq_ok] at h
    obtain ⟨t, hinsert, -, -, rfl⟩ := h
    refine ⟨_, _, _, changes_of_none_hidden ?_ .same .same fun hlast => hlast⟩
    exact change_insertVersion hinsert rfl (PromptRepository.nextVersion_eq _ _)
  -- a prompt is edited in place, the other registries get a new version
  | updatePrompt promptId payload =>
    simp only [handle, updatePrompt, bind_eq_ok, pure_eq_ok] at h
    obtain ⟨obj, -, -, -, -, -, rfl⟩ := h
    refine ⟨_, _, _, changes_of_none_hidden (Change.edited
      (fun r : Prompt => if r.id = obj.id then payload.applyTo r else r) ?_ ?_ ?_) .same .same
      fun hlast => hlast⟩ <;>
      intro r <;> split <;> rfl
  | deletePrompt promptId now =>
    simp only [handle, deletePrompt, bind_eq_ok, pure_eq_ok] at h
    obtain ⟨obj, hobj, rfl⟩ := h
    refine ⟨_, fun _ => false, fun _ => false, change_delete
      (fun r : Prompt => { r with deletedAt := some now }) (fun _ => rfl) obj.id (fun _ => rfl)
      (fun _ => rfl) fun _ => rfl, .same, .same, ?_⟩
    -- the deleted row spares the last version unless it is the last one itself
    rw [sparesLast_iff hobj, and_iff_left ⟨sparesLast_none _, sparesLast_none _⟩]
    rfl
  | createUiMetadata payload =>
    simp only [handle, createUiMetadata, bind_eq_ok] at h
    obtain ⟨-, -, hinsert⟩ := h
    exact ⟨_, _, _, change_insertUiMetadata hinsert (fun _ => rfl) (fun _ => rfl)
      fun hlast => hlast⟩
  | updateUiMetadata entryId payload =>
    simp only [handle, updateUiMetadata, bind_eq_ok] at h
    obtain ⟨-, -, existing, -, -, -, name, -, hinsert⟩ := h
    exact ⟨_, _, _, change_insertUiMetadata hinsert (fun _ => rfl) (fun _ => rfl)
      fun hlast => hlast⟩
  | deleteUiMetadata entryId now =>
    simp only [handle, deleteUiMetadata, requireEnabled, bind_eq_ok, raiseUnless_eq_ok,
      pure_eq_ok] at h
    obtain ⟨-, hfeature, obj, hobj, rfl⟩ := h
    refine ⟨fun _ => false, _, fun _ => false, .same, change_delete
      (fun r : UIMetadataEntry => { r with deletedAt := some now }) (fun _ => rfl) obj.id (fun _ => rfl)
      (fun _ => rfl) fun _ => rfl, .same, ?_⟩
    rw [sparesLast_iff hobj, and_iff_right (sparesLast_none _),
      and_iff_left (sparesLast_none _)]
    simp [DeletesLast, hfeature]
  | createBusinessObject payload =>
    simp only [handle, createBusinessObject, bind_eq_ok] at h
    obtain ⟨-, -, hinsert⟩ := h
    exact ⟨_, _, _, change_insertBusinessObject hinsert (fun _ => rfl) (fun _ => rfl)
      fun hlast => hlast⟩
  | updateBusinessObject objectId payload =>
    simp only [handle, updateBusinessObject, bind_eq_ok] at h
    obtain ⟨-, -, existing, -, -, -, name, -, hinsert⟩ := h
    exact ⟨_, _, _, change_insertBusinessObject hinsert (fun _ => rfl) (fun _ => rfl)
      fun hlast => hlast⟩
  | deleteBusinessObject objectId now =>
    simp only [handle, deleteBusinessObject, requireEnabled, bind_eq_ok, raiseUnless_eq_ok,
      pure_eq_ok] at h
    obtain ⟨-, hfeature, obj, hobj, rfl⟩ := h
    refine ⟨fun _ => false, fun _ => false, _, .same, .same, change_delete
      (fun r : BusinessObjectDefinition => { r with deletedAt := some now }) (fun _ => rfl) obj.id
      (fun _ => rfl)
      (fun _ => rfl) fun _ => rfl, ?_⟩
    rw [sparesLast_iff hobj, and_iff_right (sparesLast_none _),
      and_iff_right (sparesLast_none _)]
    simp [DeletesLast, hfeature]

/-- A request that fails deletes nothing. -/
private theorem not_deletesLast_of_error {e : PyError} (h : handle features s req = .error e) :
    ¬ DeletesLast features s req := by
  cases req with
  -- The row to be deleted is there, so it is found.
  | deletePrompt promptId now =>
    simp only [handle, deletePrompt, bind_eq_error, pure_ne_error, and_false, exists_false,
      or_false] at h
    intro hlast
    obtain ⟨r, hr, hid, hlive, -⟩ := hlast
    exact BaseRepository.getOr404_error h ⟨r, hr, hid, hlive⟩
  | deleteUiMetadata entryId now =>
    intro hlast
    obtain ⟨hfeature, r, hr, hid, hlive, -⟩ := hlast
    simp only [handle, deleteUiMetadata, requireEnabled, hfeature, raiseUnless_true_bind,
      bind_eq_error, pure_ne_error, and_false, exists_false, or_false] at h
    exact BaseRepository.getOr404_error h ⟨r, hr, hid, hlive⟩
  | deleteBusinessObject objectId now =>
    intro hlast
    obtain ⟨hfeature, r, hr, hid, hlive, -⟩ := hlast
    simp only [handle, deleteBusinessObject, requireEnabled, hfeature, raiseUnless_true_bind,
      bind_eq_error, pure_ne_error, and_false, exists_false, or_false] at h
    exact BaseRepository.getOr404_error h ⟨r, hr, hid, hlive⟩
  | createPrompt | updatePrompt | createUiMetadata | updateUiMetadata | createBusinessObject
  | updateBusinessObject => exact fun hlast => hlast

/-- What a request changes, where it succeeds or not. -/
private theorem changes_apply (features : RegistryFeatures) (s : Registries)
    (req : RegistryRequest) : ∃ p u o, Changes features req s (apply features s req) p u o := by
  cases h : handle features s req with
  | ok s' =>
    have happly : apply features s req = s' := by rw [apply, h]
    rw [happly]
    exact changes_of_handle h
  | error e =>
    have happly : apply features s req = s := by rw [apply, h]
    rw [happly]
    exact ⟨_, _, _, changes_of_none_hidden .same .same .same (not_deletesLast_of_error h)⟩

/-! ## The law of one state -/

/-- In a numbered state the next versions are free exactly when the last ones are live. -/
private theorem nextVersionsFree_iff (h : Numbering s) : NextVersionsFree s ↔ LastLive s := by
  constructor
  · intro hfree
    -- In each of the three registries the next version is above all live ones.
    refine ⟨fun k => ?_, fun k => ?_, fun k => ?_⟩
    · refine (h.prompts.next_free_iff k).mp fun r hr hkey => ?_
      rw [← PromptRepository.nextVersion_eq]
      exact hfree.prompts k r hr hkey
    · refine (h.uiMetadata.next_free_iff k).mp fun r hr hkey => ?_
      rw [← UIMetadataRepository.nextVersion_eq]
      exact hfree.uiMetadata k.1 k.2 r hr (congrArg Prod.fst hkey) (congrArg Prod.snd hkey)
    · refine (h.businessObjects.next_free_iff k).mp fun r hr hkey => ?_
      rw [← BusinessObjectRepository.nextVersion_eq]
      exact hfree.businessObjects k r hr hkey
  · intro hlast
    refine ⟨fun code r hr hcode => ?_, fun code kind r hr hcode hkind => ?_,
      fun code r hr hcode => ?_⟩
    -- The next version is above the last one, which is live.
    · rw [PromptRepository.nextVersion_eq]
      exact (h.prompts.next_free_iff code).mpr (hlast.prompts code) r hr hcode
    · rw [UIMetadataRepository.nextVersion_eq]
      exact (h.uiMetadata.next_free_iff (code, kind)).mpr (hlast.uiMetadata (code, kind)) r hr
        (Prod.ext hcode hkind)
    · rw [BusinessObjectRepository.nextVersion_eq]
      exact (h.businessObjects.next_free_iff code).mpr (hlast.businessObjects code) r hr hcode

/-- Numbered versions are distinct. -/
private theorem versionsDistinct_of_numbering (h : Numbering s) : VersionsDistinct s where
  prompts _ hr _ hr' hcode := h.prompts.eq_of_version hr hr' hcode
  uiMetadata _ hr _ hr' hcode hkind := h.uiMetadata.eq_of_version hr hr' (Prod.ext hcode hkind)
  businessObjects _ hr _ hr' hcode := h.businessObjects.eq_of_version hr hr' hcode

/-- No check but the unique constraint on versions raises its violation. -/
private theorem insertUiMetadata_error {row : Uuid → UIMetadataEntry}
    {hrow : ∀ id, (row id).id = id} {e : PyError} (hfree : NextVersionsFree s)
    (h : insertUiMetadata s row hrow = .error e)
    (hversion : ∀ id, (row id).version =
      UIMetadataRepository.nextVersion s.uiMetadata (row id).code (row id).kind) :
    isVersionViolation e = false := by
  simp only [insertUiMetadata, checkColumn, UIMetadataRead.modelValidate, bind_eq_error,
    raiseUnless_eq_error, pure_ne_error, and_false, exists_false, or_false] at h
  rcases h with ⟨-, rfl⟩ | ⟨-, -, ⟨-, rfl⟩ | ⟨-, -, ⟨-, rfl⟩ | ⟨-, -, hinsert | ⟨-, -, -, rfl⟩⟩⟩⟩
  · rfl
  · rfl
  · rfl
  · rw [insertVersion_free hinsert ((hversion _).trans (UIMetadataRepository.nextVersion_eq _ _ _))
      fun r hr hkey => ?_]
    · rfl
    · rw [← UIMetadataRepository.nextVersion_eq]
      exact hfree.uiMetadata _ _ r hr (congrArg Prod.fst hkey) (congrArg Prod.snd hkey)
  · rfl

private theorem insertBusinessObject_error {row : Uuid → BusinessObjectDefinition}
    {hrow : ∀ id, (row id).id = id} {e : PyError} (hfree : NextVersionsFree s)
    (h : insertBusinessObject s row hrow = .error e)
    (hversion : ∀ id, (row id).version =
      BusinessObjectRepository.nextVersion s.businessObjects (row id).code) :
    isVersionViolation e = false := by
  simp only [insertBusinessObject, checkColumn, BusinessObjectRead.modelValidate, bind_eq_error,
    raiseUnless_eq_error, pure_ne_error, and_false, exists_false, or_false] at h
  rcases h with ⟨-, rfl⟩ | ⟨-, -, hinsert | ⟨-, -, -, rfl⟩⟩
  · rfl
  · rw [insertVersion_free hinsert ((hversion _).trans (BusinessObjectRepository.nextVersion_eq _ _))
      fun r hr hkey => ?_]
    · rfl
    · rw [← BusinessObjectRepository.nextVersion_eq]
      exact hfree.businessObjects _ r hr hkey
  · rfl

private theorem getOr404_error_kind {α : Type} [SoftDelete α] {key : α → Uuid} {t : KeyedTable key}
    {name : String} {id : Uuid} {e : PyError} (h : BaseRepository.getOr404 t name id = .error e) :
    isVersionViolation e = false := by
  unfold BaseRepository.getOr404 at h
  split at h
  · cases h
  · cases h
    rfl

private theorem required_error_kind {sent : Sent String} {current : String} {e : PyError}
    (h : required "name" sent current = .error e) : isVersionViolation e = false := by
  unfold required at h
  split at h <;> cases h
  decide

/-- Where the next versions are free, no request violates the unique constraints on them. -/
private theorem isVersionViolation_of_free {e : PyError} (hfree : NextVersionsFree s)
    (h : handle features s req = .error e) : isVersionViolation e = false := by
  cases req with
  | createPrompt payload =>
    simp only [handle, createPrompt, PromptRead.modelValidate, bind_eq_error,
      raiseUnless_eq_error, pure_ne_error, and_false, exists_false, or_false] at h
    rcases h with hinsert | ⟨-, -, -, rfl⟩
    -- a free version leaves only the code itself to collide
    · rw [insertVersion_free hinsert (PromptRepository.nextVersion_eq _ _) fun r hr hkey => ?_]
      · rfl
      · rw [← PromptRepository.nextVersion_eq]
        exact hfree.prompts _ r hr hkey
    · rfl
  | updatePrompt promptId payload =>
    simp only [handle, updatePrompt, checkColumn, PromptRead.modelValidate, bind_eq_error,
      raiseUnless_eq_error, pure_ne_error, and_false, exists_false, or_false] at h
    rcases h with h | ⟨-, -, ⟨-, rfl⟩ | ⟨-, -, -, rfl⟩⟩
    -- every other refusal is a 404 or a request the schema turns down
    · exact getOr404_error_kind h
    · rfl
    · rfl
  | deletePrompt promptId now =>
    simp only [handle, deletePrompt, bind_eq_error, pure_ne_error, and_false, exists_false,
      or_false] at h
    exact getOr404_error_kind h
  | createUiMetadata payload =>
    simp only [handle, createUiMetadata, requireEnabled, bind_eq_error, raiseUnless_eq_error] at h
    rcases h with ⟨-, rfl⟩ | ⟨-, -, hinsert⟩
    · rfl
    · exact insertUiMetadata_error hfree hinsert fun _ => rfl
  | updateUiMetadata entryId payload =>
    simp only [handle, updateUiMetadata, requireEnabled, UIMetadataRead.modelValidate,
      bind_eq_error, raiseUnless_eq_error] at h
    rcases h with ⟨-, rfl⟩ | ⟨-, -, h | ⟨existing, -, ⟨-, rfl⟩ | ⟨-, -, h | ⟨name, -, hinsert⟩⟩⟩⟩
    · rfl
    · exact getOr404_error_kind h
    · rfl
    · exact required_error_kind h
    · exact insertUiMetadata_error hfree hinsert fun _ => rfl
  | deleteUiMetadata entryId now =>
    simp only [handle, deleteUiMetadata, requireEnabled, bind_eq_error, raiseUnless_eq_error,
      pure_ne_error, and_false, exists_false, or_false] at h
    rcases h with ⟨-, rfl⟩ | ⟨-, -, h⟩
    · rfl
    · exact getOr404_error_kind h
  | createBusinessObject payload =>
    simp only [handle, createBusinessObject, requireEnabled, bind_eq_error,
      raiseUnless_eq_error] at h
    rcases h with ⟨-, rfl⟩ | ⟨-, -, hinsert⟩
    · rfl
    · exact insertBusinessObject_error hfree hinsert fun _ => rfl
  | updateBusinessObject objectId payload =>
    simp only [handle, updateBusinessObject, requireEnabled, BusinessObjectRead.modelValidate,
      bind_eq_error, raiseUnless_eq_error] at h
    rcases h with ⟨-, rfl⟩ | ⟨-, -, h | ⟨existing, -, ⟨-, rfl⟩ | ⟨-, -, h | ⟨name, -, hinsert⟩⟩⟩⟩
    · rfl
    · exact getOr404_error_kind h
    · rfl
    · exact required_error_kind h
    · exact insertBusinessObject_error hfree hinsert fun _ => rfl
  | deleteBusinessObject objectId now =>
    simp only [handle, deleteBusinessObject, requireEnabled, bind_eq_error, raiseUnless_eq_error,
      pure_ne_error, and_false, exists_false, or_false] at h
    rcases h with ⟨-, rfl⟩ | ⟨-, -, h⟩
    · rfl
    · exact getOr404_error_kind h

/-- A numbered state keeps the law exactly when the last versions are live. -/
private theorem versionLaw_iff (h : Numbering s) : VersionLaw features s ↔ LastLive s := by
  rw [← nextVersionsFree_iff h]
  constructor
  · exact VersionLaw.free
  · intro hfree
    exact ⟨hfree, versionsDistinct_of_numbering h, fun req e => isVersionViolation_of_free hfree⟩

/-! ## Histories -/

/-- Every request keeps the numbering. -/
private theorem numbering_apply (h : Numbering s) : Numbering (apply features s req) := by
  obtain ⟨p, u, o, hchanges⟩ := changes_apply features s req
  exact ⟨h.prompts.change hchanges.prompts, h.uiMetadata.change hchanges.uiMetadata,
    h.businessObjects.change hchanges.businessObjects⟩

/-- A request leaves the last versions live exactly when it deletes none of them. -/
private theorem lastLive_apply_iff (h : Numbering s) (hlast : LastLive s) :
    LastLive (apply features s req) ↔ ¬ DeletesLast features s req := by
  obtain ⟨p, u, o, hchanges⟩ := changes_apply features s req
  rw [← hchanges.spares, ← hchanges.prompts.lastVisible_iff h.prompts hlast.prompts,
    ← hchanges.uiMetadata.lastVisible_iff h.uiMetadata hlast.uiMetadata,
    ← hchanges.businessObjects.lastVisible_iff h.businessObjects hlast.businessObjects]
  exact ⟨fun h => ⟨h.1, h.2, h.3⟩, fun h => ⟨h.1, h.2.1, h.2.2⟩⟩

private theorem numbering_empty : Numbering empty := ⟨numbered_nil, numbered_nil, numbered_nil⟩

private theorem numbering_run (reqs : List RegistryRequest) :
    Numbering (run features empty reqs) :=
  List.foldlRecOn reqs _ numbering_empty fun _ h _ _ => numbering_apply h

private theorem lastLive_empty : LastLive empty :=
  ⟨fun _ _ h => (by cases h), fun _ _ h => (by cases h), fun _ _ h => by cases h⟩

/-- In every history of requests, the next versions are free in each state reached, and no
    version is inserted or carried twice, exactly when no request deletes the last version
    of its code. -/
theorem nextVersion_free_iff (features : RegistryFeatures) (reqs : List RegistryRequest) :
    (∀ before, before <+: reqs → VersionLaw features (run features empty before)) ↔
      ∀ before req, before ++ [req] <+: reqs →
        ¬ DeletesLast features (run features empty before) req := by
  have hstart : Numbering empty ∧ LastLive empty := ⟨numbering_empty, lastLive_empty⟩
  have hstep (s : Registries) (req : RegistryRequest) (h : Numbering s ∧ LastLive s) :
      Numbering (apply features s req) ∧ LastLive (apply features s req) ↔
        ¬ DeletesLast features s req := by
    rw [and_iff_right (numbering_apply h.1)]
    exact lastLive_apply_iff h.1 h.2
  refine Iff.trans ?_ (Runs.throughout_foldl_iff (P := fun s => Numbering s ∧ LastLive s)
    (Q := fun s req => ¬ DeletesLast features s req) hstart hstep)
  constructor
  · intro hlaw before hinit
    have hnumbering : Numbering (run features empty before) := numbering_run before
    exact ⟨hnumbering, (versionLaw_iff hnumbering).mp (hlaw before hinit)⟩
  · intro hlast before hinit
    obtain ⟨hnumbering, hlive⟩ := hlast before hinit
    exact (versionLaw_iff hnumbering).mpr hlive

/-- A prompt to create. -/
def greeting : PromptCreate where
  code := "greeting"
  name := "Greeting"
  content := "Say hello."
  status := .active
  codeLength := by decide
  codeMatches := by decide
  nameLength := by decide
  contentLength := by decide

def midnight : DateTime := .startOfMarch2026

/-- Version 1 is created and deleted; the next version is 1 again, and creating it violates
    the unique constraint. -/
theorem nextVersion_reuses_deleted :
    let features : RegistryFeatures := ⟨true, true⟩
    let deleted := run features empty [.createPrompt greeting, .deletePrompt 1 midnight]
    PromptRepository.nextVersion deleted.prompts "greeting" = 1 ∧
      (∃ r ∈ deleted.prompts.rows, r.code = "greeting" ∧ r.version = 1) ∧
      handle features deleted (.createPrompt greeting) =
        .error (.integrityError "uq_prompt_code_version") := by
  refine ⟨by decide +kernel, ?_, rfl⟩
  decide +kernel

end Registries

end AgnoRuntime
