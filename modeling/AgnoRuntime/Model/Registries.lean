import AgnoRuntime.ForStd.Json
import AgnoRuntime.ForStd.Versions
import AgnoRuntime.Model.MetadataApi

/-!
# Versioned registries

Prompts, UI metadata entries and business objects (`app/models/{prompt,
ui_metadata,business_object}.py`), the versions their repositories compute, and
the routes that create, change and delete them (`app/api/v1/{prompts,
ui_metadata,business_objects}.py`).

A request body is what its schema accepted, so its structure carries the
schema's conditions. Each route runs in one transaction of `get_db`. A row is
read back through its `Read` schema before the transaction commits.
-/

namespace AgnoRuntime

open Civil Except

/-- A field of an update that was sent, with a value or with an explicit `null`. -/
abbrev Sent (α : Type) := Option (Option α)

/-! ## Rows -/

/-- `UIMetadataKind`. -/
inductive UIMetadataKind where
  | application | page | form | dialog | grid | businessObject | field | validationRule
  | lookup | businessRule | component | permission | event
deriving DecidableEq

/-- `UIMetadataEntry`. The payload is `none` where the column holds the JSON value `null`. -/
structure UIMetadataEntry where
  id : Uuid
  code : String
  kind : UIMetadataKind
  name : String
  description : Option String
  version : Nat
  parentCode : Option String
  payload : Option Json.Dict
  schemaVersion : String
  enabled : Bool
  deletedAt : Option DateTime

/-- `BusinessObjectFieldSpec`. -/
structure BusinessObjectFieldSpec where
  name : String
  type : String
  required : Bool
  description : Option String
  enumValues : Option (List String)
  referenceObjectCode : Option String

/-- `BusinessObjectRelationship`. -/
structure BusinessObjectRelationship where
  name : String
  targetObjectCode : String
  cardinality : String

/-- `BusinessObjectPayload`. -/
structure BusinessObjectPayload where
  fields : List BusinessObjectFieldSpec
  relationships : List BusinessObjectRelationship
  validation : List Json.Dict
  businessMeaning : Option String

/-- `BusinessObjectDefinition`. The payload is what its schema reads from the column. -/
structure BusinessObjectDefinition where
  id : Uuid
  code : String
  name : String
  description : Option String
  version : Nat
  payload : Option BusinessObjectPayload
  enabled : Bool
  deletedAt : Option DateTime

instance : SoftDelete UIMetadataEntry := ⟨UIMetadataEntry.deletedAt⟩
instance : SoftDelete BusinessObjectDefinition := ⟨BusinessObjectDefinition.deletedAt⟩

/-- The three registries. -/
structure Registries where
  prompts : KeyedTable Prompt.id
  uiMetadata : KeyedTable UIMetadataEntry.id
  businessObjects : KeyedTable BusinessObjectDefinition.id

/-- `FEATURE_UI_METADATA_REGISTRY` and `FEATURE_BUSINESS_OBJECT_REGISTRY`. -/
structure RegistryFeatures where
  uiMetadataRegistry : Bool
  businessObjectRegistry : Bool

/-! ## Request bodies -/

/-- `PromptCreate`; the route ignores the version a caller sends. -/
structure PromptCreate where
  code : String
  name : String
  content : String
  status : PromptStatus
  codeLength : code.length ≤ 128
  codeMatches : matchesCode ['-', '_'] code = true
  nameLength : 1 ≤ name.length ∧ name.length ≤ 255
  contentLength : 1 ≤ content.length

/-- `PromptUpdate`: the fields sent with a value. -/
structure PromptUpdate where
  name : Option String
  content : Option String
  status : Option PromptStatus

/-- The fields sent replace those of the row. -/
def PromptUpdate.applyTo (payload : PromptUpdate) (r : Prompt) : Prompt :=
  { r with
    name := payload.name.getD r.name
    content := payload.content.getD r.content
    status := payload.status.getD r.status }

/-- `UIMetadataCreate`. -/
structure UIMetadataCreate where
  code : String
  kind : UIMetadataKind
  name : String
  description : Option String
  parentCode : Option String
  payload : Json.Dict
  schemaVersion : String
  enabled : Bool
  codeLength : code.length ≤ 128
  codeMatches : matchesCode ['-', '_', '.'] code = true
  nameLength : 1 ≤ name.length ∧ name.length ≤ 255

/-- `UIMetadataUpdate`. -/
structure UIMetadataUpdate where
  name : Sent String
  description : Sent String
  parentCode : Sent String
  payload : Sent Json.Dict
  schemaVersion : Sent String
  enabled : Sent Bool

/-- `BusinessObjectCreate`. -/
structure BusinessObjectCreate where
  code : String
  name : String
  description : Option String
  payload : BusinessObjectPayload
  enabled : Bool
  codeLength : code.length ≤ 128
  codeMatches : matchesCode ['-', '_', '.'] code = true
  nameLength : 1 ≤ name.length ∧ name.length ≤ 255

/-- `BusinessObjectUpdate`. -/
structure BusinessObjectUpdate where
  name : Sent String
  description : Sent String
  payload : Sent BusinessObjectPayload
  enabled : Sent Bool

/-- The requests; the last argument of a delete is the time it runs at. -/
inductive RegistryRequest where
  | createPrompt (payload : PromptCreate)
  | updatePrompt (promptId : Uuid) (payload : PromptUpdate)
  | deletePrompt (promptId : Uuid) (now : DateTime)
  | createUiMetadata (payload : UIMetadataCreate)
  | updateUiMetadata (entryId : Uuid) (payload : UIMetadataUpdate)
  | deleteUiMetadata (entryId : Uuid) (now : DateTime)
  | createBusinessObject (payload : BusinessObjectCreate)
  | updateBusinessObject (objectId : Uuid) (payload : BusinessObjectUpdate)
  | deleteBusinessObject (objectId : Uuid) (now : DateTime)

/-! ## Reading a row back -/

/-- `PromptRead.model_validate`. -/
def PromptRead.modelValidate (r : Prompt) : Except PyError Unit :=
  raiseUnless (readable ['-', '_'] r.code r.name && 1 ≤ r.content.length && 1 ≤ r.version)
    (.other "validation error for PromptRead")

/-- `UIMetadataRead.model_validate`. -/
def UIMetadataRead.modelValidate (r : UIMetadataEntry) : Except PyError Unit :=
  raiseUnless (readable ['-', '_', '.'] r.code r.name && r.payload.isSome)
    (.other "validation error for UIMetadataRead")

/-- `BusinessObjectRead.model_validate`. -/
def BusinessObjectRead.modelValidate (r : BusinessObjectDefinition) : Except PyError Unit :=
  raiseUnless (readable ['-', '_', '.'] r.code r.name && r.payload.isSome)
    (.other "validation error for BusinessObjectRead")

/-! ## Versions -/

/-- The rows that are selected and not deleted, ORDER BY version DESC. The versions of
    the rows selected are distinct, so no other order fits. -/
def versionsDesc {α : Type} [SoftDelete α] (version : α → Nat) (selected : α → Bool)
    (rows : List α) : List α :=
  (rows.filter fun r => selected r && isLive r).insertionSort fun r r' => version r' ≤ version r

/-- `PromptRepository.list_versions`. -/
def PromptRepository.listVersions (t : KeyedTable Prompt.id) (code : String) : List Prompt :=
  versionsDesc Prompt.version (fun r => r.code = code) t.rows

/-- `PromptRepository.next_version`. -/
def PromptRepository.nextVersion (t : KeyedTable Prompt.id) (code : String) : Nat :=
  match PromptRepository.listVersions t code with
  | [] => 1
  | r :: _ => r.version + 1

/-- `UIMetadataRepository.list_versions`. -/
def UIMetadataRepository.listVersions (t : KeyedTable UIMetadataEntry.id) (code : String)
    (kind : UIMetadataKind) : List UIMetadataEntry :=
  versionsDesc UIMetadataEntry.version (fun r => (r.code, r.kind) = (code, kind)) t.rows

/-- `UIMetadataRepository.next_version`. -/
def UIMetadataRepository.nextVersion (t : KeyedTable UIMetadataEntry.id) (code : String)
    (kind : UIMetadataKind) : Nat :=
  match UIMetadataRepository.listVersions t code kind with
  | [] => 1
  | r :: _ => r.version + 1

/-- `BusinessObjectRepository.next_version`: a version 0 counts as none. -/
def BusinessObjectRepository.nextVersion (t : KeyedTable BusinessObjectDefinition.id)
    (code : String) : Nat :=
  match versionsDesc BusinessObjectDefinition.version (fun r => r.code = code) t.rows with
  | [] => 1
  -- `latest or 0`
  | r :: _ => if r.version = 0 then 1 else r.version + 1

/-- Insert a row under the unique constraint on its code and version, which also ranges
    over the deleted rows. -/
def insertVersion {α κ : Type} [DecidableEq κ] {key : α → Uuid} (t : KeyedTable key)
    (constraint : String) (code : α → κ) (version : α → Nat) (mk : Uuid → α)
    (hmk : ∀ id, key (mk id) = id) : Except PyError (KeyedTable key) := do
  let row := mk t.freshKey
  -- an INTEGER column
  raiseUnless (version row < 2 ^ 31) (.other "integer out of range")
  raiseUnless (t.rows.all fun r => code r ≠ code row || version r ≠ version row)
    (.integrityError constraint)
  return t.insertFresh mk hmk

namespace Registries

/-- The registries before the first request. -/
def empty : Registries := ⟨.empty, .empty, .empty⟩

/-! ## Prompts -/

/-- `create_prompt`. -/
def createPrompt (s : Registries) (payload : PromptCreate) : Except PyError Registries := do
  let nextVersion := PromptRepository.nextVersion s.prompts payload.code
  let row (id : Uuid) : Prompt := {
    id := id, code := payload.code, name := payload.name, content := payload.content,
    version := nextVersion, status := payload.status, deletedAt := none }
  let prompts ← insertVersion s.prompts "uq_prompt_code_version" Prompt.code Prompt.version row
    (fun _ => rfl)
  -- the answer is built before the transaction commits
  PromptRead.modelValidate (row s.prompts.freshKey)
  return { s with prompts := prompts }

/-- `update_prompt`. -/
def updatePrompt (s : Registries) (promptId : Uuid) (payload : PromptUpdate) :
    Except PyError Registries := do
  let obj ← BaseRepository.getOr404 s.prompts "Prompt" promptId
  checkColumn 255 (payload.applyTo obj).name
  PromptRead.modelValidate (payload.applyTo obj)
  return { s with prompts := s.prompts.update obj.id payload.applyTo (fun _ => rfl) }

/-- `delete_prompt`. -/
def deletePrompt (s : Registries) (promptId : Uuid) (now : DateTime) :
    Except PyError Registries := do
  let obj ← BaseRepository.getOr404 s.prompts "Prompt" promptId
  return { s with prompts :=
    s.prompts.update obj.id (fun r => { r with deletedAt := some now }) (fun _ => rfl) }

/-! ## UI metadata -/

/-- `_require_feature_enabled` and `_require_enabled`. -/
def requireEnabled (feature : Bool) (registry : String) : Except PyError Unit :=
  raiseUnless feature (.notFound (registry ++ " is not enabled on this deployment"))

/-- `UIMetadataRepository.create`, then the answer. -/
def insertUiMetadata (s : Registries) (row : Uuid → UIMetadataEntry)
    (hrow : ∀ id, (row id).id = id) : Except PyError Registries := do
  let created := row s.uiMetadata.freshKey
  checkColumn 255 created.name
  checkColumn 128 (created.parentCode.getD "")
  checkColumn 32 created.schemaVersion
  let uiMetadata ← insertVersion s.uiMetadata "uq_ui_metadata_code_kind_version"
    (fun r => (r.code, r.kind)) UIMetadataEntry.version row hrow
  UIMetadataRead.modelValidate created
  return { s with uiMetadata := uiMetadata }

/-- `create_ui_metadata`. -/
def createUiMetadata (features : RegistryFeatures) (s : Registries) (payload : UIMetadataCreate) :
    Except PyError Registries := do
  requireEnabled features.uiMetadataRegistry "UI Metadata Registry"
  let nextVersion := UIMetadataRepository.nextVersion s.uiMetadata payload.code payload.kind
  let row (id : Uuid) : UIMetadataEntry := {
    id := id, code := payload.code, kind := payload.kind, name := payload.name,
    description := payload.description, version := nextVersion, parentCode := payload.parentCode,
    payload := some payload.payload, schemaVersion := payload.schemaVersion,
    enabled := payload.enabled, deletedAt := none }
  insertUiMetadata s row (fun _ => rfl)

/-- The merged value of a column that has to be given: `null` violates NOT NULL. -/
def required {α : Type} (column : String) (sent : Sent α) (current : α) : Except PyError α :=
  match sent with
  | none => .ok current
  | some (some value) => .ok value
  | some none => .error (.integrityError ("null value in column " ++ column))

/-- The merged value of a column with a default, which an explicit `null` leaves to it. -/
def defaulted {α : Type} (default : α) (sent : Sent α) (current : α) : α :=
  (sent.getD (some current)).getD default

/-- `update_ui_metadata`: a new version of the entry, with the fields sent. -/
def updateUiMetadata (features : RegistryFeatures) (s : Registries) (entryId : Uuid)
    (payload : UIMetadataUpdate) : Except PyError Registries := do
  requireEnabled features.uiMetadataRegistry "UI Metadata Registry"
  let existing ← BaseRepository.getOr404 s.uiMetadata "UIMetadataEntry" entryId
  let nextVersion := UIMetadataRepository.nextVersion s.uiMetadata existing.code existing.kind
  -- what is copied is read through the schema
  UIMetadataRead.modelValidate existing
  let name ← required "name" payload.name existing.name
  let row (id : Uuid) : UIMetadataEntry := {
    id := id, code := existing.code, kind := existing.kind, name := name,
    description := payload.description.getD existing.description, version := nextVersion,
    parentCode := payload.parentCode.getD existing.parentCode,
    payload := payload.payload.getD existing.payload,
    schemaVersion := defaulted "1.0" payload.schemaVersion existing.schemaVersion,
    enabled := defaulted true payload.enabled existing.enabled, deletedAt := none }
  insertUiMetadata s row (fun _ => rfl)

/-- `delete_ui_metadata`. -/
def deleteUiMetadata (features : RegistryFeatures) (s : Registries) (entryId : Uuid)
    (now : DateTime) : Except PyError Registries := do
  requireEnabled features.uiMetadataRegistry "UI Metadata Registry"
  let obj ← BaseRepository.getOr404 s.uiMetadata "UIMetadataEntry" entryId
  return { s with uiMetadata :=
    s.uiMetadata.update obj.id (fun r => { r with deletedAt := some now }) (fun _ => rfl) }

/-! ## Business objects -/

/-- `BusinessObjectRepository.create`, then the answer. -/
def insertBusinessObject (s : Registries) (row : Uuid → BusinessObjectDefinition)
    (hrow : ∀ id, (row id).id = id) : Except PyError Registries := do
  let created := row s.businessObjects.freshKey
  checkColumn 255 created.name
  let businessObjects ← insertVersion s.businessObjects "uq_business_object_code_version"
    BusinessObjectDefinition.code BusinessObjectDefinition.version row hrow
  BusinessObjectRead.modelValidate created
  return { s with businessObjects := businessObjects }

/-- `create_business_object`. -/
def createBusinessObject (features : RegistryFeatures) (s : Registries)
    (payload : BusinessObjectCreate) : Except PyError Registries := do
  requireEnabled features.businessObjectRegistry "Business Object Registry"
  let nextVersion := BusinessObjectRepository.nextVersion s.businessObjects payload.code
  let row (id : Uuid) : BusinessObjectDefinition := {
    id := id, code := payload.code, name := payload.name, description := payload.description,
    version := nextVersion, payload := some payload.payload, enabled := payload.enabled,
    deletedAt := none }
  insertBusinessObject s row (fun _ => rfl)

/-- `update_business_object`: a new version of the object, with the fields sent. -/
def updateBusinessObject (features : RegistryFeatures) (s : Registries) (objectId : Uuid)
    (payload : BusinessObjectUpdate) : Except PyError Registries := do
  requireEnabled features.businessObjectRegistry "Business Object Registry"
  let existing ← BaseRepository.getOr404 s.businessObjects "BusinessObjectDefinition" objectId
  let nextVersion := BusinessObjectRepository.nextVersion s.businessObjects existing.code
  BusinessObjectRead.modelValidate existing
  let name ← required "name" payload.name existing.name
  let row (id : Uuid) : BusinessObjectDefinition := {
    id := id, code := existing.code, name := name,
    description := payload.description.getD existing.description, version := nextVersion,
    payload := payload.payload.getD existing.payload,
    enabled := defaulted true payload.enabled existing.enabled, deletedAt := none }
  insertBusinessObject s row (fun _ => rfl)

/-- `delete_business_object`. -/
def deleteBusinessObject (features : RegistryFeatures) (s : Registries) (objectId : Uuid)
    (now : DateTime) : Except PyError Registries := do
  requireEnabled features.businessObjectRegistry "Business Object Registry"
  let obj ← BaseRepository.getOr404 s.businessObjects "BusinessObjectDefinition" objectId
  return { s with businessObjects :=
    s.businessObjects.update obj.id (fun r => { r with deletedAt := some now }) (fun _ => rfl) }

/-! ## Requests -/

/-- Run the handler of a request. -/
def handle (features : RegistryFeatures) (s : Registries) :
    RegistryRequest → Except PyError Registries
  | .createPrompt payload => s.createPrompt payload
  | .updatePrompt promptId payload => s.updatePrompt promptId payload
  | .deletePrompt promptId now => s.deletePrompt promptId now
  | .createUiMetadata payload => createUiMetadata features s payload
  | .updateUiMetadata entryId payload => updateUiMetadata features s entryId payload
  | .deleteUiMetadata entryId now => deleteUiMetadata features s entryId now
  | .createBusinessObject payload => createBusinessObject features s payload
  | .updateBusinessObject objectId payload => updateBusinessObject features s objectId payload
  | .deleteBusinessObject objectId now => deleteBusinessObject features s objectId now

/-- The registries after a request: an error rolls the transaction back. -/
def apply (features : RegistryFeatures) (s : Registries) (req : RegistryRequest) : Registries :=
  match handle features s req with
  | .ok s' => s'
  | .error _ => s

/-- The registries after a history of requests. -/
def run (features : RegistryFeatures) (s : Registries) (reqs : List RegistryRequest) : Registries :=
  reqs.foldl (apply features) s

end Registries

end AgnoRuntime
