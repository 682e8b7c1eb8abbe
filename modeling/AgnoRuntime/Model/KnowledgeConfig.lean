import AgnoRuntime.ForStd.Json
import AgnoRuntime.Model.MetadataApi

/-!
# Configurations of knowledge skills

`KnowledgeSkillConfig` (`app/knowledge/models.py`) and the validator of
`SkillCreate` (`app/schemas/skill.py`) that applies it to the body of
`POST /skills`; the bodies of the other requests have no such validator.

What pydantic's lax mode reads a value of a field as is a parameter. A field
declared `str` takes strings and nothing else.
-/

namespace AgnoRuntime

open Except

/-- A float as a field keeps it. -/
inductive FloatValue where
  | finite (q : ℚ)
  | nan
  | infinity (negative : Bool)
deriving DecidableEq

/-- What pydantic reads a decoded value as where a field is declared `int`, `float` or `bool`;
    `none` where it raises `ValidationError`. -/
structure Pydantic where
  int : Json → Option Int
  float : Json → Option FloatValue
  bool : Json → Option Bool
  /-- The text of a `ValidationError` for a dict. -/
  errorText : List (String × Json) → String

namespace Pydantic

/-- A field declared `str`. -/
def str : Json → Option String
  | .str s => some s
  | _ => none

/-- A field declared `str | None`. -/
def strOrNone : Json → Option (Option String)
  | .null => some none
  | v => (str v).map some

end Pydantic

/-- `KnowledgeSkillConfig`; `stream` is read by nothing. -/
structure KnowledgeSkillConfig where
  knowledgeBaseUrl : String
  searchApi : String
  sourceApi : String
  collectionId : String
  agentId : Option String
  embeddingModelCode : Option String
  topK : Int
  timeout : ℚ
deriving DecidableEq

namespace KnowledgeSkillConfig

/-- `_no_trailing_slash`. -/
def noTrailingSlash (value : String) : String :=
  String.ofList (value.toList.reverse.dropWhile (· = '/')).reverse

/-- `_leading_slash`. -/
def leadingSlash (value : String) : String :=
  if value.startsWith "/" then value else "/" ++ value

/-- `search_url`. -/
def searchUrl (config : KnowledgeSkillConfig) : String := config.knowledgeBaseUrl ++ config.searchApi

/-- A field with a default. -/
def field {α : Type} (config : List (String × Json)) (name : String) (default : α)
    (read : Json → Option α) : Option α :=
  match Json.get? config name with
  | none => some default
  | some v => read v

/-- A string of at least one character. -/
def required (config : List (String × Json)) (name : String) : Option String := do
  let s ← Pydantic.str (← Json.get? config name)
  guard (1 ≤ s.length)
  return s

/-- `1 ≤ topK ≤ 100`. -/
def boundedTopK (lib : Pydantic) (v : Json) : Option Int := do
  let topK ← lib.int v
  guard (1 ≤ topK ∧ topK ≤ 100)
  return topK

/-- `0 < timeout ≤ 300`. -/
def boundedTimeout (lib : Pydantic) (v : Json) : Option ℚ :=
  match lib.float v with
  | some (.finite q) => if 0 < q ∧ q ≤ 300 then some q else none
  | _ => none

/-- `model_validate`; `none` where it raises. -/
def modelValidate (lib : Pydantic) (config : List (String × Json)) :
    Option KnowledgeSkillConfig := do
  let knowledgeBaseUrl ← required config "knowledgeBaseUrl"
  let searchApi ← field config "searchApi" "/api/v1/search" fun v =>
    (Pydantic.str v).map leadingSlash
  let sourceApi ← field config "sourceApi" "/api/v1/chunks/\x7bchunk_id\x7d/source" fun v =>
    (Pydantic.str v).map leadingSlash
  let collectionId ← required config "collectionId"
  let agentId ← field config "agentId" none Pydantic.strOrNone
  let embeddingModelCode ← field config "embeddingModelCode" none Pydantic.strOrNone
  let topK ← field config "topK" 10 (boundedTopK lib)
  let timeout ← field config "timeout" 30 (boundedTimeout lib)
  -- read by nothing, but checked
  let _ ← field config "stream" false lib.bool
  return ⟨noTrailingSlash knowledgeBaseUrl, searchApi, sourceApi, collectionId, agentId,
    embeddingModelCode, topK, timeout⟩

end KnowledgeSkillConfig

namespace SkillCreate

/-- The check of the configuration. -/
def validateConfig (lib : Pydantic) (payload : SkillCreate) : Except PyError Unit :=
  match payload.skillType, payload.config with
  | .knowledge, none => .error (.other "config is required when skill_type=KNOWLEDGE")
  | .knowledge, some config => do
    raiseUnless (config.members ≠ []) (.other "config is required when skill_type=KNOWLEDGE")
    raiseUnless (KnowledgeSkillConfig.modelValidate lib config.members).isSome
      (.other (lib.errorText config.members))
  | _, _ => .ok ()

/-- `_validate_type_specific_fields`. -/
def validateTypeSpecificFields (lib : Pydantic) (payload : SkillCreate) : Except PyError Unit := do
  validateConfig lib payload
  raiseUnless (payload.capabilityCodes.isEmpty || payload.skillType = .mcp)
    (.other "capability_codes is only meaningful for skill_type=MCP")

end SkillCreate

namespace MetadataRequest

/-- The validators of the body of a request. -/
def validateBody (lib : Pydantic) : MetadataRequest → Except PyError Unit
  | .createSkill payload => payload.validateTypeSpecificFields lib
  | _ => .ok ()

/-- The metadata after a request the API accepts; `none` where it answers with an error. -/
def accept (lib : Pydantic) (m : Metadata) (req : MetadataRequest) : Option Metadata :=
  match req.validateBody lib with
  | .ok () => (m.handle req).toOption
  | .error _ => none

end MetadataRequest

end AgnoRuntime
