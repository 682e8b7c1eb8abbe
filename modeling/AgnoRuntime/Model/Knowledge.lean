import AgnoRuntime.Model.KnowledgeConfig
import Mathlib.Data.List.ReduceOption

/-!
# Knowledge context

The mapper, the client, the executor and the service of knowledge skills
(`app/knowledge/{mapper,client,executor,service}.py`), from the configuration
of a skill and the answer of its Knowledge Platform to the text folded into the
prompt of an agent.

The platform is a function from requests to outcomes. Exceptions of the
`KnowledgeServiceError` hierarchy and all others are kept apart, for the executor
catches the former only.
-/

namespace AgnoRuntime

open Except

/-- How Python prints values: `str(v)`, for a `v` that is no string, and `str` of a float. -/
structure PythonText where
  str : Json → String
  strFloat : ℚ → String

/-! ## Python values -/

/-- The absolute value of a literal: its digits, the place of the point, and the exponent. -/
def decimalAbs (d : Decimal) : ℚ :=
  let digits := d.fraction.foldl (fun n digit => 10 * n + digit.val) d.whole
  (digits : ℚ) / 10 ^ d.fraction.length * 10 ^ (d.exponent.getD 0)

/-- `float(literal) == 0.0`: half of the least positive double still rounds to zero. -/
def isZero : JsonFloat → Bool
  | .decimal d => decimalAbs d ≤ 1 / 2 ^ 1075
  | .nan | .infinity _ => false

/-- `bool(v)`. -/
def isTruthy : Json → Bool
  | .null => false
  | .bool b => b
  | .int i => i ≠ 0
  | .float f => !isZero f
  | .str s => s ≠ ""
  | .arr items => !items.isEmpty
  | .obj members => !members.isEmpty

/-- `str.isspace` on a character. -/
def isSpace (c : Char) : Bool :=
  let n := c.toNat
  (9 ≤ n && n ≤ 13) || (28 ≤ n && n ≤ 32) || n = 0x85 || n = 0xa0 || n = 0x1680 ||
    (0x2000 ≤ n && n ≤ 0x200a) || n = 0x2028 || n = 0x2029 || n = 0x202f || n = 0x205f ||
    n = 0x3000

/-- `str.strip()`. -/
def strip (s : String) : String :=
  String.ofList (((s.toList.dropWhile isSpace).reverse.dropWhile isSpace).reverse)

/-! ## The mapper -/

/-- `page: int | str`. -/
inductive PageValue where
  | number (i : Int)
  | text (s : String)
deriving DecidableEq

/-- `f"{page}"`. -/
def PageValue.str : PageValue → String
  | number i => toString i
  | text s => s

/-- `KnowledgeChunk`. -/
structure KnowledgeChunk where
  content : String
  chunkId : Option String
  documentTitle : Option String
  page : Option PageValue
  score : Option FloatValue
  metadata : List (String × Json)
deriving DecidableEq

/-- `KnowledgeSearchResult`. -/
structure KnowledgeSearchResult where
  chunks : List KnowledgeChunk
  rawTokenUsage : Option (List (String × Json))
deriving DecidableEq

namespace KnowledgeMapper

/-- `_CONTENT_KEYS`. -/
def contentKeys : List String := ["content", "text", "chunk", "chunk_text", "passage", "body", "answer"]

/-- `_ID_KEYS`. -/
def idKeys : List String := ["id", "chunk_id", "chunkId", "_id"]

/-- `_TITLE_KEYS`. -/
def titleKeys : List String :=
  ["document_title", "documentTitle", "title", "document_name", "source", "filename", "file_name"]

/-- `_PAGE_KEYS`. -/
def pageKeys : List String := ["page", "page_number", "pageNumber"]

/-- `_SCORE_KEYS`. -/
def scoreKeys : List String := ["score", "similarity", "relevance_score"]

/-- `_LIST_KEYS`. -/
def listKeys : List String := ["results", "chunks", "documents", "items", "hits", "matches", "data"]

/-- `item[key]` where the key is present and its value is not `None`. -/
def present (item : List (String × Json)) (key : String) : Option Json :=
  (Json.get? item key).filter (· ≠ .null)

/-- `_first_present`. -/
def firstPresent (item : List (String × Json)) (keys : List String) : Option Json :=
  keys.findSome? (present item)

/-- `_find_item_list`, with the levels that are left. -/
def findItemList : Nat → Json → List Json
  | 0, _ => []
  | _ + 1, .arr items => items
  | levels + 1, .obj members =>
    -- the first key that leads to a list with items
    (((listKeys.filterMap (present members)).map (findItemList levels)).find?
      fun found => !found.isEmpty).getD []
  | _ + 1, _ => []

/-- `_find_item_list(raw)`: up to four levels below the body. -/
def itemList (raw : Json) : List Json := findItemList 5 raw

/-- The value of an optional field; the outer `none` is a `ValidationError`. -/
def readField {α : Type} (read : Json → Option α) : Option Json → Option (Option α)
  | none => some none
  | some v => (read v).map some

/-- A field declared `int | str`. -/
def readPage (lib : Pydantic) : Json → Option PageValue
  | .str s => some (.text s)
  | v => (lib.int v).map .number

/-- `str(content)`. -/
def contentText (py : PythonText) : Json → String
  | .str s => s
  | v => py.str v

/-- `KnowledgeChunk(...)`, for an item whose content is truthy. -/
def chunk (py : PythonText) (lib : Pydantic) (item : List (String × Json)) (content : Json) :
    Option KnowledgeChunk := do
  let chunkId ← readField Pydantic.str (firstPresent item idKeys)
  let documentTitle ← readField Pydantic.str (firstPresent item titleKeys)
  let page ← readField (readPage lib) (firstPresent item pageKeys)
  let score ← readField lib.float (firstPresent item scoreKeys)
  return ⟨contentText py content, chunkId, documentTitle, page, score,
    item.filter fun m => m.1 ∉ contentKeys⟩

/-- One round of the loop of `parse_search_response`: what is no dict, or has no content, is
    skipped. -/
def chunkOf (py : PythonText) (lib : Pydantic) : Json → Except PyError (Option KnowledgeChunk)
  | .obj item =>
    match firstPresent item contentKeys with
    | none => .ok none
    | some content =>
      -- an empty content is skipped before the chunk is validated
      if isTruthy content then
        match chunk py lib item content with
        | some c => .ok (some c)
        | none => .error (.other "validation error for KnowledgeChunk")
      else .ok none
  | _ => .ok none

/-- A field declared `dict | None`. -/
def readUsage : Json → Option (Option (List (String × Json)))
  | .obj raw =>
    match Json.get? raw "usage" with
    | none | some .null => some none
    | some (.obj usage) => some (some usage)
    | some _ => none
  | _ => some none

/-- `parse_search_response`. -/
def parseSearchResponse (py : PythonText) (lib : Pydantic) (raw : Json) :
    Except PyError KnowledgeSearchResult := do
  let chunks ← (itemList raw).mapM (chunkOf py lib)
  match readUsage raw with
  | some usage => return ⟨chunks.reduceOption, usage⟩
  | none => throw (.other "validation error for KnowledgeSearchResult")

/-- `"-" * 40`. -/
def rule : String := String.ofList (List.replicate 40 '-')

/-- The lines of a chunk. -/
def chunkLines (c : KnowledgeChunk) : List String :=
  (if truthy c.documentTitle then ["Document: " ++ c.documentTitle.getD ""] else []) ++
    (match c.page with
      | some page => ["Page: " ++ page.str]
      | none => []) ++
    [strip c.content] ++
    (if truthy c.chunkId then ["Ma doan (chunk_id): " ++ c.chunkId.getD ""] else []) ++
    [rule]

/-- The hint at the end, if a chunk has an id. -/
def sourceHint : String :=
  "Neu nguoi dung yeu cau xem/tai tai lieu goc cua mot doan, hay goi tool " ++
  "get_document_source voi chunk_id tuong ung o tren de lay duong dan chinh xac - " ++
  "khong tu bia duong dan tai lieu."

/-- `render_context`. -/
def renderContext (result : KnowledgeSearchResult) : String :=
  if result.chunks.isEmpty then ""
  else "\n".intercalate (["Knowledge Context", rule] ++ result.chunks.flatMap chunkLines ++
    (if result.chunks.any fun c => truthy c.chunkId then [sourceHint] else []))

end KnowledgeMapper

/-! ## The client -/

/-- `KnowledgeServiceError` and its subclasses. -/
inductive KnowledgeServiceError where
  | config (message : String)
  | timeout (message : String)
  | unavailable (message : String)
deriving DecidableEq

/-- `exc.message`. -/
def KnowledgeServiceError.message : KnowledgeServiceError → String
  | config m | timeout m | unavailable m => m

/-- An exception, of the hierarchy or not. -/
inductive KnowledgeFailure where
  | service (exc : KnowledgeServiceError)
  | other (exc : PyError)

/-- The request of a search. -/
structure SearchRequest where
  url : String
  body : List (String × Json)
  headers : List (String × String)
  timeout : ℚ
deriving DecidableEq

/-- How the call of the platform ends: `httpx` raises `TimeoutException`, another `HTTPError`, or
    something else; or there is a response, whose body decodes to JSON or does not. -/
inductive SearchOutcome where
  | timeout
  | httpError (message : String)
  | raised (message : String)
  | response (statusCode : Nat) (body : Except String Json)

namespace KnowledgeClient

/-- An optional string of the configuration in the body of the request. -/
def optionalMember (key : String) (value : Option String) : List (String × Json) :=
  if truthy value then [(key, .str (value.getD ""))] else []

/-- The request that `search` sends. -/
def request (config : KnowledgeSkillConfig) (forwardHeaders : List (String × String))
    (query : String) : SearchRequest where
  url := config.searchUrl
  body := [("query", .str query), ("collectionId", .str config.collectionId),
    ("topK", .int config.topK)] ++ optionalMember "agentId" config.agentId ++
    optionalMember "embeddingModelCode" config.embeddingModelCode
  headers := ("Content-Type", "application/json") :: forwardHeaders
  timeout := config.timeout

/-- `search`. -/
def search (py : PythonText) (config : KnowledgeSkillConfig)
    (forwardHeaders : List (String × String)) (platform : SearchRequest → SearchOutcome)
    (query : String) : Except KnowledgeFailure Json :=
  match platform (request config forwardHeaders query) with
  | .timeout => .error (.service (.timeout
      ("Knowledge Platform did not respond within " ++ py.strFloat config.timeout ++ "s")))
  | .httpError message =>
    .error (.service (.unavailable ("Failed to reach Knowledge Platform: " ++ message)))
  | .raised message => .error (.other (.other message))
  | .response statusCode body =>
    -- a body that is no JSON raises outside of the hierarchy
    if 200 ≤ statusCode ∧ statusCode < 300 then
      match body with
      | .ok data => .ok data
      | .error message => .error (.other (.other message))
    else
      .error (.service (.unavailable ("Knowledge Platform returned HTTP " ++ toString statusCode)))

end KnowledgeClient

/-! ## The executor -/

/-- `KnowledgeExecutionResult`. -/
structure KnowledgeExecutionResult where
  ok : Bool
  context : String
  chunkCount : Nat
  error : Option String
deriving DecidableEq

namespace KnowledgeSkillExecutor

/-- The configuration `from_raw_config` accepts. -/
def fromRawConfig (lib : Pydantic) (rawConfig : Option Json.Dict) :
    Except KnowledgeServiceError KnowledgeSkillConfig :=
  let members := rawConfig.elim [] (·.members)
  match KnowledgeSkillConfig.modelValidate lib members with
  | some config => .ok config
  | none => .error (.config ("Invalid Knowledge Skill config: " ++ lib.errorText members))

/-- The result of an execution that failed. -/
def failed (exc : KnowledgeServiceError) : KnowledgeExecutionResult :=
  ⟨false, "", 0, some exc.message⟩

/-- `execute`. -/
def execute (py : PythonText) (lib : Pydantic) (config : KnowledgeSkillConfig)
    (forwardHeaders : List (String × String)) (platform : SearchRequest → SearchOutcome)
    (query : String) : Except PyError KnowledgeExecutionResult :=
  match KnowledgeClient.search py config forwardHeaders platform query with
  | .ok raw => do
    let result ← KnowledgeMapper.parseSearchResponse py lib raw
    return ⟨true, KnowledgeMapper.renderContext result, result.chunks.length, none⟩
  | .error (.service exc) => .ok (failed exc)
  | .error (.other exc) => .error exc

end KnowledgeSkillExecutor

/-! ## The service -/

/-- `SkillType.value`. -/
def SkillType.value : SkillType → String
  | .mcp => "MCP"
  | .workflow => "WORKFLOW"
  | .prompt => "PROMPT"
  | .custom => "CUSTOM"
  | .knowledge => "KNOWLEDGE"
  | .ui => "UI"

namespace KnowledgeSkillService

/-- `_build_executor`: the configuration of the executor. -/
def buildExecutor (lib : Pydantic) (skill : Skill) :
    Except KnowledgeServiceError KnowledgeSkillConfig :=
  if skill.skillType ≠ .knowledge then
    .error (.config ("Skill '" ++ skill.code ++ "' is not a KNOWLEDGE skill (skill_type=" ++
      skill.skillType.value ++ ")"))
  else KnowledgeSkillExecutor.fromRawConfig lib skill.config

/-- `execute_by_skill`. -/
def executeBySkill (py : PythonText) (lib : Pydantic) (forwardHeaders : List (String × String))
    (skill : Skill) (platform : SearchRequest → SearchOutcome) (query : String) :
    Except PyError KnowledgeExecutionResult :=
  match buildExecutor lib skill with
  | .error exc => .ok (KnowledgeSkillExecutor.failed exc)
  | .ok config => KnowledgeSkillExecutor.execute py lib config forwardHeaders platform query

/-- The context that the loop of `execute_for_agent` keeps of a result. -/
def contextOf (result : KnowledgeExecutionResult) : Option String :=
  if result.ok ∧ result.context ≠ "" then some result.context else none

/-- The knowledge skills of an agent. -/
def knowledgeSkills (scan : ScanOrder Skill) (m : Metadata) (agentId : Uuid) : List Skill :=
  (SkillRepository.listSkillsForAgent scan m agentId).filter (·.skillType = .knowledge)

/-- `execute_for_agent`; `platform` answers the search of each skill. -/
def executeForAgent (py : PythonText) (lib : Pydantic) (forwardHeaders : List (String × String))
    (scan : ScanOrder Skill) (m : Metadata) (agentId : Uuid)
    (platform : Uuid → SearchRequest → SearchOutcome) (query : String) : Except PyError String := do
  let results ← (knowledgeSkills scan m agentId).mapM fun skill =>
    executeBySkill py lib forwardHeaders skill (platform skill.id) query
  return "\n\n".intercalate (results.filterMap contextOf)

end KnowledgeSkillService

end AgnoRuntime
