import AgnoRuntime.Spec.SkillConfigs
import AgnoRuntime.Model.Knowledge
import AgnoRuntime.Model.Requests

/-!
# Knowledge skills that fail

A knowledge skill that fails is to be left out, and the others to contribute what they
would without it. The executor catches the `KnowledgeServiceError`s of the client. A body
that is not JSON, and one in which a field has a type that the models of the platform's
answer refuse, raise other exceptions, which leave `execute_for_agent` together with the
contexts of all skills.

The contexts are joined, each as its skill alone contributes it, exactly when every search
ends in an error that the client translates or in a body with fields of the right types.
-/

namespace AgnoRuntime

open Except KnowledgeMapper

variable {py : PythonText} {lib : Pydantic} {headers : List (String × String)} {query : String}

/-! ## What a platform may answer -/

/-- The fields of an item have types that `KnowledgeChunk` takes. -/
structure ItemReadable (lib : Pydantic) (item : List (String × Json)) : Prop where
  chunkId : ∀ v, firstPresent item idKeys = some v → ∃ s, v = .str s
  documentTitle : ∀ v, firstPresent item titleKeys = some v → ∃ s, v = .str s
  page : ∀ v, firstPresent item pageKeys = some v → (∃ s, v = .str s) ∨ (lib.int v).isSome
  score : ∀ v, firstPresent item scoreKeys = some v → (lib.float v).isSome

/-- The items with content, and the usage, have fields of the right types. -/
structure BodyReadable (lib : Pydantic) (body : Json) : Prop where
  items : ∀ item content, .obj item ∈ itemList body → firstPresent item contentKeys = some content →
    isTruthy content = true → ItemReadable lib item
  usage : ∀ members v, body = .obj members → Json.get? members "usage" = some v →
    v = .null ∨ ∃ usage, v = .obj usage

/-- The call ends in an error that the client translates, or with a body that can be read. -/
def WellBehaved (lib : Pydantic) : SearchOutcome → Prop
  | .timeout | .httpError _ => True
  | .raised _ => False
  | .response statusCode body =>
    200 ≤ statusCode ∧ statusCode < 300 → ∃ v, body = .ok v ∧ BodyReadable lib v

/-! ## The mapper -/

/-- An optional field is read when its value, if there is one, is. -/
private theorem isSome_readField {α : Type} {read : Json → Option α} {v : Option Json} :
    (readField read v).isSome = true ↔ ∀ w, v = some w → (read w).isSome = true := by
  cases v with
  | none => simp [readField]
  | some w => simp [readField]

/-- Strings are read. -/
private theorem isSome_str {v : Json} : (Pydantic.str v).isSome = true ↔ ∃ s, v = .str s := by
  cases v <;> simp [Pydantic.str]

/-- Strings and integers are read. -/
private theorem isSome_readPage {v : Json} :
    (readPage lib v).isSome = true ↔ (∃ s, v = .str s) ∨ (lib.int v).isSome = true := by
  cases v <;> simp [readPage]

/-- A chunk is made of an item whose fields have the right types. -/
theorem isSome_chunk_iff {item : List (String × Json)} {content : Json} :
    (chunk py lib item content).isSome = true ↔ ItemReadable lib item := by
  constructor
  · intro h
    -- All four fields of the chunk were read.
    obtain ⟨c, hc⟩ := Option.isSome_iff_exists.mp h
    simp only [chunk, Option.bind_eq_bind, Option.bind_eq_some_iff] at hc
    obtain ⟨chunkId, hid, title, htitle, page, hpage, score, hscore, -⟩ := hc
    constructor
    · intro v hv
      exact isSome_str.mp (isSome_readField.mp (Option.isSome_of_eq_some hid) v hv)
    · intro v hv
      exact isSome_str.mp (isSome_readField.mp (Option.isSome_of_eq_some htitle) v hv)
    · intro v hv
      exact isSome_readPage.mp (isSome_readField.mp (Option.isSome_of_eq_some hpage) v hv)
    · exact isSome_readField.mp (Option.isSome_of_eq_some hscore)
  · intro h
    -- Each of the four fields can be read.
    obtain ⟨chunkId, hid⟩ := Option.isSome_iff_exists.mp
      (isSome_readField.mpr fun v hv => isSome_str.mpr (h.chunkId v hv))
    obtain ⟨title, htitle⟩ := Option.isSome_iff_exists.mp
      (isSome_readField.mpr fun v hv => isSome_str.mpr (h.documentTitle v hv))
    obtain ⟨page, hpage⟩ := Option.isSome_iff_exists.mp
      (isSome_readField.mpr fun v hv => isSome_readPage.mpr (h.page v hv))
    obtain ⟨score, hscore⟩ := Option.isSome_iff_exists.mp (isSome_readField.mpr h.score)
    rw [chunk, hid, htitle, hpage, hscore]
    rfl

/-- An item with content is mapped when its fields have the right types. -/
private theorem chunkOf_obj_ok_iff {item : List (String × Json)} :
    (∃ c, chunkOf py lib (.obj item) = .ok c) ↔ ∀ content,
      firstPresent item contentKeys = some content → isTruthy content = true →
        ItemReadable lib item := by
  rw [chunkOf]
  cases firstPresent item contentKeys with
  | none => simp
  | some content =>
    have hchunk : (chunk py lib item content).isSome = true ↔ ItemReadable lib item :=
      isSome_chunk_iff
    by_cases htruthy : isTruthy content = true
    · cases hmade : chunk py lib item content with
      | none => simp [htruthy, ← hchunk, hmade]
      | some c => simp [htruthy, ← hchunk, hmade]
    · simp [htruthy]

/-- What is no dict is skipped. -/
private theorem chunkOf_ok_iff {v : Json} :
    (∃ c, chunkOf py lib v = .ok c) ↔ ∀ item content, v = .obj item →
      firstPresent item contentKeys = some content → isTruthy content = true →
        ItemReadable lib item := by
  cases v with
  | obj item =>
    rw [chunkOf_obj_ok_iff]
    constructor
    · intro h item' content hitem
      obtain rfl := Json.obj.inj hitem
      exact h content
    · exact fun h content => h item content rfl
  | _ => simp [chunkOf]

/-- The usage is read when it is a dict, `null` or absent. -/
private theorem isSome_readUsage {body : Json} :
    (readUsage body).isSome = true ↔ ∀ members v, body = .obj members →
      Json.get? members "usage" = some v → v = .null ∨ ∃ usage, v = .obj usage := by
  cases body with
  | obj members =>
    have hvalue : (readUsage (.obj members)).isSome = true ↔ ∀ v,
        Json.get? members "usage" = some v → v = .null ∨ ∃ usage, v = .obj usage := by
      rw [readUsage]
      cases Json.get? members "usage" with
      | none => simp
      | some v => cases v <;> simp
    rw [hvalue]
    constructor
    · intro h members' v hmembers
      obtain rfl := Json.obj.inj hmembers
      exact h v
    · exact fun h v => h members v rfl
  | _ => simp [readUsage]

/-- A body is parsed exactly when it can be read. -/
private theorem parseSearchResponse_ok_iff {body : Json} :
    (∃ result, parseSearchResponse py lib body = .ok result) ↔ BodyReadable lib body := by
  constructor
  · intro h
    -- All items and the usage were read.
    obtain ⟨result, hresult⟩ := h
    simp only [parseSearchResponse, bind_eq_ok] at hresult
    obtain ⟨chunks, hchunks, husage⟩ := hresult
    constructor
    · intro item content hitem
      obtain ⟨c, -, hc⟩ := exists_of_mapM_mem hchunks hitem
      exact chunkOf_ok_iff.mp ⟨c, hc⟩ item content rfl
    · refine isSome_readUsage.mp ?_
      split at husage
      · rename_i usage hread
        rw [hread]
        rfl
      · cases husage
  · intro h
    -- Each item can be read, and so can the usage.
    have hitems : ∀ v ∈ itemList body, ∃ c, chunkOf py lib v = .ok c := by
      intro v hv
      exact chunkOf_ok_iff.mpr fun item content hitem => h.items item content (hitem ▸ hv)
    obtain ⟨chunks, hchunks⟩ := exists_mapM_eq_ok hitems
    obtain ⟨usage, husage⟩ := Option.isSome_iff_exists.mp (isSome_readUsage.mpr h.usage)
    refine ⟨⟨chunks.reduceOption, usage⟩, ?_⟩
    rw [parseSearchResponse, hchunks, husage]
    rfl

/-! ## One skill -/

/-- A search that ends in a response that is no success, or in an exception, has no body to
    read. -/
private theorem execute_ok_iff {config : KnowledgeSkillConfig}
    {platform : SearchRequest → SearchOutcome} :
    (∃ result, KnowledgeSkillExecutor.execute py lib config headers platform query = .ok result) ↔
      WellBehaved lib (platform (KnowledgeClient.request config headers query)) := by
  rw [KnowledgeSkillExecutor.execute, KnowledgeClient.search]
  cases platform (KnowledgeClient.request config headers query) with
  | timeout => simp [WellBehaved]
  | httpError message => simp [WellBehaved]
  | raised message => simp [WellBehaved]
  | response statusCode body =>
    by_cases hstatus : 200 ≤ statusCode ∧ statusCode < 300
    · cases body with
      | error message => simp [WellBehaved, hstatus]
      | ok v =>
        have hparse : (∃ result, parseSearchResponse py lib v = .ok result) ↔ BodyReadable lib v :=
          parseSearchResponse_ok_iff
        cases hresult : parseSearchResponse py lib v with
        | error e => simp [WellBehaved, hstatus, ← hparse, hresult]
        | ok result => simp [WellBehaved, hstatus, ← hparse, hresult]
    · simp [WellBehaved, hstatus]

/-- A knowledge skill is executed without an exception when its configuration is refused, or its
    search is well behaved. -/
private theorem executeBySkill_ok_iff {skill : Skill} {platform : SearchRequest → SearchOutcome}
    (htype : skill.skillType = .knowledge) :
    (∃ result, KnowledgeSkillService.executeBySkill py lib headers skill platform query =
        .ok result) ↔
      ∀ config, KnowledgeSkillConfig.modelValidate lib (skill.config.elim [] (·.members)) =
        some config → WellBehaved lib (platform (KnowledgeClient.request config headers query)) := by
  rw [KnowledgeSkillService.executeBySkill, KnowledgeSkillService.buildExecutor,
    if_neg (not_not.mpr htype), KnowledgeSkillExecutor.fromRawConfig]
  cases KnowledgeSkillConfig.modelValidate lib (skill.config.elim [] (·.members)) with
  | none => simp
  | some config =>
    have hexecute : (∃ result, KnowledgeSkillExecutor.execute py lib config headers platform query =
        .ok result) ↔ WellBehaved lib (platform (KnowledgeClient.request config headers query)) :=
      execute_ok_iff
    simpa using hexecute

/-! ## All skills of an agent -/

/-- The context a skill contributes when it is executed alone, with the answers of its own
    platform. -/
def contribution (py : PythonText) (lib : Pydantic) (headers : List (String × String))
    (query : String) (skill : Skill) (platform : SearchRequest → SearchOutcome) : Option String :=
  match KnowledgeSkillService.executeBySkill py lib headers skill platform query with
  | .ok result => KnowledgeSkillService.contextOf result
  | .error _ => none

/-- The skills of the loop are knowledge skills. -/
private theorem knowledge_of_mem {scan : ScanOrder Skill} {m : Metadata} {agentId : Uuid}
    {skill : Skill} (h : skill ∈ KnowledgeSkillService.knowledgeSkills scan m agentId) :
    skill.skillType = .knowledge :=
  of_decide_eq_true (List.mem_filter.mp h).2

/-- `execute_for_agent` returns the contexts that the knowledge skills of the agent contribute
    each by itself, whatever happens to the others, exactly when every search that a skill with a
    valid configuration makes is well behaved. -/
theorem executeForAgent_returns_iff (py : PythonText) (lib : Pydantic)
    (headers : List (String × String)) (scan : ScanOrder Skill) (m : Metadata) (agentId : Uuid)
    (platform : Uuid → SearchRequest → SearchOutcome) (query : String) :
    KnowledgeSkillService.executeForAgent py lib headers scan m agentId platform query =
        .ok ("\n\n".intercalate ((KnowledgeSkillService.knowledgeSkills scan m agentId).filterMap
          fun skill => contribution py lib headers query skill (platform skill.id))) ↔
      ∀ skill ∈ KnowledgeSkillService.knowledgeSkills scan m agentId, ∀ config,
        KnowledgeSkillConfig.modelValidate lib (skill.config.elim [] (·.members)) = some config →
          WellBehaved lib (platform skill.id (KnowledgeClient.request config headers query)) := by
  constructor
  -- The calls for the other skills do not matter.
  · intro h skill hskill
    simp only [KnowledgeSkillService.executeForAgent, bind_eq_ok] at h
    obtain ⟨results, hresults, -⟩ := h
    obtain ⟨result, -, hresult⟩ := exists_of_mapM_mem hresults hskill
    exact (executeBySkill_ok_iff (knowledge_of_mem hskill)).mp ⟨result, hresult⟩
  · intro h
    have hskills : ∀ skill ∈ KnowledgeSkillService.knowledgeSkills scan m agentId, ∃ result,
        KnowledgeSkillService.executeBySkill py lib headers skill (platform skill.id) query =
          .ok result := by
      intro skill hskill
      exact (executeBySkill_ok_iff (knowledge_of_mem hskill)).mpr (h skill hskill)
    obtain ⟨results, hresults⟩ := exists_mapM_eq_ok hskills
    -- The contexts are what the skills contribute, in their order.
    have hcontexts := filterMap_of_mapM_eq_ok (g := KnowledgeSkillService.contextOf)
      (k := fun skill => contribution py lib headers query skill (platform skill.id))
      (fun skill result hresult => by rw [contribution, hresult]) hresults
    rw [KnowledgeSkillService.executeForAgent, hresults, ← hcontexts]
    rfl

/-! ## A body that is refused -/

namespace KnowledgeBodies

/-- A knowledge skill of the agent. -/
def knowledgeSkill (id : Uuid) (code : String) : Skill where
  id := id
  code := code
  name := code
  skillType := .knowledge
  config := some (StoredConfig.handbook 10)
  deletedAt := none

/-- The deployment, whose agent has two knowledge skills. -/
def metadata : Metadata :=
  { Deployment.metadata with
    skills := ⟨[knowledgeSkill 1 "handbook", knowledgeSkill 2 "policies"], by decide⟩
    agentSkills := {(1, 1), (1, 2)} }

/-- The skills are listed by code. -/
private theorem skills_listed : KnowledgeSkillService.knowledgeSkills .stored metadata 1 =
    [knowledgeSkill 1 "handbook", knowledgeSkill 2 "policies"] := by
  have hsorted : [knowledgeSkill 1 "handbook", knowledgeSkill 2 "policies"].Pairwise
      (fun a b => decide (a.code ≤ b.code)) := by decide +kernel
  have hfound : metadata.skills.rows.filter (fun s => (1, s.id) ∈ metadata.agentSkills && isLive s) =
      [knowledgeSkill 1 "handbook", knowledgeSkill 2 "policies"] := rfl
  rw [KnowledgeSkillService.knowledgeSkills, SkillRepository.listSkillsForAgent, hfound]
  simp only [ScanOrder.stored]
  rw [List.mergeSort_of_pairwise hsorted]
  rfl

/-- The texts the examples need of Python. -/
def python : PythonText := ⟨fun _ => "", fun _ => "30.0"⟩

/-- A response with one result. -/
def found (id : Json) : SearchOutcome :=
  .response 200 (.ok (.obj [("results", .arr [.obj [("id", id), ("content", .str "Ten days")]])]))

/-- The context of the agent, by the answer of the platform of the first skill. -/
def context (handbook : SearchOutcome) : Except PyError String :=
  KnowledgeSkillService.executeForAgent python StoredConfig.pydantic [] .stored metadata 1
    (fun skillId _ => if skillId = 1 then handbook else found (.str "p1")) "How many days?"

end KnowledgeBodies

open KnowledgeBodies in
/-- A result whose id is a number, and a body that is not JSON, raise, and the context of the
    other skill is lost; while an error of the transport only leaves its skill out. -/
theorem knowledge_body_raises :
    context (found (.int 7)) = .error (.other "validation error for KnowledgeChunk") ∧
    context (.response 200 (.error "Expecting value: line 1 column 1 (char 0)")) =
      .error (.other "Expecting value: line 1 column 1 (char 0)") ∧
    (contribution python StoredConfig.pydantic [] "How many days?" (knowledgeSkill 2 "policies")
      fun _ => found (.str "p1")).map .ok = some (context .timeout) := by
  simp only [context, KnowledgeSkillService.executeForAgent, skills_listed]
  decide +kernel

end AgnoRuntime
