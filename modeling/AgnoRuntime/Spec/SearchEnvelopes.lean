import AgnoRuntime.Spec.KnowledgeContexts

/-!
# The envelopes of a search response

The mapper looks for the list of items inside of nested objects, under a fixed set of keys. The
docstrings name `result` among the envelopes, but it is not one of the keys: whatever is
wrapped in it is not found, and the response counts as one without items.

Of an item that is found the first content field that is not null decides: the others are not
tried when it is empty, zero or false, and it is printed when it is no text. A page or a score
that cannot be read fails the whole response.

## Key results

- `findItemList_wrap`: the list that is found inside of an envelope
- `chunkOf_eq_some_iff`: when an item becomes a chunk with its content
- `parseSearchResponse_wrap_iff`: when a response has one chunk for each item
-/

namespace AgnoRuntime

open Except KnowledgeMapper

/-- The keys of the envelopes that the docstrings of the mapper name. -/
def envelopeKeys : List String := listKeys ++ ["result"]

/-- A value inside of nested objects with one key each. -/
def wrap (keys : List String) (v : Json) : Json := keys.foldr (fun key inner => .obj [(key, inner)]) v

/-- An item with a text under one of the content keys; what it has under the keys of ids and of
    titles are texts. -/
structure WellTypedItem (item : List (String × Json)) : Prop where
  content : ∃ key ∈ contentKeys, ∃ s, present item key = some (.str s) ∧ s ≠ ""
  labels : ∀ key ∈ idKeys ++ titleKeys, ∀ v, present item key = some v → ∃ s, v = .str s

/-- The text under a key, unless it is empty. -/
def textAt (item : List (String × Json)) (key : String) : Option String :=
  match present item key with
  | some (.str s) => if s = "" then none else some s
  | _ => none

/-- The content of an item: the first of its texts that is not empty. -/
def itemContent (item : List (String × Json)) : String :=
  (contentKeys.findSome? (textAt item)).getD ""

/-- One chunk for each item, in order, with its content. -/
def OneChunkEach (items : List (List (String × Json)))
    (outcome : Except PyError KnowledgeSearchResult) : Prop :=
  ∃ result, outcome = .ok result ∧ result.chunks.map (·.content) = items.map itemContent

/-- The first value under a content key that is not null is a text that is not empty, or another
    true value that Python prints as the content of the item. -/
def ContentFirst (py : PythonText) (item : List (String × Json)) : Prop :=
  match firstPresent item contentKeys with
  | some (.str s) => s ≠ ""
  | some v => isTruthy v = true ∧ py.str v = itemContent item
  | none => False

/-- What makes the mapper keep an item: its content comes first, and its page and its score can be
    read. -/
structure ItemFits (py : PythonText) (lib : Pydantic) (item : List (String × Json)) : Prop where
  content : ContentFirst py item
  page : ∀ v, firstPresent item pageKeys = some v → (∃ s, v = .str s) ∨ (lib.int v).isSome
  score : ∀ v, firstPresent item scoreKeys = some v → (lib.float v).isSome

variable {py : PythonText} {lib : Pydantic}

/-! ## The search for the list -/

/-- What an object with one key has under another one. -/
theorem present_singleton {key : String} {v : Json} (hv : v ≠ .null) (key' : String) :
    present [(key, v)] key' = if key = key' then some v else none := by
  rw [present, Json.get?, List.find?_singleton]
  by_cases hkey : key = key'
  · rw [if_pos (decide_eq_true hkey), if_pos hkey]
    exact Option.filter_eq_some_iff.mpr ⟨rfl, decide_eq_true hv⟩
  · rw [if_neg (by simpa using hkey), if_neg hkey]
    rfl

/-- Of different keys, one at most is the one that the object has. -/
theorem filterMap_present_singleton {key : String} {v : Json} (hv : v ≠ .null)
    {keys : List String} (hkeys : keys.Nodup) :
    keys.filterMap (present [(key, v)]) = if key ∈ keys then [v] else [] := by
  induction keys with
  | nil => rfl
  | cons key' keys ih =>
    obtain ⟨hnotMem, hkeys⟩ := List.nodup_cons.mp hkeys
    rw [List.filterMap_cons, present_singleton hv, ih hkeys]
    by_cases hkey : key = key'
    · subst hkey
      rw [if_pos rfl, if_neg hnotMem, if_pos List.mem_cons_self]
    · simp only [hkey, List.mem_cons, false_or, if_false]

/-- An object with one key is searched under this key, if it is a key of lists. -/
theorem findItemList_singleton {v : Json} (hv : v ≠ .null) (levels : Nat) (key : String) :
    findItemList (levels + 1) (.obj [(key, v)]) =
      if key ∈ listKeys then findItemList levels v else [] := by
  rw [findItemList, filterMap_present_singleton hv (by decide)]
  split
  · rw [List.map_singleton, List.find?_singleton]
    cases findItemList levels v with
    | nil => rfl
    | cons item items => rfl
  · rfl

/-- Neither a list nor an envelope is `null`. -/
theorem wrap_ne_null (keys : List String) (items : List Json) : wrap keys (.arr items) ≠ .null := by
  cases keys with
  | nil => exact fun h => by cases h
  | cons key keys => exact fun h => by cases h

/-- The items are found inside of as many objects as there are levels, unless one of these is a
    `result`. -/
theorem findItemList_wrap {keys : List String} (hkeys : ∀ key ∈ keys, key ∈ envelopeKeys)
    {items : List Json} {levels : Nat} (hlevels : keys.length ≤ levels) :
    findItemList (levels + 1) (wrap keys (.arr items)) =
      if "result" ∈ keys then [] else items := by
  induction keys generalizing levels with
  | nil => rfl
  | cons key keys ih =>
    obtain ⟨hkey, hkeys⟩ := List.forall_mem_cons.mp hkeys
    rw [List.length_cons] at hlevels
    obtain ⟨levels, rfl⟩ : ∃ n, levels = n + 1 := ⟨levels - 1, by omega⟩
    show findItemList (levels + 2) (.obj [(key, wrap keys (.arr items))]) = _
    rw [findItemList_singleton (wrap_ne_null keys items), ih hkeys (by omega)]
    by_cases hlist : key ∈ listKeys
    · have hne : "result" ≠ key := fun heq => absurd (heq ▸ hlist) (by decide)
      simp only [if_pos hlist, List.mem_cons, hne, false_or]
    · -- the one envelope key that is not searched
      obtain rfl := List.mem_singleton.mp ((List.mem_append.mp hkey).resolve_left hlist)
      rw [if_neg hlist, if_pos List.mem_cons_self]

/-! ## The chunk of an item -/

/-- What is found under one of the keys is there under it. -/
theorem exists_key_of_firstPresent {item : List (String × Json)} {keys : List String} {v : Json}
    (h : firstPresent item keys = some v) : ∃ key ∈ keys, present item key = some v :=
  List.exists_of_findSome?_eq_some h

/-- The id and the title of a well-typed item can be read: only its page and its score may not. -/
theorem itemReadable_iff {item : List (String × Json)} (h : WellTypedItem item) :
    ItemReadable lib item ↔
      (∀ v, firstPresent item pageKeys = some v → (∃ s, v = .str s) ∨ (lib.int v).isSome) ∧
        ∀ v, firstPresent item scoreKeys = some v → (lib.float v).isSome := by
  constructor
  · exact fun hreadable => ⟨hreadable.page, hreadable.score⟩
  · intro hrest
    refine ⟨fun v hv => ?_, fun v hv => ?_, hrest.1, hrest.2⟩
    · obtain ⟨key, hkey, hpresent⟩ := exists_key_of_firstPresent hv
      exact h.labels key (List.mem_append_left _ hkey) v hpresent
    · obtain ⟨key, hkey, hpresent⟩ := exists_key_of_firstPresent hv
      exact h.labels key (List.mem_append_right _ hkey) v hpresent

/-- A text that comes first is the first of the texts. -/
theorem findSome?_textAt {item : List (String × Json)} {keys : List String} {s : String}
    (hs : s ≠ "") (h : firstPresent item keys = some (.str s)) :
    keys.findSome? (textAt item) = some s := by
  induction keys with
  | nil => cases h
  | cons key keys ih =>
    rw [firstPresent, List.findSome?_cons] at h
    rw [List.findSome?_cons, textAt]
    cases hv : present item key with
    | none =>
      rw [hv] at h
      exact ih h
    | some v =>
      rw [hv] at h
      obtain rfl := Option.some.inj h
      simp [hs]

/-- A true value that comes first is kept as the content of the item where it is printed so. -/
theorem contentFirst_iff {item : List (String × Json)} {v : Json}
    (h : firstPresent item contentKeys = some v) :
    ContentFirst py item ↔ isTruthy v = true ∧ contentText py v = itemContent item := by
  unfold ContentFirst
  rw [h]
  cases v with
  | str s =>
    have htruthy : isTruthy (.str s) = true ↔ s ≠ "" := decide_eq_true_iff
    have hcontent (hs : s ≠ "") : itemContent item = s := by
      rw [itemContent, findSome?_textAt hs h]
      rfl
    rw [htruthy]
    exact ⟨fun hs => ⟨hs, (hcontent hs).symm⟩, And.left⟩
  | _ => rfl

/-- The chunk that is made of an item has what comes first as its content. -/
theorem content_chunk {item : List (String × Json)} {v : Json} {c : KnowledgeChunk}
    (h : chunk py lib item v = some c) : c.content = contentText py v := by
  simp only [chunk, Option.bind_eq_bind, Option.bind_eq_some_iff] at h
  obtain ⟨chunkId, -, title, -, page, -, score, -, hmade⟩ := h
  obtain rfl := Option.some.inj hmade
  rfl

/-- A well-typed item becomes a chunk with its content exactly if it fits. -/
theorem chunkOf_eq_some_iff {item : List (String × Json)} (h : WellTypedItem item) :
    (∃ c, chunkOf py lib (.obj item) = .ok (some c) ∧ c.content = itemContent item) ↔
      ItemFits py lib item := by
  have hfits : ItemFits py lib item ↔ ContentFirst py item ∧ ItemReadable lib item := by
    rw [itemReadable_iff h]
    exact ⟨fun hf => ⟨hf.content, hf.page, hf.score⟩, fun hf => ⟨hf.1, hf.2.1, hf.2.2⟩⟩
  rw [hfits, chunkOf]
  cases hfirst : firstPresent item contentKeys with
  | none =>
    -- without any content the item is skipped
    have hnot : ¬ContentFirst py item := by simp [ContentFirst, hfirst]
    simp [hnot]
  | some v =>
    rw [contentFirst_iff hfirst]
    by_cases htruthy : isTruthy v = true
    · cases hchunk : chunk py lib item v with
      | none =>
        have hsome : (chunk py lib item v).isSome = true ↔ ItemReadable lib item := isSome_chunk_iff
        have hnot : ¬ItemReadable lib item := by simp [← hsome, hchunk]
        simp [htruthy, hchunk, hnot]
      | some c =>
        have hreadable : ItemReadable lib item :=
          isSome_chunk_iff.mp (Option.isSome_of_eq_some hchunk)
        simp [htruthy, hchunk, hreadable, content_chunk hchunk]
    · -- what is false is skipped before it is validated
      simp [htruthy]

/-! ## The response -/

/-- An envelope has no usage. -/
theorem readUsage_wrap {keys : List String} (hkeys : ∀ key ∈ keys, key ∈ envelopeKeys)
    (items : List Json) : readUsage (wrap keys (.arr items)) = some none := by
  cases keys with
  | nil => rfl
  | cons key keys =>
    have hne : key ≠ "usage" := fun heq =>
      absurd (heq ▸ hkeys key List.mem_cons_self) (by decide : "usage" ∉ envelopeKeys)
    show readUsage (.obj [(key, _)]) = _
    rw [readUsage, Json.get?, List.find?_singleton, if_neg (by simpa using hne)]
    rfl

/-- What a response is parsed into: the chunks of the items that are found. -/
theorem parseSearchResponse_wrap {keys : List String} {items : List (List (String × Json))}
    (hkeys : ∀ key ∈ keys, key ∈ envelopeKeys) (hdepth : keys.length ≤ 4) :
    parseSearchResponse py lib (wrap keys (.arr (items.map .obj))) =
      (fun made => ⟨made.reduceOption, none⟩) <$>
        ((if "result" ∈ keys then [] else items).map Json.obj).mapM (chunkOf py lib) := by
  have hlist : itemList (wrap keys (.arr (items.map .obj))) =
      (if "result" ∈ keys then [] else items).map Json.obj := by
    rw [itemList, findItemList_wrap hkeys hdepth]
    split
    · rfl
    · rfl
  rw [parseSearchResponse, hlist, readUsage_wrap hkeys]
  rfl

/-- A response whose items are well-typed, inside of up to four objects under keys of envelopes, has
    one chunk for each item exactly if none of the keys is `result` and all of the items fit. -/
theorem parseSearchResponse_wrap_iff (py : PythonText) (lib : Pydantic) (keys : List String)
    (items : List (List (String × Json))) (hkeys : ∀ key ∈ keys, key ∈ envelopeKeys)
    (hdepth : keys.length ≤ 4) (hitems : items ≠ []) (htyped : ∀ item ∈ items, WellTypedItem item) :
    OneChunkEach items (parseSearchResponse py lib (wrap keys (.arr (items.map .obj)))) ↔
      "result" ∉ keys ∧ ∀ item ∈ items, ItemFits py lib item := by
  have heach : OneChunkEach items
      (parseSearchResponse py lib (wrap keys (.arr (items.map .obj)))) ↔
        ∃ made, ((if "result" ∈ keys then [] else items).map Json.obj).mapM (chunkOf py lib) =
            .ok made ∧ made.reduceOption.map (·.content) = items.map itemContent := by
    rw [OneChunkEach, parseSearchResponse_wrap hkeys hdepth]
    simp only [map_eq_ok]
    constructor
    · intro h
      obtain ⟨result, ⟨made, hmade, rfl⟩, hcontents⟩ := h
      exact ⟨made, hmade, hcontents⟩
    · intro h
      obtain ⟨made, hmade, hcontents⟩ := h
      exact ⟨_, ⟨made, hmade, rfl⟩, hcontents⟩
  rw [heach]
  by_cases hkey : "result" ∈ keys
  · -- under `result`, no item is found
    rw [if_pos hkey]
    refine iff_of_false (fun h => hitems ?_) fun h => h.1 hkey
    obtain ⟨made, hmade, hcontents⟩ := h
    obtain rfl : [] = made := pure_eq_ok.mp hmade
    exact List.map_eq_nil_iff.mp hcontents.symm
  · rw [if_neg hkey, List.mapM_map, mapM_reduceOption_iff, and_iff_right hkey]
    exact forall₂_congr fun item hitem => chunkOf_eq_some_iff (htyped item hitem)

/-! ## A result in an envelope -/

namespace TenDays

/-- An item with a text and nothing else. -/
def item : List (String × Json) := [("content", .str "Ten days")]

/-- It is well-typed. -/
theorem wellTyped : WellTypedItem item where
  content := ⟨"content", by decide, "Ten days", by decide, by decide⟩
  labels := by
    intro key hkey v hv
    rw [item, present_singleton (fun h => by cases h), if_neg] at hv
    · cases hv
    · rintro rfl
      exact absurd hkey (by decide)

/-- An item whose first content is no text. -/
def zeroFirst : List (String × Json) := [("content", .int 0), ("text", .str "Ten days")]

end TenDays

/-- Inside of `data` and `items` the item is found, and it becomes a chunk. -/
theorem parseSearchResponse_wrap_iff_tenDays :
    OneChunkEach [TenDays.item] (parseSearchResponse KnowledgeBodies.python StoredConfig.pydantic
      (wrap ["data", "items"] (.arr [.obj TenDays.item]))) := by
  have hfits : ItemFits KnowledgeBodies.python StoredConfig.pydantic TenDays.item := {
    content := fun h => absurd h (by decide)
    page := fun v hv => by cases hv
    score := fun v hv => by cases hv }
  exact (parseSearchResponse_wrap_iff KnowledgeBodies.python StoredConfig.pydantic
    ["data", "items"] [TenDays.item] (by decide) (by decide) (List.cons_ne_nil _ _)
    (List.forall_mem_singleton.mpr TenDays.wellTyped)).mpr
      ⟨by decide, List.forall_mem_singleton.mpr hfits⟩

/-- A zero under `content` hides the text under `text`. -/
example : parseSearchResponse KnowledgeBodies.python StoredConfig.pydantic
    (.arr [.obj TenDays.zeroFirst]) = .ok ⟨[], none⟩ := rfl

/-- In the envelope that the docstring of the mapper shows, it is not found. -/
theorem parseSearchResponse_result :
    WellTypedItem TenDays.item ∧
    (∀ key ∈ ["result", "chunks"], key ∈ envelopeKeys) ∧
    parseSearchResponse KnowledgeBodies.python StoredConfig.pydantic
      (wrap ["result", "chunks"] (.arr [.obj TenDays.item])) = .ok ⟨[], none⟩ ∧
    ¬OneChunkEach [TenDays.item] (parseSearchResponse KnowledgeBodies.python StoredConfig.pydantic
      (wrap ["result", "chunks"] (.arr [.obj TenDays.item]))) := by
  have hparsed : parseSearchResponse KnowledgeBodies.python StoredConfig.pydantic
      (wrap ["result", "chunks"] (.arr [.obj TenDays.item])) = .ok ⟨[], none⟩ := rfl
  refine ⟨TenDays.wellTyped, by decide, hparsed, fun heach => ?_⟩
  obtain ⟨result, hok, hcontents⟩ := heach
  rw [hparsed] at hok
  obtain rfl := Except.ok.inj hok
  cases hcontents

end AgnoRuntime
