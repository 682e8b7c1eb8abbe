import AgnoRuntime.ForStd.Json

/-!
# JSON values over all strings of Python

A string of Python is a sequence of code points, and the lone surrogates are among them: a `\u`
escape that is half of no pair is read as one. Such a string has no UTF-8, so it is no `String`
here either. `PyJson` is what the `json` module reads with these strings in it, `dumps` the text it
writes with `ensure_ascii=False`, which leaves surrogates as they are.

A float is the decimal that its `repr` writes.

## Key results

- `PyText.toString?_eq_some`: which strings have a `String`
- `PyJson.isUnicode_dumps`: when the text of a value does
- `PyJson.length_dumps_lt`: the text of a member is shorter than the text of its dict
-/

/-! ## Strings -/

/-- A code point. -/
inductive PyChar where
  | char (c : Char)
  | surrogate (offset : Fin 0x800)
deriving DecidableEq

/-- The character, unless it is a surrogate. -/
def PyChar.char? : PyChar → Option Char
  | char c => some c
  | surrogate _ => none

/-- A string of Python. -/
abbrev PyText : Type := List PyChar

namespace PyText

/-- Characters as code points. -/
def ofChars (cs : List Char) : PyText := cs.map .char

/-- A string as Python holds it. -/
def ofString (s : String) : PyText := ofChars s.toList

/-- No code point is a surrogate. -/
def IsUnicode (t : PyText) : Prop := ∀ p ∈ t, p.char?.isSome

instance (t : PyText) : Decidable t.IsUnicode :=
  inferInstanceAs (Decidable (∀ p ∈ t, p.char?.isSome))

/-- The string, if it has a UTF-8 encoding. -/
def toString? (t : PyText) : Option String :=
  if t.IsUnicode then some (String.ofList (t.filterMap PyChar.char?)) else none

@[simp] theorem isUnicode_nil : IsUnicode [] := by simp [IsUnicode]

@[simp] theorem isUnicode_append {t u : PyText} :
    IsUnicode (t ++ u) ↔ t.IsUnicode ∧ u.IsUnicode := by
  simp only [IsUnicode, List.forall_mem_append]

@[simp] theorem isUnicode_cons {p : PyChar} {t : PyText} :
    IsUnicode (p :: t) ↔ p.char?.isSome ∧ t.IsUnicode := by
  simp only [IsUnicode, List.forall_mem_cons]

@[simp] theorem isUnicode_ofChars (cs : List Char) : (ofChars cs).IsUnicode := by
  intro p hp
  obtain ⟨c, -, rfl⟩ := List.mem_map.mp hp
  rfl

@[simp] theorem isUnicode_ofString (s : String) : (ofString s).IsUnicode := isUnicode_ofChars _

/-- A text without surrogates is made of its characters. -/
theorem ofChars_filterMap {t : PyText} (h : t.IsUnicode) :
    ofChars (t.filterMap PyChar.char?) = t := by
  induction t with
  | nil => rfl
  | cons p t ih =>
    cases p with
    | char c =>
      have htail := ih (isUnicode_cons.mp h).2
      exact congrArg (PyChar.char c :: ·) htail
    | surrogate offset => cases (isUnicode_cons.mp h).1

/-- A text and a string are the same code points. -/
theorem toString?_eq_some {t : PyText} {s : String} : t.toString? = some s ↔ t = ofString s := by
  rw [toString?]
  split
  · rename_i ht
    rw [Option.some.injEq]
    constructor
    · rintro rfl
      rw [ofString, String.toList_ofList, ofChars_filterMap ht]
    · rintro rfl
      rw [ofString, ofChars, List.filterMap_map]
      have hchars : (PyChar.char? ∘ PyChar.char : Char → Option Char) = some := rfl
      rw [hchars, List.filterMap_some, String.ofList_toList]
  · rename_i ht
    refine iff_of_false (by simp) ?_
    rintro rfl
    exact ht (isUnicode_ofString s)

/-- The texts that are strings are those without surrogates. -/
theorem isUnicode_iff_exists {t : PyText} : t.IsUnicode ↔ ∃ s, t = ofString s := by
  constructor
  · intro h
    refine ⟨String.ofList (t.filterMap PyChar.char?), ?_⟩
    rw [ofString, String.toList_ofList, ofChars_filterMap h]
  · rintro ⟨s, rfl⟩
    exact isUnicode_ofString s

/-- Two strings with the same code points are the same. -/
theorem ofString_injective {s t : String} (h : ofString s = ofString t) : s = t :=
  Option.some.inj ((toString?_eq_some.mpr rfl).symm.trans (toString?_eq_some.mpr h))

/-- Only the empty string has the empty text. -/
theorem ofString_eq_nil {s : String} : ofString s = [] ↔ s = "" := by
  rw [ofString, ofChars, List.map_eq_nil_iff, String.toList_eq_nil_iff]

/-- `", ".join(parts)`. -/
def join : List PyText → PyText
  | [] => []
  | [t] => t
  | t :: u :: ts => t ++ ofString ", " ++ join (u :: ts)

/-- What is joined has a surrogate where a part has one. -/
theorem isUnicode_join {ts : List PyText} : (join ts).IsUnicode ↔ ∀ t ∈ ts, t.IsUnicode := by
  fun_induction join ts with
  | case1 => simp
  | case2 t => simp
  | case3 t u ts ih =>
    rw [isUnicode_append, isUnicode_append, ih, List.forall_mem_cons]
    simp

/-- A part is no longer than what is joined. -/
theorem length_le_join {ts : List PyText} {t : PyText} (h : t ∈ ts) :
    t.length ≤ (join ts).length := by
  fun_induction join ts with
  | case1 => cases h
  | case2 u => exact Nat.le_of_eq (congrArg List.length (List.mem_singleton.mp h))
  | case3 u v ts ih =>
    rw [List.length_append, List.length_append]
    rcases List.mem_cons.mp h with rfl | h
    · omega
    · have := ih h
      omega

/-- A code point in a string literal (`py_encode_basestring`). -/
def encodePoint : PyChar → PyText
  | .char c =>
    match Json.shortEscape c with
    | some e => ofChars ['\\', e]
    | none => ofChars (if c.toNat < 32 then Json.unicodeEscape c.toNat else [c])
  | .surrogate offset => [.surrogate offset]

/-- A string in quotes. -/
def quote (t : PyText) : PyText := .char '\x22' :: (t.flatMap encodePoint ++ [.char '\x22'])

/-- Quotes and escapes neither add nor remove surrogates. -/
@[simp] theorem isUnicode_quote {t : PyText} : (quote t).IsUnicode ↔ t.IsUnicode := by
  have hpoint (p : PyChar) : (encodePoint p).IsUnicode ↔ p.char?.isSome := by
    cases p with
    | char c =>
      rw [encodePoint]
      split <;> simp [PyChar.char?]
    | surrogate offset => simp [encodePoint, PyChar.char?]
  have hflat : IsUnicode (t.flatMap encodePoint) ↔ t.IsUnicode := by
    induction t with
    | nil => simp
    | cons p t ih => rw [List.flatMap_cons, isUnicode_append, isUnicode_cons, hpoint, ih]
  rw [quote, isUnicode_cons, isUnicode_append, hflat]
  simp [PyChar.char?]

end PyText

/-! ## Values -/

/-- What `json.loads` returns. -/
inductive PyJson where
  | null
  | bool (b : Bool)
  | int (i : Int)
  | float (f : JsonFloat)
  | str (s : PyText)
  | arr (items : List PyJson)
  | obj (members : List (PyText × PyJson))

namespace PyJson

open PyText

/-- `members[key]`, if the key is there. -/
def get? (members : List (PyText × PyJson)) (key : PyText) : Option PyJson :=
  (members.find? (fun m => m.1 = key)).map Prod.snd

/-- A value that is found is one of the members. -/
theorem mem_of_get? {members : List (PyText × PyJson)} {key : PyText} {v : PyJson}
    (h : get? members key = some v) : (key, v) ∈ members := by
  obtain ⟨m, hfind, rfl⟩ := Option.map_eq_some_iff.mp h
  have hkey : m.1 = key := by simpa using List.find?_some hfind
  rw [← hkey]
  exact List.mem_of_find?_eq_some hfind

/-- `float.__str__`. -/
def strFloat : JsonFloat → PyText
  | .decimal d => ofChars (Json.encodeFloat (.decimal d))
  | .nan => ofString "nan"
  | .infinity negative => ofChars (Json.encodeSign negative ++ "inf".toList)

/-- `str(value)`, unless the value is a list or a dict. -/
def scalarText? : PyJson → Option PyText
  | null => some (ofString "None")
  | bool b => some (ofString (if b then "True" else "False"))
  | int i => some (ofChars (Json.encodeInt i))
  | float f => some (strFloat f)
  | str s => some s
  | arr _ | obj _ => none

mutual

/-- `json.dumps(value, ensure_ascii=False)`. -/
def dumps : PyJson → PyText
  | null => ofString "null"
  | bool b => ofString (if b then "true" else "false")
  | int i => ofChars (Json.encodeInt i)
  | float f => ofChars (Json.encodeFloat f)
  | str s => quote s
  | arr items => .char '[' :: (join (dumpsItems items) ++ [.char ']'])
  | obj members => .char '\x7b' :: (join (dumpsMembers members) ++ [.char '\x7d'])
termination_by structural v => v

/-- The texts of the items of a list. -/
def dumpsItems : List PyJson → List PyText
  | [] => []
  | v :: vs => dumps v :: dumpsItems vs
termination_by structural vs => vs

/-- The texts of the members of a dict. -/
def dumpsMembers : List (PyText × PyJson) → List PyText
  | [] => []
  | (k, v) :: ms => (quote k ++ (ofString ": " ++ dumps v)) :: dumpsMembers ms
termination_by structural ms => ms

end

mutual

/-- No string in the value, and no key, has a surrogate. -/
def IsUnicode : PyJson → Prop
  | str s => s.IsUnicode
  | arr items => ItemsUnicode items
  | obj members => MembersUnicode members
  | _ => True
termination_by structural v => v

/-- `IsUnicode` of the items of a list. -/
def ItemsUnicode : List PyJson → Prop
  | [] => True
  | v :: vs => v.IsUnicode ∧ ItemsUnicode vs
termination_by structural vs => vs

/-- `IsUnicode` of the keys and the values of a dict. -/
def MembersUnicode : List (PyText × PyJson) → Prop
  | [] => True
  | (k, v) :: ms => k.IsUnicode ∧ v.IsUnicode ∧ MembersUnicode ms
termination_by structural ms => ms

end

mutual

/-- The text of a value has a surrogate exactly if a string in it has one. -/
theorem isUnicode_dumps (v : PyJson) : v.dumps.IsUnicode ↔ v.IsUnicode := by
  cases v with
  | null => simp [dumps, IsUnicode]
  | bool b => simp [dumps, IsUnicode]
  | int i => simp [dumps, IsUnicode]
  | float f => simp [dumps, IsUnicode]
  | str s => simp [dumps, IsUnicode]
  | arr items =>
    rw [dumps, IsUnicode, PyText.isUnicode_cons, PyText.isUnicode_append, isUnicode_join,
      isUnicode_dumpsItems items]
    simp [PyChar.char?]
  | obj members =>
    rw [dumps, IsUnicode, PyText.isUnicode_cons, PyText.isUnicode_append, isUnicode_join,
      isUnicode_dumpsMembers members]
    simp [PyChar.char?]
termination_by structural v

/-- `isUnicode_dumps` for the items of a list. -/
theorem isUnicode_dumpsItems (vs : List PyJson) :
    (∀ t ∈ dumpsItems vs, t.IsUnicode) ↔ ItemsUnicode vs := by
  cases vs with
  | nil => simp [dumpsItems, ItemsUnicode]
  | cons v vs =>
    rw [dumpsItems, List.forall_mem_cons, isUnicode_dumps v, isUnicode_dumpsItems vs, ItemsUnicode]
termination_by structural vs

/-- `isUnicode_dumps` for the members of a dict. -/
theorem isUnicode_dumpsMembers (ms : List (PyText × PyJson)) :
    (∀ t ∈ dumpsMembers ms, t.IsUnicode) ↔ MembersUnicode ms := by
  cases ms with
  | nil => simp [dumpsMembers, MembersUnicode]
  | cons m ms =>
    obtain ⟨k, v⟩ := m
    rw [dumpsMembers, List.forall_mem_cons, isUnicode_dumpsMembers ms, MembersUnicode,
      PyText.isUnicode_append, PyText.isUnicode_append, isUnicode_dumps v, isUnicode_quote]
    simp [and_assoc]
termination_by structural ms

end

/-- The text of a dict is not empty. -/
theorem dumps_obj_ne_nil (members : List (PyText × PyJson)) : (obj members).dumps ≠ [] := by
  rw [dumps]
  exact List.cons_ne_nil _ _

/-- The text of a member is shorter than the text of its dict. -/
theorem length_dumps_lt {members : List (PyText × PyJson)} {key : PyText} {v : PyJson}
    (h : (key, v) ∈ members) : v.dumps.length < (obj members).dumps.length := by
  have hpart : quote key ++ (ofString ": " ++ v.dumps) ∈ dumpsMembers members := by
    induction members with
    | nil => cases h
    | cons m members ih =>
      rw [dumpsMembers]
      rcases List.mem_cons.mp h with rfl | h
      · exact List.mem_cons_self
      · exact List.mem_cons_of_mem _ (ih h)
  have hjoin := length_le_join hpart
  rw [List.length_append, List.length_append] at hjoin
  rw [dumps, List.length_cons, List.length_append]
  omega

end PyJson
