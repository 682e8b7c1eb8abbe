import Mathlib.Data.List.Nodup
import Mathlib.Data.List.Basic

/-!
# JSON values and their text

The values Python's `json` module reads and writes, the text `json.dumps`
gives them (default separators, `ensure_ascii`) and the parser behind
`json.loads`.

An object is a Python dict: a list of members in insertion order, in which a
key occurs once (`Json.WellFormed`). A float is what its literal says: sign,
digits and exponent; whether two literals round to one double is not
represented.

The parser follows CPython's scanner: integers without leading zeros, `NaN`
and the infinities, strings without control characters, `\u` escapes joined
where they form a surrogate pair. A `\u` escape that is half of no pair has no
`Char`; it is read as U+FFFD.
-/

/-- A float literal: digits after the point, or an exponent, or both. -/
structure Decimal where
  negative : Bool
  whole : Nat
  fraction : List (Fin 10)
  exponent : Option Int
  isFloat : fraction ≠ [] ∨ exponent.isSome
deriving DecidableEq

/-- The floats `json` reads and writes. -/
inductive JsonFloat where
  | decimal (d : Decimal)
  | nan
  | infinity (negative : Bool)
deriving DecidableEq

/-- JSON values as Python holds them. -/
inductive Json where
  | null
  | bool (b : Bool)
  | int (i : Int)
  | float (f : JsonFloat)
  | str (s : String)
  | arr (items : List Json)
  | obj (members : List (String × Json))

namespace Json

/-! ## Equality -/

mutual

/-- Equality of values is decidable. -/
protected def decEq : (v w : Json) → Decidable (v = w)
  | null, w => match w with
    | null => isTrue rfl
    | bool _ | int _ | float _ | str _ | arr _ | obj _ => isFalse nofun
  | bool b, w => match w with
    | bool b' => decidable_of_iff (b = b') (by simp)
    | null | int _ | float _ | str _ | arr _ | obj _ => isFalse nofun
  | int i, w => match w with
    | int i' => decidable_of_iff (i = i') (by simp)
    | null | bool _ | float _ | str _ | arr _ | obj _ => isFalse nofun
  | float f, w => match w with
    | float f' => decidable_of_iff (f = f') (by simp)
    | null | bool _ | int _ | str _ | arr _ | obj _ => isFalse nofun
  | str s, w => match w with
    | str s' => decidable_of_iff (s = s') (by simp)
    | null | bool _ | int _ | float _ | arr _ | obj _ => isFalse nofun
  | arr items, w => match w with
    | arr items' => match Json.decEqItems items items' with
      | isTrue h => isTrue (by rw [h])
      | isFalse h => isFalse fun heq => h (arr.inj heq)
    | null | bool _ | int _ | float _ | str _ | obj _ => isFalse nofun
  | obj members, w => match w with
    | obj members' => match Json.decEqMembers members members' with
      | isTrue h => isTrue (by rw [h])
      | isFalse h => isFalse fun heq => h (obj.inj heq)
    | null | bool _ | int _ | float _ | str _ | arr _ => isFalse nofun
termination_by structural v => v

/-- Equality of the items of lists is decidable. -/
protected def decEqItems : (vs ws : List Json) → Decidable (vs = ws)
  | [], [] => isTrue rfl
  | [], _ :: _ | _ :: _, [] => isFalse nofun
  | v :: vs, w :: ws =>
    match Json.decEq v w, Json.decEqItems vs ws with
    | isTrue h, isTrue h' => isTrue (by rw [h, h'])
    | isFalse h, _ => isFalse fun heq => h (List.cons.inj heq).1
    | _, isFalse h => isFalse fun heq => h (List.cons.inj heq).2
termination_by structural vs => vs

/-- Equality of the members of dicts is decidable. -/
protected def decEqMembers : (ms ns : List (String × Json)) → Decidable (ms = ns)
  | [], [] => isTrue rfl
  | [], _ :: _ | _ :: _, [] => isFalse nofun
  | (k, v) :: ms, (l, w) :: ns =>
    match decEq k l, Json.decEq v w, Json.decEqMembers ms ns with
    | isTrue hk, isTrue h, isTrue h' => isTrue (by rw [hk, h, h'])
    | isFalse h, _, _ => isFalse fun heq => h (congrArg Prod.fst (List.cons.inj heq).1)
    | _, isFalse h, _ => isFalse fun heq => h (congrArg Prod.snd (List.cons.inj heq).1)
    | _, _, isFalse h => isFalse fun heq => h (List.cons.inj heq).2
termination_by structural ms => ms

end

instance : DecidableEq Json := Json.decEq

/-! ## Dicts -/

/-- `members.get(key)`. -/
def get? (members : List (String × Json)) (key : String) : Option Json :=
  (members.find? (fun m => m.1 = key)).map Prod.snd

/-- `members[key] = value`: a key keeps its place, a new key comes last. -/
def setItem : List (String × Json) → String → Json → List (String × Json)
  | [], key, value => [(key, value)]
  | m :: members, key, value =>
    if m.1 = key then (key, value) :: members else m :: setItem members key value

/-- What is found after `members[key] = value`. -/
theorem get?_setItem (members : List (String × Json)) (key key' : String) (value : Json) :
    get? (setItem members key value) key' = if key' = key then some value else get? members key' := by
  induction members with
  | nil =>
    by_cases h : key' = key
    · simp [setItem, get?, h]
    · simp [setItem, get?, h, Ne.symm h]
  | cons m members ih =>
    rw [setItem]
    split
    -- The member is there, and gets the value.
    · rename_i hm
      by_cases h : key' = key
      · simp [get?, h]
      · have hne : m.1 ≠ key' := fun hm' => h (hm'.symm.trans hm)
        simp [get?, h, Ne.symm h, hne]
    -- The member is another one.
    · rename_i hm
      by_cases h : m.1 = key'
      · have hne : key' ≠ key := fun hk => hm (h.trans hk)
        simp [get?, h, hne]
      · have hcons (l : List (String × Json)) : get? (m :: l) key' = get? l key' := by
          simp [get?, h]
        rw [hcons, hcons, ih]

/-- A key that is not there yet comes last. -/
theorem setItem_of_notMem {members : List (String × Json)} {key : String}
    (h : key ∉ members.map Prod.fst) (value : Json) :
    setItem members key value = members ++ [(key, value)] := by
  induction members with
  | nil => rfl
  | cons m members ih =>
    rw [List.map_cons, List.mem_cons, not_or] at h
    rw [setItem, if_neg (fun hm => h.1 hm.symm), ih h.2, List.cons_append]

/-- `dict(pairs)`: a later pair replaces an earlier one with its key. -/
def dictOf (pairs : List (String × Json)) : List (String × Json) :=
  pairs.foldl (fun members p => setItem members p.1 p.2) []

/-- Pairs with distinct keys are the members of their dict. -/
theorem dictOf_of_nodup {pairs : List (String × Json)} (h : (pairs.map Prod.fst).Nodup) :
    dictOf pairs = pairs := by
  have hfold (before : List (String × Json)) (hall : ((before ++ pairs).map Prod.fst).Nodup) :
      pairs.foldl (fun members p => setItem members p.1 p.2) before = before ++ pairs := by
    clear h
    induction pairs generalizing before with
    | nil => simp
    | cons p pairs ih =>
      have hnew : p.1 ∉ before.map Prod.fst := by
        rw [List.map_append, List.nodup_append] at hall
        intro hmem
        exact hall.2.2 _ hmem _ (List.mem_map_of_mem List.mem_cons_self) rfl
      rw [List.foldl_cons, setItem_of_notMem hnew]
      have hassoc : before ++ p :: pairs = (before ++ [(p.1, p.2)]) ++ pairs := by simp
      rw [hassoc] at hall ⊢
      exact ih _ hall
  exact hfold [] h

mutual

/-- Every dict in the value has each key once. -/
def WellFormed : Json → Prop
  | arr items => ItemsWellFormed items
  | obj members => (members.map Prod.fst).Nodup ∧ MembersWellFormed members
  | _ => True
termination_by structural v => v

/-- `WellFormed` of the items of a list. -/
def ItemsWellFormed : List Json → Prop
  | [] => True
  | v :: vs => v.WellFormed ∧ ItemsWellFormed vs
termination_by structural vs => vs

/-- `WellFormed` of the values of a dict. -/
def MembersWellFormed : List (String × Json) → Prop
  | [] => True
  | (_, v) :: ms => v.WellFormed ∧ MembersWellFormed ms
termination_by structural ms => ms

end

theorem wellFormed_arr {items : List Json} : (arr items).WellFormed ↔ ItemsWellFormed items := by
  rw [WellFormed]

theorem wellFormed_obj {members : List (String × Json)} :
    (obj members).WellFormed ↔ (members.map Prod.fst).Nodup ∧ MembersWellFormed members := by
  rw [WellFormed]

/-- The members of a dict are well formed when each value is. -/
theorem membersWellFormed_iff {members : List (String × Json)} :
    MembersWellFormed members ↔ ∀ m ∈ members, m.2.WellFormed := by
  induction members with
  | nil => simp [MembersWellFormed]
  | cons m members ih =>
    obtain ⟨k, v⟩ := m
    simp [MembersWellFormed, ih]

/-- A member after `members[key] = value` is the new one or an old one. -/
theorem mem_setItem {members : List (String × Json)} {key : String} {value : Json}
    {m : String × Json} (h : m ∈ setItem members key value) : m = (key, value) ∨ m ∈ members := by
  induction members with
  | nil => exact .inl (List.mem_singleton.mp h)
  | cons m' members ih =>
    rw [setItem] at h
    split at h
    · rcases List.mem_cons.mp h with h | h
      · exact .inl h
      · exact .inr (List.mem_cons_of_mem _ h)
    · rcases List.mem_cons.mp h with h | h
      · exact .inr (h ▸ List.mem_cons_self)
      · exact (ih h).imp_right (List.mem_cons_of_mem _)

/-- Setting an item keeps the keys distinct. -/
theorem nodup_setItem {members : List (String × Json)} (h : (members.map Prod.fst).Nodup)
    (key : String) (value : Json) : ((setItem members key value).map Prod.fst).Nodup := by
  induction members with
  | nil => simp [setItem]
  | cons m members ih =>
    rw [List.map_cons, List.nodup_cons] at h
    rw [setItem]
    split
    · rename_i hm
      rw [List.map_cons, List.nodup_cons]
      exact ⟨fun hmem => h.1 (hm ▸ hmem), h.2⟩
    · rename_i hm
      rw [List.map_cons, List.nodup_cons]
      refine ⟨fun hmem => ?_, ih h.2⟩
      obtain ⟨m', hm', hkey⟩ := List.mem_map.mp hmem
      rcases mem_setItem hm' with rfl | hold
      · exact hm hkey.symm
      · exact h.1 (hkey ▸ List.mem_map_of_mem hold)

/-- Setting an item keeps a dict well formed. -/
theorem wellFormed_setItem {members : List (String × Json)} {value : Json} {key : String}
    (h : (obj members).WellFormed) (hvalue : value.WellFormed) :
    (obj (setItem members key value)).WellFormed := by
  rw [wellFormed_obj, membersWellFormed_iff] at h ⊢
  refine ⟨nodup_setItem h.1 key value, fun m hm => ?_⟩
  rcases mem_setItem hm with rfl | hold
  · exact hvalue
  · exact h.2 m hold

/-- The dict of well-formed pairs is well formed. -/
theorem wellFormed_dictOf {pairs : List (String × Json)} (h : ∀ p ∈ pairs, p.2.WellFormed) :
    (obj (dictOf pairs)).WellFormed := by
  have hfold (before : List (String × Json)) (hbefore : (obj before).WellFormed) :
      (obj (pairs.foldl (fun members p => setItem members p.1 p.2) before)).WellFormed := by
    induction pairs generalizing before with
    | nil => exact hbefore
    | cons p pairs ih =>
      rw [List.foldl_cons]
      exact ih (fun q hq => h q (List.mem_cons_of_mem _ hq)) _
        (wellFormed_setItem hbefore (h p List.mem_cons_self))
  exact hfold [] (by simp [wellFormed_obj, MembersWellFormed])

/-- A Python dict of JSON values. -/
structure Dict where
  members : List (String × Json)
  wellFormed : (obj members).WellFormed
deriving DecidableEq

namespace Dict

/-- `dict[key] = value`. -/
def setItem (d : Dict) (key : String) (value : { v : Json // v.WellFormed }) : Dict :=
  ⟨Json.setItem d.members key value, wellFormed_setItem d.wellFormed value.2⟩

/-- `dict.get(key)`. -/
def get? (d : Dict) (key : String) : Option Json := Json.get? d.members key

@[simp] theorem get?_setItem (d : Dict) (key key' : String) (value : { v : Json // v.WellFormed }) :
    (d.setItem key value).get? key' = if key' = key then some value.1 else d.get? key' :=
  Json.get?_setItem d.members key key' value

end Dict

/-- A string is a value to store. -/
def ofString (s : String) : { v : Json // v.WellFormed } := ⟨.str s, by simp [WellFormed]⟩

/-! ## Writing -/

/-- A digit as the hexadecimal escapes write it. -/
def hexDigit (d : Nat) : Char :=
  if d < 10 then Char.ofNat (d + '0'.toNat) else Char.ofNat (d - 10 + 'a'.toNat)

/-- `\uXXXX`. -/
def unicodeEscape (u : Nat) : List Char :=
  ['\\', 'u', hexDigit (u / 4096 % 16), hexDigit (u / 256 % 16), hexDigit (u / 16 % 16),
    hexDigit (u % 16)]

/-- The escapes of one letter (`ESCAPE_DCT`). -/
def shortEscape (c : Char) : Option Char :=
  if c = '\\' then some '\\'
  else if c = '\x22' then some '\x22'
  else if c = '\x08' then some 'b'
  else if c = '\x0c' then some 'f'
  else if c = '\n' then some 'n'
  else if c = '\r' then some 'r'
  else if c = '\t' then some 't'
  else none

/-- One character of a string (`py_encode_basestring_ascii`): printable ASCII as
    it is, the rest escaped, above U+FFFF as a surrogate pair. -/
def encodeChar (c : Char) : List Char :=
  match shortEscape c with
  | some e => ['\\', e]
  | none =>
    if 32 ≤ c.toNat ∧ c.toNat ≤ 126 then [c]
    else if c.toNat < 0x10000 then unicodeEscape c.toNat
    else
      unicodeEscape (0xD800 + (c.toNat - 0x10000) / 0x400) ++
        unicodeEscape (0xDC00 + (c.toNat - 0x10000) % 0x400)

/-- A string in quotes. -/
def encodeString (s : List Char) : List Char :=
  '\x22' :: (s.flatMap encodeChar ++ ['\x22'])

/-- `-` of a negative number. -/
def encodeSign (negative : Bool) : List Char :=
  if negative then ['-'] else []

/-- `int.__repr__`. -/
def encodeInt (i : Int) : List Char :=
  encodeSign (i < 0) ++ Nat.toDigits 10 i.natAbs

/-- The exponent of a float: signed, two digits at least. -/
def encodeExponent : Option Int → List Char
  | none => []
  | some e =>
    let digits := Nat.toDigits 10 e.natAbs
    'e' :: (if e < 0 then '-' else '+') :: (if e.natAbs < 10 then '0' :: digits else digits)

/-- The digits after the point of a float. -/
def encodeFraction : List (Fin 10) → List Char
  | [] => []
  | d :: ds => '.' :: (d :: ds).map (fun d => Nat.digitChar d.val)

/-- `float.__repr__`, with the names `json` has for what is no number. -/
def encodeFloat : JsonFloat → List Char
  | .decimal d =>
    encodeSign d.negative ++
      (Nat.toDigits 10 d.whole ++ (encodeFraction d.fraction ++ encodeExponent d.exponent))
  | .nan => ['N', 'a', 'N']
  | .infinity negative => encodeSign negative ++ "Infinity".toList

mutual

/-- The text of a value, as characters. -/
def encode : Json → List Char
  | null => ['n', 'u', 'l', 'l']
  | bool true => ['t', 'r', 'u', 'e']
  | bool false => ['f', 'a', 'l', 's', 'e']
  | int i => encodeInt i
  | float f => encodeFloat f
  | str s => encodeString s.toList
  | arr items => '[' :: encodeItems items
  | obj members => '\x7b' :: encodeMembers members
termination_by structural v => v

/-- A list after its opening bracket. -/
def encodeItems : List Json → List Char
  | [] => [']']
  | v :: vs => encode v ++ encodeMoreItems vs
termination_by structural vs => vs

/-- A list after one of its items. -/
def encodeMoreItems : List Json → List Char
  | [] => [']']
  | v :: vs => ',' :: ' ' :: (encode v ++ encodeMoreItems vs)
termination_by structural vs => vs

/-- A dict after its opening brace. -/
def encodeMembers : List (String × Json) → List Char
  | [] => ['\x7d']
  | (k, v) :: ms => encodeString k.toList ++ (':' :: ' ' :: (encode v ++ encodeMoreMembers ms))
termination_by structural ms => ms

/-- A dict after one of its members. -/
def encodeMoreMembers : List (String × Json) → List Char
  | [] => ['\x7d']
  | (k, v) :: ms =>
    ',' :: ' ' :: (encodeString k.toList ++ (':' :: ' ' :: (encode v ++ encodeMoreMembers ms)))
termination_by structural ms => ms

end

/-- `json.dumps(value)`. -/
def dumps (v : Json) : String := String.ofList (encode v)

end Json
