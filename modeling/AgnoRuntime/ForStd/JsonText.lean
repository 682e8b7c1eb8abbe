import AgnoRuntime.ForStd.Json

/-!
# Reading JSON text

`Json.loads`, written after CPython's scanner, and the round trip: what `dumps`
writes, `loads` reads back (`loads_dumps`).

The scanner recurses on fuel, three calls at most for each character, so three
times the length of the text is enough.
-/

namespace Json

/-! ## Strings -/

/-- `WHITESPACE`. -/
def isWs (c : Char) : Bool := c = ' ' || c = '\t' || c = '\n' || c = '\r'

/-- The text after leading whitespace. -/
def skipWs (cs : List Char) : List Char := cs.dropWhile isWs

/-- The value of a hexadecimal digit. -/
def hexValue (c : Char) : Option Nat :=
  if 48 ≤ c.toNat ∧ c.toNat ≤ 57 then some (c.toNat - 48)
  else if 97 ≤ c.toNat ∧ c.toNat ≤ 102 then some (c.toNat - 87)
  else if 65 ≤ c.toNat ∧ c.toNat ≤ 70 then some (c.toNat - 55)
  else none

/-- The unit four hexadecimal digits write. -/
def hexUnit (a b c d : Char) : Option Nat :=
  (hexValue a).bind fun a => (hexValue b).bind fun b =>
    (hexValue c).bind fun c => (hexValue d).map fun d => 4096 * a + 256 * b + 16 * c + d

/-- The escapes of one letter (`BACKSLASH`). -/
def unescape (e : Char) : Option Char :=
  if e = '\x22' then some '\x22'
  else if e = '\\' then some '\\'
  else if e = '/' then some '/'
  else if e = 'b' then some '\x08'
  else if e = 'f' then some '\x0c'
  else if e = 'n' then some '\n'
  else if e = 'r' then some '\r'
  else if e = 't' then some '\t'
  else none

/-- A piece of a string: a character, or the 16 bits of a `\u` escape. -/
inductive StringPart where
  | char (c : Char)
  | unit (u : Nat)

/-- `scanstring`: the pieces up to the closing quote, and the text after it. -/
def scanParts : List Char → Option (List StringPart × List Char)
  | [] => none
  | c :: cs =>
    if c = '\x22' then some ([], cs)
    else if c = '\\' then
      match cs with
      | [] => none
      | e :: cs =>
        if e = 'u' then
          match cs with
          | h₁ :: h₂ :: h₃ :: h₄ :: cs =>
            (hexUnit h₁ h₂ h₃ h₄).bind fun u => (scanParts cs).map fun p => (.unit u :: p.1, p.2)
          | _ => none
        else (unescape e).bind fun ch => (scanParts cs).map fun p => (.char ch :: p.1, p.2)
    else if c.toNat < 32 then none
    else (scanParts cs).map fun p => (.char c :: p.1, p.2)

/-- The character a lone unit stands for. -/
def unitChar (u : Nat) : Char :=
  if 0xD800 ≤ u ∧ u ≤ 0xDFFF then '\ufffd' else Char.ofNat u

/-- The string the pieces make: a high and a low surrogate in a row are one character. -/
def joinParts : List StringPart → List Char
  | [] => []
  | .char c :: ps => c :: joinParts ps
  | .unit u :: .unit v :: ps =>
    if (0xD800 ≤ u ∧ u ≤ 0xDBFF) ∧ 0xDC00 ≤ v ∧ v ≤ 0xDFFF then
      Char.ofNat (0x10000 + (u - 0xD800) * 0x400 + (v - 0xDC00)) :: joinParts ps
    else unitChar u :: joinParts (.unit v :: ps)
  | .unit u :: ps => unitChar u :: joinParts ps

/-- A string after its opening quote. -/
def scanString (cs : List Char) : Option (String × List Char) :=
  (scanParts cs).map fun p => (String.ofList (joinParts p.1), p.2)

/-! ## Numbers -/

/-- The integer part: `0`, or digits that do not start with `0`. -/
def scanWhole : List Char → Option (Nat × List Char)
  | [] => none
  | c :: cs =>
    if c = '0' then some (0, cs)
    else if c.isDigit then
      some (Nat.ofDigitChars 10 ((c :: cs).takeWhile Char.isDigit) 0, (c :: cs).dropWhile Char.isDigit)
    else none

/-- The value of a decimal digit. -/
def digitValue (c : Char) : Fin 10 := Fin.ofNat 10 (c.toNat - 48)

/-- The fraction, if a digit follows the point. -/
def scanFraction : List Char → List (Fin 10) × List Char
  | [] => ([], [])
  | c :: cs =>
    if c = '.' ∧ cs.takeWhile Char.isDigit ≠ [] then
      ((cs.takeWhile Char.isDigit).map digitValue, cs.dropWhile Char.isDigit)
    else ([], c :: cs)

/-- The sign of an exponent. -/
def scanSign : List Char → Bool × List Char
  | [] => (false, [])
  | c :: cs => if c = '-' then (true, cs) else if c = '+' then (false, cs) else (false, c :: cs)

/-- An integer from its sign and size. -/
def signed (negative : Bool) (n : Nat) : Int := if negative then -n else n

/-- The exponent, if a digit follows. -/
def scanExponent : List Char → Option Int × List Char
  | [] => (none, [])
  | c :: cs =>
    if (c = 'e' ∨ c = 'E') ∧ (scanSign cs).2.takeWhile Char.isDigit ≠ [] then
      (some (signed (scanSign cs).1 (Nat.ofDigitChars 10 ((scanSign cs).2.takeWhile Char.isDigit) 0)),
        (scanSign cs).2.dropWhile Char.isDigit)
    else (none, c :: cs)

/-- The number with these parts: an `int` unless it has a fraction or an exponent. -/
def numberOf (negative : Bool) (whole : Nat) (fraction : List (Fin 10)) (exponent : Option Int) :
    Json :=
  if h : fraction ≠ [] ∨ exponent.isSome then
    .float (.decimal ⟨negative, whole, fraction, exponent, h⟩)
  else .int (signed negative whole)

/-- A number after its sign. -/
def scanUnsigned (negative : Bool) (cs : List Char) : Option (Json × List Char) :=
  (scanWhole cs).map fun (whole, cs) =>
    let (fraction, cs) := scanFraction cs
    let (exponent, cs) := scanExponent cs
    (numberOf negative whole fraction exponent, cs)

/-- `_match_number`. -/
def scanNumber : List Char → Option (Json × List Char)
  | [] => none
  | c :: cs => if c = '-' then scanUnsigned true cs else scanUnsigned false (c :: cs)

/-! ## Values -/

/-- A constant, after its first letter. -/
def scanWord (word : List Char) (v : Json) (cs : List Char) : Option (Json × List Char) :=
  if word <+: cs then some (v, cs.drop word.length) else none

mutual

/-- `scan_once`. -/
def scanValue : Nat → List Char → Option (Json × List Char)
  | 0, _ => none
  | _ + 1, [] => none
  | fuel + 1, c :: cs =>
    if c = '\x22' then (scanString cs).map fun p => (.str p.1, p.2)
    else if c = '\x7b' then
      (scanMembers fuel (skipWs cs)).map fun p => (.obj (dictOf p.1), p.2)
    else if c = '[' then (scanItems fuel (skipWs cs)).map fun p => (.arr p.1, p.2)
    else if c = 'n' then scanWord ['u', 'l', 'l'] .null cs
    else if c = 't' then scanWord ['r', 'u', 'e'] (.bool true) cs
    else if c = 'f' then scanWord ['a', 'l', 's', 'e'] (.bool false) cs
    else if c = 'N' then scanWord ['a', 'N'] (.float .nan) cs
    else if c = 'I' then scanWord "nfinity".toList (.float (.infinity false)) cs
    else if c = '-' ∧ "Infinity".toList <+: cs then
      scanWord "Infinity".toList (.float (.infinity true)) cs
    else scanNumber (c :: cs)
termination_by structural fuel => fuel

/-- `JSONArray`: the items and the text after the closing bracket. -/
def scanItems : Nat → List Char → Option (List Json × List Char)
  | 0, _ => none
  | fuel + 1, cs =>
    if cs.head? = some ']' then some ([], cs.tail) else scanMoreItems fuel cs
termination_by structural fuel => fuel

/-- The items from one that is there. -/
def scanMoreItems : Nat → List Char → Option (List Json × List Char)
  | 0, _ => none
  | fuel + 1, cs =>
    (scanValue fuel cs).bind fun (v, cs) =>
      match skipWs cs with
      | [] => none
      | c :: cs =>
        if c = ']' then some ([v], cs)
        else if c = ',' then (scanMoreItems fuel (skipWs cs)).map fun p => (v :: p.1, p.2)
        else none
termination_by structural fuel => fuel

/-- `JSONObject`: the members and the text after the closing brace. -/
def scanMembers : Nat → List Char → Option (List (String × Json) × List Char)
  | 0, _ => none
  | fuel + 1, cs =>
    if cs.head? = some '\x7d' then some ([], cs.tail) else scanMoreMembers fuel cs
termination_by structural fuel => fuel

/-- The members from one that is there. -/
def scanMoreMembers : Nat → List Char → Option (List (String × Json) × List Char)
  | 0, _ => none
  | _ + 1, [] => none
  | fuel + 1, q :: cs =>
    if q = '\x22' then
      (scanString cs).bind fun (k, cs) =>
        match skipWs cs with
        | [] => none
        | c :: cs =>
          if c = ':' then
            (scanValue fuel (skipWs cs)).bind fun (v, cs) =>
              match skipWs cs with
              | [] => none
              | c :: cs =>
                if c = '\x7d' then some ([(k, v)], cs)
                else if c = ',' then
                  (scanMoreMembers fuel (skipWs cs)).map fun p => ((k, v) :: p.1, p.2)
                else none
          else none
    else none
termination_by structural fuel => fuel

end

/-- `json.loads(text)`; `none` where it raises `JSONDecodeError`. -/
def loads (text : String) : Option Json :=
  (scanValue (3 * text.toList.length + 1) (skipWs text.toList)).bind fun (v, rest) =>
    if skipWs rest = [] then some v else none

example : (loads " [1, -2.50e+03, \"\\ud83d\\ude00\"] ").map dumps =
    some "[1, -2.50e+03, \"\\ud83d\\ude00\"]" := by decide +kernel

/-! ## What is written is read back: strings -/

private theorem hexValue_hexDigit {d : Nat} (h : d < 16) : hexValue (hexDigit d) = some d := by
  have hall : ∀ d : Fin 16, hexValue (hexDigit d) = some d.val := by decide
  exact hall ⟨d, h⟩

/-- The four digits of a unit are read as the unit. -/
private theorem hexUnit_hexDigit {u : Nat} (h : u < 65536) :
    hexUnit (hexDigit (u / 4096 % 16)) (hexDigit (u / 256 % 16)) (hexDigit (u / 16 % 16))
      (hexDigit (u % 16)) = some u := by
  have hlt (n : Nat) : n % 16 < 16 := Nat.mod_lt _ (by decide)
  simp only [hexUnit, hexValue_hexDigit (hlt _), Option.bind_some, Option.map_some]
  congr 1
  omega

private theorem scanParts_unicodeEscape {u : Nat} (h : u < 65536) (rest : List Char) :
    scanParts (unicodeEscape u ++ rest) =
      (scanParts rest).map fun p => (.unit u :: p.1, p.2) := by
  have hquote : ('\\' = '\x22') = False := by simp
  simp only [unicodeEscape, List.cons_append, List.nil_append]
  rw [scanParts]
  simp only [hquote, if_false, if_true, hexUnit_hexDigit h, Option.bind_some]

/-- The pieces in which an encoded character is read. -/
def partsOf (c : Char) : List StringPart :=
  if (shortEscape c).isSome ∨ (32 ≤ c.toNat ∧ c.toNat ≤ 126) then [.char c]
  else if c.toNat < 0x10000 then [.unit c.toNat]
  else
    [.unit (0xD800 + (c.toNat - 0x10000) / 0x400), .unit (0xDC00 + (c.toNat - 0x10000) % 0x400)]

/-- A short escape is undone, and it is not the letter of the long ones. -/
private theorem unescape_shortEscape {c e : Char} (h : shortEscape c = some e) :
    unescape e = some c ∧ e ≠ 'u' := by
  unfold shortEscape at h
  repeat
    split at h
    · rename_i hc
      cases h
      subst hc
      decide
  cases h

/-- A character without a short escape is neither the quote nor the backslash. -/
private theorem ne_of_shortEscape_eq_none {c : Char} (h : shortEscape c = none) :
    c ≠ '\x22' ∧ c ≠ '\\' := by
  constructor
  · intro hc
    subst hc
    exact absurd h (by decide)
  · intro hc
    subst hc
    exact absurd h (by decide)

/-- An encoded character is read as its pieces. -/
theorem scanParts_encodeChar (c : Char) (rest : List Char) :
    scanParts (encodeChar c ++ rest) =
      (scanParts rest).map fun p => (partsOf c ++ p.1, p.2) := by
  unfold encodeChar partsOf
  cases hshort : shortEscape c with
  -- The character has an escape of its own.
  | some e =>
    obtain ⟨hun, hu⟩ := unescape_shortEscape hshort
    have hquote : ('\\' = '\x22') = False := by simp
    simp only [List.cons_append, List.nil_append, Option.isSome_some, true_or, if_true]
    rw [scanParts.eq_def]
    simp only [hquote, if_false, if_true, hu, hun, Option.bind_some]
  | none =>
    obtain ⟨hquote, hback⟩ := ne_of_shortEscape_eq_none hshort
    simp only [Option.isSome_none, Bool.false_eq_true, false_or]
    -- The character is printed as it is, or by its code units.
    split
    · rename_i hprint
      rw [List.singleton_append, scanParts.eq_def]
      simp only [hquote, hback, if_false, Nat.not_lt.mpr hprint.1, List.singleton_append]
    · have hmax : c.toNat < 0x110000 := by
        have hvalid := c.valid
        simp only [UInt32.isValidChar, Nat.isValidChar] at hvalid
        show c.val.toNat < 0x110000
        omega
      split
      -- One unit is enough,
      · rename_i hbmp
        exact scanParts_unicodeEscape (by omega) rest
      -- or it takes two.
      · rw [List.append_assoc, scanParts_unicodeEscape (by omega),
          scanParts_unicodeEscape (by omega), Option.map_map]
        rfl

/-- The pieces of a character make the character again. -/
theorem joinParts_partsOf (c : Char) (ps : List StringPart) :
    joinParts (partsOf c ++ ps) = c :: joinParts ps := by
  have hvalid := c.valid
  simp only [UInt32.isValidChar, Nat.isValidChar] at hvalid
  have hval : c.val.toNat = c.toNat := rfl
  rw [hval] at hvalid
  unfold partsOf
  split
  · rfl
  · split
    · rename_i hbmp
      have hlone : unitChar c.toNat = c := by
        -- A single unit: it is no surrogate, so nothing joins it.
        rw [unitChar, if_neg (by omega), Char.ofNat_toNat]
      have hhigh : ¬(0xD800 ≤ c.toNat ∧ c.toNat ≤ 0xDBFF) := by omega
      rw [List.singleton_append]
      match ps with
      | [] => simp only [joinParts, hlone]
      | .char d :: ps => simp only [joinParts, hlone]
      | .unit v :: ps => simp only [joinParts, hhigh, false_and, if_false, hlone]
    · rename_i hbmp
      obtain ⟨h, hh, hlt⟩ : ∃ h, h = (c.toNat - 0x10000) / 0x400 ∧ h < 0x400 :=
        ⟨_, rfl, by omega⟩
      -- A pair of surrogates, which give the character back.
      obtain ⟨l, hl, hlt'⟩ : ∃ l, l = (c.toNat - 0x10000) % 0x400 ∧ l < 0x400 :=
        ⟨_, rfl, by omega⟩
      have hsum : 0x10000 + h * 0x400 + l = c.toNat := by omega
      have hpair : (0xD800 ≤ 0xD800 + h ∧ 0xD800 + h ≤ 0xDBFF) ∧
          0xDC00 ≤ 0xDC00 + l ∧ 0xDC00 + l ≤ 0xDFFF := by omega
      rw [← hh, ← hl, List.cons_append, List.singleton_append, joinParts, if_pos hpair,
        Nat.add_sub_cancel_left, Nat.add_sub_cancel_left, hsum, Char.ofNat_toNat]

/-- A string in quotes is read back. -/
theorem scanString_encode (s : String) (rest : List Char) :
    scanString (s.toList.flatMap encodeChar ++ '\x22' :: rest) = some (s, rest) := by
  have hparts (cs : List Char) :
      scanParts (cs.flatMap encodeChar ++ '\x22' :: rest) = some (cs.flatMap partsOf, rest) := by
    induction cs with
    | nil => rw [List.flatMap_nil, List.nil_append, scanParts.eq_def]; simp
    | cons c cs ih =>
      rw [List.flatMap_cons, List.append_assoc, scanParts_encodeChar, ih]
      rfl
  have hjoin (cs : List Char) : joinParts (cs.flatMap partsOf) = cs := by
    induction cs with
    | nil => rfl
    | cons c cs ih => rw [List.flatMap_cons, joinParts_partsOf, ih]
  rw [scanString, hparts, Option.map_some, hjoin, String.ofList_toList]

/-! ## What is written is read back: numbers -/

/-- The text does not go on with a character a number could have next. -/
def EndsNumber (rest : List Char) : Prop :=
  ∀ c, rest.head? = some c → c.isDigit = false ∧ c ≠ '.' ∧ c ≠ 'e' ∧ c ≠ 'E'

/-- The text does not go on with a digit. -/
def EndsDigits (rest : List Char) : Prop := ∀ c, rest.head? = some c → c.isDigit = false

/-- Digits are taken up to where they end. -/
private theorem span_digits {ds rest : List Char} (hds : ∀ c ∈ ds, c.isDigit = true)
    (hrest : EndsDigits rest) :
    (ds ++ rest).takeWhile Char.isDigit = ds ∧ (ds ++ rest).dropWhile Char.isDigit = rest := by
  rw [List.takeWhile_append_of_pos hds, List.dropWhile_append_of_pos hds]
  cases rest with
  | nil => simp
  | cons c rest =>
    have hc := hrest c rfl
    simp [hc]

private theorem isDigit_toDigits (n : Nat) : ∀ c ∈ Nat.toDigits 10 n, c.isDigit = true :=
  fun _ hc => Nat.isDigit_of_mem_toDigits (by decide) (by decide) hc

/-- Only zero is written with a leading zero. -/
private theorem head_toDigits (n : Nat) :
    ∃ c ds, Nat.toDigits 10 n = c :: ds ∧ (c = '0' → n = 0 ∧ ds = []) := by
  induction n using Nat.base_induction 10 (by decide) with
  | single m hm =>
    refine ⟨Nat.digitChar m, [], Nat.toDigits_of_lt_base hm, ?_⟩
    intro hzero
    have hall : ∀ m : Fin 10, Nat.digitChar m = '0' → m = 0 := by decide
    have hm0 := hall ⟨m, hm⟩ hzero
    exact ⟨congrArg Fin.val hm0, rfl⟩
  | digit m k hk hm ih =>
    obtain ⟨c, ds, hds, hzero⟩ := ih
    refine ⟨c, ds ++ Nat.toDigits 10 k, ?_, ?_⟩
    · rw [← Nat.toDigits_append_toDigits (by decide) hm hk, hds, List.cons_append]
    · intro hc
      have := (hzero hc).1
      omega

/-- A natural number is read back. -/
private theorem scanWhole_toDigits (n : Nat) {rest : List Char} (hrest : EndsDigits rest) :
    scanWhole (Nat.toDigits 10 n ++ rest) = some (n, rest) := by
  have hspan := span_digits (isDigit_toDigits n) hrest
  obtain ⟨c, ds, hds, hzero⟩ := head_toDigits n
  have hdigit : c.isDigit = true := isDigit_toDigits n c (hds ▸ List.mem_cons_self)
  rw [hds, List.cons_append] at hspan ⊢
  rw [scanWhole]
  split
  · rename_i hc
    obtain ⟨hn, hnil⟩ := hzero hc
    rw [hn, hnil, List.nil_append]
  · rw [hspan.1, hspan.2, ← hds, Nat.ofDigitChars_ten_toDigits]

/-- The digits of a fraction are read back. -/
private theorem map_digitValue (ds : List (Fin 10)) :
    (ds.map fun d => Nat.digitChar d.val).map digitValue = ds := by
  have hall : ∀ d : Fin 10, digitValue (Nat.digitChar d) = d := by decide
  rw [List.map_map]
  conv_rhs => rw [← List.map_id ds]
  exact List.map_congr_left fun d _ => hall d

/-- A fraction is read back. -/
private theorem scanFraction_encode (ds : List (Fin 10)) {rest : List Char}
    (hrest : ∀ c, rest.head? = some c → c.isDigit = false ∧ c ≠ '.') :
    scanFraction (encodeFraction ds ++ rest) = (ds, rest) := by
  cases ds with
  | nil =>
    cases rest with
    | nil => rfl
    | cons c rest =>
      have hc := (hrest c rfl).2
      rw [encodeFraction, List.nil_append, scanFraction, if_neg (fun h => hc h.1)]
  | cons d ds =>
    have hdigits : ∀ c ∈ (d :: ds).map (fun d => Nat.digitChar d.val), c.isDigit = true := by
      intro c hc
      obtain ⟨e, -, rfl⟩ := List.mem_map.mp hc
      have hall : ∀ e : Fin 10, (Nat.digitChar e).isDigit = true := by decide
      exact hall e
    obtain ⟨htake, hdrop⟩ := span_digits hdigits fun c hc => (hrest c hc).1
    rw [encodeFraction, List.cons_append, scanFraction, htake, hdrop, if_pos, map_digitValue]
    exact ⟨rfl, by simp⟩

/-- The two-digit form of an exponent has the value of its digits. -/
private theorem exponent_digits (n : Nat) :
    (∀ c ∈ (if n < 10 then '0' :: Nat.toDigits 10 n else Nat.toDigits 10 n), c.isDigit = true) ∧
      Nat.ofDigitChars 10 (if n < 10 then '0' :: Nat.toDigits 10 n else Nat.toDigits 10 n) 0 = n := by
  split
  · constructor
    · intro c hc
      rcases List.mem_cons.mp hc with rfl | hc
      · decide
      · exact isDigit_toDigits n c hc
    · rw [Nat.ofDigitChars_cons]
      exact Nat.ofDigitChars_ten_toDigits
  · exact ⟨isDigit_toDigits n, Nat.ofDigitChars_ten_toDigits⟩

/-- An exponent is read back. -/
private theorem scanExponent_encode (e : Option Int) {rest : List Char} (hrest : EndsNumber rest) :
    scanExponent (encodeExponent e ++ rest) = (e, rest) := by
  cases e with
  | none =>
    cases rest with
    | nil => rfl
    -- What follows the number is no exponent.
    | cons c rest =>
      have hc := hrest c rfl
      rw [encodeExponent, List.nil_append, scanExponent, if_neg]
      intro h
      rcases h.1 with h | h
      · exact hc.2.2.1 h
      · exact hc.2.2.2 h
  | some e =>
    -- The digits and the sign are read back.
    obtain ⟨hdigits, hvalue⟩ := exponent_digits e.natAbs
    have hsign (ds : List Char) :
        scanSign ((if e < 0 then '-' else '+') :: ds) = (decide (e < 0), ds) := by
      by_cases he : e < 0
      · simp [scanSign, he]
      · simp [scanSign, he]
    have hne : (if e.natAbs < 10 then '0' :: Nat.toDigits 10 e.natAbs
        else Nat.toDigits 10 e.natAbs) ≠ [] := by
      split
      · exact List.cons_ne_nil _ _
      · exact Nat.toDigits_ne_nil
    have hsigned : signed (decide (e < 0)) e.natAbs = e := by
      by_cases he : e < 0
      · simp only [signed, he, decide_true, if_true]
        omega
      · simp only [signed, he, decide_false, Bool.false_eq_true, if_false]
        omega
    -- The digits end where the number does.
    obtain ⟨htake, hdrop⟩ := span_digits hdigits fun c hc => (hrest c hc).1
    rw [encodeExponent, List.cons_append, List.cons_append, scanExponent, hsign, htake, hdrop,
      if_pos ⟨.inl rfl, hne⟩, hvalue, hsigned]

/-- A digit starts no other kind of value. -/
private theorem scanValue_digit {c : Char} (hc : c.isDigit = true) (fuel : Nat) (cs : List Char) :
    scanValue (fuel + 1) (c :: cs) = scanUnsigned false (c :: cs) := by
  have hne (x : Char) (hx : x.isDigit = false) : c ≠ x := by
    intro h
    rw [h, hx] at hc
    cases hc
  simp (disch := decide) only [scanValue, scanNumber, hne, false_and, if_false]

/-- A minus sign and a digit start a number. -/
private theorem scanValue_minus {c : Char} (hc : c.isDigit = true) (fuel : Nat) (cs : List Char) :
    scanValue (fuel + 1) ('-' :: c :: cs) = scanUnsigned true (c :: cs) := by
  have hword : ¬"Infinity".toList <+: c :: cs := by
    intro h
    have hhead : 'I' = c := (List.cons_prefix_cons.mp h).1
    rw [← hhead] at hc
    exact absurd hc (by decide)
  simp only [scanValue, scanNumber, Char.reduceEq, hword, and_false, if_false, if_true]

/-- Digits with or without a sign start a number. -/
private theorem scanValue_sign (negative : Bool) (n : Nat) (fuel : Nat) (rest : List Char) :
    scanValue (fuel + 1) (encodeSign negative ++ (Nat.toDigits 10 n ++ rest)) =
      scanUnsigned negative (Nat.toDigits 10 n ++ rest) := by
  obtain ⟨c, ds, hds, -⟩ := head_toDigits n
  have hdigit : c.isDigit = true := isDigit_toDigits n c (hds ▸ List.mem_cons_self)
  rw [hds, List.cons_append]
  cases negative with
  | false => exact scanValue_digit hdigit fuel _
  | true => exact scanValue_minus hdigit fuel _

/-- An `int` is read back. -/
private theorem scanValue_encodeInt (i : Int) (fuel : Nat) {rest : List Char}
    (hrest : EndsNumber rest) :
    scanValue (fuel + 1) (encodeInt i ++ rest) = some (.int i, rest) := by
  have hfraction : scanFraction rest = ([], rest) :=
    scanFraction_encode [] fun c hc => ⟨(hrest c hc).1, (hrest c hc).2.1⟩
  have hexponent : scanExponent rest = (none, rest) := scanExponent_encode none hrest
  have hnumber (negative : Bool) (n : Nat) :
      numberOf negative n [] none = .int (signed negative n) := by simp [numberOf]
  have hsigned : signed (decide (i < 0)) i.natAbs = i := by
    by_cases hi : i < 0
    · simp only [signed, hi, decide_true, if_true]
      omega
    · simp only [signed, hi, decide_false, Bool.false_eq_true, if_false]
      omega
  rw [encodeInt, List.append_assoc, scanValue_sign, scanUnsigned,
    scanWhole_toDigits _ fun c hc => (hrest c hc).1]
  simp only [Option.map_some, hfraction, hexponent, hnumber, hsigned]

/-- The exponent starts with no digit and no point. -/
private theorem head_encodeExponent (e : Option Int) {rest : List Char} (hrest : EndsNumber rest) :
    ∀ c, (encodeExponent e ++ rest).head? = some c → c.isDigit = false ∧ c ≠ '.' := by
  intro c hc
  cases e with
  | none => exact ⟨(hrest c hc).1, (hrest c hc).2.1⟩
  | some e =>
    cases hc
    decide

/-- A float with digits is read back. -/
private theorem scanValue_encodeDecimal (d : Decimal) (fuel : Nat) {rest : List Char}
    (hrest : EndsNumber rest) :
    scanValue (fuel + 1) (encodeFloat (.decimal d) ++ rest) = some (.float (.decimal d), rest) := by
  obtain ⟨negative, whole, fraction, exponent, hfloat⟩ := d
  have hhead := head_encodeExponent exponent hrest
  have hdigits : EndsDigits (encodeFraction fraction ++ (encodeExponent exponent ++ rest)) := by
    intro c hc
    cases fraction with
    | nil => exact (hhead c hc).1
    | cons d ds =>
      cases hc
      decide
  rw [encodeFloat, List.append_assoc, List.append_assoc, List.append_assoc, scanValue_sign,
    scanUnsigned, scanWhole_toDigits _ hdigits]
  simp only [Option.map_some, scanFraction_encode fraction hhead,
    scanExponent_encode exponent hrest, numberOf, dif_pos hfloat]

/-- A float is read back. -/
private theorem scanValue_encodeFloat (f : JsonFloat) (fuel : Nat) {rest : List Char}
    (hrest : EndsNumber rest) :
    scanValue (fuel + 1) (encodeFloat f ++ rest) = some (.float f, rest) := by
  cases f with
  | decimal d => exact scanValue_encodeDecimal d fuel hrest
  | nan =>
    have hinit : ['a', 'N'] <+: 'a' :: 'N' :: rest := ⟨rest, rfl⟩
    simp [encodeFloat, scanValue, scanWord, hinit]
  | infinity negative =>
    cases negative with
    | false =>
      -- The minus sign alone decides which infinity it is.
      have hinit : "nfinity".toList <+: "nfinity".toList ++ rest := ⟨rest, rfl⟩
      have htext : encodeFloat (.infinity false) ++ rest = 'I' :: ("nfinity".toList ++ rest) := rfl
      rw [htext]
      simp only [scanValue, scanWord, hinit, List.drop_left]
      simp
    | true =>
      have hinit : "Infinity".toList <+: "Infinity".toList ++ rest := ⟨rest, rfl⟩
      have htext : encodeFloat (.infinity true) ++ rest = '-' :: ("Infinity".toList ++ rest) := rfl
      rw [htext]
      simp only [scanValue, scanWord, hinit, List.drop_left]
      simp

/-! ## What is written is read back: values -/

/-- The text of the value is read back, whatever follows it. -/
def ReadsBack (v : Json) : Prop :=
  ∀ fuel rest, 3 * (encode v).length ≤ fuel → EndsNumber rest →
    scanValue fuel (encode v ++ rest) = some (v, rest)

/-- A text starts with no whitespace and no closing bracket. -/
private theorem head_encode (v : Json) :
    ∃ c cs, encode v = c :: cs ∧ isWs c = false ∧ c ≠ ']' := by
  -- the two number cases: an optional sign and then a digit
  have hdigits (negative : Bool) (n : Nat) (rest : List Char) :
      ∃ c cs, encodeSign negative ++ (Nat.toDigits 10 n ++ rest) = c :: cs ∧ isWs c = false ∧
        c ≠ ']' := by
    cases negative with
    | true => exact ⟨'-', _, rfl, by decide, by decide⟩
    | false =>
      obtain ⟨c, ds, hds, -⟩ := head_toDigits n
      have hc : c.isDigit = true := isDigit_toDigits n c (hds ▸ List.mem_cons_self)
      refine ⟨c, ds ++ rest, by rw [hds]; rfl, ?_, ?_⟩
      · cases hws : isWs c with
        | false => rfl
        | true =>
          simp only [isWs, Bool.or_eq_true, decide_eq_true_eq] at hws
          rcases hws with ((rfl | rfl) | rfl) | rfl <;> exact absurd hc (by decide)
      · intro h
        rw [h] at hc
        exact absurd hc (by decide)
  match v with
  | null => exact ⟨_, _, rfl, by decide, by decide⟩
  | bool true => exact ⟨_, _, rfl, by decide, by decide⟩
  | bool false => exact ⟨_, _, rfl, by decide, by decide⟩
  | int i =>
    have h := hdigits (i < 0) i.natAbs []
    rwa [List.append_nil] at h
  | float (.decimal d) => exact hdigits d.negative d.whole _
  | float .nan => exact ⟨_, _, rfl, by decide, by decide⟩
  | float (.infinity true) => exact ⟨_, _, rfl, by decide, by decide⟩
  | float (.infinity false) => exact ⟨_, _, rfl, by decide, by decide⟩
  | str s => exact ⟨_, _, rfl, by decide, by decide⟩
  | arr items => exact ⟨_, _, rfl, by decide, by decide⟩
  | obj members => exact ⟨_, _, rfl, by decide, by decide⟩

/-- A text stands where whitespace ends. -/
private theorem skipWs_encode (v : Json) (rest : List Char) :
    skipWs (encode v ++ rest) = encode v ++ rest := by
  obtain ⟨c, cs, henc, hws, -⟩ := head_encode v
  rw [henc, List.cons_append, skipWs, List.dropWhile_cons, if_neg (by rw [hws]; decide)]

private theorem endsNumber_of_head {c : Char} {rest : List Char} (hc : c ∈ [',', ']', '\x7d']) :
    EndsNumber (c :: rest) := by
  intro c' hc'
  cases hc'
  simp only [List.mem_cons, List.not_mem_nil, or_false] at hc
  rcases hc with rfl | rfl | rfl <;> decide

/-- What follows an item ends a number. -/
private theorem endsNumber_encodeMoreItems (vs : List Json) (rest : List Char) :
    EndsNumber (encodeMoreItems vs ++ rest) := by
  cases vs with
  | nil => exact endsNumber_of_head (by decide)
  | cons v vs => exact endsNumber_of_head (by decide)

/-- What follows a member ends a number. -/
private theorem endsNumber_encodeMoreMembers (ms : List (String × Json)) (rest : List Char) :
    EndsNumber (encodeMoreMembers ms ++ rest) := by
  cases ms with
  | nil => exact endsNumber_of_head (by decide)
  | cons m ms => exact endsNumber_of_head (by decide)

/-- The last item, read back. -/
private theorem scanMoreItems_last {v : Json} (hv : ReadsBack v) {fuel : Nat} {rest : List Char}
    (hfuel : 3 * (encode v ++ encodeMoreItems []).length ≤ fuel) :
    scanMoreItems fuel (encode v ++ (encodeMoreItems [] ++ rest)) = some ([v], rest) := by
  rw [List.length_append] at hfuel
  obtain ⟨fuel, rfl⟩ : ∃ n, fuel = n + 1 := ⟨fuel - 1, by simp [encodeMoreItems] at hfuel; omega⟩
  have hscan := hv fuel (encodeMoreItems [] ++ rest) (by simp [encodeMoreItems] at hfuel; omega)
    (endsNumber_encodeMoreItems [] rest)
  have hws : skipWs (encodeMoreItems [] ++ rest) = ']' :: rest := by
    simp [encodeMoreItems, skipWs, isWs]
  simp [scanMoreItems, hscan, hws]

/-- An item before others, read back. -/
private theorem scanMoreItems_next {v w : Json} {ws : List Json} (hv : ReadsBack v) {fuel : Nat}
    {rest : List Char}
    (hfuel : 3 * (encode v ++ encodeMoreItems (w :: ws)).length ≤ fuel)
    (hmore : ∀ fuel, 3 * (encode w ++ encodeMoreItems ws).length ≤ fuel →
      scanMoreItems fuel (encode w ++ (encodeMoreItems ws ++ rest)) = some (w :: ws, rest)) :
    scanMoreItems fuel (encode v ++ (encodeMoreItems (w :: ws) ++ rest)) =
      some (v :: w :: ws, rest) := by
  rw [List.length_append] at hfuel
  simp only [encodeMoreItems, List.length_cons] at hfuel
  obtain ⟨fuel, rfl⟩ : ∃ n, fuel = n + 1 := ⟨fuel - 1, by omega⟩
  have hscan := hv fuel (encodeMoreItems (w :: ws) ++ rest) (by omega)
    (endsNumber_encodeMoreItems (w :: ws) rest)
  have hws : skipWs (encodeMoreItems (w :: ws) ++ rest) =
      ',' :: ' ' :: (encode w ++ (encodeMoreItems ws ++ rest)) := by
    simp [encodeMoreItems, skipWs, isWs]
  have hblank : skipWs (' ' :: (encode w ++ (encodeMoreItems ws ++ rest))) =
      encode w ++ (encodeMoreItems ws ++ rest) := by
    have hskip := skipWs_encode w (encodeMoreItems ws ++ rest)
    simpa [skipWs, isWs] using hskip
  have hrest := hmore fuel (by omega)
  simp [scanMoreItems, hscan, hws, hblank, hrest]

/-- A member's key and the text before its value, read back. -/
private theorem scanMoreMembers_key (k : String) {v : Json} (hv : ReadsBack v) {fuel : Nat}
    {rest : List Char} (hfuel : 3 * (encode v).length ≤ fuel) (hrest : EndsNumber rest) :
    scanMoreMembers (fuel + 1)
        (encodeString k.toList ++ (':' :: ' ' :: (encode v ++ rest))) =
      match skipWs rest with
      | [] => none
      | c :: cs =>
        if c = '\x7d' then some ([(k, v)], cs)
        else if c = ',' then
          (scanMoreMembers fuel (skipWs cs)).map fun p => ((k, v) :: p.1, p.2)
        else none := by
  have htext : encodeString k.toList ++ (':' :: ' ' :: (encode v ++ rest)) =
      '\x22' :: (k.toList.flatMap encodeChar ++ '\x22' :: ':' :: ' ' :: (encode v ++ rest)) := by
    simp [encodeString]
  have hkey := scanString_encode k (':' :: ' ' :: (encode v ++ rest))
  have hcolon : skipWs (':' :: ' ' :: (encode v ++ rest)) = ':' :: ' ' :: (encode v ++ rest) := by
    simp [skipWs, isWs]
  have hblank : skipWs (' ' :: (encode v ++ rest)) = encode v ++ rest := by
    have hskip := skipWs_encode v rest
    simpa [skipWs, isWs] using hskip
  rw [htext]
  simp only [scanMoreMembers, if_true, hkey, Option.bind_some, hcolon, hblank,
    hv fuel rest hfuel hrest]

/-- The last member, read back. -/
private theorem scanMoreMembers_last (k : String) {v : Json} (hv : ReadsBack v) {fuel : Nat}
    {rest : List Char} (hfuel : 3 * (encode v ++ encodeMoreMembers []).length ≤ fuel) :
    scanMoreMembers fuel
        (encodeString k.toList ++ (':' :: ' ' :: (encode v ++ (encodeMoreMembers [] ++ rest)))) =
      some ([(k, v)], rest) := by
  rw [List.length_append] at hfuel
  obtain ⟨fuel, rfl⟩ : ∃ n, fuel = n + 1 := ⟨fuel - 1, by simp [encodeMoreMembers] at hfuel; omega⟩
  rw [scanMoreMembers_key k hv (by simp [encodeMoreMembers] at hfuel; omega)
    (endsNumber_encodeMoreMembers [] rest)]
  have hws : skipWs (encodeMoreMembers [] ++ rest) = '\x7d' :: rest := by
    simp [encodeMoreMembers, skipWs, isWs]
  simp [hws]

/-- A member before others, read back. -/
private theorem scanMoreMembers_next (k l : String) {v w : Json} {ms : List (String × Json)}
    (hv : ReadsBack v) {fuel : Nat} {rest : List Char}
    (hfuel : 3 * (encode v ++ encodeMoreMembers ((l, w) :: ms)).length ≤ fuel)
    (hmore : ∀ fuel, 3 * (encode w ++ encodeMoreMembers ms).length ≤ fuel →
      scanMoreMembers fuel
          (encodeString l.toList ++ (':' :: ' ' :: (encode w ++ (encodeMoreMembers ms ++ rest)))) =
        some ((l, w) :: ms, rest)) :
    scanMoreMembers fuel (encodeString k.toList ++
        (':' :: ' ' :: (encode v ++ (encodeMoreMembers ((l, w) :: ms) ++ rest)))) =
      some ((k, v) :: (l, w) :: ms, rest) := by
  rw [List.length_append] at hfuel
  simp only [encodeMoreMembers, List.length_cons, List.length_append] at hfuel
  obtain ⟨fuel, rfl⟩ : ∃ n, fuel = n + 1 := ⟨fuel - 1, by omega⟩
  rw [scanMoreMembers_key k hv (by omega) (endsNumber_encodeMoreMembers ((l, w) :: ms) rest)]
  have hws : skipWs (encodeMoreMembers ((l, w) :: ms) ++ rest) = ',' :: ' ' ::
      (encodeString l.toList ++ (':' :: ' ' :: (encode w ++ (encodeMoreMembers ms ++ rest)))) := by
    simp [encodeMoreMembers, skipWs, isWs]
  have hblank : skipWs (' ' ::
      (encodeString l.toList ++ (':' :: ' ' :: (encode w ++ (encodeMoreMembers ms ++ rest))))) =
      encodeString l.toList ++ (':' :: ' ' :: (encode w ++ (encodeMoreMembers ms ++ rest))) := by
    simp [encodeString, skipWs, isWs]
  have hrest := hmore fuel (by rw [List.length_append]; omega)
  simp [hws, hblank, hrest]

mutual

/-- A well-formed value is read back from its text. -/
theorem readsBack : (v : Json) → v.WellFormed → ReadsBack v
  | null, _ => by
    intro fuel rest hfuel _
    obtain ⟨fuel, rfl⟩ : ∃ n, fuel = n + 1 := ⟨fuel - 1, by simp [encode] at hfuel; omega⟩
    have hinit : ['u', 'l', 'l'] <+: 'u' :: 'l' :: 'l' :: rest := ⟨rest, rfl⟩
    simp [encode, scanValue, scanWord, hinit]
  | bool true, _ => by
    intro fuel rest hfuel _
    obtain ⟨fuel, rfl⟩ : ∃ n, fuel = n + 1 := ⟨fuel - 1, by simp [encode] at hfuel; omega⟩
    have hinit : ['r', 'u', 'e'] <+: 'r' :: 'u' :: 'e' :: rest := ⟨rest, rfl⟩
    simp [encode, scanValue, scanWord, hinit]
  | bool false, _ => by
    intro fuel rest hfuel _
    obtain ⟨fuel, rfl⟩ : ∃ n, fuel = n + 1 := ⟨fuel - 1, by simp [encode] at hfuel; omega⟩
    have hinit : ['a', 'l', 's', 'e'] <+: 'a' :: 'l' :: 's' :: 'e' :: rest := ⟨rest, rfl⟩
    simp [encode, scanValue, scanWord, hinit]
  | int i, _ => by
    intro fuel rest hfuel hrest
    obtain ⟨c, cs, henc, -⟩ := head_encode (int i)
    obtain ⟨fuel, rfl⟩ : ∃ n, fuel = n + 1 := ⟨fuel - 1, by simp [henc] at hfuel; omega⟩
    exact scanValue_encodeInt i fuel hrest
  | float f, _ => by
    intro fuel rest hfuel hrest
    obtain ⟨c, cs, henc, -⟩ := head_encode (float f)
    obtain ⟨fuel, rfl⟩ : ∃ n, fuel = n + 1 := ⟨fuel - 1, by simp [henc] at hfuel; omega⟩
    exact scanValue_encodeFloat f fuel hrest
  | str s, _ => by
    intro fuel rest hfuel _
    obtain ⟨fuel, rfl⟩ : ∃ n, fuel = n + 1 :=
      ⟨fuel - 1, by simp [encode, encodeString] at hfuel; omega⟩
    have htext : encode (str s) ++ rest =
        '\x22' :: (s.toList.flatMap encodeChar ++ '\x22' :: rest) := by
      simp [encode, encodeString]
    rw [htext]
    simp only [scanValue, if_true, scanString_encode, Option.map_some]
  -- an empty list or dict is read without scanning an item
  | arr [], _ => by
    intro fuel rest hfuel _
    obtain ⟨fuel, rfl⟩ : ∃ n, fuel = n + 2 :=
      ⟨fuel - 2, by simp [encode, encodeItems] at hfuel; omega⟩
    simp [encode, encodeItems, scanValue, scanItems, skipWs, isWs]
  | arr (v :: vs), hwf => by
    intro fuel rest hfuel _
    have hitems : v.WellFormed ∧ ItemsWellFormed vs := by
      simpa only [WellFormed, ItemsWellFormed] using hwf
    simp only [encode, encodeItems, List.length_cons] at hfuel
    obtain ⟨fuel, rfl⟩ : ∃ n, fuel = n + 2 := ⟨fuel - 2, by omega⟩
    -- no item begins with a closing bracket
    obtain ⟨c, cs, henc, -, hbracket⟩ := head_encode v
    have hhead : (encode v ++ (encodeMoreItems vs ++ rest)).head? ≠ some ']' := by
      simpa [henc] using hbracket
    have hscan := readsBackItems vs hitems.2 v (readsBack v hitems.1) fuel rest (by omega)
    have htext : encode (arr (v :: vs)) ++ rest =
        '[' :: (encode v ++ (encodeMoreItems vs ++ rest)) := by
      simp [encode, encodeItems]
    rw [htext]
    simp only [scanValue, Char.reduceEq, if_false, if_true, skipWs_encode, scanItems, hhead, hscan,
      Option.map_some]
  | obj [], _ => by
    intro fuel rest hfuel _
    obtain ⟨fuel, rfl⟩ : ∃ n, fuel = n + 2 :=
      ⟨fuel - 2, by simp [encode, encodeMembers] at hfuel; omega⟩
    simp [encode, encodeMembers, scanValue, scanMembers, skipWs, isWs, dictOf]
  | obj ((k, v) :: ms), hwf => by
    intro fuel rest hfuel _
    have hmembers : (((k, v) :: ms).map Prod.fst).Nodup ∧ v.WellFormed ∧ MembersWellFormed ms := by
      simpa only [WellFormed, MembersWellFormed] using hwf
    simp only [encode, encodeMembers, List.length_cons, List.length_append] at hfuel
    obtain ⟨fuel, rfl⟩ : ∃ n, fuel = n + 2 := ⟨fuel - 2, by omega⟩
    have hscan := readsBackMembers ms hmembers.2.2 k v (readsBack v hmembers.2.1) fuel rest
      (by rw [List.length_append]; omega)
    have htext : encode (obj ((k, v) :: ms)) ++ rest = '\x7b' ::
        (encodeString k.toList ++ (':' :: ' ' :: (encode v ++ (encodeMoreMembers ms ++ rest)))) := by
      simp [encode, encodeMembers]
    have hskip : skipWs
        (encodeString k.toList ++ (':' :: ' ' :: (encode v ++ (encodeMoreMembers ms ++ rest)))) =
        encodeString k.toList ++ (':' :: ' ' :: (encode v ++ (encodeMoreMembers ms ++ rest))) := by
      simp [encodeString, skipWs, isWs]
    have hhead : (encodeString k.toList ++
        (':' :: ' ' :: (encode v ++ (encodeMoreMembers ms ++ rest)))).head? ≠ some '\x7d' := by
      simp [encodeString]
    rw [htext]
    simp only [scanValue, Char.reduceEq, if_false, if_true, hskip, scanMembers, hhead, hscan,
      Option.map_some, dictOf_of_nodup hmembers.1]
termination_by structural v => v

/-- Items are read back, after one that is. -/
theorem readsBackItems : (vs : List Json) → ItemsWellFormed vs → ∀ v, ReadsBack v →
    ∀ fuel rest, 3 * (encode v ++ encodeMoreItems vs).length ≤ fuel →
      scanMoreItems fuel (encode v ++ (encodeMoreItems vs ++ rest)) = some (v :: vs, rest)
  | [], _ => fun _ hv _ _ hfuel => scanMoreItems_last hv hfuel
  | w :: ws, hwf => by
    intro v hv fuel rest hfuel
    have hitems : w.WellFormed ∧ ItemsWellFormed ws := by simpa only [ItemsWellFormed] using hwf
    exact scanMoreItems_next hv hfuel fun fuel hmore =>
      readsBackItems ws hitems.2 w (readsBack w hitems.1) fuel rest hmore
termination_by structural vs => vs

/-- Members are read back, after one whose value is. -/
theorem readsBackMembers : (ms : List (String × Json)) → MembersWellFormed ms →
    ∀ k v, ReadsBack v → ∀ fuel rest, 3 * (encode v ++ encodeMoreMembers ms).length ≤ fuel →
      scanMoreMembers fuel
          (encodeString k.toList ++ (':' :: ' ' :: (encode v ++ (encodeMoreMembers ms ++ rest)))) =
        some ((k, v) :: ms, rest)
  | [], _ => fun k _ hv _ _ hfuel => scanMoreMembers_last k hv hfuel
  | (l, w) :: ms, hwf => by
    intro k v hv fuel rest hfuel
    have hmembers : w.WellFormed ∧ MembersWellFormed ms := by
      simpa only [MembersWellFormed] using hwf
    exact scanMoreMembers_next k l hv hfuel fun fuel hmore =>
      readsBackMembers ms hmembers.2 l w (readsBack w hmembers.1) fuel rest hmore
termination_by structural ms => ms

end

/-- `json.loads(json.dumps(v))` is `v`. -/
theorem loads_dumps {v : Json} (h : v.WellFormed) : loads (dumps v) = some v := by
  have hskip : skipWs (encode v) = encode v := by simpa using skipWs_encode v []
  have hscan := readsBack v h (3 * (encode v).length + 1) [] (Nat.le_succ _)
    fun c hc => by cases hc
  rw [List.append_nil] at hscan
  rw [loads, dumps, String.toList_ofList, hskip, hscan]
  rfl

/-! ## What is read is well formed -/

private theorem wellFormed_numberOf (negative : Bool) (whole : Nat) (fraction : List (Fin 10))
    (exponent : Option Int) : (numberOf negative whole fraction exponent).WellFormed := by
  unfold numberOf
  split <;> simp [WellFormed]

private theorem wellFormed_scanNumber {cs rest : List Char} {v : Json}
    (h : scanNumber cs = some (v, rest)) : v.WellFormed := by
  have hunsigned {negative : Bool} {cs : List Char}
      (h : scanUnsigned negative cs = some (v, rest)) : v.WellFormed := by
    rw [scanUnsigned, Option.map_eq_some_iff] at h
    obtain ⟨⟨whole, cs'⟩, -, h⟩ := h
    cases h
    exact wellFormed_numberOf _ _ _ _
  cases cs with
  | nil => cases h
  | cons c cs =>
    rw [scanNumber] at h
    split at h
    · exact hunsigned h
    · exact hunsigned h

private theorem scanWord_eq_some {word cs rest : List Char} {v w : Json}
    (h : scanWord word w cs = some (v, rest)) : v = w := by
  unfold scanWord at h
  split at h
  · cases h
    rfl
  · cases h

/-- What the scanners read with some fuel is well formed. -/
private theorem wellFormed_scan (fuel : Nat) :
    (∀ cs v rest, scanValue fuel cs = some (v, rest) → v.WellFormed) ∧
      (∀ cs vs rest, scanItems fuel cs = some (vs, rest) → ItemsWellFormed vs) ∧
      (∀ cs vs rest, scanMoreItems fuel cs = some (vs, rest) → ItemsWellFormed vs) ∧
      (∀ cs ms rest, scanMembers fuel cs = some (ms, rest) → ∀ m ∈ ms, m.2.WellFormed) ∧
      ∀ cs ms rest, scanMoreMembers fuel cs = some (ms, rest) → ∀ m ∈ ms, m.2.WellFormed := by
  -- All five scanners at once, by induction on the fuel they share.
  induction fuel with
  | zero =>
    refine ⟨?_, ?_, ?_, ?_, ?_⟩ <;> intro cs v rest h <;> cases h
  | succ fuel ih =>
    obtain ⟨hvalue, hitems, hmoreItems, hmembers, hmoreMembers⟩ := ih
    refine ⟨?value, ?items, ?moreItems, ?members, ?moreMembers⟩
    case value =>
      intro cs v rest h
      cases cs with
      | nil => cases h
      | cons c cs =>
        rw [scanValue] at h
        split at h
        · obtain ⟨p, -, hp⟩ := Option.map_eq_some_iff.mp h
          cases hp
          simp [WellFormed]
        split at h
        · obtain ⟨p, hscan, hp⟩ := Option.map_eq_some_iff.mp h
          cases hp
          -- whatever order and repetition the keys come in, a dict keeps each once
          exact wellFormed_dictOf (hmembers _ _ _ hscan)
        split at h
        · obtain ⟨p, hscan, hp⟩ := Option.map_eq_some_iff.mp h
          cases hp
          exact wellFormed_arr.mpr (hitems _ _ _ hscan)
        -- the words are constants
        repeat
          split at h
          · rw [scanWord_eq_some h]
            simp [WellFormed]
        exact wellFormed_scanNumber h
    case items =>
      intro cs vs rest h
      rw [scanItems] at h
      split at h
      · cases h
        simp [ItemsWellFormed]
      · exact hmoreItems _ _ _ h
    case moreItems =>
      intro cs vs rest h
      rw [scanMoreItems, Option.bind_eq_some_iff] at h
      obtain ⟨⟨v, cs'⟩, hscan, h⟩ := h
      dsimp only at h
      split at h
      · cases h
      split at h
      · cases h
        simp only [ItemsWellFormed, and_true]
        exact hvalue _ _ _ hscan
      split at h
      · obtain ⟨p, hmore, hp⟩ := Option.map_eq_some_iff.mp h
        cases hp
        rw [ItemsWellFormed]
        exact ⟨hvalue _ _ _ hscan, hmoreItems _ _ _ hmore⟩
      · cases h
    case members =>
      intro cs ms rest h
      rw [scanMembers] at h
      split at h
      · cases h
        intro m hm
        cases hm
      · exact hmoreMembers _ _ _ h
    case moreMembers =>
      intro cs ms rest h
      cases cs with
      | nil => cases h
      | cons q cs =>
        rw [scanMoreMembers] at h
        split at h
        case isFalse => cases h
        obtain ⟨⟨k, cs₁⟩, -, h⟩ := Option.bind_eq_some_iff.mp h
        dsimp only at h
        split at h
        · cases h
        split at h
        case isFalse => cases h
        obtain ⟨⟨v, cs₂⟩, hscan, h⟩ := Option.bind_eq_some_iff.mp h
        dsimp only at h
        split at h
        · cases h
        split at h
        · cases h
          intro m hm
          rw [List.mem_singleton.mp hm]
          exact hvalue _ _ _ hscan
        split at h
        · obtain ⟨p, hmore, hp⟩ := Option.map_eq_some_iff.mp h
          cases hp
          intro m hm
          rcases List.mem_cons.mp hm with rfl | hm
          · exact hvalue _ _ _ hscan
          · exact hmoreMembers _ _ _ hmore m hm
        · cases h

/-- What `json.loads` accepts is well formed. -/
theorem wellFormed_of_loads {text : String} {v : Json} (h : loads text = some v) :
    v.WellFormed := by
  rw [loads, Option.bind_eq_some_iff] at h
  obtain ⟨⟨v', rest⟩, hscan, h⟩ := h
  dsimp only at h
  split at h
  · cases h
    exact (wellFormed_scan _).1 _ _ _ hscan
  · cases h

end Json
