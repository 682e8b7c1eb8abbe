import AgnoRuntime.ForStd.Civil
import AgnoRuntime.ForStd.Json
import Mathlib.Algebra.Order.Floor.Semiring
import Mathlib.Data.Int.Log
import Mathlib.Data.Rat.Floor

/-!
# Python values and their comparison

The values an expression of Python has when its names stand for JSON values and
dates, their truth values, and the six comparison operators on them.

A float is the double nearest to what its literal says. Numbers are compared by
their values, whatever their types; `NaN` is equal to nothing, but a list or a dict
compares its items by identity first, and the `NaN`s of the `json` module are one
object.
-/

/-! ## Numbers -/

/-- A number: an int, or a double. -/
inductive PyNumber where
  | finite (q : ℚ)
  | infinity (negative : Bool)
  | nan
deriving DecidableEq

namespace PyNumber

/-- How two numbers compare, unless one of them is not a number. -/
def compare? : PyNumber → PyNumber → Option Ordering
  | .nan, _ | _, .nan => none
  | .finite p, .finite q => some (if p < q then .lt else if p = q then .eq else .gt)
  | .finite _, .infinity negative => some (if negative then .gt else .lt)
  | .infinity negative, .finite _ => some (if negative then .lt else .gt)
  | .infinity negative, .infinity negative' =>
    some (if negative = negative' then .eq else if negative then .lt else .gt)

/-- The nearest integer, the even one of two. -/
def roundHalfEven (q : ℚ) : ℤ :=
  let below := ⌊q⌋
  if q - below < 1 / 2 then below
  else if 1 / 2 < q - below then below + 1
  else if below % 2 = 0 then below
  else below + 1

/-- The nearest double: 53 binary digits, the last one no smaller than 2 ^ -1074. -/
def ofRat (q : ℚ) : PyNumber :=
  let exponent := max (Int.log 2 |q| - 52) (-1074)
  let nearest := roundHalfEven (q / 2 ^ exponent) * (2 : ℚ) ^ exponent
  if 2 ^ 1024 ≤ |nearest| then .infinity (q < 0) else .finite nearest

end PyNumber

/-- The value of a literal: its digits, the place of the point, and the exponent. -/
def Decimal.toRat (d : Decimal) : ℚ :=
  let digits := d.fraction.foldl (fun n digit => 10 * n + digit.val) d.whole
  let magnitude := (digits : ℚ) / 10 ^ d.fraction.length * 10 ^ d.exponent.getD 0
  if d.negative then -magnitude else magnitude

/-- The double a float literal stands for. -/
def JsonFloat.number : JsonFloat → PyNumber
  | .decimal d => .ofRat d.toRat
  | .nan => .nan
  | .infinity negative => .infinity negative

example : (JsonFloat.decimal ⟨false, 0, [1], none, .inl (by simp)⟩).number =
    (JsonFloat.decimal ⟨false, 0, [0, 1, 0], some 1, .inl (by simp)⟩).number := by
  decide +kernel

/-! ## Operators -/

/-- The comparison operators. -/
inductive CompareOp where
  | gt | gtE | lt | ltE | eq | notEq
deriving DecidableEq

namespace CompareOp

/-- The operator as it is written. -/
def symbol : CompareOp → String
  | .gt => ">"
  | .gtE => ">="
  | .lt => "<"
  | .ltE => "<="
  | .eq => "=="
  | .notEq => "!="

/-- The operator holds between values that compare so. -/
def holds : CompareOp → Ordering → Bool
  | .gt, o => o = .gt
  | .gtE, o => o ≠ .lt
  | .lt, o => o = .lt
  | .ltE, o => o ≠ .gt
  | .eq, o => o = .eq
  | .notEq, o => o ≠ .eq

/-- The operator between values that have no order: they may be compared for equality only. -/
def unordered (op : CompareOp) (equal : Bool) (leftType rightType : String) :
    Except String Bool :=
  match op with
  | .eq => .ok equal
  | .notEq => .ok !equal
  | .gt | .gtE | .lt | .ltE => .error ("'" ++ op.symbol ++ "' not supported between instances of '" ++
      leftType ++ "' and '" ++ rightType ++ "'")

end CompareOp

/-! ## JSON values -/

namespace Json

/-- The name of the type. -/
def typeName : Json → String
  | null => "NoneType"
  | bool _ => "bool"
  | int _ => "int"
  | float _ => "float"
  | str _ => "str"
  | arr _ => "list"
  | obj _ => "dict"

/-- The number that a value is; truth values are numbers. -/
def number? : Json → Option PyNumber
  | bool b => some (.finite (if b then 1 else 0))
  | int i => some (.finite i)
  | float f => some f.number
  | null | str _ | arr _ | obj _ => none

/-- Two values without items are one object, or equal. -/
def sameScalar (v w : Json) : Bool :=
  match v.number?, w.number? with
  | some x, some y => x.compare? y = some .eq || (x = .nan && y = .nan)
  | _, _ => v = w

mutual

/-- Two items of a list or a dict are one object, or equal. -/
def same : Json → Json → Bool
  | arr items, arr items' => sameItems items items'
  | obj members, obj members' => members.length = members'.length && sameMembers members members'
  | v, w => sameScalar v w
termination_by structural v => v

/-- The items of two lists are the same. -/
def sameItems : List Json → List Json → Bool
  | [], [] => true
  | v :: vs, w :: ws => same v w && sameItems vs ws
  | [], _ :: _ | _ :: _, [] => false
termination_by structural vs => vs

/-- The members of a dict are in the other one too. -/
def sameMembers : List (String × Json) → List (String × Json) → Bool
  | [], _ => true
  | (key, v) :: ms, ns =>
    (match get? ns key with
      | some w => same v w
      | none => false) && sameMembers ms ns
termination_by structural ms => ms

end

/-- The operator between two values that are not both lists. -/
def compareScalars (op : CompareOp) (v w : Json) : Except String Bool :=
  match v.number?, w.number? with
  | some x, some y =>
    match x.compare? y with
    | some o => .ok (op.holds o)
    | none => .ok (op = .notEq)
  | _, _ =>
    match v, w with
    | str s, str t => .ok (op.holds (compare s t))
    | _, _ => op.unordered (same v w) v.typeName w.typeName

mutual

/-- The operator between two values: lists are compared at the first item in which they differ. -/
def compareBy (op : CompareOp) : Json → Json → Except String Bool
  | arr items, arr items' => compareItems op items items'
  | v, w => compareScalars op v w
termination_by structural v => v

/-- The operator between the items of two lists. -/
def compareItems (op : CompareOp) : List Json → List Json → Except String Bool
  | [], [] => .ok (op.holds .eq)
  | [], _ :: _ => .ok (op.holds .lt)
  | _ :: _, [] => .ok (op.holds .gt)
  | v :: vs, w :: ws => if same v w then compareItems op vs ws else compareBy op v w
termination_by structural vs => vs

end

end Json

/-! ## Values -/

/-- A value: what JSON has, a date, or what else a literal may be. -/
inductive PyValue where
  | json (v : Json)
  | date (d : Civil.Date)
  | bytes (bs : List Nat)
  | imaginary (x : PyNumber)
  | ellipsis
deriving DecidableEq

namespace PyValue

/-- `True` and `False`. -/
def bool (b : Bool) : PyValue := .json (.bool b)

/-- The name of the type. -/
def typeName : PyValue → String
  | json v => v.typeName
  | date _ => "datetime.date"
  | bytes _ => "bytes"
  | imaginary _ => "complex"
  | ellipsis => "ellipsis"

/-- `bool(v)`. -/
def truth : PyValue → Bool
  | json .null => false
  | json (.bool b) => b
  | json (.int i) => i ≠ 0
  | json (.float f) => f.number ≠ .finite 0
  | json (.str s) => s ≠ ""
  | json (.arr items) => !items.isEmpty
  | json (.obj members) => !members.isEmpty
  | date _ => true
  | bytes bs => !bs.isEmpty
  | imaginary x => x ≠ .finite 0
  | ellipsis => true

@[simp] theorem truth_bool (b : Bool) : (bool b).truth = b := rfl

/-- Values of different kinds, or without an order, are equal. -/
def equal : PyValue → PyValue → Bool
  | imaginary x, imaginary y => x.compare? y = some .eq
  | imaginary x, json v | json v, imaginary x =>
    x = .finite 0 && v.number? = some (.finite 0)
  | ellipsis, ellipsis => true
  | _, _ => false

/-- The operator between two values. -/
def compareBy (op : CompareOp) : PyValue → PyValue → Except String Bool
  | json v, json w => v.compareBy op w
  | date d, date d' => .ok (op.holds (compare d.toOrdinal d'.toOrdinal))
  | bytes bs, bytes bs' => .ok (op.holds (compare bs bs'))
  | v, w => op.unordered (equal v w) v.typeName w.typeName

/-- A date is equal to no text. -/
theorem compareBy_eq_date_str (d : Civil.Date) (s : String) :
    compareBy .eq (.date d) (.json (.str s)) = .ok false := rfl

end PyValue
