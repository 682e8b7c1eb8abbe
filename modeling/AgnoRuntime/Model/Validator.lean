import AgnoRuntime.ForStd.PyValue
import AgnoRuntime.Model.Knowledge
import AgnoRuntime.Model.Registries

/-!
# The validator of business objects

`app/businessobjects/validator.py`: the rules of a business object are expressions of
Python, parsed by the `ast` module and evaluated by the platform, over the fields of a
record.

What `ast.parse` and `datetime.fromisoformat` make of a text is given from outside.
-/

namespace AgnoRuntime

open Civil

/-! ## Rules -/

/-- The value of an `ast.Constant`. -/
inductive PyLiteral where
  | none
  | bool (b : Bool)
  | int (i : Int)
  | float (d : Decimal)
  | str (s : String)
  | bytes (bs : List Nat)
  | imaginary (x : PyNumber)
  | ellipsis

/-- A constant as a value. -/
def PyLiteral.value : PyLiteral → PyValue
  | none => .json .null
  | bool b => .json (.bool b)
  | int i => .json (.int i)
  | float d => .json (.float (.decimal d))
  | str s => .json (.str s)
  | bytes bs => .bytes bs
  | imaginary x => .imaginary x
  | ellipsis => .ellipsis

/-- The operators of an `ast.Compare`: those of `_ALLOWED_COMPARISONS`, or one with another
    type. -/
inductive PyComparison where
  | allowed (op : CompareOp)
  | other (typeName : String)

/-- The operators of an `ast.BoolOp`. -/
inductive PyBoolOp where
  | and | or
deriving DecidableEq

/-- The body of an `ast.Expression`. The comparators of a comparison stand with their operators. -/
inductive PyExpr where
  | constant (value : PyLiteral)
  | name (id : String)
  | compare (left : PyExpr) (comparisons : List (PyComparison × PyExpr))
  | boolOp (op : PyBoolOp) (values : List PyExpr)
  | not (operand : PyExpr)
  /-- A node of any other type. -/
  | other (typeName : String)

/-- What holds of an expression when it holds of its operands. -/
theorem PyExpr.induct {motive : PyExpr → Prop} (constant : ∀ value, motive (.constant value))
    (name : ∀ id, motive (.name id))
    (compare : ∀ left comparisons, motive left → (∀ c ∈ comparisons, motive c.2) →
      motive (.compare left comparisons))
    (boolOp : ∀ op values, (∀ value ∈ values, motive value) → motive (.boolOp op values))
    (not : ∀ operand, motive operand → motive (.not operand))
    (other : ∀ typeName, motive (.other typeName)) (e : PyExpr) : motive e := by
  refine @PyExpr.rec motive (fun comparisons => ∀ c ∈ comparisons, motive c.2)
    (fun values => ∀ value ∈ values, motive value) (fun c => motive c.2)
    constant name compare boolOp not other ?_ ?_ ?_ ?_ ?_ e
  · simp
  · intro c comparisons hc hcomparisons
    exact List.forall_mem_cons.mpr ⟨hc, hcomparisons⟩
  · simp
  · intro value values hvalue hvalues
    exact List.forall_mem_cons.mpr ⟨hvalue, hvalues⟩
  · exact fun _ _ h => h

/-- Why `ast.parse` does not return a tree. -/
inductive ParseFailure where
  | syntaxError (text : String)
  | other (exc : PyError)

/-- The standard library, as the validator uses it. -/
structure PythonLibrary where
  /-- `ast.parse(rule, mode='eval').body`. -/
  parse : String → Except ParseFailure PyExpr
  /-- `datetime.fromisoformat(value).date()`, unless it raises `ValueError`. -/
  fromisoformat : String → Option Date
  text : PythonText

/-- The exceptions of the validator: `RuleEvaluationError`, or any other. -/
inductive RuleError where
  | ruleEvaluation (message : String)
  | other (exc : PyError)
deriving DecidableEq

namespace Validator

variable (lib : PythonLibrary)

/-! ## Evaluation -/

/-- `_coerce`. -/
def coerce : Json → PyValue
  | .str s =>
    match lib.fromisoformat s with
    | some d => .date d
    | none => .json (.str s)
  | v => .json v

/-- `TypeError`. -/
def typeError (message : String) : RuleError := .other (.other message)

/-- `record[id]` if `id in record`. What is no dict is asked too: a list for an item, a text for a
    part of it. -/
def lookup (record : Json) (id : String) : Except RuleError PyValue :=
  let unknownField : Except RuleError PyValue :=
    .error (.ruleEvaluation ("Unknown field referenced in rule: '" ++ id ++ "'"))
  match record with
  | .obj members =>
    match Json.get? members id with
    | some v => .ok (coerce lib v)
    | none => unknownField
  | .arr items =>
    if .str id ∈ items then
      .error (typeError "list indices must be integers or slices, not str")
    else unknownField
  | .str s =>
    if id.toList <:+: s.toList then
      .error (typeError "string indices must be integers, not 'str'")
    else unknownField
  | v => .error (typeError ("argument of type '" ++ v.typeName ++ "' is not iterable"))

/-- An operator of `_ALLOWED_COMPARISONS`. -/
def applyOperator (op : CompareOp) (left right : PyValue) : Except RuleError Bool :=
  (left.compareBy op right).mapError typeError

/-- An operator of `_ALLOWED_BOOLOPS`: `all` or `any`. -/
def applyBoolOp : PyBoolOp → List PyValue → Bool
  | .and, values => values.all PyValue.truth
  | .or, values => values.any PyValue.truth

mutual

/-- `_eval_node`. -/
def evalNode (record : Json) : PyExpr → Except RuleError PyValue
  | .constant value => .ok value.value
  | .name id => lookup lib record id
  | .compare left comparisons => do
    let left ← evalNode record left
    let result ← evalComparisons record left true comparisons
    return .bool result
  | .boolOp op values => do
    let values ← evalValues record values
    return .bool (applyBoolOp op values)
  | .not operand => do
    let v ← evalNode record operand
    return .bool !v.truth
  | .other typeName => .error (.ruleEvaluation ("Unsupported expression node: " ++ typeName))
termination_by structural e => e

/-- The loop over the comparisons: every comparator is evaluated, and compared as long as the
    comparisons before it hold. -/
def evalComparisons (record : Json) (left : PyValue) (result : Bool) :
    List (PyComparison × PyExpr) → Except RuleError Bool
  | [] => .ok result
  | (.other typeName, _) :: _ =>
    .error (.ruleEvaluation ("Unsupported comparison operator: " ++ typeName))
  | (.allowed op, comparator) :: comparisons => do
    let right ← evalNode record comparator
    -- `result and op(left, right)`
    let result ← if result then applyOperator op left right else pure false
    evalComparisons record right result comparisons
termination_by structural comparisons => comparisons

/-- The values of the operands, all of them. -/
def evalValues (record : Json) : List PyExpr → Except RuleError (List PyValue)
  | [] => .ok []
  | value :: values => do
    let v ← evalNode record value
    let vs ← evalValues record values
    return v :: vs
termination_by structural values => values

end

/-- `bool(_eval_node(tree, record))`. -/
def evaluateTree (tree : PyExpr) (record : Json) : Except RuleError Bool :=
  PyValue.truth <$> evalNode lib record tree

/-- `evaluate_rule`. -/
def evaluateRule (rule : String) (record : Json) : Except RuleError Bool :=
  match lib.parse rule with
  | .ok tree => evaluateTree lib tree record
  | .error (.syntaxError text) =>
    .error (.ruleEvaluation ("Could not parse rule '" ++ rule ++ "': " ++ text))
  | .error (.other exc) => .error (.other exc)

/-- `evaluate_rule` on what a rule may be instead of a text: `ast.parse` refuses it. -/
def evaluateRuleValue (rule : Json) (record : Json) : Except RuleError Bool :=
  match rule with
  | .str rule => evaluateRule lib rule record
  | _ => .error (typeError "compile() arg 1 must be a string, bytes or AST object")

/-! ## Records -/

/-- A value in an f-string. -/
def formatted : Json → String
  | .str s => s
  | v => lib.text.str v

/-- The check of a required field. -/
def checkField (record : Json) (field : BusinessObjectFieldSpec) : Except PyError (List Json) :=
  if field.required then
    match record with
    | .obj members =>
      let v := (Json.get? members field.name).getD .null
      if v = .null ∨ v = .str "" then
        .ok [.str ("Field '" ++ field.name ++ "' is required but missing.")]
      else .ok []
    | v => .error (.other ("'" ++ v.typeName ++ "' object has no attribute 'get'"))
  else .ok []

/-- The check of a rule: only `RuleEvaluationError` becomes a message. -/
def checkRule (record : Json) (ruleDef : Json.Dict) : Except PyError (List Json) :=
  let rule := (ruleDef.get? "rule").getD .null
  let message := (ruleDef.get? "message").getD (.str ("Validation failed: " ++ formatted lib rule))
  if (PyValue.json rule).truth then
    match evaluateRuleValue lib rule record with
    | .ok true => .ok []
    | .ok false => .ok [message]
    | .error (.ruleEvaluation text) =>
      .ok [.str ("Could not evaluate rule '" ++ formatted lib rule ++ "': " ++ text)]
    -- no `except` for it
    | .error (.other exc) => .error exc
  else .ok []

/-- `validate_record`: the messages, in order. A message is what the rule has for one. -/
def validateRecord (payload : BusinessObjectPayload) (record : Json) :
    Except PyError (List Json) := do
  let missing ← payload.fields.mapM (checkField record)
  let failed ← payload.validation.mapM (checkRule lib record)
  return missing.flatten ++ failed.flatten

end Validator

end AgnoRuntime
