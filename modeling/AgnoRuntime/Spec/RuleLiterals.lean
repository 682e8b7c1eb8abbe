import AgnoRuntime.Spec.RuleMeaning

/-!
# Fields and literals in a rule

A field with a text may be written in a rule by its name, or its text may be written there
as a literal. The evaluator coerces what it finds under a name and takes a literal as it
is: a date in the record is a date, the same date in the rule is a text.

## Key results

- `evalNode_replaced`: a text that is no date may be written either way
- `evaluateRule_replaced_iff`: for a date that is not so
-/

namespace AgnoRuntime

open Validator

/-! ## Replacement -/

/-- Some occurrences of the name are replaced by the text. -/
inductive ReplacesName (f s : String) : PyExpr → PyExpr → Prop where
  | same (e : PyExpr) : ReplacesName f s e e
  | name : ReplacesName f s (.name f) (.constant (.str s))
  | compare {left left' : PyExpr} {comparisons comparisons' : List (PyComparison × PyExpr)}
      (hleft : ReplacesName f s left left')
      (hops : comparisons.map Prod.fst = comparisons'.map Prod.fst)
      (hcomparators : List.Forall₂ (ReplacesName f s) (comparisons.map Prod.snd)
        (comparisons'.map Prod.snd)) :
      ReplacesName f s (.compare left comparisons) (.compare left' comparisons')
  | boolOp {op : PyBoolOp} {values values' : List PyExpr}
      (hvalues : List.Forall₂ (ReplacesName f s) values values') :
      ReplacesName f s (.boolOp op values) (.boolOp op values')
  | not {operand operand' : PyExpr} (hoperand : ReplacesName f s operand operand') :
      ReplacesName f s (.not operand) (.not operand')

/-- The same boolean, or an error in both cases. -/
def SameOutcome (x y : Except RuleError Bool) : Prop := x.toOption = y.toOption

variable {lib : PythonLibrary} {members : List (String × Json)} {f s : String}

/-! ## Texts that are no dates -/

/-- The name of a field that has the text. -/
theorem evalNode_name (hfield : Json.get? members f = some (.str s)) :
    evalNode lib (.obj members) (.name f) = .ok (coerce lib (.str s)) := by
  simp only [evalNode, lookup, hfield]

/-- Comparisons do not change with comparators that do not. -/
theorem evalComparisons_congr {record : Json} {left : PyValue} {result : Bool}
    {comparisons comparisons' : List (PyComparison × PyExpr)}
    (hops : comparisons.map Prod.fst = comparisons'.map Prod.fst)
    (hcomparators : List.Forall₂ (fun c c' =>
      evalNode lib record c.2 = evalNode lib record c'.2) comparisons comparisons') :
    evalComparisons lib record left result comparisons =
      evalComparisons lib record left result comparisons' := by
  induction hcomparators generalizing left result with
  | nil => rfl
  | @cons c c' comparisons comparisons' hcomparator _ ih =>
    obtain ⟨op, comparator⟩ := c
    obtain ⟨op', comparator'⟩ := c'
    obtain ⟨hop, hrest⟩ := List.cons.inj hops
    cases hop
    cases op with
    | other typeName => rfl
    | allowed op =>
      simp only at hcomparator
      simp only [evalComparisons, hcomparator, ih hrest]

/-- Operands have the values of others that evaluate to the same. -/
theorem evalValues_congr {record : Json} {values values' : List PyExpr}
    (h : List.Forall₂ (fun value value' => evalNode lib record value = evalNode lib record value')
      values values') :
    evalValues lib record values = evalValues lib record values' := by
  induction h with
  | nil => rfl
  | cons hvalue _ ih => rw [evalValues, evalValues, hvalue, ih]

/-- A text that is no date may be written in a rule, or under the name of its field. -/
theorem evalNode_replaced (hfield : Json.get? members f = some (.str s))
    (htext : lib.fromisoformat s = none) (e : PyExpr) {e' : PyExpr} (h : ReplacesName f s e e') :
    evalNode lib (.obj members) e = evalNode lib (.obj members) e' := by
  induction e using PyExpr.induct generalizing e' with
  | constant value =>
    cases h with
    | same => rfl
  | name id =>
    cases h with
    | same => rfl
    | name =>
      -- the only case that differs: the name reads the text of the field, and `_coerce`
      -- leaves a text that is not a date as it is
      rw [evalNode_name hfield]
      simp [coerce, htext, evalNode, PyLiteral.value]
  | compare left comparisons ihleft ih =>
    cases h with
    | same => rfl
    | compare hleft hops hcomparators =>
      rw [List.forall₂_map_left_iff, List.forall₂_map_right_iff] at hcomparators
      have hcongr := ((List.forall₂_and_left _ _).mpr ⟨ih, hcomparators⟩).imp
        fun c c' hc => hc.1 hc.2
      simp only [evalNode, ihleft hleft, evalComparisons_congr hops hcongr]
  | boolOp op values ih =>
    cases h with
    | same => rfl
    | boolOp hvalues =>
      have hcongr := ((List.forall₂_and_left _ _).mpr ⟨ih, hvalues⟩).imp
        fun value value' hvalue => hvalue.1 hvalue.2
      simp only [evalNode, evalValues_congr hcongr]
  | not operand ih =>
    cases h with
    | same => rfl
    | not hoperand => simp only [evalNode, ih hoperand]
  | other typeName =>
    cases h with
    | same => rfl

/-- A rule keeps its outcome when a text that is no date is written in it for a name. -/
theorem evaluateTree_replaced (hfield : Json.get? members f = some (.str s))
    (htext : lib.fromisoformat s = none) {e e' : PyExpr} (h : ReplacesName f s e e') :
    SameOutcome (evaluateTree lib e (.obj members)) (evaluateTree lib e' (.obj members)) := by
  unfold SameOutcome evaluateTree
  rw [evalNode_replaced hfield htext e h]

/-! ## Dates -/

/-- The rule that the field is equal to what an expression says. -/
def fieldEquals (f : String) (e : PyExpr) : PyExpr := .compare (.name f) [(.allowed .eq, e)]

/-- A rule with one comparison has its outcome. -/
theorem evaluateTree_fieldEquals {e : PyExpr} {v : PyValue}
    (hfield : Json.get? members f = some (.str s))
    (he : evalNode lib (.obj members) e = .ok v) :
    evaluateTree lib (fieldEquals f e) (.obj members) =
      applyOperator .eq (coerce lib (.str s)) v := by
  simp only [evaluateTree, fieldEquals, evalNode, evalComparisons, he, lookup, hfield, if_true]
  show PyValue.truth <$> ((applyOperator .eq (coerce lib (.str s)) v >>= Except.ok) >>=
    fun result => Except.ok (PyValue.bool result)) = _
  cases applyOperator .eq (coerce lib (.str s)) v <;> rfl

/-- A date is equal to itself under its name, and not to its text in the rule. -/
theorem fieldEquals_date {d : Civil.Date} (hfield : Json.get? members f = some (.str s))
    (hdate : lib.fromisoformat s = some d) :
    evaluateTree lib (fieldEquals f (.name f)) (.obj members) = .ok true ∧
      evaluateTree lib (fieldEquals f (.constant (.str s))) (.obj members) = .ok false := by
  have hcoerce : coerce lib (.str s) = .date d := by simp [coerce, hdate]
  constructor
  · rw [evaluateTree_fieldEquals hfield (evalNode_name hfield), hcoerce]
    simp [applyOperator, PyValue.compareBy, CompareOp.holds, Except.mapError]
  · have hliteral : evalNode lib (.obj members) (.constant (.str s)) = .ok (.json (.str s)) := by
      rw [evalNode, PyLiteral.value]
    rw [evaluateTree_fieldEquals hfield hliteral, hcoerce, applyOperator,
      PyValue.compareBy_eq_date_str]
    rfl

/-- The occurrence on the right may be replaced alone. -/
theorem fieldEquals_replaced :
    ReplacesName f s (fieldEquals f (.name f)) (fieldEquals f (.constant (.str s))) :=
  .compare (.same _) rfl (.cons .name .nil)

/-! ## Rules -/

/-- Where the field can be named in a rule, its text may be written for its name in every rule
    exactly when it is no date. -/
theorem evaluateRule_replaced_iff {named literal : String}
    (hfield : Json.get? members f = some (.str s))
    (hnamed : lib.parse named = .ok (fieldEquals f (.name f)))
    (hliteral : lib.parse literal = .ok (fieldEquals f (.constant (.str s)))) :
    (∀ rule rule' e e', lib.parse rule = .ok e → lib.parse rule' = .ok e' →
      ReplacesName f s e e' →
        SameOutcome (evaluateRule lib rule (.obj members))
          (evaluateRule lib rule' (.obj members))) ↔
      lib.fromisoformat s = none := by
  constructor
  · intro h
    cases hdate : lib.fromisoformat s with
    | none => rfl
    | some d =>
      have hsame := h named literal _ _ hnamed hliteral fieldEquals_replaced
      obtain ⟨htrue, hfalse⟩ := fieldEquals_date hfield hdate
      rw [evaluateRule_of_parse hnamed, evaluateRule_of_parse hliteral, SameOutcome, htrue,
        hfalse] at hsame
      cases hsame
  · intro htext rule rule' e e' he he' hreplaces
    rw [evaluateRule_of_parse he, evaluateRule_of_parse he']
    exact evaluateTree_replaced hfield htext hreplaces

/-- The standard library on rules about a state. -/
def pythonOnStatus : PythonLibrary :=
  pythonOn [("status == status", fieldEquals "status" (.name "status")),
    ("status == 'draft'", fieldEquals "status" (.constant (.str "draft")))]

/-- The text of a state may be written in every rule. -/
theorem evaluateRule_replaced_draft :
    (∀ rule rule' e e', pythonOnStatus.parse rule = .ok e → pythonOnStatus.parse rule' = .ok e' →
      ReplacesName "status" "draft" e e' →
        SameOutcome (evaluateRule pythonOnStatus rule (.obj [("status", .str "draft")]))
          (evaluateRule pythonOnStatus rule' (.obj [("status", .str "draft")]))) ↔
      pythonOnStatus.fromisoformat "draft" = none :=
  @evaluateRule_replaced_iff pythonOnStatus [("status", .str "draft")] "status" "draft"
    "status == status" "status == 'draft'" rfl rfl rfl

/-- The standard library on rules about a date. -/
def pythonOnStart : PythonLibrary :=
  pythonOn [("startDate == startDate", fieldEquals "startDate" (.name "startDate")),
    ("startDate == '2026-07-15'", fieldEquals "startDate" (.constant (.str "2026-07-15")))]

/-- A date is not equal to what is written in the rule for it. -/
theorem evaluateRule_date_literal :
    Json.get? [("startDate", .str "2026-07-15")] "startDate" = some (.str "2026-07-15") ∧
      pythonOnStart.parse "startDate == startDate" =
        .ok (fieldEquals "startDate" (.name "startDate")) ∧
      pythonOnStart.parse "startDate == '2026-07-15'" =
        .ok (fieldEquals "startDate" (.constant (.str "2026-07-15"))) ∧
      ReplacesName "startDate" "2026-07-15" (fieldEquals "startDate" (.name "startDate"))
        (fieldEquals "startDate" (.constant (.str "2026-07-15"))) ∧
      evaluateRule pythonOnStart "startDate == startDate"
        (.obj [("startDate", .str "2026-07-15")]) = .ok true ∧
      evaluateRule pythonOnStart "startDate == '2026-07-15'"
        (.obj [("startDate", .str "2026-07-15")]) = .ok false :=
  ⟨rfl, rfl, rfl, fieldEquals_replaced, by decide +kernel, by decide +kernel⟩

end AgnoRuntime
