import AgnoRuntime.Spec.RuleMeaning

/-!
# What validation raises

`validate_record` reports a bad rule as a message, and never raises for one. It catches
what the evaluator raises on purpose, and nothing else: two values without an order raise
`TypeError`, a rule that is no text does so when it is parsed, and a record that is no
object has neither fields nor a `get`.

`Clashes` says where that happens in a rule: the evaluator takes the operands in order, and
everything before the clash has a value.

## Key results

- `evalNode_raises_iff`: a rule raises what is not caught exactly when it clashes
- `validateRecord_reports_iff`: when a record is validated
-/

namespace AgnoRuntime

open Validator

/-! ## Clashes -/

/-- The expression has the value, and so has every operand. -/
def PyExpr.Yields (env : String → Option PyValue) (e : PyExpr) (v : PyValue) : Prop :=
  e.Evaluable env ∧ meaning env e.booleanized = .ok v

/-- The operand that the next comparison of a chain has on its left. -/
def lastOperand (left : PyExpr) (comparisons : List (PyComparison × PyExpr)) : PyExpr :=
  (comparisons.map Prod.snd).getLastD left

/-- Asking the record for the name raises: it is no object. A list or a text that does not contain
    the name is not asked for more. -/
def RefusesName (record : Json) (id : String) : Prop :=
  match record with
  | .obj _ => False
  | .arr items => .str id ∈ items
  | .str s => id.toList <:+: s.toList
  | .null | .bool _ | .int _ | .float _ => True

/-- The evaluation of a rule comes to a comparison of values that have no order, or to a name for
    which the record cannot be asked. -/
inductive Clashes (lib : PythonLibrary) (record : Json) : PyExpr → Prop where
  | name {id : String} (h : RefusesName record id) : Clashes lib record (.name id)
  | not {operand : PyExpr} (h : Clashes lib record operand) : Clashes lib record (.not operand)
  /-- An operand of `and` or `or`, after others that have values. -/
  | operand {op : PyBoolOp} {before : List PyExpr} {value : PyExpr} {after : List PyExpr}
      (hbefore : ∀ b ∈ before, b.Evaluable (fieldsOf lib record)) (h : Clashes lib record value) :
      Clashes lib record (.boolOp op (before ++ value :: after))
  | left {left : PyExpr} {comparisons : List (PyComparison × PyExpr)}
      (h : Clashes lib record left) : Clashes lib record (.compare left comparisons)
  /-- A comparator, after comparisons that have values. -/
  | comparator {left : PyExpr} {before : List (PyComparison × PyExpr)} {op : CompareOp}
      {comparator : PyExpr} {after : List (PyComparison × PyExpr)}
      (hbefore : (PyExpr.compare left before).Evaluable (fieldsOf lib record))
      (h : Clashes lib record comparator) :
      Clashes lib record (.compare left (before ++ (.allowed op, comparator) :: after))
  /-- A comparison of values that have no order, after comparisons that hold. -/
  | comparison {left : PyExpr} {before : List (PyComparison × PyExpr)} {op : CompareOp}
      {comparator : PyExpr} {after : List (PyComparison × PyExpr)} {v w : PyValue}
      {message : String}
      (hbefore : (PyExpr.compare left before).Yields (fieldsOf lib record) (.bool true))
      (hv : (lastOperand left before).Yields (fieldsOf lib record) v)
      (hw : comparator.Yields (fieldsOf lib record) w)
      (h : v.compareBy op w = .error message) :
      Clashes lib record (.compare left (before ++ (.allowed op, comparator) :: after))

variable {lib : PythonLibrary} {record : Json}

/-- The evaluator has the value that the expression yields. -/
theorem evalNode_eq_ok_iff_yields {e : PyExpr} {v : PyValue} :
    evalNode lib record e = .ok v ↔ e.Yields (fieldsOf lib record) v :=
  evalNode_eq_ok_iff e v

/-- The evaluator comes to an end exactly on what can be evaluated. -/
theorem exists_evalNode_eq_ok_iff {e : PyExpr} :
    (∃ v, evalNode lib record e = .ok v) ↔ e.Evaluable (fieldsOf lib record) := by
  constructor
  · rintro ⟨v, hv⟩
    exact ((evalNode_eq_ok_iff e v).mp hv).1
  · intro h
    obtain ⟨v, hv⟩ := h.value
    exact ⟨v, (evalNode_eq_ok_iff e v).mpr ⟨h, hv⟩⟩

/-! ## Chains -/

/-- A chain of comparisons has its left operand evaluated, and then goes through them. -/
theorem evalNode_compare_eq_ok_iff {left : PyExpr} {comparisons : List (PyComparison × PyExpr)}
    {v : PyValue} :
    evalNode lib record (.compare left comparisons) = .ok v ↔
      ∃ l, evalNode lib record left = .ok l ∧
        ∃ b, evalComparisons lib record l true comparisons = .ok b ∧ .bool b = v := by
  simp only [evalNode, Except.bind_eq_ok, Except.pure_eq_ok]

/-- One more comparator. -/
theorem lastOperand_cons {left : PyExpr} {c : PyComparison × PyExpr}
    {comparisons : List (PyComparison × PyExpr)} :
    lastOperand left (c :: comparisons) = lastOperand c.2 comparisons := by
  rw [lastOperand, List.map_cons, List.getLastD_cons, lastOperand]

/-- After a comparison that has a value, the chain goes on with those after it. -/
theorem evalComparisons_cons {l right : PyValue} {result r : Bool} {op : CompareOp}
    {comparator : PyExpr} {comparisons : List (PyComparison × PyExpr)}
    (hright : evalNode lib record comparator = .ok right)
    (hr : (if result then applyOperator op l right else .ok false) = .ok r) :
    evalComparisons lib record l result ((.allowed op, comparator) :: comparisons) =
      evalComparisons lib record right r comparisons := by
  rw [evalComparisons_allowed, hright]
  show ((if result then applyOperator op l right else .ok false) >>= _) = _
  rw [hr]
  rfl

/-- A chain goes on after comparisons that have values, from the last operand of them. -/
theorem evalComparisons_append {left : PyExpr} {l : PyValue} {result b : Bool}
    {before : List (PyComparison × PyExpr)} (hl : evalNode lib record left = .ok l)
    (hbefore : evalComparisons lib record l result before = .ok b) :
    ∃ v, evalNode lib record (lastOperand left before) = .ok v ∧
      ∀ rest, evalComparisons lib record l result (before ++ rest) =
        evalComparisons lib record v b rest := by
  induction before generalizing left l result with
  | nil =>
    simp only [evalComparisons, Except.ok.injEq] at hbefore
    subst hbefore
    exact ⟨l, hl, fun rest => rfl⟩
  | cons c before ih =>
    obtain ⟨op, comparator⟩ := c
    cases op with
    | other typeName => simp [evalComparisons] at hbefore
    | allowed op =>
      rw [evalComparisons_allowed] at hbefore
      obtain ⟨right, hright, hbefore⟩ := Except.bind_eq_ok.mp hbefore
      obtain ⟨r, hr, hbefore⟩ := Except.bind_eq_ok.mp hbefore
      obtain ⟨v, hv, hrest⟩ := ih hright hbefore
      refine ⟨v, by rw [lastOperand_cons]; exact hv, fun rest => ?_⟩
      rw [List.cons_append, evalComparisons_cons hright hr]
      exact hrest rest

/-- A chain that raises comes, after comparisons that have values, to a comparator that raises or
    to a comparison that does. -/
theorem exists_of_evalComparisons_raises {left : PyExpr} {l : PyValue} {result : Bool}
    {comparisons : List (PyComparison × PyExpr)} {exc : PyError}
    (hl : evalNode lib record left = .ok l)
    (h : evalComparisons lib record l result comparisons = .error (.other exc)) :
    ∃ before op comparator after b v, comparisons = before ++ (.allowed op, comparator) :: after ∧
      evalComparisons lib record l result before = .ok b ∧
      evalNode lib record (lastOperand left before) = .ok v ∧
      (evalNode lib record comparator = .error (.other exc) ∨
        ∃ w, evalNode lib record comparator = .ok w ∧ b = true ∧
          applyOperator op v w = .error (.other exc)) := by
  induction comparisons generalizing left l result with
  | nil => simp [evalComparisons] at h
  | cons c comparisons ih =>
    obtain ⟨op, comparator⟩ := c
    cases op with
    | other typeName => simp [evalComparisons] at h
    | allowed op =>
      rw [evalComparisons_allowed, Except.bind_eq_error] at h
      cases h with
      | inl hcomparator =>
        exact ⟨[], op, comparator, comparisons, result, l, rfl, rfl, hl, .inl hcomparator⟩
      | inr h =>
        obtain ⟨right, hright, h⟩ := h
        cases Except.bind_eq_error.mp h with
        | inl hstep =>
          -- only a chain that holds so far compares
          cases result with
          | false => simp at hstep
          | true =>
            exact ⟨[], op, comparator, comparisons, true, l, rfl, rfl, hl,
              .inr ⟨right, hright, rfl, hstep⟩⟩
        | inr hrest =>
          obtain ⟨r, hr, hrest⟩ := hrest
          obtain ⟨before, op', comparator', after, b, v, rfl, hbefore, hv, hraises⟩ :=
            ih hright hrest
          refine ⟨(.allowed op, comparator) :: before, op', comparator', after, b, v, rfl, ?_, ?_,
            hraises⟩
          · rw [evalComparisons_cons hright hr]
            exact hbefore
          · rw [lastOperand_cons]
            exact hv

/-! ## Rules that raise -/

/-- An operator raises on values that have no order. -/
theorem applyOperator_raises_iff {op : CompareOp} {v w : PyValue} :
    (∃ exc, applyOperator op v w = .error (.other exc)) ↔
      ∃ message, v.compareBy op w = .error message := by
  rw [applyOperator]
  cases v.compareBy op w <;> simp [Except.mapError, typeError]

/-- A name raises on a record that is no object. -/
theorem lookup_raises_iff {id : String} :
    (∃ exc, lookup lib record id = .error (.other exc)) ↔ RefusesName record id := by
  cases record with
  | obj members =>
    simp only [lookup, RefusesName]
    cases Json.get? members id <;> simp
  | arr items =>
    simp only [lookup, RefusesName]
    by_cases hmem : Json.str id ∈ items <;> simp [hmem, typeError]
  | str s =>
    simp only [lookup, RefusesName]
    by_cases hcontains : id.toList <:+: s.toList <;> simp [hcontains, typeError]
  | null => simp [lookup, RefusesName, typeError]
  | bool b => simp [lookup, RefusesName, typeError]
  | int i => simp [lookup, RefusesName, typeError]
  | float f => simp [lookup, RefusesName, typeError]

/-- What raises clashes. -/
theorem clashes_of_raises {e : PyExpr} {exc : PyError}
    (h : evalNode lib record e = .error (.other exc)) : Clashes lib record e := by
  induction e using PyExpr.induct with
  | constant value => simp [evalNode] at h
  | name id =>
    rw [evalNode] at h
    exact .name (lookup_raises_iff.mp ⟨exc, h⟩)
  | compare left comparisons ihleft ih =>
    simp only [evalNode, Except.bind_eq_error, Except.pure_ne_error, and_false, exists_false,
      or_false] at h
    cases h with
    | inl hleft => exact .left (ihleft hleft)
    | inr h =>
      obtain ⟨l, hl, h⟩ := h
      -- the comparisons before the one that raised held: the chain stops at the first false one
      obtain ⟨before, op, comparator, after, b, v, rfl, hbefore, hv, hraises⟩ :=
        exists_of_evalComparisons_raises hl h
      have hyields : (PyExpr.compare left before).Yields (fieldsOf lib record) (.bool b) :=
        evalNode_eq_ok_iff_yields.mp (evalNode_compare_eq_ok_iff.mpr ⟨l, hl, b, hbefore, rfl⟩)
      cases hraises with
      | inl hcomparator =>
        exact .comparator hyields.1 (ih (.allowed op, comparator) (by simp) hcomparator)
      | inr hcomparison =>
        obtain ⟨w, hw, rfl, hclash⟩ := hcomparison
        obtain ⟨message, hmessage⟩ := applyOperator_raises_iff.mp ⟨exc, hclash⟩
        exact .comparison hyields (evalNode_eq_ok_iff_yields.mp hv)
          (evalNode_eq_ok_iff_yields.mp hw) hmessage
  | boolOp op values ih =>
    simp only [evalNode, evalValues_eq_mapM, Except.bind_eq_error, Except.pure_ne_error, and_false,
      exists_false, or_false] at h
    obtain ⟨before, value, after, rfl, hbefore, hvalue⟩ := Except.mapM_eq_error_iff.mp h
    exact .operand (fun b hb => exists_evalNode_eq_ok_iff.mp (hbefore b hb))
      (ih value (by simp) hvalue)
  | not operand ih =>
    simp only [evalNode, Except.bind_eq_error, Except.pure_ne_error, and_false, exists_false,
      or_false] at h
    exact .not (ih h)
  | other typeName => simp [evalNode] at h

/-- What clashes raises. -/
theorem raises_of_clashes {e : PyExpr} (h : Clashes lib record e) :
    ∃ exc, evalNode lib record e = .error (.other exc) := by
  induction h with
  | name h =>
    simp only [evalNode]
    exact lookup_raises_iff.mpr h
  | not _ ih =>
    obtain ⟨exc, hexc⟩ := ih
    exact ⟨exc, by simp only [evalNode, hexc]; rfl⟩
  | @operand op before value after hbefore _ ih =>
    obtain ⟨exc, hexc⟩ := ih
    have hvalues : (before ++ value :: after).mapM (evalNode lib record) = .error (.other exc) :=
      Except.mapM_eq_error_iff.mpr ⟨before, value, after, rfl,
        fun b hb => exists_evalNode_eq_ok_iff.mpr (hbefore b hb), hexc⟩
    exact ⟨exc, by simp only [evalNode, evalValues_eq_mapM, hvalues]; rfl⟩
  | left _ ih =>
    obtain ⟨exc, hexc⟩ := ih
    exact ⟨exc, by simp only [evalNode, hexc]; rfl⟩
  | comparator hbefore _ ih =>
    obtain ⟨exc, hexc⟩ := ih
    obtain ⟨u, hu⟩ := exists_evalNode_eq_ok_iff.mpr hbefore
    obtain ⟨l, hl, b, hb, -⟩ := evalNode_compare_eq_ok_iff.mp hu
    obtain ⟨v, -, hrest⟩ := evalComparisons_append hl hb
    refine ⟨exc, ?_⟩
    simp only [evalNode, hl]
    show (evalComparisons lib record l true _ >>= _) = _
    rw [hrest, evalComparisons_allowed, hexc]
    rfl
  | @comparison left before op comparator after v w message hbefore hv hw h =>
    obtain ⟨exc, hexc⟩ := applyOperator_raises_iff.mpr ⟨message, h⟩
    obtain ⟨l, hl, b, hb, hholds⟩ :=
      evalNode_compare_eq_ok_iff.mp (evalNode_eq_ok_iff_yields.mpr hbefore)
    cases hholds
    obtain ⟨v', hv', hrest⟩ := evalComparisons_append hl hb
    -- the operand on the left of the comparison has one value
    have hsame : v' = v := Except.ok.inj (hv'.symm.trans (evalNode_eq_ok_iff_yields.mpr hv))
    subst hsame
    refine ⟨exc, ?_⟩
    simp only [evalNode, hl]
    show (evalComparisons lib record l true _ >>= _) = _
    rw [hrest, evalComparisons_allowed, evalNode_eq_ok_iff_yields.mpr hw]
    show ((applyOperator op v' w >>= _) >>= _) = _
    rw [hexc]
    rfl

/-- The evaluator raises what is not caught exactly on a rule that clashes. -/
theorem evalNode_raises_iff {e : PyExpr} :
    (∃ exc, evalNode lib record e = .error (.other exc)) ↔ Clashes lib record e := by
  constructor
  · rintro ⟨exc, h⟩
    exact clashes_of_raises h
  · exact raises_of_clashes

/-! ## Records -/

/-- `rule_def.get("rule")`. -/
def ruleOf (ruleDef : Json.Dict) : Json := (ruleDef.get? "rule").getD .null

/-- The field has a value that is neither null nor empty. -/
def Present (members : List (String × Json)) (field : BusinessObjectFieldSpec) : Prop :=
  ∃ v, Json.get? members field.name = some v ∧ v ≠ .null ∧ v ≠ .str ""

/-- The record is validated: there are messages, and for an object there are none exactly when the
    required fields are there and the rules hold. -/
def Reports (lib : PythonLibrary) (payload : BusinessObjectPayload) (record : Json) : Prop :=
  ∃ messages, validateRecord lib payload record = .ok messages ∧
    ∀ members, record = .obj members → (messages = [] ↔
      (∀ field ∈ payload.fields, field.required = true → Present members field) ∧
      ∀ ruleDef ∈ payload.validation, (PyValue.json (ruleOf ruleDef)).truth = true →
        evaluateRuleValue lib (ruleOf ruleDef) record = .ok true)

/-- What is given as a rule is a text that is no expression, or one that does not clash. -/
def Answered (lib : PythonLibrary) (record : Json) : Json → Prop
  | .str rule =>
    match lib.parse rule with
    | .ok tree => ¬ Clashes lib record tree
    | .error (.syntaxError _) => True
    | .error (.other _) => False
  | _ => False

/-- What is answered raises nothing but what is caught. -/
theorem evaluateRuleValue_raises_iff {rule : Json} :
    (∃ exc, evaluateRuleValue lib rule record = .error (.other exc)) ↔
      ¬ Answered lib record rule := by
  cases rule with
  | str rule =>
    simp only [evaluateRuleValue, evaluateRule, Answered]
    cases hparse : lib.parse rule with
    | ok tree =>
      simp only [not_not, ← evalNode_raises_iff, evaluateTree]
      cases evalNode lib record tree <;> simp [Functor.map, Except.map]
    | error failure =>
      cases failure <;> simp
  | null => simp [evaluateRuleValue, Answered, typeError]
  | bool b => simp [evaluateRuleValue, Answered, typeError]
  | int i => simp [evaluateRuleValue, Answered, typeError]
  | float x => simp [evaluateRuleValue, Answered, typeError]
  | arr items => simp [evaluateRuleValue, Answered, typeError]
  | obj members => simp [evaluateRuleValue, Answered, typeError]

/-- What the check of a rule comes to: no message, one message, or an exception of its own. -/
theorem checkRule_cases (lib : PythonLibrary) (record : Json) (ruleDef : Json.Dict) :
    checkRule lib record ruleDef = .ok [] ∧ ((PyValue.json (ruleOf ruleDef)).truth = true →
      evaluateRuleValue lib (ruleOf ruleDef) record = .ok true) ∨
    (PyValue.json (ruleOf ruleDef)).truth = true ∧
      ((∃ message, checkRule lib record ruleDef = .ok [message]) ∧
        evaluateRuleValue lib (ruleOf ruleDef) record ≠ .ok true ∧
        (∀ exc, evaluateRuleValue lib (ruleOf ruleDef) record ≠ .error (.other exc)) ∨
      ∃ exc, checkRule lib record ruleDef = .error exc ∧
        evaluateRuleValue lib (ruleOf ruleDef) record = .error (.other exc)) := by
  have hrule : (ruleDef.get? "rule").getD .null = ruleOf ruleDef := rfl
  simp only [checkRule, hrule]
  by_cases htruth : (PyValue.json (ruleOf ruleDef)).truth = true
  · simp only [htruth, if_true, forall_const]
    cases evaluateRuleValue lib (ruleOf ruleDef) record with
    | ok b => cases b <;> simp
    | error e => cases e <;> simp
  · simp [htruth]

/-- The check of a rule comes to its end when the rule is empty or answered. -/
theorem checkRule_returns_iff {ruleDef : Json.Dict} :
    (∃ messages, checkRule lib record ruleDef = .ok messages) ↔
      ((PyValue.json (ruleOf ruleDef)).truth = true → Answered lib record (ruleOf ruleDef)) := by
  rw [← not_not (a := Answered lib record (ruleOf ruleDef)), ← evaluateRuleValue_raises_iff]
  rcases checkRule_cases lib record ruleDef with ⟨hnone, htrue⟩ |
    ⟨htruth, ⟨⟨message, hmessage⟩, -, hcaught⟩ | ⟨exc, hexc, hraised⟩⟩
  · refine iff_of_true ⟨_, hnone⟩ fun htruth hraises => ?_
    obtain ⟨exc, hexc⟩ := hraises
    cases (htrue htruth).symm.trans hexc
  · refine iff_of_true ⟨_, hmessage⟩ fun _ hraises => ?_
    obtain ⟨exc, hexc⟩ := hraises
    exact hcaught exc hexc
  · refine iff_of_false (fun hreturns => ?_) fun hanswered => hanswered htruth ⟨exc, hraised⟩
    obtain ⟨messages, hmessages⟩ := hreturns
    cases hexc.symm.trans hmessages

/-- The check of a rule has no message when the rule is empty or holds. -/
theorem checkRule_eq_nil_iff {ruleDef : Json.Dict} :
    checkRule lib record ruleDef = .ok [] ↔
      ((PyValue.json (ruleOf ruleDef)).truth = true →
        evaluateRuleValue lib (ruleOf ruleDef) record = .ok true) := by
  rcases checkRule_cases lib record ruleDef with ⟨hnone, htrue⟩ |
    ⟨htruth, ⟨⟨message, hmessage⟩, hfails, -⟩ | ⟨exc, hexc, hraised⟩⟩
  · exact iff_of_true hnone htrue
  · refine iff_of_false (fun hnone => ?_) fun htrue => hfails (htrue htruth)
    cases hmessage.symm.trans hnone
  · refine iff_of_false (fun hnone => ?_) fun htrue => ?_
    · cases hexc.symm.trans hnone
    · cases (htrue htruth).symm.trans hraised

/-- The check of a field comes to its end on an object, or when the field is not required. -/
theorem checkField_returns_iff {field : BusinessObjectFieldSpec} :
    (∃ messages, checkField record field = .ok messages) ↔
      ((∃ members, record = .obj members) ∨ field.required = false) := by
  unfold checkField
  by_cases hrequired : field.required = true
  · cases record with
    | obj members =>
      simp only [hrequired, if_true]
      split <;> simp
    | null => simp [hrequired]
    | bool b => simp [hrequired]
    | int i => simp [hrequired]
    | float x => simp [hrequired]
    | str s => simp [hrequired]
    | arr items => simp [hrequired]
  · simp [hrequired]

/-- The check of a field of an object has no message when the field is present, or not required. -/
theorem checkField_eq_nil_iff {members : List (String × Json)} {field : BusinessObjectFieldSpec} :
    checkField (.obj members) field = .ok [] ↔
      (field.required = true → Present members field) := by
  unfold checkField Present
  by_cases hrequired : field.required = true
  · simp only [hrequired, if_true, forall_const]
    cases Json.get? members field.name with
    | none => simp
    | some v =>
      by_cases hnull : v = .null
      · simp [hnull]
      · by_cases hempty : v = .str "" <;> simp [hnull, hempty]
  · simp [hrequired]

variable {payload : BusinessObjectPayload}

/-- The messages about the fields, and those about the rules. -/
theorem validateRecord_eq_ok_iff {messages : List Json} :
    validateRecord lib payload record = .ok messages ↔
      ∃ missing, payload.fields.mapM (checkField record) = .ok missing ∧
        ∃ failed, payload.validation.mapM (checkRule lib record) = .ok failed ∧
          missing.flatten ++ failed.flatten = messages := by
  simp only [validateRecord, Except.bind_eq_ok, Except.pure_eq_ok]

/-- A validation comes to its end when each check does. -/
theorem validateRecord_returns_iff :
    (∃ messages, validateRecord lib payload record = .ok messages) ↔
      ((∃ members, record = .obj members) ∨ ∀ field ∈ payload.fields, field.required = false) ∧
      ∀ ruleDef ∈ payload.validation, (PyValue.json (ruleOf ruleDef)).truth = true →
        Answered lib record (ruleOf ruleDef) := by
  simp only [validateRecord_eq_ok_iff]
  constructor
  -- Where it returns, every field and every rule was checked.
  · rintro ⟨messages, missing, hmissing, failed, hfailed, -⟩
    constructor
    · by_cases hobject : ∃ members, record = .obj members
      · exact .inl hobject
      · refine .inr fun field hmem => ?_
        obtain ⟨b, -, hb⟩ := Except.exists_of_mapM_mem hmissing hmem
        exact (checkField_returns_iff.mp ⟨b, hb⟩).resolve_left hobject
    · intro ruleDef hmem
      obtain ⟨b, -, hb⟩ := Except.exists_of_mapM_mem hfailed hmem
      exact checkRule_returns_iff.mp ⟨b, hb⟩
  · rintro ⟨hfields, hrules⟩
    -- Each check returns, so all of them do.
    have hmissing : ∀ field ∈ payload.fields, ∃ b, checkField record field = .ok b :=
      fun field hmem => checkField_returns_iff.mpr (hfields.imp_right fun h => h field hmem)
    have hfailed : ∀ ruleDef ∈ payload.validation, ∃ b, checkRule lib record ruleDef = .ok b :=
      fun ruleDef hmem => checkRule_returns_iff.mpr (hrules ruleDef hmem)
    obtain ⟨missing, hmissing⟩ := Except.exists_mapM_eq_ok hmissing
    obtain ⟨failed, hfailed⟩ := Except.exists_mapM_eq_ok hfailed
    exact ⟨_, missing, hmissing, failed, hfailed, rfl⟩

/-- An object has no messages when its required fields are present and the rules hold. -/
theorem validateRecord_eq_nil_iff {members : List (String × Json)} {messages : List Json}
    (h : validateRecord lib payload (.obj members) = .ok messages) :
    messages = [] ↔
      (∀ field ∈ payload.fields, field.required = true → Present members field) ∧
      ∀ ruleDef ∈ payload.validation, (PyValue.json (ruleOf ruleDef)).truth = true →
        evaluateRuleValue lib (ruleOf ruleDef) (.obj members) = .ok true := by
  obtain ⟨missing, hmissing, failed, hfailed, rfl⟩ := validateRecord_eq_ok_iff.mp h
  rw [List.append_eq_nil_iff, Except.flatten_eq_nil_of_mapM hmissing,
    Except.flatten_eq_nil_of_mapM hfailed]
  simp only [checkField_eq_nil_iff, checkRule_eq_nil_iff]

/-- A record is validated exactly when it is an object or no field is required, and each rule that is
    not empty is a text that is no expression or whose expression does not clash on the record. -/
theorem validateRecord_reports_iff (lib : PythonLibrary) (payload : BusinessObjectPayload)
    (record : Json) :
    Reports lib payload record ↔
      ((∃ members, record = .obj members) ∨ ∀ field ∈ payload.fields, field.required = false) ∧
      ∀ ruleDef ∈ payload.validation, (PyValue.json (ruleOf ruleDef)).truth = true →
        Answered lib record (ruleOf ruleDef) := by
  rw [← validateRecord_returns_iff]
  constructor
  · rintro ⟨messages, hmessages, -⟩
    exact ⟨messages, hmessages⟩
  · rintro ⟨messages, hmessages⟩
    refine ⟨messages, hmessages, ?_⟩
    rintro members rfl
    exact validateRecord_eq_nil_iff hmessages

/-- An empty dict is well formed. -/
theorem wellFormed_empty : (Json.obj []).WellFormed := by
  simp [Json.wellFormed_obj, Json.MembersWellFormed]

/-- `{"rule": "days > 0"}`. -/
def daysRule : Json.Dict :=
  Json.Dict.setItem ⟨[], wellFormed_empty⟩ "rule" (Json.ofString "days > 0")

/-- A rule about a number raises where the field has none. -/
theorem validateRecord_null_days :
    validateRecord pythonOnDays ⟨[], [], [daysRule], none⟩ (.obj [("days", .null)]) =
      .error (.other "'>' not supported between instances of 'NoneType' and 'int'") := by
  decide +kernel

end AgnoRuntime
