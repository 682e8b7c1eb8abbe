import AgnoRuntime.Model.Validator

/-!
# What rules mean

A rule is an expression of Python, so it has a meaning: that of Python, with the names
bound to the fields of the record. There `and`, `or` and chained comparisons evaluate no
more operands than they need, and `and` and `or` have the value of an operand.

`_eval_node` evaluates every operand, and takes the truth value of an `and` or an `or`.
So it agrees with Python where no operand that Python would skip raises, and where taking
truth values makes no difference to the rule.

## Key results

- `evalNode_eq_ok_iff`: the evaluator in terms of Python's meaning
- `evaluateRule_agrees_iff`: when a rule is evaluated as Python would
-/

namespace AgnoRuntime

open Validator

/-! ## Python -/

/-- The operator needs its next operand after one with this truth value. -/
def PyBoolOp.goesOn (op : PyBoolOp) (truth : Bool) : Bool :=
  match op with
  | .and => truth
  | .or => !truth

/-- The names of a rule: the fields of the record, if it is an object. -/
def fieldsOf (lib : PythonLibrary) (record : Json) (id : String) : Option PyValue :=
  match record with
  | .obj members => (Json.get? members id).map (coerce lib)
  | _ => none

mutual

/-- The value of an expression in Python, or the message of what it raises. Only the expressions of
    the rule grammar have one. -/
def meaning (env : String → Option PyValue) : PyExpr → Except String PyValue
  | .constant value => .ok value.value
  | .name id =>
    match env id with
    | some v => .ok v
    | none => .error ("name '" ++ id ++ "' is not defined")
  | .compare left comparisons => do
    let left ← meaning env left
    let holds ← meaningComparisons env left comparisons
    return .bool holds
  | .boolOp op values => meaningValues env op values
  | .not operand => do
    let v ← meaning env operand
    return .bool !v.truth
  | .other typeName => .error typeName
termination_by structural e => e

/-- A chained comparison ends with the first comparison that does not hold. -/
def meaningComparisons (env : String → Option PyValue) (left : PyValue) :
    List (PyComparison × PyExpr) → Except String Bool
  | [] => .ok true
  | (.other typeName, _) :: _ => .error typeName
  | (.allowed op, comparator) :: comparisons => do
    let right ← meaning env comparator
    let holds ← left.compareBy op right
    if holds then meaningComparisons env right comparisons else return false
termination_by structural comparisons => comparisons

/-- `and` and `or` end with the first operand that decides, and have its value. -/
def meaningValues (env : String → Option PyValue) (op : PyBoolOp) :
    List PyExpr → Except String PyValue
  | [] => .ok (.bool (op = .and))
  | value :: values => do
    let v ← meaning env value
    if op.goesOn v.truth && !values.isEmpty then meaningValues env op values else return v
termination_by structural values => values

end

/-! ## Operands -/

namespace PyExpr

mutual

/-- The expression and its operands, at every depth. -/
def operands : PyExpr → List PyExpr
  | .constant value => [.constant value]
  | .name id => [.name id]
  | .compare left comparisons =>
    .compare left comparisons :: (operands left ++ comparators comparisons)
  | .boolOp op values => .boolOp op values :: operandsOf values
  | .not operand => .not operand :: operands operand
  | .other typeName => [.other typeName]
termination_by structural e => e

/-- The operands of the comparators. -/
def comparators : List (PyComparison × PyExpr) → List PyExpr
  | [] => []
  | (_, comparator) :: comparisons => operands comparator ++ comparators comparisons
termination_by structural comparisons => comparisons

/-- The operands of some expressions. -/
def operandsOf : List PyExpr → List PyExpr
  | [] => []
  | value :: values => operands value ++ operandsOf values
termination_by structural values => values

end

mutual

/-- The expression with the truth value of each `and` and `or` for its value. -/
def booleanized : PyExpr → PyExpr
  | .constant value => .constant value
  | .name id => .name id
  | .compare left comparisons => .compare (booleanized left) (booleanizedComparisons comparisons)
  | .boolOp op values => .not (.not (.boolOp op (booleanizedValues values)))
  | .not operand => .not (booleanized operand)
  | .other typeName => .other typeName
termination_by structural e => e

/-- The comparisons with booleanized comparators. -/
def booleanizedComparisons : List (PyComparison × PyExpr) → List (PyComparison × PyExpr)
  | [] => []
  | (op, comparator) :: comparisons =>
    (op, booleanized comparator) :: booleanizedComparisons comparisons
termination_by structural comparisons => comparisons

/-- Booleanized operands. -/
def booleanizedValues : List PyExpr → List PyExpr
  | [] => []
  | value :: values => booleanized value :: booleanizedValues values
termination_by structural values => values

end

/-- The node is one of the rule grammar, with its operators. -/
def Allowed : PyExpr → Prop
  | .compare _ comparisons => ∀ c ∈ comparisons, ∃ op, c.1 = .allowed op
  | .other _ => False
  | .constant _ | .name _ | .boolOp _ _ | .not _ => True

/-- Every node is one of the rule grammar. -/
def InGrammar (e : PyExpr) : Prop := ∀ s ∈ e.operands, s.Allowed

/-- Every operand has a value in Python, those that are skipped too, where each `and` and `or` has
    its truth value. -/
def Valued (env : String → Option PyValue) (e : PyExpr) : Prop :=
  ∀ s ∈ e.operands, ∃ v, meaning env s.booleanized = .ok v

/-- An expression is among its operands. -/
theorem mem_operands_self (e : PyExpr) : e ∈ e.operands := by
  cases e <;> simp [operands]

/-- The operands of the comparators are those of each one. -/
theorem mem_comparators {s : PyExpr} {comparisons : List (PyComparison × PyExpr)} :
    s ∈ comparators comparisons ↔ ∃ c ∈ comparisons, s ∈ c.2.operands := by
  induction comparisons with
  | nil => simp [comparators]
  | cons c comparisons ih =>
    rw [comparators, List.mem_append, ih]
    simp

/-- The operands of some expressions are those of each one. -/
theorem mem_operandsOf {s : PyExpr} {values : List PyExpr} :
    s ∈ operandsOf values ↔ ∃ value ∈ values, s ∈ value.operands := by
  induction values with
  | nil => simp [operandsOf]
  | cons value values ih =>
    rw [operandsOf, List.mem_append, ih]
    simp

/-- Operands are booleanized one by one. -/
theorem booleanizedValues_eq_map (values : List PyExpr) :
    booleanizedValues values = values.map booleanized := by
  induction values with
  | nil => rfl
  | cons value values ih => rw [booleanizedValues, ih, List.map_cons]

/-! ## Rules that can be evaluated -/

/-- Every node is one of the rule grammar, and every operand has a value. -/
def Evaluable (env : String → Option PyValue) (e : PyExpr) : Prop :=
  e.InGrammar ∧ e.Valued env

variable {env : String → Option PyValue}

/-- The operands decide for an expression with operands. -/
theorem evaluable_of_operands {e : PyExpr} {rest : List PyExpr} (h : e.operands = e :: rest) :
    e.Evaluable env ↔ (e.Allowed ∧ ∃ v, meaning env e.booleanized = .ok v) ∧
      ∀ s ∈ rest, s.Allowed ∧ ∃ v, meaning env s.booleanized = .ok v := by
  rw [Evaluable, InGrammar, Valued, h, List.forall_mem_cons, List.forall_mem_cons]
  constructor
  · rintro ⟨⟨hallowed, hgrammar⟩, hvalue, hvalued⟩
    exact ⟨⟨hallowed, hvalue⟩, fun s hs => ⟨hgrammar s hs, hvalued s hs⟩⟩
  · rintro ⟨⟨hallowed, hvalue⟩, hrest⟩
    exact ⟨⟨hallowed, fun s hs => (hrest s hs).1⟩, hvalue, fun s hs => (hrest s hs).2⟩

/-- An expression can be evaluated when each operand is of the grammar and has a value. -/
theorem evaluable_iff {e : PyExpr} :
    e.Evaluable env ↔ ∀ s ∈ e.operands, s.Allowed ∧ ∃ v, meaning env s.booleanized = .ok v :=
  ⟨fun h s hs => ⟨h.1 s hs, h.2 s hs⟩, fun h => ⟨fun s hs => (h s hs).1, fun s hs => (h s hs).2⟩⟩

/-- What can be evaluated has a value. -/
theorem Evaluable.value {e : PyExpr} (h : e.Evaluable env) :
    ∃ v, meaning env e.booleanized = .ok v :=
  h.2 e e.mem_operands_self

/-- A comparison can be evaluated when it has a value, its operators are of the grammar, and both
    sides can be evaluated. -/
theorem evaluable_compare {left : PyExpr} {comparisons : List (PyComparison × PyExpr)} :
    (compare left comparisons).Evaluable env ↔
      (∃ v, meaning env (compare left comparisons).booleanized = .ok v) ∧
      left.Evaluable env ∧
      ∀ c ∈ comparisons, (∃ op, c.1 = .allowed op) ∧ c.2.Evaluable env := by
  have hoperands : (compare left comparisons).operands =
      compare left comparisons :: (left.operands ++ comparators comparisons) := by rw [operands]
  rw [evaluable_of_operands hoperands]
  simp only [evaluable_iff, List.mem_append, mem_comparators, Allowed]
  constructor
  · rintro ⟨⟨hops, hvalue⟩, hrest⟩
    exact ⟨hvalue, fun s hs => hrest s (.inl hs),
      fun c hc => ⟨hops c hc, fun s hs => hrest s (.inr ⟨c, hc, hs⟩)⟩⟩
  · rintro ⟨hvalue, hleft, hcomparisons⟩
    refine ⟨⟨fun c hc => (hcomparisons c hc).1, hvalue⟩, ?_⟩
    rintro s (hs | ⟨c, hc, hs⟩)
    · exact hleft s hs
    · exact (hcomparisons c hc).2 s hs

/-- An `and` or an `or` can be evaluated when it has a value and each operand can be evaluated. -/
theorem evaluable_boolOp {op : PyBoolOp} {values : List PyExpr} :
    (boolOp op values).Evaluable env ↔
      (∃ v, meaning env (boolOp op values).booleanized = .ok v) ∧
      ∀ value ∈ values, value.Evaluable env := by
  have hoperands : (boolOp op values).operands = boolOp op values :: operandsOf values := by
    rw [operands]
  rw [evaluable_of_operands hoperands]
  simp only [evaluable_iff, mem_operandsOf, Allowed, true_and]
  constructor
  · rintro ⟨hvalue, hrest⟩
    exact ⟨hvalue, fun value hv s hs => hrest s ⟨value, hv, hs⟩⟩
  · rintro ⟨hvalue, hvalues⟩
    refine ⟨hvalue, ?_⟩
    rintro s ⟨value, hv, hs⟩
    exact hvalues value hv s hs

/-- A `not` can be evaluated when it has a value and its operand can be evaluated. -/
theorem evaluable_not {operand : PyExpr} :
    (not operand).Evaluable env ↔
      (∃ v, meaning env (not operand).booleanized = .ok v) ∧ operand.Evaluable env := by
  have hoperands : (not operand).operands = not operand :: operand.operands := by rw [operands]
  rw [evaluable_of_operands hoperands, evaluable_iff]
  simp only [Allowed, true_and]

end PyExpr

/-! ## The evaluator -/

variable {lib : PythonLibrary} {record : Json} {env : String → Option PyValue}

/-- A name has the value of its field. -/
theorem lookup_eq_ok_iff {id : String} {v : PyValue} :
    lookup lib record id = .ok v ↔ fieldsOf lib record id = some v := by
  cases record with
  | obj members =>
    simp only [lookup, fieldsOf]
    cases Json.get? members id with
    | none => simp
    | some field => simp
  | arr items =>
    simp only [lookup, fieldsOf]
    split <;> simp
  | str s =>
    simp only [lookup, fieldsOf]
    split <;> simp
  | null => simp [lookup, fieldsOf]
  | bool b => simp [lookup, fieldsOf]
  | int i => simp [lookup, fieldsOf]
  | float f => simp [lookup, fieldsOf]

/-- An operator of the evaluator is the operator. -/
theorem applyOperator_eq_ok_iff {op : CompareOp} {left right : PyValue} {b : Bool} :
    applyOperator op left right = .ok b ↔ left.compareBy op right = .ok b := by
  rw [applyOperator]
  cases left.compareBy op right <;> simp [Except.mapError]

/-- The operands of `and` and `or` are evaluated one after the other. -/
theorem evalValues_eq_mapM (values : List PyExpr) :
    evalValues lib record values = values.mapM (evalNode lib record) := by
  induction values with
  | nil => rfl
  | cons value values ih => rw [evalValues, List.mapM_cons, ih]

/-- After an operand, `and` and `or` of the evaluator go on as Python does. -/
theorem applyBoolOp_cons {op : PyBoolOp} {v : PyValue} {vs : List PyValue} :
    applyBoolOp op (v :: vs) = if op.goesOn v.truth then applyBoolOp op vs else v.truth := by
  cases op <;> cases hv : v.truth <;> simp [applyBoolOp, PyBoolOp.goesOn, hv]

/-- One operand decides alone. -/
theorem applyBoolOp_singleton {op : PyBoolOp} {v : PyValue} :
    applyBoolOp op [v] = v.truth := by
  cases op <;> simp [applyBoolOp]

/-- Where every operand has a value, so has the `and` or the `or`, with the truth value the
    evaluator gives it. -/
theorem meaningValues_of_forall₂ {op : PyBoolOp} {values : List PyExpr} {vs : List PyValue}
    (h : List.Forall₂ (fun value v => meaning env value = .ok v) values vs) :
    ∃ w, meaningValues env op values = .ok w ∧ w.truth = applyBoolOp op vs := by
  induction h with
  | nil =>
    refine ⟨.bool (op = .and), by rw [meaningValues], ?_⟩
    cases op <;> rfl
  | @cons value v values vs hvalue hvalues ih =>
    simp only [meaningValues, Except.bind_eq_ok, hvalue, Except.ok.injEq, exists_eq_left']
    by_cases hlast : values = []
    · -- the last operand is the value, whatever it is
      subst hlast
      cases hvalues
      exact ⟨v, by simp, applyBoolOp_singleton.symm⟩
    · obtain ⟨w, hw, htruth⟩ := ih
      by_cases hgoesOn : op.goesOn v.truth
      · refine ⟨w, ?_, ?_⟩
        · simp [hgoesOn, hlast, hw]
        · rw [applyBoolOp_cons, if_pos hgoesOn, htruth]
      · refine ⟨v, by simp [hgoesOn], ?_⟩
        rw [applyBoolOp_cons, if_neg hgoesOn]

/-- A comparison evaluates its comparator, compares if the chain holds so far, and leaves the rest
    to the comparisons after it. -/
theorem evalComparisons_allowed {left : PyValue} {result : Bool} {op : CompareOp}
    {comparator : PyExpr} {comparisons : List (PyComparison × PyExpr)} :
    evalComparisons lib record left result ((.allowed op, comparator) :: comparisons) =
      evalNode lib record comparator >>= fun right =>
        (if result then applyOperator op left right else .ok false) >>= fun result =>
          evalComparisons lib record right result comparisons := by
  rw [evalComparisons]
  cases result <;> rfl

/-- The comparisons of the evaluator, where the comparators agree with Python: every comparator is
    evaluated, and a chain that holds so far goes on as in Python. -/
theorem evalComparisons_eq_ok_iff {left : PyValue} {comparisons : List (PyComparison × PyExpr)}
    {result b : Bool}
    (hcomparators : ∀ c ∈ comparisons, ∀ v, evalNode lib record c.2 = .ok v ↔
      c.2.Evaluable env ∧ meaning env c.2.booleanized = .ok v) :
    evalComparisons lib record left result comparisons = .ok b ↔
      (∀ c ∈ comparisons, (∃ op, c.1 = .allowed op) ∧ c.2.Evaluable env) ∧
      if result then
        meaningComparisons env left (PyExpr.booleanizedComparisons comparisons) = .ok b
      else b = false := by
  induction comparisons generalizing left result with
  | nil => cases result <;> simp [evalComparisons, PyExpr.booleanizedComparisons, meaningComparisons, eq_comm]
  | cons c comparisons ih =>
    obtain ⟨op, comparator⟩ := c
    have hcomparator := hcomparators (op, comparator) List.mem_cons_self
    have ih := fun left result => @ih left result
      fun c hc => hcomparators c (List.mem_cons_of_mem _ hc)
    cases op with
    | other typeName => simp [evalComparisons]
    | allowed op =>
      simp only [evalComparisons_allowed, PyExpr.booleanizedComparisons, meaningComparisons,
        Except.bind_eq_ok, List.forall_mem_cons, hcomparator, ih]
      cases result with
      | false =>
        -- the chain is decided, and the comparator only has to be evaluated
        simp only [Bool.false_eq_true, if_false, Except.ok.injEq, exists_eq_left']
        constructor
        · rintro ⟨right, ⟨hevaluable, -⟩, hrest, hb⟩
          exact ⟨⟨⟨⟨op, rfl⟩, hevaluable⟩, hrest⟩, hb⟩
        · rintro ⟨⟨⟨-, hevaluable⟩, hrest⟩, hb⟩
          obtain ⟨right, hright⟩ := hevaluable.value
          exact ⟨right, ⟨hevaluable, hright⟩, hrest, hb⟩
      | true =>
        simp only [if_true, applyOperator_eq_ok_iff]
        constructor
        · rintro ⟨right, ⟨hevaluable, hright⟩, r, hr, hrest, hb⟩
          refine ⟨⟨⟨⟨op, rfl⟩, hevaluable⟩, hrest⟩, right, hright, r, hr, ?_⟩
          cases r with
          | false => exact Except.pure_eq_ok.mpr hb.symm
          | true => simpa using hb
        · rintro ⟨⟨⟨-, hevaluable⟩, hrest⟩, right, hright, r, hr, hb⟩
          refine ⟨right, ⟨hevaluable, hright⟩, r, hr, hrest, ?_⟩
          cases r with
          | false => exact (Except.pure_eq_ok.mp hb).symm
          | true => simpa using hb

/-- Operands that the evaluator evaluates have these values in Python. -/
theorem forall₂_meaning_of_mapM {values : List PyExpr} {vs : List PyValue}
    (hvalues : ∀ value ∈ values, ∀ v, evalNode lib record value = .ok v ↔
      value.Evaluable env ∧ meaning env value.booleanized = .ok v)
    (h : values.mapM (evalNode lib record) = .ok vs) :
    List.Forall₂ (fun value v => meaning env value = .ok v)
      (values.map PyExpr.booleanized) vs := by
  rw [List.forall₂_map_left_iff]
  have hall := (List.forall₂_and_left values vs).mpr ⟨hvalues, Except.forall₂_of_mapM_eq_ok h⟩
  exact hall.imp fun value v hv => ((hv.1 v).mp hv.2).2

/-- The evaluator on an expression: it has a value when the expression can be evaluated, and then
    the one that Python gives the expression with truth values for each `and` and `or`. -/
theorem evalNode_eq_ok_iff (e : PyExpr) (v : PyValue) :
    evalNode lib record e = .ok v ↔
      e.Evaluable (fieldsOf lib record) ∧ meaning (fieldsOf lib record) e.booleanized = .ok v := by
  induction e using PyExpr.induct generalizing v with
  | constant value =>
    simp [evalNode, PyExpr.evaluable_iff, PyExpr.operands, PyExpr.Allowed, PyExpr.booleanized,
      meaning]
  | name id =>
    simp only [evalNode, lookup_eq_ok_iff, PyExpr.evaluable_iff, PyExpr.operands, PyExpr.Allowed,
      PyExpr.booleanized, meaning, List.mem_singleton, forall_eq, true_and]
    cases fieldsOf lib record id <;> simp
  | compare left comparisons ihleft ih =>
    simp only [evalNode, PyExpr.evaluable_compare, PyExpr.booleanized, meaning, Except.bind_eq_ok,
      Except.pure_eq_ok, ihleft, evalComparisons_eq_ok_iff ih, if_true]
    constructor
    · rintro ⟨l, ⟨hleft, hl⟩, b, ⟨hcomparisons, hb⟩, rfl⟩
      exact ⟨⟨⟨_, l, hl, b, hb, rfl⟩, hleft, hcomparisons⟩, l, hl, b, hb, rfl⟩
    · rintro ⟨⟨-, hleft, hcomparisons⟩, l, hl, b, hb, rfl⟩
      exact ⟨l, ⟨hleft, hl⟩, b, ⟨hcomparisons, hb⟩, rfl⟩
  | boolOp op values ih =>
    simp only [evalNode, evalValues_eq_mapM, PyExpr.evaluable_boolOp, PyExpr.booleanized,
      PyExpr.booleanizedValues_eq_map, meaning, Except.bind_eq_ok, Except.pure_eq_ok]
    constructor
    · rintro ⟨vs, hvs, rfl⟩
      obtain ⟨w, hw, htruth⟩ := meaningValues_of_forall₂ (forall₂_meaning_of_mapM ih hvs)
      have hvalue : ∃ v, (∃ w, meaningValues (fieldsOf lib record) op
          (values.map PyExpr.booleanized) = .ok w ∧ PyValue.bool (!w.truth) = v) ∧
          PyValue.bool (!v.truth) = PyValue.bool (applyBoolOp op vs) :=
        ⟨_, ⟨w, hw, rfl⟩, by rw [PyValue.truth_bool, Bool.not_not, htruth]⟩
      refine ⟨⟨⟨_, hvalue⟩, fun value hmem => ?_⟩, hvalue⟩
      obtain ⟨v, -, hv⟩ := Except.exists_of_mapM_mem hvs hmem
      exact ((ih value hmem v).mp hv).1
    · rintro ⟨⟨-, hvalues⟩, u, ⟨w, hw, rfl⟩, rfl⟩
      -- every operand can be evaluated, so that the evaluator comes to its end
      have hevaluated : ∀ value ∈ values, ∃ v, evalNode lib record value = .ok v := by
        intro value hmem
        obtain ⟨v, hv⟩ := (hvalues value hmem).value
        exact ⟨v, (ih value hmem v).mpr ⟨hvalues value hmem, hv⟩⟩
      obtain ⟨vs, hvs⟩ := Except.exists_mapM_eq_ok hevaluated
      obtain ⟨w', hw', htruth⟩ := meaningValues_of_forall₂ (forall₂_meaning_of_mapM ih hvs)
      have hsame : w' = w := Except.ok.inj (hw'.symm.trans hw)
      refine ⟨vs, hvs, ?_⟩
      rw [PyValue.truth_bool, Bool.not_not, ← htruth, hsame]
  | not operand ih =>
    simp only [evalNode, PyExpr.evaluable_not, PyExpr.booleanized, meaning, Except.bind_eq_ok,
      Except.pure_eq_ok, ih]
    constructor
    · rintro ⟨w, ⟨hoperand, hw⟩, rfl⟩
      exact ⟨⟨⟨_, w, hw, rfl⟩, hoperand⟩, w, hw, rfl⟩
    · rintro ⟨⟨-, hoperand⟩, w, hw, rfl⟩
      exact ⟨w, ⟨hoperand, hw⟩, rfl⟩
  | other typeName =>
    simp [evalNode, PyExpr.evaluable_iff, PyExpr.operands, PyExpr.Allowed]

/-- The truth value of an expression, where the evaluator gives one. -/
theorem evaluateTree_eq_ok_iff {tree : PyExpr} {b : Bool} :
    evaluateTree lib tree record = .ok b ↔ tree.Evaluable (fieldsOf lib record) ∧
      ∃ w, meaning (fieldsOf lib record) tree.booleanized = .ok w ∧ w.truth = b := by
  unfold evaluateTree
  rw [map_eq_pure_bind, Except.bind_eq_ok]
  simp only [evalNode_eq_ok_iff, Except.pure_eq_ok]
  constructor
  · rintro ⟨w, ⟨hevaluable, hw⟩, hb⟩
    exact ⟨hevaluable, w, hw, hb⟩
  · rintro ⟨hevaluable, w, hw, hb⟩
    exact ⟨w, ⟨hevaluable, hw⟩, hb⟩

/-- A rule that is parsed is evaluated as its tree. -/
theorem evaluateRule_of_parse {rule : String} {tree : PyExpr} (h : lib.parse rule = .ok tree) :
    evaluateRule lib rule record = evaluateTree lib tree record := by
  simp only [evaluateRule, h]

/-! ## Agreement -/

/-- The evaluator agrees with Python on a rule exactly when, where the rule has a value in Python,
    each operand has one, those that Python skips too, and the rule keeps its truth value with the
    truth value of each `and` and `or` in place of the value of an operand. -/
theorem evaluateRule_agrees_iff {rule : String} {e : PyExpr} (hparse : lib.parse rule = .ok e)
    (hgrammar : e.InGrammar) :
    (∀ v, meaning (fieldsOf lib record) e = .ok v → evaluateRule lib rule record = .ok v.truth) ↔
      ∀ v, meaning (fieldsOf lib record) e = .ok v →
        e.Valued (fieldsOf lib record) ∧
          ∃ w, meaning (fieldsOf lib record) e.booleanized = .ok w ∧ w.truth = v.truth := by
  rw [evaluateRule_of_parse hparse]
  constructor
  · intro h v hv
    obtain ⟨hevaluable, hw⟩ := evaluateTree_eq_ok_iff.mp (h v hv)
    exact ⟨hevaluable.2, hw⟩
  · intro h v hv
    obtain ⟨hvalued, hw⟩ := h v hv
    exact evaluateTree_eq_ok_iff.mpr ⟨⟨hgrammar, hvalued⟩, hw⟩

/-! ## Two rules -/

theorem one_le_2026 : 1 ≤ 2026 := by decide

theorem july_mem_months : 1 ≤ 7 ∧ 7 ≤ 12 := by decide

theorem fifteenth_mem_july : 1 ≤ 15 ∧ 15 ≤ Civil.daysInMonth 2026 7 := by decide

/-- The fifteenth of July. -/
def fifteenthOfJuly : Civil.Date :=
  ⟨2026, 7, 15, one_le_2026, july_mem_months, fifteenth_mem_july⟩

/-- The standard library on some rules and a date. -/
def pythonOn (rules : List (String × PyExpr)) : PythonLibrary where
  parse rule :=
    match rules.lookup rule with
    | some tree => .ok tree
    | none => .error (.syntaxError "invalid syntax")
  fromisoformat s := if s = "2026-07-15" then some fifteenthOfJuly else none
  text := ⟨fun _ => "", fun _ => ""⟩

/-- `days > 0`. -/
def daysPositive : PyExpr := .compare (.name "days") [(.allowed .gt, .constant (.int 0))]

/-- The standard library on this rule. -/
def pythonOnDays : PythonLibrary := pythonOn [("days > 0", daysPositive)]

/-- Three days. -/
def threeDays : Json := .obj [("days", .int 3)]

/-- The rule `days > 0` on three days. -/
theorem evaluateRule_agrees_days :
    (∀ v, meaning (fieldsOf pythonOnDays threeDays) daysPositive = .ok v →
      evaluateRule pythonOnDays "days > 0" threeDays = .ok v.truth) ↔
      ∀ v, meaning (fieldsOf pythonOnDays threeDays) daysPositive = .ok v →
        daysPositive.Valued (fieldsOf pythonOnDays threeDays) ∧
          ∃ w, meaning (fieldsOf pythonOnDays threeDays) daysPositive.booleanized = .ok w ∧
            w.truth = v.truth :=
  evaluateRule_agrees_iff rfl (by
    simp [PyExpr.InGrammar, daysPositive, PyExpr.operands, PyExpr.comparators, PyExpr.Allowed])

/-- `endDate == None or endDate > startDate`. -/
def endsLater : PyExpr :=
  .boolOp .or [.compare (.name "endDate") [(.allowed .eq, .constant .none)],
    .compare (.name "endDate") [(.allowed .gt, .name "startDate")]]

/-- The standard library on this rule. -/
def pythonOnEnds : PythonLibrary :=
  pythonOn [("endDate == None or endDate > startDate", endsLater)]

/-- A start without an end. -/
def openEnded : Json := .obj [("endDate", .null), ("startDate", .str "2026-07-15")]

/-- A rule that holds in Python, which skips the comparison with a missing date, raises. -/
theorem evaluateRule_skipped_operand :
    pythonOnEnds.parse "endDate == None or endDate > startDate" = .ok endsLater ∧
      endsLater.InGrammar ∧
      meaning (fieldsOf pythonOnEnds openEnded) endsLater = .ok (.bool true) ∧
      evaluateRule pythonOnEnds "endDate == None or endDate > startDate" openEnded =
        .error (.other (.other
          "'>' not supported between instances of 'NoneType' and 'datetime.date'")) := by
  refine ⟨rfl, ?_, by decide +kernel, by decide +kernel⟩
  simp [PyExpr.InGrammar, endsLater, PyExpr.operands, PyExpr.operandsOf, PyExpr.comparators,
    PyExpr.Allowed]

end AgnoRuntime
