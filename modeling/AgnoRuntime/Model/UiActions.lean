import AgnoRuntime.ForStd.Prog
import AgnoRuntime.Model.Hierarchy

/-!
# UI actions

`app/uiaction/models.py` and `app/uiaction/service.py`: the actions, and the tool with which an
agent proposes them, one a call. Each tool appends to its own collector, and numbers an action
by the length of that collector.
-/

namespace AgnoRuntime

/-- `ActionType`. -/
inductive ActionType where
  | fillForm | setValue | selectValue | clickButton | navigate | openDialog | closeDialog
  | uploadFile | downloadFile | focusComponent | highlightComponent | expandTree | collapseTree
  | refreshGrid | validateForm
deriving DecidableEq

namespace ActionType

/-- Every member, in order. -/
def members : List ActionType :=
  [fillForm, setValue, selectValue, clickButton, navigate, openDialog, closeDialog, uploadFile,
    downloadFile, focusComponent, highlightComponent, expandTree, collapseTree, refreshGrid,
    validateForm]

/-- `ActionType.value`. -/
def value : ActionType → String
  | fillForm => "FILL_FORM"
  | setValue => "SET_VALUE"
  | selectValue => "SELECT_VALUE"
  | clickButton => "CLICK_BUTTON"
  | navigate => "NAVIGATE"
  | openDialog => "OPEN_DIALOG"
  | closeDialog => "CLOSE_DIALOG"
  | uploadFile => "UPLOAD_FILE"
  | downloadFile => "DOWNLOAD_FILE"
  | focusComponent => "FOCUS_COMPONENT"
  | highlightComponent => "HIGHLIGHT_COMPONENT"
  | expandTree => "EXPAND_TREE"
  | collapseTree => "COLLAPSE_TREE"
  | refreshGrid => "REFRESH_GRID"
  | validateForm => "VALIDATE_FORM"

/-- `ActionType(value)`; `none` where it raises `ValueError`. -/
def ofValue (v : String) : Option ActionType := members.find? (·.value = v)

/-- `str.upper` on a character, where ASCII letters come out. Any other character stays outside of
    ASCII, or is not a letter: it is left alone. -/
def upperChar (c : Char) : List Char :=
  if 'a' ≤ c ∧ c ≤ 'z' then [Char.ofNat (c.toNat - 32)]
  else match c.toNat with
    | 0x131 => ['I']
    | 0x17f => ['S']
    | 0xdf => ['S', 'S']
    -- the ligatures of f and of s
    | 0xfb00 => ['F', 'F']
    | 0xfb01 => ['F', 'I']
    | 0xfb02 => ['F', 'L']
    | 0xfb03 => ['F', 'F', 'I']
    | 0xfb04 => ['F', 'F', 'L']
    | 0xfb05 | 0xfb06 => ['S', 'T']
    | _ => [c]

/-- `str.upper`, as far as an action type can come out of it. -/
def upper (s : String) : String := String.ofList (s.toList.flatMap upperChar)

end ActionType

example : ActionType.ofValue (ActionType.upper "set_value") = some .setValue := by decide

/-- `UIAction`, whose `confidence` is between 0 and 1. -/
structure UIAction where
  actionType : ActionType
  target : String
  businessMeaning : Option String
  value : Option String
  reason : Option String
  confidence : {c : ℚ // 0 ≤ c ∧ c ≤ 1}
  executionOrder : Nat
deriving DecidableEq

/-- `UIActionPlan.sorted_actions`. -/
def sortedActions (actions : List UIAction) : List UIAction :=
  actions.mergeSort fun a b => a.executionOrder ≤ b.executionOrder

/-- The field whose constraint `UIAction` fails on. -/
inductive UIActionError where
  | confidence
deriving DecidableEq

/-- The arguments of `propose_ui_action`. A `confidence` that is not finite is `none`. -/
structure UIActionArgs where
  actionType : String
  target : String
  value : Option String
  reason : Option String
  businessMeaning : Option String
  confidence : Option ℚ
deriving DecidableEq

/-- `Field(ge=0.0, le=1.0)`. -/
def checkConfidence (confidence : Option ℚ) : Except UIActionError {c : ℚ // 0 ≤ c ∧ c ≤ 1} :=
  match confidence with
  | some c => if h : 0 ≤ c ∧ c ≤ 1 then .ok ⟨c, h⟩ else .error .confidence
  | none => .error .confidence

/-- `UIActionPlanCollector`. -/
structure UIActionPlanCollector where
  actions : List UIAction

namespace UIActionPlanCollector

/-- A new collector. -/
def empty : UIActionPlanCollector := ⟨[]⟩

/-- `collector.actions.append(action)`. -/
def append (collector : UIActionPlanCollector) (action : UIAction) : UIActionPlanCollector :=
  ⟨collector.actions ++ [action]⟩

@[simp] theorem append_actions (collector : UIActionPlanCollector) (action : UIAction) :
    (collector.append action).actions = collector.actions ++ [action] := rfl

end UIActionPlanCollector

namespace UIActionSkillService

/-- Whether `build_action_tool` returns a tool. -/
def buildsActionTool (featureUiSkills : Bool) (scan : ScanOrder Skill) (m : Metadata)
    (agentId : Uuid) : Bool :=
  featureUiSkills && (SkillRepository.listSkillsForAgent scan m agentId).any (·.skillType = .ui)

/-- `propose_ui_action`. -/
def proposeUiAction (args : UIActionArgs) : Prog UIActionError UIActionPlanCollector String :=
  match ActionType.ofValue (ActionType.upper args.actionType) with
  | none => pure ("Unknown actionType '" ++ args.actionType ++ "' - not added to the plan.")
  | some normalizedType => do
    let confidence ← Prog.lift (checkConfidence args.confidence)
    let collector ← Prog.read
    let action : UIAction := {
      actionType := normalizedType
      target := args.target
      value := args.value
      reason := args.reason
      businessMeaning := args.businessMeaning
      confidence := confidence
      executionOrder := collector.actions.length }
    Prog.modify (·.append action)
    return "Action '" ++ normalizedType.value ++ "' on '" ++ args.target ++
      "' added to the UI action plan."

end UIActionSkillService

end AgnoRuntime
