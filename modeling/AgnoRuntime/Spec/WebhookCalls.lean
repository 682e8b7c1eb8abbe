import AgnoRuntime.Model.Requests
import AgnoRuntime.Model.Webhooks

/-!
# Calls of webhooks

A call is refused if its webhook is missing or disabled, if it comes from an ip that is not allowed,
or if its signature is not the one of the body. Every other call runs the workflow, on the
scalar that the field path of the webhook leads to, and otherwise on the whole body.

Two things break this. A signature that is not ASCII is not compared but raises a `TypeError`. And
the text that is taken need not be an input: it is the text of a list or a dict where the path leads
to one, and it is no valid input where it is empty or has a surrogate.
-/

namespace AgnoRuntime

open Civil Except PyText WorkflowWebhookRepository WorkflowWebhookService

variable {lib : WebhookLib}

/-! ## Signatures -/

theorem isAscii_hex (bytes : List UInt8) : isAscii (hex bytes) = true := by
  have hdigit : ∀ d < 16, (Json.hexDigit d).toNat < 128 := by decide
  rw [isAscii, hex, String.toList_ofList, List.all_flatMap, List.all_eq_true]
  intro b _
  have hb := b.toNat_lt
  have hhigh := hdigit (b.toNat / 16) (by omega)
  have hlow := hdigit (b.toNat % 16) (by omega)
  simp [hhigh, hlow]

/-- A digest has digits. -/
theorem expected_ne_empty (secret : String) (rawBody : List UInt8) :
    lib.expected secret rawBody ≠ "" := by
  intro h
  have hdigits := congrArg (fun s => s.toList.length) h
  -- two for each of the 32 bytes
  rw [WebhookLib.expected, hex, String.toList_ofList, List.length_flatMap] at hdigits
  simp at hdigits

/-- An ASCII signature, or none, is accepted exactly if it is the one of the body. -/
theorem verifySignature_ascii {secret : String} {rawBody : List UInt8}
    {signatureHeader : Option String} (h : ∀ t, signatureHeader = some t → isAscii t = true) :
    verifySignature lib secret rawBody signatureHeader =
      .ok (decide (signatureHeader = some (lib.expected secret rawBody))) := by
  cases signatureHeader with
  | none => simp [verifySignature]
  | some header =>
    rw [verifySignature]
    split
    · rename_i hempty
      rw [hempty, Except.ok.injEq, eq_comm, decide_eq_false_iff_not, Option.some.injEq]
      exact (expected_ne_empty secret rawBody).symm
    · rw [compareDigest, h header rfl, WebhookLib.expected, isAscii_hex, Bool.and_self, if_pos rfl]
      simp only [eq_comm, Option.some.injEq]

/-- A signature that is not ASCII is not compared. -/
theorem verifySignature_notAscii {secret t : String} {rawBody : List UInt8}
    (h : isAscii t = false) : verifySignature lib secret rawBody (some t) =
      .error (.other "comparing strings with non-ASCII characters is not supported") := by
  have hne : t ≠ "" := by
    rintro rfl
    cases h
  rw [verifySignature, if_neg hne, compareDigest, h, Bool.and_false]
  rfl

/-! ## Who may call -/

/-- The checks that a call should pass. -/
structure Admitted (lib : WebhookLib) (webhook : WorkflowWebhook) (rawBody : List UInt8)
    (sourceIp signatureHeader : Option String) : Prop where
  enabled : webhook.enabled = true
  sourceIp : ∀ ips, webhook.allowedSourceIps = some ips → ips ≠ [] →
    ∃ ip ∈ ips, sourceIp = some ip
  signature : ∀ secret, webhook.secret = some secret → secret ≠ "" →
    signatureHeader = some (lib.expected secret rawBody)

/-- What a call that should pass them not is answered with. -/
inductive IsRefusal : PyError → Prop
  | notFound (message : String) : IsRefusal (.notFound message)
  | validationFailed (message : String) : IsRefusal (.validationFailed message)

/-- The signature can be compared, if the checks get that far. -/
def HeaderReadable (webhook : WorkflowWebhook) (sourceIp signatureHeader : Option String) : Prop :=
  webhook.enabled = true → ipAllowed webhook sourceIp = true → truthy webhook.secret = true →
    ∀ t, signatureHeader = some t → isAscii t = true

theorem ipAllowed_iff {webhook : WorkflowWebhook} {sourceIp : Option String} :
    ipAllowed webhook sourceIp = true ↔
      ∀ ips, webhook.allowedSourceIps = some ips → ips ≠ [] → ∃ ip ∈ ips, sourceIp = some ip := by
  rw [ipAllowed]
  split
  · rename_i hnone
    simp [hnone]
  · rename_i hempty
    simp [hempty]
  · rename_i ips hne hips
    rw [hips]
    cases sourceIp <;> simp_all

/-- What the signature of a webhook without a secret, or with one, has to be. -/
theorem signature_iff {webhook : WorkflowWebhook} {rawBody : List UInt8}
    {signatureHeader : Option String} :
    (∀ secret, webhook.secret = some secret → secret ≠ "" →
      signatureHeader = some (lib.expected secret rawBody)) ↔
    (truthy webhook.secret = true →
      signatureHeader = some (lib.expected (webhook.secret.getD "") rawBody)) := by
  constructor
  · intro h hsecret
    obtain ⟨secret, hsome, hne⟩ := truthy_iff_exists.mp hsecret
    rw [hsome]
    exact h secret hsome hne
  · intro h secret hsome hne
    have hheader := h (truthy_iff_exists.mpr ⟨secret, hsome, hne⟩)
    rwa [hsome] at hheader

section Admit

variable {webhooks : WebhookTable} {token : String} {rawBody : List UInt8}
  {sourceIp signatureHeader : Option String} {webhook : WorkflowWebhook}

theorem accept_missing (hget : getByToken webhooks token = none) :
    accept lib webhooks token rawBody sourceIp signatureHeader =
      .error (.notFound "Webhook not found or disabled") := by
  rw [accept, hget]
  rfl

theorem accept_disabled (hget : getByToken webhooks token = some webhook)
    (henabled : ¬webhook.enabled = true) :
    accept lib webhooks token rawBody sourceIp signatureHeader =
      .error (.notFound "Webhook not found or disabled") := by
  rw [accept, hget, Option.filter_some, if_neg henabled]

theorem accept_foreignIp (hget : getByToken webhooks token = some webhook)
    (henabled : webhook.enabled = true) (hip : ¬ipAllowed webhook sourceIp = true) :
    accept lib webhooks token rawBody sourceIp signatureHeader =
      .error (.validationFailed "Source IP not allowed for this webhook") := by
  rw [Bool.not_eq_true] at hip
  rw [accept, hget, Option.filter_some, if_pos henabled]
  simp only [hip, raiseUnless_false_bind]

/-- A call that the first checks pass is decided by its signature, if the webhook has a secret. -/
theorem accept_known (hget : getByToken webhooks token = some webhook)
    (henabled : webhook.enabled = true) (hip : ipAllowed webhook sourceIp = true) :
    accept lib webhooks token rawBody sourceIp signatureHeader =
      if truthy webhook.secret then
        verifySignature lib (webhook.secret.getD "") rawBody signatureHeader >>= fun verified =>
          raiseUnless verified (.validationFailed "Invalid or missing webhook signature") >>=
            fun _ => .ok webhook
      else .ok webhook := by
  have hfilter : (some webhook).filter (·.enabled) = some webhook := by
    rw [Option.filter_some, if_pos henabled]
  simp only [accept, hget, hfilter, hip, raiseUnless_true_bind]
  rfl

/-- The signature, where it can be compared. -/
theorem accept_signed (hget : getByToken webhooks token = some webhook)
    (henabled : webhook.enabled = true) (hip : ipAllowed webhook sourceIp = true)
    (hsecret : truthy webhook.secret = true)
    (hascii : ∀ t, signatureHeader = some t → isAscii t = true) :
    accept lib webhooks token rawBody sourceIp signatureHeader =
      if signatureHeader = some (lib.expected (webhook.secret.getD "") rawBody) then .ok webhook
      else .error (.validationFailed "Invalid or missing webhook signature") := by
  rw [accept_known hget henabled hip, if_pos hsecret, verifySignature_ascii hascii]
  split
  · rename_i hsigned
    rw [decide_eq_true hsigned]
    rfl
  · rename_i hsigned
    rw [decide_eq_false hsigned]
    rfl

/-- A call with a signature that can be compared, or none, is refused or not as it should be. -/
theorem accept_cases (hget : getByToken webhooks token = some webhook)
    (hread : HeaderReadable webhook sourceIp signatureHeader) :
    (Admitted lib webhook rawBody sourceIp signatureHeader ∧
      accept lib webhooks token rawBody sourceIp signatureHeader = .ok webhook) ∨
    (¬Admitted lib webhook rawBody sourceIp signatureHeader ∧
      ∃ e, IsRefusal e ∧ accept lib webhooks token rawBody sourceIp signatureHeader = .error e) := by
  -- the checks in the order of the code: the first one that fails is what is raised
  by_cases henabled : webhook.enabled = true
  case neg =>
    exact .inr ⟨fun h => henabled h.enabled, _, .notFound _, accept_disabled hget henabled⟩
  by_cases hip : ipAllowed webhook sourceIp = true
  case neg =>
    exact .inr ⟨fun h => hip (ipAllowed_iff.mpr h.sourceIp), _, .validationFailed _,
      accept_foreignIp hget henabled hip⟩
  have hadmitted : Admitted lib webhook rawBody sourceIp signatureHeader ↔
      (truthy webhook.secret = true →
        signatureHeader = some (lib.expected (webhook.secret.getD "") rawBody)) :=
    ⟨fun h => signature_iff.mp h.signature,
      fun h => ⟨henabled, ipAllowed_iff.mp hip, signature_iff.mpr h⟩⟩
  by_cases hsecret : truthy webhook.secret = true
  case neg =>
    refine .inl ⟨hadmitted.mpr fun h => absurd h hsecret, ?_⟩
    rw [accept_known hget henabled hip, if_neg hsecret]
  have hsigned : accept lib webhooks token rawBody sourceIp signatureHeader = _ :=
    accept_signed hget henabled hip hsecret (hread henabled hip hsecret)
  by_cases hmatch : signatureHeader = some (lib.expected (webhook.secret.getD "") rawBody)
  · exact .inl ⟨hadmitted.mpr fun _ => hmatch, hsigned.trans (if_pos hmatch)⟩
  · exact .inr ⟨fun h => hmatch (hadmitted.mp h hsecret), _, .validationFailed _,
      hsigned.trans (if_neg hmatch)⟩

/-- A signature that cannot be compared is not the one of the body, and not refused either. -/
theorem accept_unreadable (hget : getByToken webhooks token = some webhook)
    (hread : ¬HeaderReadable webhook sourceIp signatureHeader) :
    ¬Admitted lib webhook rawBody sourceIp signatureHeader ∧
    accept lib webhooks token rawBody sourceIp signatureHeader =
      .error (.other "comparing strings with non-ASCII characters is not supported") := by
  simp only [HeaderReadable, Classical.not_imp, not_forall, Bool.not_eq_true] at hread
  obtain ⟨henabled, hip, hsecret, t, rfl, hascii⟩ := hread
  constructor
  · intro h
    have hexpected := Option.some.inj (signature_iff.mp h.signature hsecret)
    rw [hexpected, WebhookLib.expected, isAscii_hex] at hascii
    cases hascii
  · rw [accept_known hget henabled hip, if_pos hsecret, verifySignature_notAscii hascii]
    rfl

end Admit

/-! ## The input -/

/-- The value that the field path leads to, if one is set. -/
def valueAt (body : List (PyText × PyJson)) (fieldPath : Option String) : Option PyJson :=
  if truthy fieldPath then resolve (fieldParts (fieldPath.getD "")) (.obj body) else none

/-- The input that the webhook is set up for: the text of a scalar, or of the whole body. -/
def intendedInput (body : List (PyText × PyJson)) (fieldPath : Option String) : PyText :=
  ((valueAt body fieldPath).bind PyJson.scalarText?).getD (PyJson.obj body).dumps

/-- The field path leads to a scalar with a text that can be an input, or nowhere, and then the
    text of the body can be one. -/
def InputFits (body : List (PyText × PyJson)) (fieldPath : Option String) : Prop :=
  match valueAt body fieldPath with
  | none => PyJson.MembersUnicode body
  | some (.str s) => s ≠ [] ∧ s.IsUnicode
  | some (.arr _) | some (.obj _) => False
  | some _ => True

theorem extractInput_eq (body : List (PyText × PyJson)) (fieldPath : Option String) :
    extractInput body fieldPath =
      ((valueAt body fieldPath).map fun node => node.scalarText?.getD node.dumps).getD
        (PyJson.obj body).dumps := by
  rw [extractInput, valueAt]
  split
  · split <;> simp_all
  · rfl

/-- Each key leads to a shorter text. -/
theorem length_dumps_resolve {parts : List PyText} {v w : PyJson} (h : resolve parts v = some w) :
    w.dumps.length + parts.length ≤ v.dumps.length := by
  induction parts generalizing v with
  | nil =>
    rw [resolve, Option.some.injEq] at h
    rw [h, List.length_nil, Nat.add_zero]
  | cons part parts ih =>
    cases v with
    | obj members =>
      obtain ⟨member, hmember, hrest⟩ := Option.bind_eq_some_iff.mp h
      have hlt := PyJson.length_dumps_lt (PyJson.mem_of_get? hmember)
      have hle := ih hrest
      rw [List.length_cons]
      omega
    | _ => cases h

/-- A path has a key at least. -/
theorem fieldParts_ne_nil (fieldPath : String) : fieldParts fieldPath ≠ [] := by
  rw [fieldParts, Ne, List.map_eq_nil_iff]
  exact List.splitOn_ne_nil _ _

/-- The text of a value within the body is not the text of the body. -/
theorem dumps_ne_of_valueAt {body : List (PyText × PyJson)} {fieldPath : Option String} {v : PyJson}
    (h : valueAt body fieldPath = some v) : v.dumps ≠ (PyJson.obj body).dumps := by
  rw [valueAt] at h
  split at h
  · have hle := length_dumps_resolve h
    have hparts := List.length_pos_iff.mpr (fieldParts_ne_nil (fieldPath.getD ""))
    intro heq
    rw [heq] at hle
    omega
  · cases h

/-- The text of a number has a digit. -/
theorem encodeInt_ne_nil (i : Int) : Json.encodeInt i ≠ [] := by
  rw [Json.encodeInt, Ne, List.append_eq_nil_iff, not_and]
  exact fun _ => Nat.toDigits_ne_nil

theorem strFloat_ne_nil (f : JsonFloat) : PyJson.strFloat f ≠ [] := by
  cases f with
  | decimal d => simp [PyJson.strFloat, ofChars, Json.encodeFloat, Nat.toDigits_ne_nil]
  | nan => decide
  | infinity negative => cases negative <;> decide

theorem isUnicode_strFloat (f : JsonFloat) : (PyJson.strFloat f).IsUnicode := by
  cases f <;> exact isUnicode_ofChars _

/-- Only a string can be a scalar whose text is no input. -/
theorem scalarText?_fits {v : PyJson} {t : PyText} (h : v.scalarText? = some t) :
    t.IsUnicode ∧ t ≠ [] ↔ ∀ s, v = .str s → s ≠ [] ∧ s.IsUnicode := by
  cases v with
  -- Any scalar but a string has a text that is neither empty nor outside of Unicode.
  | null =>
    cases h
    exact iff_of_true ⟨isUnicode_ofString _, by decide⟩ fun _ hs => by cases hs
  | bool b =>
    cases h
    exact iff_of_true ⟨isUnicode_ofString _, by cases b <;> decide⟩ fun _ hs => by cases hs
  | int i =>
    cases h
    refine iff_of_true ⟨isUnicode_ofChars _, ?_⟩ fun _ hs => by cases hs
    rw [ofChars, Ne, List.map_eq_nil_iff]
    exact encodeInt_ne_nil i
  | float f =>
    cases h
    exact iff_of_true ⟨isUnicode_strFloat f, strFloat_ne_nil f⟩ fun _ hs => by cases hs
  -- A string is its own text.
  | str s =>
    cases h
    simp [and_comm]
  | arr _ => cases h
  | obj _ => cases h

/-- The text that is taken is the intended one and can be an input exactly if the body fits. -/
theorem extractInput_fits_iff {body : List (PyText × PyJson)} {fieldPath : Option String} :
    extractInput body fieldPath = intendedInput body fieldPath ∧
      (extractInput body fieldPath).IsUnicode ∧ extractInput body fieldPath ≠ [] ↔
    InputFits body fieldPath := by
  rw [extractInput_eq, intendedInput, InputFits]
  cases hvalue : valueAt body fieldPath with
  | none => simp [PyJson.isUnicode_dumps, PyJson.IsUnicode, PyJson.dumps_obj_ne_nil]
  | some v =>
    cases htext : v.scalarText? with
    | none =>
      -- a list or a dict: its text is taken, which is not the one of the body
      have hne : ¬v.dumps = (PyJson.obj body).dumps := dumps_ne_of_valueAt hvalue
      cases v <;> simp_all [PyJson.scalarText?]
    | some t =>
      have hfits := scalarText?_fits htext
      simp only [Option.map_some, Option.getD_some, Option.bind_some, htext, true_and, hfits]
      cases v <;> simp_all [PyJson.scalarText?]

/-- A request is made of the strings that are not empty. -/
theorem create_eq_ok_iff {t : PyText} {userId : Option String} {request : WorkflowRunRequest} :
    WorkflowRunRequest.create t userId = .ok request ↔
      t = ofString request.input ∧ request.input ≠ "" ∧ request = ⟨request.input, none, userId⟩ := by
  rw [WorkflowRunRequest.create]
  split
  · -- a text with a lone surrogate
    rename_i hnone
    refine iff_of_false (by simp) fun h => ?_
    rw [toString?_eq_some.mpr h.1] at hnone
    cases hnone
  · rename_i s hs
    rw [toString?_eq_some] at hs
    subst hs
    split
    · rename_i hempty
      refine iff_of_false (by simp) fun h => h.2.1 ?_
      rw [← ofString_eq_nil, ← h.1, ofString_eq_nil]
      exact hempty
    · rename_i hne
      constructor
      · intro h
        cases h
        exact ⟨rfl, hne, rfl⟩
      · intro h
        have hinput := ofString_injective h.1
        rw [h.2.2, ← hinput]

/-! ## Calls -/

/-- What a call of the webhook should come to, whatever the workflow does: it is refused, or
    the workflow is run once, on the intended input. -/
structure AnsweredAsIntended (lib : WebhookLib) (webhooks : WebhookTable) (token : String)
    (rawBody : List UInt8) (sourceIp signatureHeader : Option String) : Prop where
  refused : (∀ webhook, getByToken webhooks token = some webhook →
      ¬Admitted lib webhook rawBody sourceIp signatureHeader) →
    ∃ e, IsRefusal e ∧
      ∀ run, trigger lib run webhooks token rawBody sourceIp signatureHeader = Prog.raise e
  runs : ∀ webhook, getByToken webhooks token = some webhook →
    Admitted lib webhook rawBody sourceIp signatureHeader →
    ∃ input, ofString input = intendedInput (parseBody lib rawBody) webhook.inputFieldPath ∧
      input ≠ "" ∧
      ∀ run, trigger lib run webhooks token rawBody sourceIp signatureHeader =
        run webhook.workflowId ⟨input, none, webhook.userId⟩

section Trigger

variable {webhooks : WebhookTable} {token : String} {rawBody : List UInt8}
  {sourceIp signatureHeader : Option String} {webhook : WorkflowWebhook} {e : PyError}

theorem trigger_of_accept_error
    (h : accept lib webhooks token rawBody sourceIp signatureHeader = .error e)
    (run : WorkflowRunner.Run) :
    trigger lib run webhooks token rawBody sourceIp signatureHeader = Prog.raise e := by
  rw [trigger, h]
  rfl

theorem trigger_of_create_error
    (h : accept lib webhooks token rawBody sourceIp signatureHeader = .ok webhook)
    (hcreate : WorkflowRunRequest.create
      (extractInput (parseBody lib rawBody) webhook.inputFieldPath) webhook.userId = .error e)
    (run : WorkflowRunner.Run) :
    trigger lib run webhooks token rawBody sourceIp signatureHeader = Prog.raise e := by
  funext w
  rw [trigger, h, Prog.bind_apply_ok (Prog.lift_apply _ w), hcreate]
  rfl

theorem trigger_of_create_ok {request : WorkflowRunRequest}
    (h : accept lib webhooks token rawBody sourceIp signatureHeader = .ok webhook)
    (hcreate : WorkflowRunRequest.create
      (extractInput (parseBody lib rawBody) webhook.inputFieldPath) webhook.userId = .ok request)
    (run : WorkflowRunner.Run) :
    trigger lib run webhooks token rawBody sourceIp signatureHeader =
      run webhook.workflowId request := by
  funext w
  rw [trigger, h, Prog.bind_apply_ok (Prog.lift_apply _ w), hcreate,
    Prog.bind_apply_ok (Prog.lift_apply _ w)]

/-- Programs that raise are told apart by what they raise. -/
theorem raise_injective {e e' : PyError}
    (h : (Prog.raise e : Svc WorkflowRunResponse) = Prog.raise e') : e = e' :=
  Except.error.inj (congrArg Prod.fst (congrFun h (.start Deployment.store)))

/-- A call that runs the workflow has made a request of that input. -/
theorem create_of_trigger {workflowId : Uuid} {input : String} {userId : Option String}
    (h : accept lib webhooks token rawBody sourceIp signatureHeader = .ok webhook)
    (hruns : ∀ run, trigger lib run webhooks token rawBody sourceIp signatureHeader =
      run workflowId ⟨input, none, userId⟩) :
    ∃ request, WorkflowRunRequest.create
      (extractInput (parseBody lib rawBody) webhook.inputFieldPath) webhook.userId = .ok request ∧
      request.input = input := by
  -- a workflow that returns what it is given
  have hecho := congrFun (hruns fun _ request => pure ⟨0, "", request.input⟩)
    (.start Deployment.store)
  cases hcreate : WorkflowRunRequest.create
      (extractInput (parseBody lib rawBody) webhook.inputFieldPath) webhook.userId with
  | error e =>
    rw [trigger_of_create_error h hcreate] at hecho
    cases congrArg Prod.fst hecho
  | ok request =>
    rw [trigger_of_create_ok h hcreate] at hecho
    refine ⟨request, rfl, ?_⟩
    exact congrArg WorkflowRunResponse.result (Except.ok.inj (congrArg Prod.fst hecho))

/-- Where a call is answered as intended, its signature can be compared. -/
theorem readable_of_intended
    (h : AnsweredAsIntended lib webhooks token rawBody sourceIp signatureHeader)
    (hget : getByToken webhooks token = some webhook) :
    HeaderReadable webhook sourceIp signatureHeader := by
  by_contra hread
  obtain ⟨hnot, haccept⟩ := accept_unreadable hget hread
  obtain ⟨e, hrefusal, hraise⟩ := h.refused fun webhook' hget' => by
    obtain rfl := Option.some.inj (hget.symm.trans hget')
    exact hnot
  -- what is raised is a `TypeError`
  have htype := raise_injective
    ((trigger_of_accept_error haccept fun _ _ => Prog.raise e).symm.trans (hraise _))
  rw [← htype] at hrefusal
  cases hrefusal

/-- And what is taken from the body is the intended input. -/
theorem fits_of_intended
    (h : AnsweredAsIntended lib webhooks token rawBody sourceIp signatureHeader)
    (hget : getByToken webhooks token = some webhook)
    (hadmitted : Admitted lib webhook rawBody sourceIp signatureHeader) :
    InputFits (parseBody lib rawBody) webhook.inputFieldPath := by
  rcases accept_cases hget (readable_of_intended h hget) with ⟨-, haccept⟩ | ⟨hnot, -⟩
  · obtain ⟨input, hinput, -, hruns⟩ := h.runs webhook hget hadmitted
    obtain ⟨request, hcreate, rfl⟩ := create_of_trigger haccept hruns
    obtain ⟨htext, hne, -⟩ := create_eq_ok_iff.mp hcreate
    rw [← extractInput_fits_iff, htext]
    exact ⟨hinput, isUnicode_ofString _, fun hnil => hne (ofString_eq_nil.mp hnil)⟩
  · exact absurd hadmitted hnot

end Trigger

/-- A call is answered as intended exactly if its signature can be compared, where it is looked at,
    and its body fits the field path, where it gets that far. -/
theorem trigger_asIntended_iff (lib : WebhookLib) (webhooks : WebhookTable) (token : String)
    (rawBody : List UInt8) (sourceIp signatureHeader : Option String) :
    AnsweredAsIntended lib webhooks token rawBody sourceIp signatureHeader ↔
      ∀ webhook, getByToken webhooks token = some webhook →
        HeaderReadable webhook sourceIp signatureHeader ∧
        (Admitted lib webhook rawBody sourceIp signatureHeader →
          InputFits (parseBody lib rawBody) webhook.inputFieldPath) := by
  constructor
  · intro h webhook hget
    exact ⟨readable_of_intended h hget, fits_of_intended h hget⟩
  · intro h
    constructor
    -- A request that is not admitted is refused for one of the reasons.
    · intro hnone
      cases hget : getByToken webhooks token with
      | none => exact ⟨_, .notFound _, trigger_of_accept_error (accept_missing hget)⟩
      | some webhook =>
        rcases accept_cases hget (h webhook hget).1 with ⟨hadmitted, -⟩ | ⟨-, e, hrefusal, haccept⟩
        · exact absurd hadmitted (hnone webhook hget)
        · exact ⟨e, hrefusal, trigger_of_accept_error haccept⟩
    -- The input is extracted as intended, and the run can be created from it.
    · intro webhook hget hadmitted
      obtain ⟨hread, hfits⟩ := h webhook hget
      obtain ⟨hintended, hunicode, hne⟩ := extractInput_fits_iff.mpr (hfits hadmitted)
      obtain ⟨input, hinput⟩ := isUnicode_iff_exists.mp hunicode
      have hempty : input ≠ "" := by
        rintro rfl
        exact hne hinput
      -- The request is admitted, so the service accepts it.
      rcases accept_cases hget hread with ⟨-, haccept⟩ | ⟨hnot, -⟩
      · refine ⟨input, hinput.symm.trans hintended, hempty, ?_⟩
        exact trigger_of_create_ok haccept (create_eq_ok_iff.mpr ⟨hinput, hempty, rfl⟩)
      · exact absurd hadmitted hnot

namespace LeadWebhooks

/-- A webhook with a secret. -/
def signed : WorkflowWebhook := ⟨1, 7, "signed", some "k", none, none, none, true, none⟩

/-- A webhook that anyone may call, which takes the message. -/
def unsigned : WorkflowWebhook := ⟨2, 7, "open", none, some "message", none, none, true, none⟩

/-- The stored webhooks. -/
def stored : WebhookTable := ⟨[signed, unsigned], by decide⟩

/-- A body whose message is empty. -/
def emptyMessage : String := "\x7b\x22message\x22: \x22\x22\x7d"

/-- A body whose message is a dict. -/
def dictMessage : String := "\x7b\x22message\x22: \x7b\x22text\x22: \x22hi\x22\x7d\x7d"

/-- `json.loads` on these bodies; no digest is asked for. -/
def python : WebhookLib where
  loads raw :=
    if raw = encodeUtf8 emptyMessage then some (.obj [(ofString "message", .str [])])
    else if raw = encodeUtf8 dictMessage then
      some (.obj [(ofString "message", .obj [(ofString "text", .str (ofString "hi"))])])
    else none
  hmacSha256 _ _ := Vector.replicate 32 0

theorem admitted_unsigned (rawBody : List UInt8) : Admitted python unsigned rawBody none none :=
  ⟨rfl, fun _ h => (by cases h), fun _ h => (by cases h)⟩

end LeadWebhooks

open LeadWebhooks in
/-- A signature with an accent, whatever the body; an empty message; and a message that is a dict. -/
theorem trigger_leadWebhooks :
    (∀ lib rawBody, ¬AnsweredAsIntended lib stored "signed" rawBody none (some "é")) ∧
    ¬AnsweredAsIntended python stored "open" (encodeUtf8 emptyMessage) none none ∧
    ¬AnsweredAsIntended python stored "open" (encodeUtf8 dictMessage) none none := by
  refine ⟨fun lib rawBody h => ?_, fun h => ?_, fun h => ?_⟩
  · have hget : getByToken stored "signed" = some signed := rfl
    have hread := readable_of_intended h hget
    exact absurd (hread rfl rfl rfl "é" rfl) (by decide)
  · have hget : getByToken stored "open" = some unsigned := rfl
    exact (fits_of_intended h hget (admitted_unsigned _)).1 rfl
  · have hget : getByToken stored "open" = some unsigned := rfl
    exact fits_of_intended h hget (admitted_unsigned _)

end AgnoRuntime
