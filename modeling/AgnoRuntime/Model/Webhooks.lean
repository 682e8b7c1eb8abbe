import AgnoRuntime.ForStd.Except
import AgnoRuntime.ForStd.PyJson
import AgnoRuntime.Model.ScheduleFiring

/-!
# Webhooks

The trigger path of `WorkflowWebhookService` (`app/webhooks/service.py`): the webhook of a token,
the checks on the caller, and the input that is taken from the body. The workflow run is a
parameter, and so are `json.loads` and the digest, which see any bytes.
-/

namespace AgnoRuntime

open Civil Except PyText

/-! ## Stored webhooks -/

/-- `WorkflowWebhook`. -/
structure WorkflowWebhook where
  id : Uuid
  workflowId : Uuid
  webhookToken : String
  secret : Option String
  inputFieldPath : Option String
  allowedSourceIps : Option (List String)
  userId : Option String
  enabled : Bool
  deletedAt : Option DateTime
deriving DecidableEq

instance : SoftDelete WorkflowWebhook := ⟨WorkflowWebhook.deletedAt⟩

/-- The stored webhooks: `uq_workflow_webhook_token` makes the token a key. -/
abbrev WebhookTable : Type := KeyedTable WorkflowWebhook.webhookToken

/-- `WorkflowWebhookRepository.get_by_token`. -/
def WorkflowWebhookRepository.getByToken (webhooks : WebhookTable) (token : String) :
    Option WorkflowWebhook :=
  (webhooks.find? token).filter isLive

/-! ## Signatures -/

/-- What `trigger` calls of the standard library on the bytes of a body. -/
structure WebhookLib where
  /-- `json.loads`; `none` where it raises a `ValueError`. -/
  loads : List UInt8 → Option PyJson
  /-- `hmac.new(key, msg, hashlib.sha256).digest()`. -/
  hmacSha256 : List UInt8 → List UInt8 → Vector UInt8 32

/-- `str.isascii`. -/
def isAscii (s : String) : Bool := s.toList.all fun c => c.toNat < 128

/-- `bytes.hex`. -/
def hex (bytes : List UInt8) : String :=
  String.ofList (bytes.flatMap fun b =>
    [Json.hexDigit (b.toNat / 16), Json.hexDigit (b.toNat % 16)])

/-- `str.encode`. -/
def encodeUtf8 (s : String) : List UInt8 := s.toList.flatMap String.utf8EncodeChar

/-- `hmac.compare_digest` on strings. -/
def compareDigest (a b : String) : Except PyError Bool :=
  if isAscii a && isAscii b then .ok (a = b)
  else .error (.other "comparing strings with non-ASCII characters is not supported")

/-- `hmac.new(secret.encode(), raw_body, hashlib.sha256).hexdigest()`. -/
def WebhookLib.expected (lib : WebhookLib) (secret : String) (rawBody : List UInt8) : String :=
  hex (lib.hmacSha256 (encodeUtf8 secret) rawBody).toList

/-- `verify_signature`. -/
def verifySignature (lib : WebhookLib) (secret : String) (rawBody : List UInt8)
    (signatureHeader : Option String) : Except PyError Bool :=
  match signatureHeader with
  | none => .ok false
  | some header =>
    if header = "" then .ok false else compareDigest (lib.expected secret rawBody) header

/-! ## The input -/

/-- The loop of `extract_input`: the node that the keys lead to. -/
def resolve : List PyText → PyJson → Option PyJson
  | [], node => some node
  | part :: parts, .obj members => (PyJson.get? members part).bind (resolve parts)
  | _ :: _, _ => none

/-- `field_path.split(".")`. -/
def fieldParts (fieldPath : String) : List PyText := (fieldPath.toList.splitOn '.').map ofChars

/-- `extract_input`. -/
def extractInput (body : List (PyText × PyJson)) (fieldPath : Option String) : PyText :=
  if truthy fieldPath then
    match resolve (fieldParts (fieldPath.getD "")) (.obj body) with
    | none => (PyJson.obj body).dumps
    | some node => node.scalarText?.getD node.dumps
  else (PyJson.obj body).dumps

/-- `WorkflowRunRequest(input=..., user_id=...)`. -/
def WorkflowRunRequest.create (input : PyText) (userId : Option String) :
    Except PyError WorkflowRunRequest :=
  match input.toString? with
  | none => .error (.other
      "Input should be a valid string, unable to parse raw data as a unicode string")
  | some s =>
    if s = "" then .error (.other "String should have at least 1 character")
    else .ok ⟨s, none, userId⟩

namespace WorkflowWebhookService

variable (lib : WebhookLib)

/-- What `trigger` makes of the bytes of a body: a dict. -/
def parseBody (rawBody : List UInt8) : List (PyText × PyJson) :=
  match lib.loads (if rawBody = [] then encodeUtf8 "\x7b\x7d" else rawBody) with
  | none => []
  | some (.obj members) => members
  | some v => [(ofString "value", v)]

/-- `webhook.allowed_source_ips and source_ip not in webhook.allowed_source_ips` is false. -/
def ipAllowed (webhook : WorkflowWebhook) (sourceIp : Option String) : Bool :=
  match webhook.allowedSourceIps with
  | none | some [] => true
  | some ips => sourceIp.any fun ip => ip ∈ ips

/-- The checks of `trigger`. -/
def accept (webhooks : WebhookTable) (token : String) (rawBody : List UInt8)
    (sourceIp signatureHeader : Option String) : Except PyError WorkflowWebhook :=
  match (WorkflowWebhookRepository.getByToken webhooks token).filter (·.enabled) with
  | none => .error (.notFound "Webhook not found or disabled")
  | some webhook => do
    raiseUnless (ipAllowed webhook sourceIp)
      (.validationFailed "Source IP not allowed for this webhook")
    if truthy webhook.secret then
      let verified ← verifySignature lib (webhook.secret.getD "") rawBody signatureHeader
      raiseUnless verified (.validationFailed "Invalid or missing webhook signature")
    return webhook

/-- `trigger`, in the session of its request. -/
def trigger (run : WorkflowRunner.Run) (webhooks : WebhookTable) (token : String)
    (rawBody : List UInt8) (sourceIp signatureHeader : Option String) :
    Svc WorkflowRunResponse := do
  let webhook ← Prog.lift (accept lib webhooks token rawBody sourceIp signatureHeader)
  let inputText := extractInput (parseBody lib rawBody) webhook.inputFieldPath
  let request ← Prog.lift (WorkflowRunRequest.create inputText webhook.userId)
  run webhook.workflowId request

end WorkflowWebhookService

end AgnoRuntime
