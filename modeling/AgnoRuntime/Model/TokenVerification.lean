import AgnoRuntime.ForStd.PyValue
import AgnoRuntime.ForStd.Runs
import AgnoRuntime.ForStd.TtlCache
import AgnoRuntime.Model.Identity
import AgnoRuntime.Model.Knowledge

/-!
# Verifying bearer tokens

`verify_bearer_token` and the cache of Keycloak's signing keys
(`app/core/identity.py`). All requests of a process share the cache: between the
request for the keys and its answer, and again while the HTTP client is closed, other
requests run, so the verifications are a system whose steps interleave.

python-jose is a parameter, and so is what Keycloak publishes at which time. Of the
identity, only what the services read is kept.
-/

namespace AgnoRuntime

/-- The settings that verification reads. -/
structure KeycloakSettings where
  featureKeycloakAuth : Bool
  audience : Option String
  issuerUrl : Option String
deriving DecidableEq

/-- A dict of JSON values. -/
abbrev JsonDict : Type := List (String × Json)

/-- `jose.jwt`, where `none` is an exception, and Python's `str` of a JSON value. -/
structure Jose where
  getUnverifiedHeader : String → Option JsonDict
  /-- The token, the key, the algorithm, the audience, the issuer and `verify_aud`. -/
  decode : String → Json → Json → Option String → Option String → Bool → Option JsonDict
  str : Json → String

/-! ## The header -/

/-- The token of an `Authorization` header: `authorization.split(" ", 1)[1].strip()`. -/
def bearerToken (authorization : Option String) : Option String :=
  match authorization with
  | none => none
  | some header =>
    -- no character but these letters has one of them as its lower case
    if (header.toList.take 7).map Char.toLower = "bearer ".toList then
      let token := strip (String.ofList ((header.toList.dropWhile (· ≠ ' ')).drop 1))
      if token = "" then none else some token
    else none

/-! ## The keys -/

/-- `d.get(name)`, `None` where there is no such member. -/
def JsonDict.getOrNone (d : JsonDict) (name : String) : Json := (Json.get? d name).getD .null

/-- `next((k for k in keys if k.get("kid") == kid), None)`; `none` is an exception. -/
def nextKey (kid : Json) : List Json → Option (Option Json)
  | [] => some none
  | .obj key :: keys =>
    if Json.compareBy .eq (JsonDict.getOrNone key "kid") kid = .ok true then some (some (.obj key))
    else nextKey kid keys
  -- only a dict has a `get`
  | _ :: _ => none

/-- What iterating over a value gives; `none` is a `TypeError`. -/
def iterated : Json → Option (List Json)
  | .arr items => some items
  | .obj members => some (members.map fun m => .str m.1)
  | .str s => some (s.toList.map fun c => .str (String.singleton c))
  | .null | .bool _ | .int _ | .float _ => none

/-- The key of a key set that a token names; `none` is an exception. -/
def keyFor (jwks : Option Json) (kid : Json) : Option (Option Json) :=
  match jwks with
  | some (.obj members) => do
    let keys ← iterated ((Json.get? members "keys").getD (.arr []))
    nextKey kid keys
  | _ => none

/-! ## The identity -/

/-- `lstrip("/")`. -/
def lstripSlash (s : String) : String := String.ofList (s.toList.dropWhile (· = '/'))

/-- `_extract_groups`. -/
def extractGroups (str : Json → String) (claims : JsonDict) : List String :=
  match JsonDict.getOrNone claims "groups" with
  | .arr groups => groups.map fun g => lstripSlash (str g)
  | _ =>
    match JsonDict.getOrNone claims "realm_access" with
    | .obj realmAccess =>
      match JsonDict.getOrNone realmAccess "roles" with
      | .arr roles => roles.map str
      | _ => []
    | _ => []

/-- The identity of verified claims; `decode` has refused a `sub` that is no string. -/
def identityOf (str : Json → String) (claims : JsonDict) : Option VerifiedIdentity :=
  match JsonDict.getOrNone claims "sub" with
  | .str sub => if h : sub = "" then none else some ⟨sub, extractGroups str claims, h⟩
  | _ => none

namespace TokenVerification

variable (settings : KeycloakSettings) (jose : Jose)

/-- `s or None`. -/
def orNone (s : Option String) : Option String := if s = some "" then none else s

/-- The claims of a token that a key verifies. -/
def decodeWith (token : String) (header : JsonDict) (key : Json) : Option JsonDict :=
  jose.decode token key ((Json.get? header "alg").getD (.str "RS256")) (orNone settings.audience)
    (orNone settings.issuerUrl) (orNone settings.audience).isSome

/-- The identity of a token that a key verifies. -/
def identityBy (token : String) (header : JsonDict) (key : Json) : Option VerifiedIdentity := do
  let claims ← decodeWith settings jose token header key
  identityOf jose.str claims

/-! ## The system -/

/-- Where a verification stands; `again` tells the second request for the keys from the first, `now`
    is when it began. -/
inductive Phase where
  | waiting
  | fetching (again : Bool) (now : ℚ)
  | answered (again : Bool) (now : ℚ) (jwks : Json)
  | closing (again : Bool) (now : ℚ)
  | accepted (identity : VerifiedIdentity) (key : Json) (time : ℚ)
  | rejected
deriving DecidableEq

/-- The clock, the cache and the verifications. -/
structure System (ι : Type) where
  clock : ℚ
  cache : TtlCache ℚ Json
  phase : ι → Phase

/-- A step of the system. -/
inductive Event (ι : Type) where
  | tick (clock : ℚ)
  | begin (i : ι)
  | answer (i : ι)
  | store (i : ι)
  | close (i : ι)
  | fail (i : ι)

/-- `ttl_seconds`. -/
def ttlSeconds : ℚ := 300

/-- The body of a response, as an attribute that is `None` when it is `null`. -/
def cachedValue (body : Json) : Option Json := if body = .null then none else some body

section Step

variable {ι : Type} [DecidableEq ι]

/-- Change where one verification stands. -/
def System.setPhase (s : System ι) (i : ι) (p : Phase) : System ι :=
  { s with phase := fun j => if j = i then p else s.phase j }

/-- What follows a key set: the key of the token is looked up, and the token decoded. -/
def System.verify (s : System ι) (i : ι) (token : String) (again : Bool) (jwks : Option Json) :
    System ι :=
  match jose.getUnverifiedHeader token with
  | none => s.setPhase i .rejected
  | some header =>
    match keyFor jwks (JsonDict.getOrNone header "kid") with
    | none => s.setPhase i .rejected
    | some (some key) =>
      match identityBy settings jose token header key with
      | some identity => s.setPhase i (.accepted identity key s.clock)
      | none => s.setPhase i .rejected
    | some none =>
      if again then s.setPhase i .rejected
      -- the second request finds no cached keys
      else { s.setPhase i (.fetching true s.clock) with cache := s.cache.invalidate }

variable (published : ℚ → Json) (authorization : ι → Option String) (limit : ℚ)

/-- A verification up to its first request for the keys. -/
def System.begin (s : System ι) (i : ι) : System ι :=
  if settings.featureKeycloakAuth then
    match bearerToken (authorization i) with
    | none => s.setPhase i .rejected
    | some token =>
      match s.cache.fresh? ttlSeconds s.clock with
      | some jwks => s.verify settings jose i token false (some jwks)
      | none => s.setPhase i (.fetching false s.clock)
  else s.setPhase i .rejected

/-- One step. A request for the keys, from reading the clock to its end, takes `limit` at most; the
    `timeout` of the HTTP client bounds each of its operations, not the request as a whole. -/
def System.step (s : System ι) : Event ι → Option (System ι)
  | .tick clock => if s.clock ≤ clock then some { s with clock } else none
  | .begin i =>
    match s.phase i with
    | .waiting => some (s.begin settings jose authorization i)
    | _ => none
  | .answer i =>
    match s.phase i with
    | .fetching again now => some (s.setPhase i (.answered again now (published s.clock)))
    | _ => none
  | .store i =>
    match s.phase i with
    | .answered again now jwks =>
      if s.clock - now ≤ limit then
        some { s.setPhase i (.closing again now) with cache := ⟨cachedValue jwks, now⟩ }
      else none
    | _ => none
  | .close i =>
    match s.phase i with
    | .closing again now =>
      if s.clock - now ≤ limit then
        -- `return self._jwks`: whatever it is by now
        (bearerToken (authorization i)).map fun token =>
          s.verify settings jose i token again s.cache.value
      else none
    | _ => none
  | .fail i =>
    match s.phase i with
    | .fetching _ _ | .answered _ _ _ | .closing _ _ => some (s.setPhase i .rejected)
    | .waiting | .accepted _ _ _ | .rejected => none

/-- No request has come in yet. -/
def System.start (clock : ℚ) : System ι := ⟨clock, ⟨none, 0⟩, fun _ => .waiting⟩

end Step

end TokenVerification

/-! ## A realm that rotates its keys at 100 -/

namespace TokenVerification.Rotation

def settings : KeycloakSettings := ⟨true, some "", none⟩

def oldKey : Json := .obj [("kid", .str "old")]

def newKey : Json := .obj [("kid", .str "new")]

def published (t : ℚ) : Json :=
  if t < 100 then .obj [("keys", .arr [oldKey])] else .obj [("keys", .arr [oldKey, newKey])]

/-- Two tokens, each verified by the key that it names. -/
def jose : Jose where
  getUnverifiedHeader token :=
    if token = "first" then some [("kid", .str "old")]
    else if token = "second" then some [("alg", .str "RS256"), ("kid", .str "new")]
    else none
  decode token key _ _ _ _ :=
    if token = "first" ∧ key = oldKey then some [("sub", .str "alice")]
    else if token = "second" ∧ key = newKey then
      some [("sub", .str "bob"), ("groups", .arr [.str "/staff"])]
    else none
  str
    | .str s => s
    | _ => ""

def authorization : Bool → Option String
  | false => some "Bearer first"
  | true => some "bearer  second "

/-- Two verifications that overlap: one asks for the keys before they are rotated, the other
    afterwards. -/
def events : List (Event Bool) :=
  [.tick 90, .begin false, .answer false, .tick 101, .begin true, .answer true, .store true,
    .tick 105, .store false, .close false, .close true,
    .answer true, .tick 110, .store true, .close true]

def bob : VerifiedIdentity := ⟨"bob", ["staff"], by decide⟩

end TokenVerification.Rotation

end AgnoRuntime
