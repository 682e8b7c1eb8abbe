import AgnoRuntime.Model.TokenVerification

/-!
# What a verified token was verified with

The cache of signing keys is shared by all requests of a process, and a request for
the keys may overlap others: a slow answer is stored after a newer one, and what a
request returns is what the cache holds by then. Even so, no key is used long after
Keycloak has withdrawn it (`accepted_key_published`), and a key that Keycloak has
just introduced is found (`rotated_key_accepted`).

## Key results

- `sound_step`, `sound_of_run`: what the cache and the open requests hold was published
- `accepted_key_published`: so was every key that verified a token, and not long before
- `rotated_key_accepted`: a request by itself accepts a token of a key it has not cached
-/

namespace AgnoRuntime

namespace TokenVerification

variable {ι : Type} [DecidableEq ι] {settings : KeycloakSettings} {jose : Jose}
  {published : ℚ → Json} {authorization : ι → Option String} {limit : ℚ}

/-- How old what verifies a token can be. -/
def staleness (limit : ℚ) : ℚ := max ttlSeconds (limit + limit)

/-- Keycloak publishes the key set `jwks` at `t`. -/
def Publishes (published : ℚ → Json) (t : ℚ) (jwks : Json) : Prop :=
  cachedValue (published t) = some jwks

/-- At `time` the token of a header is verified, as `identity`, by the key that it names in a key
    set that was published shortly before. -/
def VerifiedBy (settings : KeycloakSettings) (jose : Jose) (published : ℚ → Json) (limit : ℚ)
    (authorization : Option String) (identity : VerifiedIdentity) (key : Json) (time : ℚ) : Prop :=
  ∃ token header t, bearerToken authorization = some token ∧
    jose.getUnverifiedHeader token = some header ∧
    time - staleness limit ≤ t ∧ t ≤ time ∧
    keyFor (cachedValue (published t)) (JsonDict.getOrNone header "kid") = some (some key) ∧
    identityBy settings jose token header key = some identity

/-! ## The invariant -/

/-- What is known of a verification that stands at a phase. -/
def PhaseSound (settings : KeycloakSettings) (jose : Jose) (published : ℚ → Json) (limit clock : ℚ)
    (cache : TtlCache ℚ Json) (authorization : Option String) : Phase → Prop
  | .waiting | .rejected => True
  | .fetching _ now => now ≤ clock
  | .answered _ now jwks => ∃ t, now ≤ t ∧ t ≤ clock ∧ published t = jwks
  | .closing _ now => now ≤ clock ∧ cache.StoredSince limit now
  | .accepted identity key time =>
    VerifiedBy settings jose published limit authorization identity key time

/-- What is cached was published since its request began, and so for the open requests. -/
structure Sound (settings : KeycloakSettings) (jose : Jose) (published : ℚ → Json)
    (authorization : ι → Option String) (limit : ℚ) (s : System ι) : Prop where
  sourced : s.cache.Sourced (Publishes published) s.clock
  phases : ∀ i, PhaseSound settings jose published limit s.clock s.cache (authorization i)
    (s.phase i)

omit [DecidableEq ι] in
theorem sound_start (clock : ℚ) :
    Sound settings jose published authorization limit (System.start clock : System ι) :=
  ⟨TtlCache.sourced_of_none rfl, fun _ => trivial⟩

section Phases

variable {clock clock' : ℚ} {cache : TtlCache ℚ Json} {header : Option String} {p : Phase}

/-- Time passes. -/
theorem PhaseSound.tick (h : PhaseSound settings jose published limit clock cache header p)
    (hclock : clock ≤ clock') :
    PhaseSound settings jose published limit clock' cache header p := by
  cases p with
  | waiting => trivial
  | rejected => trivial
  | fetching again now => exact le_trans h hclock
  | answered again now jwks =>
    obtain ⟨t, hnow, ht, hjwks⟩ := h
    exact ⟨t, hnow, ht.trans hclock, hjwks⟩
  | closing again now => exact ⟨h.1.trans hclock, h.2⟩
  | accepted identity key time => exact h

/-- The cache changes, and keeps to what a request that is being closed needs of it. -/
theorem PhaseSound.recache {cache' : TtlCache ℚ Json}
    (h : PhaseSound settings jose published limit clock cache header p)
    (hcache : ∀ now ≤ clock, cache'.StoredSince limit now) :
    PhaseSound settings jose published limit clock cache' header p := by
  cases p with
  | waiting => trivial
  | rejected => trivial
  | fetching again now => exact h
  | answered again now jwks => exact h
  | closing again now => exact ⟨h.1, hcache now h.1⟩
  | accepted identity key time => exact h

end Phases

section Steps

variable {s s' : System ι} {i : ι}

/-- One verification goes on, the cache stays. -/
theorem Sound.setPhase (h : Sound settings jose published authorization limit s) {p : Phase}
    (hp : PhaseSound settings jose published limit s.clock s.cache (authorization i) p) :
    Sound settings jose published authorization limit (s.setPhase i p) := by
  refine ⟨h.sourced, fun j => ?_⟩
  show PhaseSound _ _ _ _ s.clock s.cache _ (if j = i then p else s.phase j)
  split
  · next heq => exact heq ▸ hp
  · exact h.phases j

/-- One verification goes on, and the cache changes. -/
theorem Sound.setPhase_recache (h : Sound settings jose published authorization limit s)
    {p : Phase} {cache : TtlCache ℚ Json}
    (hsourced : cache.Sourced (Publishes published) s.clock)
    (hcache : ∀ now ≤ s.clock, cache.StoredSince limit now)
    (hp : PhaseSound settings jose published limit s.clock cache (authorization i) p) :
    Sound settings jose published authorization limit { s.setPhase i p with cache := cache } := by
  refine ⟨hsourced, fun j => ?_⟩
  show PhaseSound _ _ _ _ s.clock cache _ (if j = i then p else s.phase j)
  split
  · next heq => exact heq ▸ hp
  · exact (h.phases j).recache hcache

/-- Looking up the key of a token in a key set that was published shortly before. -/
theorem sound_verify (h : Sound settings jose published authorization limit s) {token : String}
    (htoken : bearerToken (authorization i) = some token) (again : Bool) {jwks : Option Json}
    (hjwks : ∀ v, jwks = some v → ∃ t, s.clock - staleness limit ≤ t ∧ t ≤ s.clock ∧
      Publishes published t v) :
    Sound settings jose published authorization limit (s.verify settings jose i token again jwks) := by
  rw [System.verify]
  split
  · exact h.setPhase trivial
  · next header hheader =>
    split
    · exact h.setPhase trivial
    · next key hkey =>
      split
      · next identity hidentity =>
        -- the key set of a key is a value
        obtain ⟨v, rfl⟩ : ∃ v, jwks = some v := by
          cases jwks with
          | none => cases hkey
          | some v => exact ⟨v, rfl⟩
        obtain ⟨t, hrecent, ht, hpublished⟩ := hjwks v rfl
        refine h.setPhase ⟨token, header, t, htoken, hheader, hrecent, ht, ?_, hidentity⟩
        rw [hpublished]
        exact hkey
      · exact h.setPhase trivial
    · split
      · exact h.setPhase trivial
      · exact h.setPhase_recache (TtlCache.sourced_of_none rfl)
          (fun _ _ => TtlCache.storedSince_of_none rfl) (le_refl s.clock)

theorem sound_begin (h : Sound settings jose published authorization limit s) :
    Sound settings jose published authorization limit
      (s.begin settings jose authorization i) := by
  rw [System.begin]
  split
  · split
    · exact h.setPhase trivial
    · next token htoken =>
      split
      · next jwks hfresh =>
        refine sound_verify h htoken false fun v hv => ?_
        cases hv
        obtain ⟨t, hrecent, ht, hpublished⟩ := h.sourced.of_fresh hfresh
        have hbound : ttlSeconds ≤ staleness limit := le_max_left _ _
        exact ⟨t, by linarith, ht, hpublished⟩
      · exact h.setPhase (le_refl s.clock)
  · exact h.setPhase trivial

/-- Every step keeps it. -/
theorem sound_step (hlimit : 0 ≤ limit) (s : System ι) (ev : Event ι) (s' : System ι)
    (h : Sound settings jose published authorization limit s)
    (hstep : s.step settings jose published authorization limit ev = some s') :
    Sound settings jose published authorization limit s' := by
  cases ev with
  | tick clock =>
    -- What was published before stays so.
    rw [System.step] at hstep
    split at hstep
    · next hclock =>
      cases hstep
      exact ⟨h.sourced.tick hclock, fun j => (h.phases j).tick hclock⟩
    · cases hstep
  | begin i =>
    -- The keys in the cache are fresh, or a request for them begins.
    rw [System.step] at hstep
    split at hstep
    · cases hstep
      exact sound_begin h
    · cases hstep
  | answer i =>
    -- Keycloak answers with what it publishes now.
    rw [System.step] at hstep
    split at hstep
    · next again now hphase =>
      cases hstep
      have hnow := h.phases i
      rw [hphase] at hnow
      exact h.setPhase ⟨s.clock, hnow, le_refl _, rfl⟩
    · cases hstep
  | store i =>
    -- The answer goes into the cache, whatever is there by now.
    rw [System.step] at hstep
    split at hstep
    · next again now jwks hphase =>
      split at hstep
      · next hintime =>
        cases hstep
        have hanswer := h.phases i
        rw [hphase] at hanswer
        obtain ⟨t, hnow, ht, hjwks⟩ := hanswer
        -- What others need of the cache: it has been stored no later than in time.
        refine h.setPhase_recache (TtlCache.sourced_store fun v hv => ?_)
          (fun start hstart => TtlCache.storedSince_store hstart hintime)
          ⟨hnow.trans ht, TtlCache.storedSince_self hlimit⟩
        exact ⟨t, hnow, ht, by rw [Publishes, hjwks, hv]⟩
      · cases hstep
    · cases hstep
  | close i =>
    -- The cache is read again: no matter who has filled it, it was in time.
    rw [System.step] at hstep
    split at hstep
    · next again now hphase =>
      split at hstep
      · next hintime =>
        rw [Option.map_eq_some_iff] at hstep
        obtain ⟨token, htoken, rfl⟩ := hstep
        have hclosing := h.phases i
        rw [hphase] at hclosing
        refine sound_verify h htoken again fun v hv => ?_
        obtain ⟨t, hrecent, ht, hpublished⟩ :=
          h.sourced.of_storedSince hclosing.2 hintime hv
        have hbound : limit + limit ≤ staleness limit := le_max_right _ _
        exact ⟨t, by linarith, ht, hpublished⟩
      · cases hstep
    · cases hstep
  | fail i =>
    -- The cache stays, and so do the others.
    rw [System.step] at hstep
    split at hstep
    · cases hstep
      exact h.setPhase trivial
    · cases hstep
      exact h.setPhase trivial
    · cases hstep
      exact h.setPhase trivial
    · cases hstep
    · cases hstep
    · cases hstep

end Steps

/-- In every interleaving of the verifications, whenever a token is accepted, the key that verified
    it is the one the token names in a key set that Keycloak published within `ttl_seconds` before,
    or within the time that two requests for the keys may take. -/
theorem accepted_key_published (settings : KeycloakSettings) (jose : Jose) (published : ℚ → Json)
    (authorization : ι → Option String) (limit : ℚ) (hlimit : 0 ≤ limit) (clock : ℚ)
    (evs : List (Event ι)) (s : System ι)
    (hrun : Runs.run (System.step settings jose published authorization limit)
      (System.start clock) evs = some s)
    (i : ι) (identity : VerifiedIdentity) (key : Json) (time : ℚ)
    (haccepted : s.phase i = .accepted identity key time) :
    VerifiedBy settings jose published limit (authorization i) identity key time := by
  have hsound : Sound settings jose published authorization limit s :=
    Runs.invariant (sound_step hlimit) (sound_start clock) hrun
  have hphase := hsound.phases i
  rw [haccepted] at hphase
  exact hphase

/-- The answer to alice's request for the keys is stored after the newer one to bob's, who finds it
    in the cache and asks again. -/
theorem accepted_key_published_example :
    VerifiedBy Rotation.settings Rotation.jose Rotation.published 20
      (Rotation.authorization true) Rotation.bob Rotation.newKey 110 := by
  have hphase : (Runs.run (System.step Rotation.settings Rotation.jose Rotation.published
      Rotation.authorization 20) (System.start 0) Rotation.events).map (fun s => s.phase true) =
      some (.accepted Rotation.bob Rotation.newKey 110) := by
    decide +kernel
  obtain ⟨s, hrun, haccepted⟩ := Option.map_eq_some_iff.mp hphase
  exact accepted_key_published Rotation.settings Rotation.jose Rotation.published
    Rotation.authorization 20 (by norm_num) 0 Rotation.events s hrun true Rotation.bob
    Rotation.newKey 110 haccepted

/-! ## A request by itself -/

section Alone

variable {s : System ι} {i : ι} {token : String} {header : JsonDict} {key : Json}
  {identity : VerifiedIdentity}

/-- The steps of a request for the keys that succeeds: Keycloak answers at one time, the answer is
    stored at another, and at a third one the client has been closed. -/
def fetchSteps (i : ι) (answered stored closed : ℚ) : List (Event ι) :=
  [.tick answered, .answer i, .tick stored, .store i, .tick closed, .close i]

/-- Only time has passed. -/
def System.later (s : System ι) (clock : ℚ) : System ι := { s with clock }

theorem step_tick (settings : KeycloakSettings) (jose : Jose) (published : ℚ → Json)
    (authorization : ι → Option String) (limit : ℚ) {clock : ℚ} (hclock : s.clock ≤ clock) :
    s.step settings jose published authorization limit (.tick clock) = some (s.later clock) :=
  if_pos hclock

@[simp] theorem System.setPhase_self (s : System ι) (i : ι) (p : Phase) :
    (s.setPhase i p).phase i = p := if_pos rfl

theorem step_answer (settings : KeycloakSettings) (jose : Jose) (published : ℚ → Json)
    (authorization : ι → Option String) (limit : ℚ) {again : Bool} {now : ℚ}
    (hphase : s.phase i = .fetching again now) :
    s.step settings jose published authorization limit (.answer i) =
      some (s.setPhase i (.answered again now (published s.clock))) := by
  rw [System.step, hphase]

theorem step_store (settings : KeycloakSettings) (jose : Jose) (published : ℚ → Json)
    (authorization : ι → Option String) {again : Bool} {now : ℚ} {jwks : Json}
    (hphase : s.phase i = .answered again now jwks) (hintime : s.clock - now ≤ limit) :
    s.step settings jose published authorization limit (.store i) =
      some { s.setPhase i (.closing again now) with cache := ⟨cachedValue jwks, now⟩ } := by
  rw [System.step, hphase]
  exact if_pos hintime

theorem step_close (settings : KeycloakSettings) (jose : Jose) (published : ℚ → Json)
    (htoken : bearerToken (authorization i) = some token) {again : Bool} {now : ℚ}
    (hphase : s.phase i = .closing again now) (hintime : s.clock - now ≤ limit) :
    s.step settings jose published authorization limit (.close i) =
      some (s.verify settings jose i token again s.cache.value) := by
  rw [System.step, hphase, htoken]
  exact if_pos hintime

/-- A request for the keys that takes no longer than it may ends with the key set that Keycloak has
    answered with. -/
theorem run_fetchSteps (settings : KeycloakSettings) (jose : Jose) (published : ℚ → Json)
    (htoken : bearerToken (authorization i) = some token) {again : Bool}
    {answered stored closed : ℚ} (hanswered : s.clock ≤ answered) (hstored : answered ≤ stored)
    (hclosed : stored ≤ closed) (hlimit : closed ≤ s.clock + limit)
    (hphase : s.phase i = .fetching again s.clock) :
    ∃ s' : System ι, s'.clock = closed ∧
      Runs.run (System.step settings jose published authorization limit) s
          (fetchSteps i answered stored closed) =
        some (s'.verify settings jose i token again (cachedValue (published answered))) := by
  have hstoredInTime : stored - s.clock ≤ limit := by linarith
  have hclosedInTime : closed - s.clock ≤ limit := by linarith
  have hanswer := step_answer (s := s.later answered) settings jose published authorization limit
    hphase
  generalize hs₁ : (s.later answered).setPhase i _ = s₁ at hanswer
  have hphase₁ : (s₁.later stored).phase i = .answered again s.clock (published answered) := by
    rw [← hs₁]
    exact System.setPhase_self _ i _
  have hstore := step_store settings jose published authorization hphase₁ hstoredInTime
  generalize hs₂ : ({ (s₁.later stored).setPhase i _ with cache := _ } : System ι) = s₂ at hstore
  have hphase₂ : (s₂.later closed).phase i = .closing again s.clock := by
    rw [← hs₂]
    exact System.setPhase_self _ i _
  have hcache₂ : (s₂.later closed).cache.value = cachedValue (published answered) := by
    rw [← hs₂]
    rfl
  have hclose := step_close settings jose published htoken hphase₂ hclosedInTime
  rw [hcache₂] at hclose
  -- before each of the three steps time passes
  have htick₂ := step_tick settings jose published authorization limit
    (show s₁.clock ≤ stored by rw [← hs₁]; exact hstored)
  have htick₃ := step_tick settings jose published authorization limit
    (show s₂.clock ≤ closed by rw [← hs₂]; exact hclosed)
  refine ⟨s₂.later closed, rfl, ?_⟩
  exact Runs.run_cons.mpr ⟨_, step_tick _ _ _ _ _ hanswered, Runs.run_cons.mpr ⟨s₁, hanswer,
    Runs.run_cons.mpr ⟨_, htick₂, Runs.run_cons.mpr ⟨s₂, hstore,
      Runs.run_cons.mpr ⟨_, htick₃, Runs.run_cons.mpr ⟨_, hclose, Runs.run_nil _ _⟩⟩⟩⟩⟩⟩

/-- The key of the token is in the key set, and verifies it. -/
theorem verify_of_key (s : System ι) (hheader : jose.getUnverifiedHeader token = some header)
    {jwks : Option Json} (hkey : keyFor jwks (JsonDict.getOrNone header "kid") = some (some key))
    (hidentity : identityBy settings jose token header key = some identity) (again : Bool) :
    s.verify settings jose i token again jwks = s.setPhase i (.accepted identity key s.clock) := by
  simp only [System.verify, hheader, hkey, hidentity]

/-- The key of the token is missing from the key set in the cache: it is emptied. -/
theorem verify_of_missing (s : System ι) (hheader : jose.getUnverifiedHeader token = some header)
    {jwks : Option Json} (hkey : keyFor jwks (JsonDict.getOrNone header "kid") = some none) :
    s.verify settings jose i token false jwks =
      { s.setPhase i (.fetching true s.clock) with cache := s.cache.invalidate } := by
  simp only [System.verify, hheader, hkey, Bool.false_eq_true, if_false]

/-- With the key of the token in the key set that Keycloak answers with, the token is accepted. -/
theorem run_fetchSteps_accepted (settings : KeycloakSettings) (jose : Jose) (published : ℚ → Json)
    (htoken : bearerToken (authorization i) = some token) {again : Bool}
    {answered stored closed : ℚ} (hanswered : s.clock ≤ answered) (hstored : answered ≤ stored)
    (hclosed : stored ≤ closed) (hlimit : closed ≤ s.clock + limit)
    (hheader : jose.getUnverifiedHeader token = some header)
    (hkey : keyFor (cachedValue (published answered)) (JsonDict.getOrNone header "kid") =
      some (some key))
    (hidentity : identityBy settings jose token header key = some identity)
    (hphase : s.phase i = .fetching again s.clock) :
    ∃ s' : System ι,
      Runs.run (System.step settings jose published authorization limit) s
        (fetchSteps i answered stored closed) = some s' ∧
      s'.phase i = .accepted identity key s'.clock := by
  obtain ⟨s', -, hrun⟩ :=
    run_fetchSteps settings jose published htoken hanswered hstored hclosed hlimit hphase
  rw [verify_of_key s' hheader hkey hidentity] at hrun
  exact ⟨_, hrun, System.setPhase_self s' i _⟩

/-- A request that no other one comes between accepts a token whose key is published when Keycloak
    answers, also when the keys in the cache are too old to have it: what is cached has no other key
    by that name, and is no malformed key set. It asks for the keys once at most. -/
theorem rotated_key_accepted (settings : KeycloakSettings) (jose : Jose) (published : ℚ → Json)
    (authorization : ι → Option String) (limit : ℚ) (s : System ι) (i : ι)
    (token : String) (header : JsonDict) (key : Json) (identity : VerifiedIdentity)
    (answered stored closed : ℚ) (hanswered : s.clock ≤ answered) (hstored : answered ≤ stored)
    (hclosed : stored ≤ closed) (hlimit : closed ≤ s.clock + limit)
    (hfeature : settings.featureKeycloakAuth = true) (hwaiting : s.phase i = .waiting)
    (htoken : bearerToken (authorization i) = some token)
    (hheader : jose.getUnverifiedHeader token = some header)
    (hkey : keyFor (cachedValue (published answered)) (JsonDict.getOrNone header "kid") =
      some (some key))
    (hidentity : identityBy settings jose token header key = some identity)
    (hcached : ∀ jwks, s.cache.fresh? ttlSeconds s.clock = some jwks →
      keyFor (some jwks) (JsonDict.getOrNone header "kid") = some none ∨
        keyFor (some jwks) (JsonDict.getOrNone header "kid") = some (some key)) :
    ∃ n ≤ 1, ∃ s' : System ι,
      Runs.run (System.step settings jose published authorization limit) s
        (.begin i :: (List.replicate n (fetchSteps i answered stored closed)).flatten) = some s' ∧
      s'.phase i = .accepted identity key s'.clock := by
  have hbegin : s.step settings jose published authorization limit (.begin i) =
      some (s.begin settings jose authorization i) := by
    rw [System.step, hwaiting]
  cases hfresh : s.cache.fresh? ttlSeconds s.clock with
  | none =>
    -- there are no cached keys: they are asked for
    rw [show s.begin settings jose authorization i = s.setPhase i (.fetching false s.clock) by
      simp only [System.begin, hfeature, htoken, hfresh, if_true]] at hbegin
    obtain ⟨s', hrun, haccepted⟩ := run_fetchSteps_accepted
      (s := s.setPhase i (.fetching false s.clock)) settings jose published htoken
      hanswered hstored hclosed hlimit hheader hkey hidentity (System.setPhase_self s i _)
    exact ⟨1, le_refl 1, s', Runs.run_cons.mpr ⟨_, hbegin, hrun⟩, haccepted⟩
  | some jwks =>
    have hfirst : s.begin settings jose authorization i =
        s.verify settings jose i token false (some jwks) := by
      simp only [System.begin, hfeature, htoken, hfresh, if_true]
    rcases hcached jwks hfresh with hmissing | hfound
    -- the cached keys are too old, and are asked for again
    · rw [hfirst, verify_of_missing s hheader hmissing] at hbegin
      obtain ⟨s', hrun, haccepted⟩ := run_fetchSteps_accepted
        (s := { s.setPhase i (.fetching true s.clock) with cache := s.cache.invalidate })
        settings jose published htoken hanswered hstored hclosed hlimit hheader hkey hidentity
        (System.setPhase_self s i _)
      exact ⟨1, le_refl 1, s', Runs.run_cons.mpr ⟨_, hbegin, hrun⟩, haccepted⟩
    -- the key is cached
    · rw [hfirst, verify_of_key s hheader hfound hidentity] at hbegin
      exact ⟨0, Nat.zero_le 1, _, Runs.run_cons.mpr ⟨_, hbegin, Runs.run_nil _ _⟩,
        System.setPhase_self s i _⟩

end Alone

theorem rotated_key_accepted_example :
    ∃ n ≤ 1, ∃ s' : System Bool,
      Runs.run (System.step Rotation.settings Rotation.jose Rotation.published
          Rotation.authorization 20)
        ⟨90, ⟨some (.obj [("keys", .arr [Rotation.oldKey])]), 10⟩, fun _ => .waiting⟩
        (.begin true :: (List.replicate n (fetchSteps true 100 105 110)).flatten) = some s' ∧
      s'.phase true = .accepted Rotation.bob Rotation.newKey s'.clock := by
  refine rotated_key_accepted Rotation.settings Rotation.jose Rotation.published
    Rotation.authorization 20
    ⟨90, ⟨some (.obj [("keys", .arr [Rotation.oldKey])]), 10⟩, fun _ => .waiting⟩ true "second"
    [("alg", .str "RS256"), ("kid", .str "new")] Rotation.newKey Rotation.bob 100 105 110
    (by norm_num) (by norm_num) (by norm_num) (by norm_num) rfl rfl
    (by decide +kernel) (by decide +kernel) (by decide +kernel) (by decide +kernel) fun jwks h => ?_
  have hcached : (some jwks : Option Json) = some (.obj [("keys", .arr [Rotation.oldKey])]) := by
    rw [← h]
    decide +kernel
  rw [hcached]
  exact .inl (by decide +kernel)

end TokenVerification

end AgnoRuntime
