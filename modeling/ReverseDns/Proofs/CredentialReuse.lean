import ReverseDns.Proofs.CredentialLifetime
import ReverseDns.Proofs.DoubleSums

/-!
# Which credential a request is answered with

A keyring keeps the methods apart. A request is answered with a credential that was made for its
method; within a lifetime of the last one that was handed out for the method, it is the same one.
What a request for another method would be answered with is not changed by it, whether it fails or
not.

* `Keyring.Answered`, `Keyring.answered` -- every way in which a request is answered
* `Keyring.Offer`, `Keyring.obtain_eq_offer` -- what a request would be answered with
* `Usage.Forward` -- the clock does not go back
* `Usage.Faithful`, `Usage.Faithful.after` -- what requests, time and settings preserve
* `Usage.Reuses` -- what is said of the answer to a request
* `Usage.credential_reused` -- it holds after any use of a keyring
-/

namespace ReverseDns

/-- The method by which a credential is made. -/
def CredentialSource.method : CredentialSource → CredentialMethod
  | .cli => .cli
  | .clientSecret _ _ _ => .servicePrincipal
  | .managedIdentity _ => .managedIdentity
  | .browser _ => .browser
  | .default => .default

theorem CredentialMethod.method_of_source {method : CredentialMethod} {tenantId : Option String}
    {environment : Environment} {source : CredentialSource}
    (made : method.source tenantId environment = .ok source) : source.method = method := by
  cases method with
  | default | cli | browser | managedIdentity =>
    cases made
    rfl
  | servicePrincipal =>
    unfold CredentialMethod.source at made
    dsimp only at made
    split at made
    · split at made
      · cases made
      · cases made
        rfl
    · cases made

/-- Only for a service principal something can be missing. -/
theorem CredentialMethod.source_eq_error {method : CredentialMethod} {tenantId : Option String}
    {environment : Environment} {failure : Failure}
    (refused : method.source tenantId environment = .error failure) :
    method = .servicePrincipal ∧ failure = .servicePrincipal := by
  cases method with
  | default | cli | browser | managedIdentity => cases refused
  | servicePrincipal =>
    unfold CredentialMethod.source at refused
    dsimp only at refused
    split at refused
    · split at refused
      · cases refused
        exact ⟨rfl, rfl⟩
      · cases refused
    · cases refused
      exact ⟨rfl, rfl⟩

/-! ## Single requests -/

namespace Keyring

variable {keyring : Keyring} {environment : Environment} {now : Float} {method : CredentialMethod}

/-- Nothing current is kept for a method; what has expired is dropped. -/
inductive Lapsed (keyring : Keyring) (now : Float) (method : CredentialMethod) :
    Keyring → Prop where
  | absent (nothing : keyring.find? method = none) : Lapsed keyring now method keyring
  | expired (entry : Kept) (found : keyring.find? method = some entry)
      (late : entry.expiresAt < now) : Lapsed keyring now method (keyring.drop method)

/-- How a request is answered: with the credential that is kept and has not expired, else with a new
one from the settings, and else not at all. -/
inductive Answered (keyring : Keyring) (environment : Environment) (now : Float)
    (method : CredentialMethod) : Except Failure Credential × Keyring → Prop where
  | again (entry : Kept) (found : keyring.find? method = some entry)
      (current : ¬entry.expiresAt < now) :
      Answered keyring environment now method
        (.ok entry.credential, keyring.keep method entry.credential now)
  | made (source : CredentialSource) (others : Keyring) (lapsed : Lapsed keyring now method others)
      (source_eq : method.source keyring.tenantId environment = .ok source) :
      Answered keyring environment now method
        (.ok { number := keyring.made + 1, source },
          { others with made := keyring.made + 1 }.keep method
            { number := keyring.made + 1, source } now)
  | failed (failure : Failure) (others : Keyring) (lapsed : Lapsed keyring now method others)
      (source_eq : method.source keyring.tenantId environment = .error failure) :
      Answered keyring environment now method (.error failure, others)

theorem Lapsed.same {others : Keyring} (lapsed : Lapsed keyring now method others) :
    others.tenantId = keyring.tenantId ∧ others.lifetime = keyring.lifetime ∧
      others.made = keyring.made := by
  cases lapsed <;> exact ⟨rfl, rfl, rfl⟩

theorem Lapsed.find?_eq {others : Keyring} (lapsed : Lapsed keyring now method others)
    {other : CredentialMethod} (different : other ≠ method) :
    others.find? other = keyring.find? other := by
  cases lapsed with
  | absent => rfl
  | expired => rw [find?_drop, if_neg different]

theorem Lapsed.current_eq {others : Keyring} (lapsed : Lapsed keyring now method others) :
    keyring.current method now = (none, others) := by
  cases lapsed with
  | absent nothing => simp [current, nothing]
  | expired entry found late => simp [current, found, late]

/-- Whether something current is kept. -/
theorem current_or_lapsed (keyring : Keyring) (now : Float) (method : CredentialMethod) :
    (∃ entry, keyring.find? method = some entry ∧ ¬entry.expiresAt < now) ∨
      ∃ others, Lapsed keyring now method others := by
  cases found : keyring.find? method with
  | none => exact .inr ⟨keyring, .absent found⟩
  | some entry =>
    by_cases late : entry.expiresAt < now
    · exact .inr ⟨_, .expired entry found late⟩
    · exact .inl ⟨entry, rfl, late⟩

theorem current_of_found {entry : Kept} (found : keyring.find? method = some entry)
    (current : ¬entry.expiresAt < now) :
    keyring.current method now = (some entry.credential, keyring) := by
  simp [Keyring.current, found, current]

theorem answered (keyring : Keyring) (environment : Environment) (now : Float)
    (method : CredentialMethod) :
    Answered keyring environment now method (keyring.obtain environment now method) := by
  rcases current_or_lapsed keyring now method with ⟨entry, found, current⟩ | ⟨others, lapsed⟩
  · simp only [obtain, current_of_found found current]
    exact .again entry found current
  · obtain ⟨tenant, -, counted⟩ := lapsed.same
    simp only [obtain, lapsed.current_eq, make]
    cases made : method.source others.tenantId environment with
    | error failure => exact .failed failure others lapsed (tenant ▸ made)
    | ok source =>
      simp only [counted]
      exact .made source others lapsed (tenant ▸ made)

/-! ## What a request would be answered with -/

/-- What a request is answered with, but for the number of a new credential. -/
inductive Offer where
  | kept (credential : Credential)
  | new (source : CredentialSource)

/-- The credential that is handed out by a keyring that has made some. -/
def Offer.credential (made : Nat) : Offer → Credential
  | .kept credential => credential
  | .new source => { number := made + 1, source }

/-- What a request would be answered with. -/
def offer (keyring : Keyring) (environment : Environment) (now : Float)
    (method : CredentialMethod) : Except Failure Offer :=
  match (keyring.current method now).1 with
  | some credential => .ok (.kept credential)
  | none => (method.source keyring.tenantId environment).map .new

theorem obtain_eq_offer (keyring : Keyring) (environment : Environment) (now : Float)
    (method : CredentialMethod) :
    (keyring.obtain environment now method).1 =
      (keyring.offer environment now method).map (Offer.credential keyring.made) := by
  have outcome := keyring.answered environment now method
  generalize keyring.obtain environment now method = answer at outcome ⊢
  cases outcome with
  | again entry found current =>
    simp only [offer, current_of_found found current]
    rfl
  | made source others lapsed source_eq =>
    simp only [offer, lapsed.current_eq, source_eq]
    rfl
  | failed failure others lapsed source_eq =>
    simp only [offer, lapsed.current_eq, source_eq]
    rfl

theorem offer_congr {others : Keyring} (tenant : others.tenantId = keyring.tenantId)
    (same : others.find? method = keyring.find? method) :
    others.offer environment now method = keyring.offer environment now method := by
  have current : (others.current method now).1 = (keyring.current method now).1 := by
    unfold Keyring.current
    rw [same]
    split
    · rfl
    · split <;> rfl
  rw [offer, offer, current, tenant]

variable {answer : Except Failure Credential × Keyring}

/-- A request leaves alone what is kept for the other methods. -/
theorem Answered.frame (outcome : Answered keyring environment now method answer) :
    answer.2.tenantId = keyring.tenantId ∧
      ∀ other, other ≠ method → answer.2.find? other = keyring.find? other := by
  cases outcome with
  | again => exact ⟨rfl, fun other different => (find?_keep ..).trans (if_neg different)⟩
  | made source others lapsed =>
    refine ⟨lapsed.same.1, fun other different => ?_⟩
    rw [find?_keep, if_neg different]
    exact lapsed.find?_eq different
  | failed failure others lapsed =>
    exact ⟨lapsed.same.1, fun other different => lapsed.find?_eq different⟩

/-- What is handed out is kept. -/
theorem Answered.find?_of_ok (outcome : Answered keyring environment now method answer)
    {credential : Credential} (ok : answer.1 = .ok credential) :
    answer.2.find? method = some { credential, expiresAt := now + keyring.lifetime } := by
  cases outcome with
  | again entry found current =>
    cases ok
    exact (find?_keep ..).trans (if_pos rfl)
  | made source others lapsed =>
    cases ok
    rw [← lapsed.same.2.1]
    exact (find?_keep ..).trans (if_pos rfl)
  | failed failure others lapsed => cases ok

/-- A request that fails is one for a service principal. What has not expired stays. -/
theorem Answered.of_error (outcome : Answered keyring environment now method answer)
    {failure : Failure} (refused : answer.1 = .error failure) :
    method = .servicePrincipal ∧ failure = .servicePrincipal ∧ answer.2.made = keyring.made ∧
      ∀ other entry, keyring.find? other = some entry → ¬entry.expiresAt < now →
        answer.2.find? other = some entry := by
  cases outcome with
  | again => cases refused
  | made => cases refused
  | failed failure others lapsed source_eq =>
    cases refused
    obtain ⟨owner, missing⟩ := CredentialMethod.source_eq_error source_eq
    refine ⟨owner, missing, lapsed.same.2.2, fun other entry found current => ?_⟩
    by_cases same : other = method
    · subst same
      cases lapsed with
      | absent nothing => exact found
      | expired stale held late =>
        cases held.symm.trans found
        exact absurd late current
    · exact (lapsed.find?_eq same).trans found

end Keyring

/-! ## A keyring in use -/

namespace Usage

/-- While a keyring is used, the clock does not go back. -/
inductive Forward : Usage → List Move → Prop where
  | nil (usage : Usage) : Forward usage []
  | cons {usage : Usage} {move : Move} {moves : List Move}
      (later : ∀ moment, move = .wait moment → usage.clock ≤ moment)
      (rest : Forward (usage.step move) moves) : Forward usage (move :: moves)

/-- What is kept for a method was made for it. What was last handed out for a method is kept for a
lifetime; later it may have been dropped. -/
structure Faithful (tenantId : Option String) (lifetime : Float) (usage : Usage) : Prop where
  tenant : usage.keyring.tenantId = tenantId
  lasting : usage.keyring.lifetime = lifetime
  sources : ∀ method entry, usage.keyring.find? method = some entry →
    ∃ environment, method.source tenantId environment = .ok entry.credential.source
  latest : ∀ between last before, usage.handed = between ++ last :: before →
    (∀ other ∈ between, other.method ≠ last.method) →
      last.moment + lifetime < usage.clock ∨
        usage.keyring.find? last.method =
          some { credential := last.credential, expiresAt := last.moment + lifetime }

variable {usage : Usage} {tenantId : Option String} {lifetime : Float}

/-- What is handed out is kept from now on, beside what is kept for the other methods. -/
theorem Faithful.keep (faithful : usage.Faithful tenantId lifetime) (others : Keyring)
    (tenant : others.tenantId = tenantId) (lasting : others.lifetime = lifetime)
    {method : CredentialMethod}
    (rest : ∀ other, other ≠ method → others.find? other = usage.keyring.find? other)
    {credential : Credential}
    (source : ∃ environment, method.source tenantId environment = .ok credential.source)
    (built : List (Nat × Float)) :
    Faithful tenantId lifetime { usage with
      keyring := others.keep method credential usage.clock
      handed := { method, moment := usage.clock, credential } :: usage.handed
      built } where
  tenant := tenant
  lasting := lasting
  sources := by
    intro other entry found
    rw [Keyring.find?_keep] at found
    split at found
    next same =>
      cases found
      exact same ▸ source
    next different => exact faithful.sources other entry ((rest other different).symm.trans found)
  latest := by
    intro between last before split others'
    -- the latest handout of a method is the new one, or it is one for another method
    cases between with
    | nil =>
      cases split
      exact .inr (by rw [Keyring.find?_keep, if_pos rfl, lasting])
    | cons first between =>
      obtain ⟨rfl, tail⟩ := List.cons.inj split
      have different : last.method ≠ method := (others' _ (.head _)).symm
      refine (faithful.latest between last before tail ?_).imp_right fun found => ?_
      · exact fun other member => others' other (.tail _ member)
      · rw [Keyring.find?_keep, if_neg different, rest _ different]
        exact found

theorem Faithful.lapsed (faithful : usage.Faithful tenantId lifetime) {others : Keyring}
    {method : CredentialMethod} (lapsed : usage.keyring.Lapsed usage.clock method others) :
    Faithful tenantId lifetime { usage with keyring := others } where
  tenant := lapsed.same.1.trans faithful.tenant
  lasting := lapsed.same.2.1.trans faithful.lasting
  sources := by
    intro other entry found
    have rest : others = usage.keyring ∨ others = usage.keyring.drop method := by
      cases lapsed with
      | absent => exact .inl rfl
      | expired => exact .inr rfl
    exact faithful.sources other entry (Keyring.find?_of_rest rest found)
  latest := by
    intro between last before split different
    refine (faithful.latest between last before split different).elim .inl fun found => ?_
    by_cases same : last.method = method
    · cases lapsed with
      | absent => exact .inr found
      | expired entry held late =>
        -- what is dropped is what was last handed out, and a lifetime has passed since
        cases (same ▸ held).symm.trans found
        exact .inl late
    · exact .inr ((lapsed.find?_eq same).trans found)

theorem Faithful.obtain (faithful : usage.Faithful tenantId lifetime)
    (asked : Option CredentialMethod) : (usage.obtain asked).Faithful tenantId lifetime := by
  unfold Usage.obtain
  generalize asked.getD usage.keyring.method = method
  dsimp only
  have outcome := usage.keyring.answered usage.environment usage.clock method
  generalize usage.keyring.obtain usage.environment usage.clock method = answer at outcome ⊢
  cases outcome with
  | again entry found current =>
    exact faithful.keep usage.keyring faithful.tenant faithful.lasting (fun _ _ => rfl)
      (faithful.sources method entry found) _
  | made source others lapsed source_eq =>
    obtain ⟨tenant, lasting, -⟩ := lapsed.same
    exact faithful.keep { others with made := usage.keyring.made + 1 }
      (tenant.trans faithful.tenant) (lasting.trans faithful.lasting)
      (fun _ different => lapsed.find?_eq different) ⟨_, faithful.tenant ▸ source_eq⟩ _
  | failed failure others lapsed => exact { faithful.lapsed lapsed with }

theorem Faithful.step (faithful : usage.Faithful tenantId lifetime) {move : Move}
    (later : ∀ moment, move = .wait moment → usage.clock ≤ moment) :
    (usage.step move).Faithful tenantId lifetime := by
  cases move with
  | obtain asked => exact faithful.obtain asked
  | wait moment =>
    -- what is late stays late, as the clock goes forward
    exact { faithful with
      latest := fun between last before split different =>
        (faithful.latest between last before split different).imp_left fun late =>
          Decimal.lt_of_lt_of_le late (later moment rfl) }
  | configure environment => exact { faithful with }

theorem Faithful.after (faithful : usage.Faithful tenantId lifetime) {moves : List Move}
    (forward : usage.Forward moves) : (usage.after moves).Faithful tenantId lifetime := by
  induction forward with
  | nil => exact faithful
  | cons later rest ih => exact ih (faithful.step later)

theorem faithful_start (tenantId : Option String) (method : Option CredentialMethod)
    (lifetime : Part Float) (environment : Environment) (clock : Float) (made : Nat) :
    (start tenantId method lifetime environment clock made).Faithful
      (tenantId.or (Keyed.get? environment "AZURE_TENANT_ID")) (Keyring.lifetimeOf lifetime) where
  tenant := rfl
  lasting := rfl
  sources := by
    intro method entry found
    simp [start, Keyring.start, Keyring.find?] at found
  latest := by simp [start]

/-! ## Every request -/

/-- The method of a request. -/
def wanted (usage : Usage) (asked : Option CredentialMethod) : CredentialMethod :=
  asked.getD usage.keyring.method

/-- The answer to a request, and the keyring after it. -/
def answer (usage : Usage) (asked : Option CredentialMethod) :
    Except Failure Credential × Keyring :=
  usage.keyring.obtain usage.environment usage.clock (usage.wanted asked)

/-- The methods are kept apart, and credentials are reused. -/
structure Reuses (tenantId : Option String) (lifetime : Float) (usage : Usage)
    (asked : Option CredentialMethod) : Prop where
  /-- What is handed out was made by this keyring, in the way of the method. -/
  own : ∀ credential, (usage.answer asked).1 = .ok credential →
    (usage.obtain asked).handed =
        { method := usage.wanted asked, moment := usage.clock, credential } :: usage.handed ∧
      credential.source.method = usage.wanted asked ∧
      (∃ environment,
        (usage.wanted asked).source tenantId environment = .ok credential.source) ∧
      ∃ moment, (credential.number, moment) ∈ (usage.obtain asked).built
  /-- Within a lifetime of the last one for the method, it is the same, and none is made. -/
  reused : ∀ between last before, usage.handed = between ++ last :: before →
    (∀ other ∈ between, other.method ≠ usage.wanted asked) → last.method = usage.wanted asked →
    Decimal.Within lifetime last.moment usage.clock →
      (usage.answer asked).1 = .ok last.credential ∧ (usage.obtain asked).built = usage.built
  /-- Requests for other methods are answered as if it had not been made. -/
  apart : ∀ other, other ≠ usage.wanted asked → ∀ environment now,
    ∃ offer : Except Failure Keyring.Offer,
      (usage.keyring.obtain environment now other).1 =
        offer.map (Keyring.Offer.credential usage.keyring.made) ∧
      ((usage.answer asked).2.obtain environment now other).1 =
        offer.map (Keyring.Offer.credential (usage.answer asked).2.made)
  /-- Where it fails, a service principal lacks settings, and what has not expired stays. -/
  failed : ∀ failure, (usage.answer asked).1 = .error failure →
    usage.wanted asked = .servicePrincipal ∧ failure = .servicePrincipal ∧
      (usage.obtain asked).handed = usage.handed ∧ (usage.obtain asked).built = usage.built ∧
      ∀ method entry, usage.keyring.find? method = some entry → ¬entry.expiresAt < usage.clock →
        (usage.answer asked).2.find? method = some entry

theorem handed_of_ok {asked : Option CredentialMethod} {credential : Credential}
    (ok : (usage.answer asked).1 = .ok credential) :
    (usage.obtain asked).handed =
      { method := usage.wanted asked, moment := usage.clock, credential } :: usage.handed := by
  unfold answer wanted at ok
  simp only [Usage.obtain, ok, wanted]

theorem handed_of_error {asked : Option CredentialMethod} {failure : Failure}
    (refused : (usage.answer asked).1 = .error failure) :
    (usage.obtain asked).handed = usage.handed := by
  unfold answer wanted at refused
  simp only [Usage.obtain, refused]

theorem built_of_made {asked : Option CredentialMethod}
    (same : (usage.answer asked).2.made = usage.keyring.made) :
    (usage.obtain asked).built = usage.built := by
  unfold answer wanted at same
  simp only [Usage.obtain, same, Nat.lt_irrefl, if_false]

theorem Faithful.reuses (faithful : usage.Faithful tenantId lifetime)
    (sound : usage.Sound lifetime) (asked : Option CredentialMethod) :
    usage.Reuses tenantId lifetime asked := by
  have outcome : usage.keyring.Answered usage.environment usage.clock (usage.wanted asked)
    (usage.answer asked) := usage.keyring.answered ..
  exact {
    own := by
      intro credential ok
      have handed := handed_of_ok ok
      obtain ⟨since, built, -⟩ := (sound.obtain asked).sustained [] _ _ handed
      obtain ⟨environment, source⟩ :=
        (faithful.obtain asked).sources _ _ (outcome.find?_of_ok ok)
      exact ⟨handed, CredentialMethod.method_of_source source, ⟨environment, source⟩, since, built⟩
    reused := by
      intro between last before split different owner within
      rw [← owner] at different
      have found := (faithful.latest between last before split different).resolve_left
        within.not_add_lt
      rw [owner] at found
      have again := Keyring.current_of_found found within.not_add_lt
      have same : usage.answer asked = (.ok last.credential,
          usage.keyring.keep (usage.wanted asked) last.credential usage.clock) := by
        simp only [answer, Keyring.obtain, again]
      exact ⟨by rw [same], built_of_made (by rw [same]; rfl)⟩
    apart := by
      intro other different environment now
      refine ⟨_, Keyring.obtain_eq_offer .., ?_⟩
      rw [Keyring.obtain_eq_offer,
        Keyring.offer_congr outcome.frame.1 (outcome.frame.2 other different)]
    failed := by
      intro failure refused
      have handed := handed_of_error refused
      obtain ⟨owner, missing, made, stays⟩ := outcome.of_error refused
      exact ⟨owner, missing, handed, built_of_made made, stays⟩ }

/-- However a keyring is used while the clock goes forward, the methods are kept apart, and each
credential is reused for a lifetime. -/
theorem credential_reused (tenantId : Option String) (method : Option CredentialMethod)
    (lifetime : Part Float) (environment : Environment) (clock : Float) (made : Nat)
    (moves : List Move)
    (forward : (start tenantId method lifetime environment clock made).Forward moves)
    (asked : Option CredentialMethod) :
    ((start tenantId method lifetime environment clock made).after moves).Reuses
      (tenantId.or (Keyed.get? environment "AZURE_TENANT_ID")) (Keyring.lifetimeOf lifetime)
      asked :=
  ((faithful_start tenantId method lifetime environment clock made).after forward).reuses
    ((sound_start tenantId method lifetime environment clock made).after moves) asked

/-- A credential that is asked for again exactly a lifetime later. -/
theorem credential_reused_after_lifetime :
    let usage := (start none none (.given 1000) [] 1000 0).after [.obtain none, .wait 2000]
    (usage.answer none).1 = .ok { number := 1, source := .default } ∧
      (usage.obtain none).built = [(1, 1000)] := by
  have reuses := credential_reused none none (.given 1000) [] 1000 0 [.obtain none, .wait 2000]
    (.cons (fun _ other => by cases other) (.cons (fun _ later => by cases later; decide) (.nil _)))
    none
  refine reuses.reused [] ⟨.default, 1000, { number := 1, source := .default }⟩ [] rfl (by simp)
    rfl ?_
  refine ⟨by decide, by decide, _, Decimal.stands_exact (by decide), ?_⟩
  refine Decimal.strictMono_coe.monotone ?_
  decide +kernel

end Usage

end ReverseDns
