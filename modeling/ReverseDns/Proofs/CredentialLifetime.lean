import Mathlib.Data.List.Chain
import Mathlib.Data.List.Nodup
import ReverseDns.Credential

/-!
# How long credentials are used

A keyring keeps a credential for a whole lifetime after every use, not only after it was made. What
it hands out is therefore never older than a lifetime at its second use, and from then on only as
fresh as the use before: a credential that is asked for often enough is kept for ever.

* `Usage` -- a keyring in use: what is asked of it, while time passes and settings change
* `Keyring.Obtained`, `Keyring.obtained` -- every way in which a request can end
* `Sustained` -- a credential that was in use from the moment it was made, without a gap
* `Sustained.within` -- at most one earlier use: then the lifetime is kept to
* `credential_sustained` -- whatever is handed out was in use without a gap
* `handed_after_steady_use` -- steady use keeps a credential, however long it goes on
-/

namespace ReverseDns

/-! ## Single requests -/

namespace Keyring

variable {keyring : Keyring} {environment : Environment} {now : Float} {method : CredentialMethod}

theorem find?_drop (keyring : Keyring) (method other : CredentialMethod) :
    (keyring.drop method).find? other = if other = method then none else keyring.find? other := by
  unfold find? drop
  rw [List.find?_filter]
  split
  · rename_i same
    subst same
    simp
  · rename_i different
    congr 2
    funext entry
    by_cases matching : entry.1 = other <;> simp [matching, different]

theorem find?_keep (keyring : Keyring) (method other : CredentialMethod) (credential : Credential)
    (now : Float) :
    (keyring.keep method credential now).find? other =
      if other = method then some { credential, expiresAt := now + keyring.lifetime }
      else keyring.find? other := by
  split
  · rename_i same
    simp [keep, find?, same]
  · rename_i different
    have others := find?_drop keyring method other
    rw [if_neg different] at others
    rw [← others]
    simp [keep, find?, Ne.symm different]

/-- What a request for the credential of a method comes to: the one that is kept, a new one, or a
failure, in which case nothing is kept that was not kept before. -/
inductive Obtained (keyring : Keyring) (now : Float) (method : CredentialMethod) :
    Except Failure Credential × Keyring → Prop where
  | again (entry : Kept) (found : keyring.find? method = some entry)
      (current : ¬entry.expiresAt < now) :
      Obtained keyring now method (.ok entry.credential, keyring.keep method entry.credential now)
  | made (source : CredentialSource) (others : Keyring)
      (rest : others = keyring ∨ others = keyring.drop method) :
      Obtained keyring now method
        (.ok { number := keyring.made + 1, source },
          { others with made := keyring.made + 1 }.keep method
            { number := keyring.made + 1, source } now)
  | failed (failure : Failure) (others : Keyring)
      (rest : others = keyring ∨ others = keyring.drop method) :
      Obtained keyring now method (.error failure, others)

/-- A keyring without a current credential makes one, or fails to. -/
theorem Obtained.of_make {others : Keyring}
    (current : keyring.current method now = (none, others))
    (rest : others = keyring ∨ others = keyring.drop method) :
    Obtained keyring now method (keyring.obtain environment now method) := by
  have counted : others.made = keyring.made := by
    rcases rest with rfl | rfl <;> rfl
  simp only [obtain, current, make]
  cases method.source others.tenantId environment with
  | error failure => exact .failed failure others rest
  | ok source =>
    simp only [counted]
    exact .made source others rest

theorem obtained (keyring : Keyring) (environment : Environment) (now : Float)
    (method : CredentialMethod) :
    Obtained keyring now method (keyring.obtain environment now method) := by
  cases found : keyring.find? method with
  | none => exact .of_make (by simp [current, found]) (.inl rfl)
  | some entry =>
    by_cases expired : entry.expiresAt < now
    · exact .of_make (by simp [current, found, expired]) (.inr rfl)
    · have same : keyring.obtain environment now method =
          (.ok entry.credential, keyring.keep method entry.credential now) := by
        simp [obtain, current, found, expired]
      rw [same]
      exact .again entry found expired

/-- What is kept after a failure was kept before. -/
theorem find?_of_rest {others : Keyring} {other : CredentialMethod} {entry : Kept}
    (rest : others = keyring ∨ others = keyring.drop method)
    (found : others.find? other = some entry) : keyring.find? other = some entry := by
  rcases rest with rfl | rfl
  · exact found
  · rw [find?_drop] at found
    split at found
    · cases found
    · exact found

end Keyring

/-! ## A keyring in use -/

/-- A credential that was handed out for a method at a moment. -/
structure Handout where
  method : CredentialMethod
  moment : Float
  credential : Credential

/-- A keyring in use, with what it has handed out and the moments at which it made credentials,
both with the latest first. -/
structure Usage where
  keyring : Keyring
  environment : Environment
  clock : Float
  handed : List Handout := []
  built : List (Nat × Float) := []

/-- What happens next: a credential is asked for, time passes, or the settings change. -/
inductive Usage.Move where
  | obtain (asked : Option CredentialMethod)
  | wait (moment : Float)
  | configure (environment : Environment)

namespace Usage

/-- Ask for the credential of a method, or of the keyring's own method. -/
def obtain (usage : Usage) (asked : Option CredentialMethod) : Usage :=
  let method := asked.getD usage.keyring.method
  let answered := usage.keyring.obtain usage.environment usage.clock method
  { usage with
    keyring := answered.2
    handed :=
      match answered.1 with
      | .ok credential => { method, moment := usage.clock, credential } :: usage.handed
      | .error _ => usage.handed
    built :=
      if usage.keyring.made < answered.2.made then (answered.2.made, usage.clock) :: usage.built
      else usage.built }

def step (usage : Usage) : Move → Usage
  | .obtain asked => usage.obtain asked
  | .wait moment => { usage with clock := moment }
  | .configure environment => { usage with environment }

def after (usage : Usage) (moves : List Move) : Usage :=
  moves.foldl step usage

end Usage

/-! ## Use without a gap -/

/-- A credential that was made at one moment and handed out, without a gap, until another: it is
new, or it is what was last handed out for its method, no longer than a lifetime before. -/
inductive Sustained (lifetime : Float) : List Handout → Handout → Float → Prop where
  | new {earlier : List Handout} {handout : Handout}
      (unseen : ∀ other ∈ earlier, other.credential.number < handout.credential.number) :
      Sustained lifetime earlier handout handout.moment
  | again {between before : List Handout} {last handout : Handout} {since : Float}
      (others : ∀ other ∈ between, other.method ≠ handout.method)
      (method : last.method = handout.method) (same : last.credential = handout.credential)
      (current : ¬last.moment + lifetime < handout.moment)
      (sustained : Sustained lifetime before last since) :
      Sustained lifetime (between ++ last :: before) handout since

/-- A credential that was handed out at most once before was made for this request, or no longer
than a lifetime ago. -/
theorem Sustained.within {lifetime since : Float} {earlier : List Handout} {handout : Handout}
    (sustained : Sustained lifetime earlier handout since)
    (seldom : earlier.countP (·.credential = handout.credential) ≤ 1) :
    since = handout.moment ∨ ¬since + lifetime < handout.moment := by
  cases sustained with
  | new unseen => exact .inl rfl
  | again others method same current sustained =>
    cases sustained with
    | new unseen => exact .inr current
    | again others' method' same' current' sustained' =>
      -- the last use and the one before it make two
      simp only [List.countP_append, List.countP_cons, same, same', decide_true, if_true] at seldom
      omega

/-! ## What every request preserves -/

/-- What is kept for a method is what was last handed out for it, until a lifetime later. -/
def Usage.Remembers (lifetime : Float) (handed : List Handout) (method : CredentialMethod)
    (entry : Kept) : Prop :=
  ∃ between last before, handed = between ++ last :: before ∧
    (∀ other ∈ between, other.method ≠ method) ∧ last.method = method ∧
    last.credential = entry.credential ∧ entry.expiresAt = last.moment + lifetime

/-- Everything that was handed out was in use without a gap from the moment it was made, every
credential was made once, and what is kept is what was handed out last. -/
structure Usage.Sound (lifetime : Float) (usage : Usage) : Prop where
  lasting : usage.keyring.lifetime = lifetime
  kept : ∀ method entry, usage.keyring.find? method = some entry →
    Usage.Remembers lifetime usage.handed method entry
  counted : ∀ handout ∈ usage.handed, handout.credential.number ≤ usage.keyring.made
  dated : ∀ entry ∈ usage.built, entry.1 ≤ usage.keyring.made
  once : (usage.built.map Prod.fst).Nodup
  sustained : ∀ later handout earlier, usage.handed = later ++ handout :: earlier →
    ∃ since, (handout.credential.number, since) ∈ usage.built ∧
      Sustained lifetime earlier handout since

namespace Usage

variable {usage : Usage} {lifetime : Float}

/-- What is remembered for a method outlives what is handed out for another. -/
theorem Remembers.cons {handed : List Handout} {method : CredentialMethod} {entry : Kept}
    (remembers : Remembers lifetime handed method entry) {handout : Handout}
    (different : handout.method ≠ method) :
    Remembers lifetime (handout :: handed) method entry := by
  obtain ⟨between, last, before, rfl, others, known⟩ := remembers
  refine ⟨handout :: between, last, before, rfl, ?_, known⟩
  intro other member
  rcases List.mem_cons.mp member with rfl | inside
  · exact different
  · exact others other inside

/-- A keyring that keeps what is handed out remembers it, beside what it kept before. -/
theorem Sound.remembers_keep (sound : usage.Sound lifetime) {others : Keyring}
    (lasting : others.lifetime = lifetime)
    (rest : ∀ method entry, others.find? method = some entry →
      usage.keyring.find? method = some entry)
    (method : CredentialMethod) (credential : Credential) (other : CredentialMethod) (entry : Kept)
    (found : (others.keep method credential usage.clock).find? other = some entry) :
    Remembers lifetime ({ method, moment := usage.clock, credential } :: usage.handed) other
      entry := by
  rw [Keyring.find?_keep] at found
  split at found
  · rename_i same
    cases found
    exact ⟨[], _, usage.handed, rfl, by simp, same.symm, rfl, by rw [lasting]⟩
  · rename_i different
    exact (sound.kept other entry (rest other entry found)).cons fun same => different same.symm

/-- The latest handout is in order, and so are those before it. -/
theorem sustained_cons {handed : List Handout} {handout : Handout} {built : List (Nat × Float)}
    (latest : ∃ since, (handout.credential.number, since) ∈ built ∧
      Sustained lifetime handed handout since)
    (sustained : ∀ later other earlier, handed = later ++ other :: earlier →
      ∃ since, (other.credential.number, since) ∈ built ∧ Sustained lifetime earlier other since)
    (later : List Handout) (other : Handout) (earlier : List Handout)
    (split : handout :: handed = later ++ other :: earlier) :
    ∃ since, (other.credential.number, since) ∈ built ∧
      Sustained lifetime earlier other since := by
  cases later with
  | nil =>
    obtain ⟨rfl, rfl⟩ := List.cons.inj split
    exact latest
  | cons first later => exact sustained later other earlier (List.cons.inj split).2

theorem Sound.again (sound : usage.Sound lifetime) {method : CredentialMethod} {entry : Kept}
    (found : usage.keyring.find? method = some entry) (current : ¬entry.expiresAt < usage.clock) :
    Sound lifetime { usage with
      keyring := usage.keyring.keep method entry.credential usage.clock
      handed :=
        { method, moment := usage.clock, credential := entry.credential } :: usage.handed } := by
  -- the kept entry is what was handed out last for the method, and its expiry tells when
  obtain ⟨between, last, before, split, others, owner, same, expiry⟩ :=
    sound.kept method entry found
  obtain ⟨since, built, sustained⟩ := sound.sustained between last before split
  have latest : Sustained lifetime usage.handed
      { method, moment := usage.clock, credential := entry.credential } since := by
    rw [split]
    exact .again others owner same (by rw [← expiry]; exact current) sustained
  exact {
    lasting := sound.lasting
    kept := sound.remembers_keep sound.lasting (fun _ _ held => held) method entry.credential
    counted := by
      intro handout member
      rcases List.mem_cons.mp member with rfl | member
      · have := sound.counted last (by rw [split]; simp)
        rwa [same] at this
      · exact sound.counted handout member
    dated := sound.dated
    once := sound.once
    sustained := sustained_cons ⟨since, by rwa [same] at built, latest⟩ sound.sustained }

theorem Sound.made (sound : usage.Sound lifetime) {method : CredentialMethod}
    {credential : Credential} (number : credential.number = usage.keyring.made + 1)
    {others : Keyring} (rest : others = usage.keyring ∨ others = usage.keyring.drop method) :
    Sound lifetime { usage with
      keyring :=
        { others with made := usage.keyring.made + 1 }.keep method credential usage.clock
      handed := { method, moment := usage.clock, credential } :: usage.handed
      built := (usage.keyring.made + 1, usage.clock) :: usage.built } := by
  have lasting : others.lifetime = lifetime := by
    rcases rest with rfl | rfl
    · exact sound.lasting
    · exact sound.lasting
  exact {
    lasting := lasting
    kept := sound.remembers_keep lasting (fun _ _ => Keyring.find?_of_rest rest) method credential
    counted := by
      intro handout member
      rcases List.mem_cons.mp member with rfl | member
      · exact Nat.le_of_eq number
      · exact Nat.le_succ_of_le (sound.counted handout member)
    dated := by
      intro entry member
      rcases List.mem_cons.mp member with rfl | member
      · exact Nat.le_refl _
      · exact Nat.le_succ_of_le (sound.dated entry member)
    once := by
      refine List.nodup_cons.mpr ⟨fun again => ?_, sound.once⟩
      obtain ⟨entry, member, same⟩ := List.mem_map.mp again
      have := sound.dated entry member
      omega
    sustained := by
      -- its number is new, so nothing that was handed out before has it
      refine sustained_cons ⟨usage.clock, by simp [number], .new ?_⟩ ?_
      · intro other member
        rw [number]
        exact Nat.lt_succ_of_le (sound.counted other member)
      · intro later other earlier split
        obtain ⟨since, built, sustained⟩ := sound.sustained later other earlier split
        exact ⟨since, List.mem_cons_of_mem _ built, sustained⟩ }

theorem Sound.failed (sound : usage.Sound lifetime) {method : CredentialMethod} {others : Keyring}
    (rest : others = usage.keyring ∨ others = usage.keyring.drop method) :
    Sound lifetime { usage with keyring := others } := by
  have same : others.made = usage.keyring.made ∧ others.lifetime = usage.keyring.lifetime := by
    rcases rest with rfl | rfl <;> exact ⟨rfl, rfl⟩
  exact {
    lasting := same.2.trans sound.lasting
    kept := fun method entry found => sound.kept method entry (Keyring.find?_of_rest rest found)
    counted := by simpa only [same.1] using sound.counted
    dated := by simpa only [same.1] using sound.dated
    once := sound.once
    sustained := sound.sustained }

theorem Sound.obtain (sound : usage.Sound lifetime) (asked : Option CredentialMethod) :
    (usage.obtain asked).Sound lifetime := by
  unfold Usage.obtain
  generalize asked.getD usage.keyring.method = method
  dsimp only
  have outcome := usage.keyring.obtained usage.environment usage.clock method
  generalize usage.keyring.obtain usage.environment usage.clock method = answered at outcome ⊢
  -- whether a credential was made is told by the count of the keyring
  cases outcome with
  | again entry found current =>
    have kept : (usage.keyring.keep method entry.credential usage.clock).made =
      usage.keyring.made := rfl
    simp only [kept, Nat.lt_irrefl, if_false]
    exact sound.again found current
  | made source others rest =>
    generalize new : ({ number := usage.keyring.made + 1, source } : Credential) = credential
    have counted : ({ others with made := usage.keyring.made + 1 }.keep method credential
      usage.clock).made = usage.keyring.made + 1 := rfl
    simp only [counted, Nat.lt_succ_self, if_true]
    exact sound.made (by rw [← new]) rest
  | failed failure others rest =>
    have same : others.made = usage.keyring.made := by rcases rest with rfl | rfl <;> rfl
    simp only [same, Nat.lt_irrefl, if_false]
    exact sound.failed rest

theorem Sound.step (sound : usage.Sound lifetime) (move : Move) :
    (usage.step move).Sound lifetime := by
  cases move with
  | obtain asked => exact sound.obtain asked
  | wait moment => exact { sound with }
  | configure environment => exact { sound with }

theorem Sound.after (sound : usage.Sound lifetime) (moves : List Move) :
    (usage.after moves).Sound lifetime := by
  induction moves generalizing usage with
  | nil => exact sound
  | cons move moves ih => exact ih (sound.step move)

/-- A new keyring, before anything is asked of it. -/
def start (tenantId : Option String) (method : Option CredentialMethod) (lifetime : Part Float)
    (environment : Environment) (clock : Float) (made : Nat) : Usage where
  keyring := .start tenantId method lifetime environment made
  environment := environment
  clock := clock

theorem sound_start (tenantId : Option String) (method : Option CredentialMethod)
    (lifetime : Part Float) (environment : Environment) (clock : Float) (made : Nat) :
    (start tenantId method lifetime environment clock made).Sound
      (Keyring.lifetimeOf lifetime) where
  lasting := rfl
  kept := by
    intro method entry found
    simp [start, Keyring.start, Keyring.find?] at found
  counted := by simp [start]
  dated := by simp [start]
  once := by simp [start]
  sustained := by simp [start]

/-! ## Every use of a keyring -/

/-- However a keyring is used, whatever it hands out was made once, at a moment from which on it was
handed out without a gap of more than a lifetime. So it is no older than a lifetime where it was
handed out at most once before. -/
theorem credential_sustained (tenantId : Option String) (method : Option CredentialMethod)
    (lifetime : Part Float) (environment : Environment) (clock : Float) (made : Nat)
    (moves : List Move) (later : List Handout) (handout : Handout) (earlier : List Handout)
    (split : ((start tenantId method lifetime environment clock made).after moves).handed =
      later ++ handout :: earlier) :
    ∃ since,
      (∀ moment, (handout.credential.number, moment) ∈
        ((start tenantId method lifetime environment clock made).after moves).built ↔
          moment = since) ∧
      Sustained (Keyring.lifetimeOf lifetime) earlier handout since ∧
      (earlier.countP (·.credential = handout.credential) ≤ 1 →
        since = handout.moment ∨ ¬since + Keyring.lifetimeOf lifetime < handout.moment) := by
  have sound := (sound_start tenantId method lifetime environment clock made).after moves
  obtain ⟨since, built, sustained⟩ := sound.sustained later handout earlier split
  refine ⟨since, fun moment => ⟨fun other => ?_, fun same => same ▸ built⟩, sustained,
    sustained.within⟩
  exact congrArg Prod.snd (List.inj_on_of_nodup_map sound.once other built rfl)

/-- Three requests, and still the credential that was made for the first. -/
theorem credential_sustained_cli :
    Sustained 1000
      [{ method := .cli, moment := 1600, credential := { number := 1, source := .cli } },
        { method := .cli, moment := 1000, credential := { number := 1, source := .cli } }]
      { method := .cli, moment := 2200, credential := { number := 1, source := .cli } } 1000 := by
  obtain ⟨since, made, sustained, -⟩ := credential_sustained none (some .cli) (.given 1000) [] 1000
    0 [.obtain none, .wait 1600, .obtain none, .wait 2200, .obtain none] [] _ _ rfl
  obtain rfl : 1000 = since := (made 1000).mp (.head _)
  exact sustained

/-! ## Steady use -/

/-- What is kept for a method and has not expired is handed out, and kept anew. -/
theorem obtain_of_current {asked : Option CredentialMethod} {entry : Kept}
    (kept : usage.keyring.find? (asked.getD usage.keyring.method) = some entry)
    (current : ¬entry.expiresAt < usage.clock) :
    usage.obtain asked =
      { usage with
        keyring :=
          usage.keyring.keep (asked.getD usage.keyring.method) entry.credential usage.clock
        handed :=
          { method := asked.getD usage.keyring.method, moment := usage.clock,
            credential := entry.credential } :: usage.handed } := by
  simp [Usage.obtain, Keyring.obtain, Keyring.current, kept, current, Keyring.keep, Keyring.drop]

/-- A credential that is asked for again and again, each time no later than a lifetime after the
time before, is handed out every time, however long ago it was made. -/
theorem handed_after_steady_use (usage : Usage) (asked : Option CredentialMethod)
    (credential : Credential) (moments : List Float)
    (kept : usage.keyring.find? (asked.getD usage.keyring.method) =
      some { credential, expiresAt := usage.clock + usage.keyring.lifetime })
    (steady : (usage.clock :: moments).IsChain fun before moment =>
      ¬before + usage.keyring.lifetime < moment) :
    (usage.after (moments.flatMap fun moment => [.wait moment, .obtain asked])).handed =
      (moments.reverse.map fun moment =>
        { method := asked.getD usage.keyring.method, moment, credential }) ++ usage.handed := by
  induction moments generalizing usage with
  | nil => rfl
  | cons moment moments ih =>
    obtain ⟨current, steady⟩ := List.isChain_cons_cons.mp steady
    have obtained : Usage.obtain { usage with clock := moment } asked = _ :=
      obtain_of_current kept current
    have again := ih (Usage.obtain { usage with clock := moment } asked)
      (by rw [obtained]; exact (Keyring.find?_keep ..).trans (if_pos rfl))
      (by rw [obtained]; exact steady)
    rw [List.flatMap_cons, after, List.foldl_append]
    refine again.trans ?_
    rw [obtained]
    simp [Keyring.keep, Keyring.drop]

/-- Two uses, each within a lifetime of the one before, and the third is of an older credential. -/
example :
    let usage := (start none none (.given 1000) [] 1000 0).after
      [.obtain none, .wait 1600, .obtain none, .wait 2200, .obtain none]
    usage.handed.map (fun handout => handout.credential.number) = [1, 1, 1] ∧
      (1000 : Float) + 1000 < 2200 := by
  decide

end Usage

end ReverseDns
