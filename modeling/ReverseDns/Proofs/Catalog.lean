import ReverseDns.Proofs.MemberOrder
import ReverseDns.Proofs.RecordKeys
import ReverseDns.Proofs.Versions
import Mathlib.Data.Finmap
import Mathlib.Data.List.Nodup

/-!
# The memory as a catalog

What the memory answers is what a catalog answers: a set of zones, and a map from slots to the last
version that was written there. The two take the same steps side by side, whatever the names and the
tokens are, and wherever new etags come from.

* `Catalog`, `Catalog.serve` -- the zones and the versions, and what a call makes of them
* `Memory.machine`, `Memory.take_etagOf` -- the memory with etags from a source, as it is if these
  are numbered
* `Machine.run_alike` -- machines that agree step by step agree on every run
* `Memory.Mirrors` -- a memory that holds what a catalog holds
* `Memory.etagsIn_run`, `Memory.Drawn` -- the etags of writes, and those of stored record sets
* `Memory.refines_catalog` -- every run of the memory is one of the catalog
-/

namespace ReverseDns

/-! ## Steps and runs -/

/-- A use of a service: a zone is registered, or a call is made. -/
inductive Step where
  | addZone (resourceGroup zoneName : String)
  | call (request : Request)

/-- Calls are about record sets of the types that are offered. -/
def Step.Offered : Step → Prop
  | .addZone _ _ => True
  | .call request => request.key.recordType ∈ RecordType.offered

instance : DecidablePred Step.Offered
  | .addZone _ _ => inferInstanceAs (Decidable True)
  | .call request => inferInstanceAs (Decidable (request.key.recordType ∈ RecordType.offered))

/-- What is seen of a step: the reply to a call, without the error that explains it, and how many
record sets there are after it. -/
structure Observed where
  reply : Option Reply
  size : Nat

/-- Something that takes steps from state to state. -/
structure Machine (σ : Type) where
  take : Step → σ → Option Reply × σ
  size : σ → Nat

namespace Machine

variable {σ τ : Type}

/-- What is seen of steps, and the state after them. -/
def run (machine : Machine σ) : List Step → σ → List Observed × σ
  | [], state => ([], state)
  | step :: rest, state =>
    let taken := machine.take step state
    let ran := machine.run rest taken.2
    (⟨taken.1, machine.size taken.2⟩ :: ran.1, ran.2)

/-- Machines that start alike, and of which every step shows the same and leaves them alike, show
the same in every run. -/
theorem run_alike {first : Machine σ} {second : Machine τ} {Alike : σ → τ → Prop}
    (sizes : ∀ {state other}, Alike state other → first.size state = second.size other)
    (agree : ∀ {step state other}, step.Offered → Alike state other →
      (first.take step state).1 = (second.take step other).1 ∧
        Alike (first.take step state).2 (second.take step other).2)
    {steps : List Step} (offered : ∀ step ∈ steps, step.Offered) {state : σ} {other : τ}
    (start : Alike state other) :
    (first.run steps state).1 = (second.run steps other).1 ∧
      Alike (first.run steps state).2 (second.run steps other).2 := by
  -- the states are alike after every step, so the rest of the run starts alike again
  induction steps generalizing state other with
  | nil => exact ⟨rfl, start⟩
  | cons step rest inductionHypothesis =>
    obtain ⟨fits, others⟩ := List.forall_mem_cons.mp offered
    obtain ⟨replies, alike⟩ := agree fits start
    obtain ⟨seen, ended⟩ := inductionHypothesis others alike
    exact ⟨by simp only [run, replies, sizes alike, seen], ended⟩

/-- What every step preserves holds after every run. -/
theorem run_preserves {machine : Machine σ} {Holds : σ → Prop}
    (preserved : ∀ step state, Holds state → Holds (machine.take step state).2) (steps : List Step)
    {state : σ} (start : Holds state) : Holds (machine.run steps state).2 := by
  induction steps generalizing state with
  | nil => exact start
  | cons step rest inductionHypothesis => exact inductionHypothesis (preserved step state start)

end Machine

/-! ## The catalog -/

/-- What was last written into a slot: under which names, what, and with which etag. -/
structure Version where
  spelling : RecordKey
  properties : Properties
  etag : String

/-- The zones and the versions of a subscription, and how many etags were taken for them. -/
structure Catalog where
  subscriptionId : String
  zones : Finset String := ∅
  versions : Finmap fun _ : Slot => Version := ∅
  taken : Nat := 0

namespace Catalog

/-- Register a zone. -/
def addZone (catalog : Catalog) (resourceGroup zoneName : String) : Catalog where
  subscriptionId := catalog.subscriptionId
  zones := {Text.lowerCase resourceGroup ++ "/" ++ Text.lowerCase zoneName} ∪ catalog.zones
  versions := catalog.versions
  taken := catalog.taken

/-- A version as it is returned. -/
def recordSet (catalog : Catalog) (version : Version) : RecordSet where
  id := .given (Memory.idOf catalog.subscriptionId version.spelling)
  name := .given version.spelling.recordName
  etag := .given version.etag
  ttl := .given version.properties.ttl
  fqdn := .given (Memory.fqdnOf version.spelling)
  metadata := .given (version.properties.metadata.get?.getD [])
  entries := .given version.properties.entries

/-- Write a version into a slot of a zone that is there, unless a token forbids it. -/
def upsert (catalog : Catalog) (etag : String) (key : RecordKey) (properties : Properties)
    (ifMatch ifNoneMatch : String) : Reply × Catalog :=
  let entry := catalog.versions.lookup key.slot
  if key.slot.zone ∉ catalog.zones then ({ status := 404 }, catalog)
  else if (ifNoneMatch = "*" ∧ entry.isSome) ∨
      (ifMatch ≠ "" ∧ entry.map Version.etag ≠ some ifMatch) then ({ status := 412 }, catalog)
  else
    ({ status := if entry.isSome then 200 else 201,
       id := .given (Memory.idOf catalog.subscriptionId key), etag := .given etag },
     { catalog with
       versions := catalog.versions.insert key.slot ⟨key, properties, etag⟩
       taken := catalog.taken + 1 })

def get (catalog : Catalog) (key : RecordKey) : Reply :=
  match catalog.versions.lookup key.slot with
  | none => { status := 404 }
  | some version => { status := 200, recordSet := .given (catalog.recordSet version) }

/-- Take the version out of a slot, unless a token forbids it. -/
def delete (catalog : Catalog) (key : RecordKey) (ifMatch : String) : Reply × Catalog :=
  match catalog.versions.lookup key.slot with
  | none => ({ status := 204 }, catalog)
  | some version =>
    if ifMatch ≠ "" ∧ version.etag ≠ ifMatch then ({ status := 412 }, catalog)
    else ({ status := 200 }, { catalog with versions := catalog.versions.erase key.slot })

/-- Answer a call; a write that is made gets an etag. -/
def serve (etag : String) (request : Request) (catalog : Catalog) : Reply × Catalog :=
  match request with
  | .upsert key properties ifMatch ifNoneMatch =>
    catalog.upsert etag key properties ifMatch ifNoneMatch
  | .get key => (catalog.get key, catalog)
  | .delete key ifMatch => catalog.delete key ifMatch

/-- The catalog as a machine whose etags come from a source. -/
def machine (source : Nat → String) : Machine Catalog where
  take
    | .addZone resourceGroup zoneName, catalog => (none, catalog.addZone resourceGroup zoneName)
    | .call request, catalog =>
      let (reply, after) := catalog.serve (source (catalog.taken + 1)) request
      (some reply, after)
  size catalog := catalog.versions.keys.card

end Catalog

/-! ## The memory -/

/-- A reply without the error that explains it. -/
def Reply.bare (reply : Reply) : Reply := { reply with error := none }

namespace Memory

/-- Answer a call; a write that is made gets an etag. -/
def serveUnder (etag : String) (request : Request) (memory : Memory) : Reply × Memory :=
  match request with
  | .upsert key properties ifMatch ifNoneMatch =>
    memory.upsertUnder etag key properties ifMatch ifNoneMatch
  | .get key => (memory.get key, memory)
  | .delete key ifMatch => memory.delete key ifMatch

/-- The memory as a machine whose etags come from a source. -/
def machine (source : Nat → String) : Machine Memory where
  take
    | .addZone resourceGroup zoneName, memory => (none, memory.addZone resourceGroup zoneName)
    | .call request, memory =>
      let (reply, after) := memory.serveUnder (source (memory.issued + 1)) request
      (some reply.bare, after)
  size := size

/-- With the numbered etags the machine answers as the memory does. -/
theorem take_etagOf (request : Request) (memory : Memory) :
    (machine etagOf).take (.call request) memory =
      (some (memory.serve request).1.bare, (memory.serve request).2) := by
  cases request <;> rfl

end Memory

/-! ## How many record sets there are -/

namespace Keyed

variable {κ α : Type} [DecidableEq κ]

theorem length_insert (entries : List (κ × α)) (key : κ) (value : α) :
    (insert entries key value).length =
      if (get? entries key).isSome then entries.length else entries.length + 1 := by
  cases found : get? entries key with
  | none =>
    rw [insert_of_not_mem value (get?_eq_none_iff.mp found)]
    simp
  | some old =>
    have present : key ∈ keys entries := List.mem_map_of_mem (mem_of_get? found)
    have counted := congrArg List.length (keys_insert_of_mem value present)
    simpa [keys] using counted

theorem length_erase {entries : List (κ × α)} (distinct : (keys entries).Nodup) {key : κ} {old : α}
    (found : get? entries key = some old) :
    (erase entries key).length = entries.length - 1 := by
  have present : key ∈ keys entries := List.mem_map_of_mem (mem_of_get? found)
  have erased : keys (erase entries key) = (keys entries).erase key := by
    rw [distinct.erase_eq_filter, keys, keys, erase, List.filter_map]
    rfl
  have counted := congrArg List.length erased
  rw [List.length_erase_of_mem present] at counted
  simpa [keys] using counted

end Keyed

theorem Catalog.card_keys_insert (versions : Finmap fun _ : Slot => Version) (slot : Slot)
    (version : Version) : (versions.insert slot version).keys.card =
      if (versions.lookup slot).isSome then versions.keys.card else versions.keys.card + 1 := by
  have keys : (versions.insert slot version).keys = insert slot versions.keys := by
    ext other
    simp [Finmap.mem_keys]
  rw [keys]
  split
  next present =>
    exact congrArg Finset.card
      (Finset.insert_eq_of_mem (Finmap.mem_keys.mpr (Finmap.lookup_isSome.mp present)))
  next absent =>
    exact Finset.card_insert_of_notMem
      (mt (fun member => Finmap.lookup_isSome.mpr (Finmap.mem_keys.mp member)) absent)

/-! ## Side by side -/

/-- A version as the memory stores it. -/
def Catalog.stored (catalog : Catalog) (version : Version) : Stored where
  id := Memory.idOf catalog.subscriptionId version.spelling
  name := version.spelling.recordName
  etag := version.etag
  ttl := version.properties.ttl
  fqdn := Memory.fqdnOf version.spelling
  metadata := version.properties.metadata.get?.getD []
  entries := version.properties.entries

namespace Memory

/-- The memory after a write under an etag. -/
def writtenUnder (memory : Memory) (etag : String) (key : RecordKey) (properties : Properties) :
    Memory :=
  { memory with
    recordSets := Keyed.insert memory.recordSets (recordKey key)
      (memory.storedUnder etag key properties)
    issued := memory.issued + 1 }

/-- The memory holds what a catalog holds. -/
structure Mirrors (memory : Memory) (catalog : Catalog) : Prop where
  subscription : memory.subscriptionId = catalog.subscriptionId
  zones : ∀ zone, zone ∈ memory.zones ↔ zone ∈ catalog.zones
  issued : memory.issued = catalog.taken
  found : ∀ key : RecordKey, key.recordType ∈ RecordType.offered →
    memory.find? key = (catalog.versions.lookup key.slot).map catalog.stored
  distinct : (Keyed.keys memory.recordSets).Nodup
  size : memory.size = catalog.versions.keys.card

variable {memory : Memory} {catalog : Catalog} {key : RecordKey}

theorem mirrors_fresh (subscriptionId : String) :
    ({ subscriptionId } : Memory).Mirrors { subscriptionId } where
  subscription := rfl
  zones _ := by simp
  issued := rfl
  found _ _ := rfl
  distinct := .nil
  size := rfl

theorem Mirrors.addZone (mirrors : memory.Mirrors catalog) (resourceGroup zoneName : String) :
    (memory.addZone resourceGroup zoneName).Mirrors (catalog.addZone resourceGroup zoneName) where
  subscription := mirrors.subscription
  zones zone := by simp [Memory.addZone, Catalog.addZone, zoneKey, mirrors.zones]
  issued := mirrors.issued
  found := mirrors.found
  distinct := mirrors.distinct
  size := mirrors.size

theorem Mirrors.isSome_found (mirrors : memory.Mirrors catalog)
    (offered : key.recordType ∈ RecordType.offered) :
    (memory.find? key).isSome = (catalog.versions.lookup key.slot).isSome := by
  rw [mirrors.found key offered, Option.isSome_map]

theorem Mirrors.written (mirrors : memory.Mirrors catalog)
    (offered : key.recordType ∈ RecordType.offered) (etag : String) (properties : Properties) :
    (memory.writtenUnder etag key properties).Mirrors
      { catalog with
        versions := catalog.versions.insert key.slot ⟨key, properties, etag⟩
        taken := catalog.taken + 1 } where
  subscription := mirrors.subscription
  zones := mirrors.zones
  issued := congrArg (· + 1) mirrors.issued
  found other otherOffered := by
    rw [find?, writtenUnder, Keyed.get?_insert]
    -- the texts of two keys are equal exactly where their slots are
    by_cases same : other.slot = key.slot
    · rw [if_pos ((recordKey_eq_iff otherOffered offered).mpr same), same, Finmap.lookup_insert,
        storedUnder, mirrors.subscription]
      rfl
    · rw [if_neg (mt (recordKey_eq_iff otherOffered offered).mp same),
        Finmap.lookup_insert_of_ne _ same]
      exact mirrors.found other otherOffered
  distinct := Keyed.nodup_keys_insert mirrors.distinct _ _
  size := by
    have presence := mirrors.isSome_found offered
    have size := mirrors.size
    rw [find?] at presence
    rw [Memory.size] at size
    rw [Memory.size, writtenUnder, Keyed.length_insert, Catalog.card_keys_insert, presence, size]

theorem Mirrors.erased (mirrors : memory.Mirrors catalog)
    (offered : key.recordType ∈ RecordType.offered) {version : Version}
    (present : catalog.versions.lookup key.slot = some version) :
    (memory.erased key).Mirrors { catalog with versions := catalog.versions.erase key.slot } where
  subscription := mirrors.subscription
  zones := mirrors.zones
  issued := mirrors.issued
  found other otherOffered := by
    rw [find?_erased]
    by_cases same : other.slot = key.slot
    · rw [if_pos ((recordKey_eq_iff otherOffered offered).mpr same), same, Finmap.lookup_erase]
      rfl
    · rw [if_neg (mt (recordKey_eq_iff otherOffered offered).mp same), Finmap.lookup_erase_ne same]
      exact mirrors.found other otherOffered
  distinct := Keyed.nodup_keys_erase mirrors.distinct _
  size := by
    have stored := mirrors.found key offered
    rw [present, Option.map_some, find?] at stored
    have member : key.slot ∈ catalog.versions.keys :=
      Finmap.mem_keys.mpr (Finmap.mem_of_lookup_eq_some present)
    have size := mirrors.size
    rw [Memory.size] at size
    rw [Memory.size, Memory.erased, Keyed.length_erase mirrors.distinct stored, Finmap.keys_erase,
      Finset.card_erase_of_mem member, size]

theorem matchesEtag_eq_false_iff {existing : Option Stored} {ifMatch : String} :
    matchesEtag existing ifMatch = false ↔
      ifMatch ≠ "" ∧ existing.map Stored.etag ≠ some ifMatch := by
  simp [matchesEtag]

/-- Results of a call that are seen to be alike, and after which the same is held. -/
def Agrees (result : Reply × Memory) (expected : Reply × Catalog) : Prop :=
  result.1.bare = expected.1 ∧ result.2.Mirrors expected.2

theorem Mirrors.upsert (mirrors : memory.Mirrors catalog)
    (offered : key.recordType ∈ RecordType.offered) (etag : String) (properties : Properties)
    (ifMatch ifNoneMatch : String) :
    Agrees (memory.upsertUnder etag key properties ifMatch ifNoneMatch)
      (catalog.upsert etag key properties ifMatch ifNoneMatch) := by
  have presence := mirrors.isSome_found offered
  have etags : (memory.find? key).map Stored.etag =
      (catalog.versions.lookup key.slot).map Version.etag := by
    rw [mirrors.found key offered, Option.map_map]
    rfl
  have registered : memory.zones.contains (zoneKey key.resourceGroup key.zoneName) = true ↔
      key.slot.zone ∈ catalog.zones := by
    rw [List.contains_iff_mem, mirrors.zones]
    rfl
  unfold upsertUnder Catalog.upsert
  dsimp only
  -- the memory checks the tokens one after the other, the catalog both at once
  by_cases zone : key.slot.zone ∈ catalog.zones
  · rw [registered.mpr zone, if_neg (not_not.mpr zone), if_neg (by decide), presence]
    split
    next forbidden =>
      rw [if_pos (.inl (by simpa using forbidden))]
      exact ⟨rfl, mirrors⟩
    next allowed =>
      have free : ¬(ifNoneMatch = "*" ∧ (catalog.versions.lookup key.slot).isSome = true) := by
        simpa using allowed
      split
      next mismatch =>
        have other := matchesEtag_eq_false_iff.mp (by simpa using mismatch)
        rw [etags] at other
        rw [if_pos (.inr other)]
        exact ⟨rfl, mirrors⟩
      next matched =>
        have same := mt matchesEtag_eq_false_iff.mpr (by simpa using matched)
        rw [etags] at same
        rw [if_neg (not_or.mpr ⟨free, same⟩)]
        refine ⟨?_, mirrors.written offered etag properties⟩
        rw [← mirrors.subscription]
        rfl
  · rw [Bool.eq_false_iff.mpr (mt registered.mp zone), if_pos zone]
    exact ⟨rfl, mirrors⟩

theorem Mirrors.get (mirrors : memory.Mirrors catalog)
    (offered : key.recordType ∈ RecordType.offered) :
    (memory.get key).bare = catalog.get key := by
  rw [Memory.get, Catalog.get, mirrors.found key offered]
  cases catalog.versions.lookup key.slot <;> rfl

theorem Mirrors.delete (mirrors : memory.Mirrors catalog)
    (offered : key.recordType ∈ RecordType.offered) (ifMatch : String) :
    Agrees (memory.delete key ifMatch) (catalog.delete key ifMatch) := by
  rw [Memory.delete, Catalog.delete, mirrors.found key offered]
  cases entry : catalog.versions.lookup key.slot with
  | none => exact ⟨rfl, mirrors⟩
  | some version =>
    have matches_iff : matchesEtag (some (catalog.stored version)) ifMatch = true ↔
        ¬(ifMatch ≠ "" ∧ version.etag ≠ ifMatch) := by
      rw [← Bool.not_eq_false, matchesEtag_eq_false_iff]
      simp [Catalog.stored]
    dsimp only [Option.map_some]
    by_cases other : ifMatch ≠ "" ∧ version.etag ≠ ifMatch
    · rw [if_neg (mt matches_iff.mp (not_not.mpr other)), if_pos other]
      exact ⟨rfl, mirrors⟩
    · rw [if_pos (matches_iff.mpr other), if_neg other]
      exact ⟨rfl, mirrors.erased offered entry⟩

/-- A memory and a catalog that hold the same reply alike to a call, and hold the same after it. -/
theorem Mirrors.serve (mirrors : memory.Mirrors catalog) {request : Request}
    (offered : request.key.recordType ∈ RecordType.offered) (etag : String) :
    Agrees (memory.serveUnder etag request) (catalog.serve etag request) := by
  cases request with
  | upsert key properties ifMatch ifNoneMatch =>
    exact mirrors.upsert offered etag properties ifMatch ifNoneMatch
  | get key => exact ⟨mirrors.get offered, mirrors⟩
  | delete key ifMatch => exact mirrors.delete offered ifMatch

/-- And so they do with every step, if their etags come from one source. -/
theorem Mirrors.take (mirrors : memory.Mirrors catalog) (source : Nat → String) {step : Step}
    (offered : step.Offered) :
    ((machine source).take step memory).1 = ((Catalog.machine source).take step catalog).1 ∧
      ((machine source).take step memory).2.Mirrors
        ((Catalog.machine source).take step catalog).2 := by
  cases step with
  | addZone resourceGroup zoneName => exact ⟨rfl, mirrors.addZone resourceGroup zoneName⟩
  | call request =>
    obtain ⟨replies, after⟩ := mirrors.serve offered (source (memory.issued + 1))
    rw [mirrors.issued] at replies after
    simp only [machine, Catalog.machine, mirrors.issued]
    exact ⟨congrArg some replies, after⟩

/-! ## Etags -/

/-- The etags that replies hand out for writes. -/
def etagsIn (observed : List Observed) : List String :=
  observed.filterMap fun seen => seen.reply.bind fun reply => reply.etag.get?

/-- What comes of a call: a record set is written, and the new etag handed out, or one is deleted,
or nothing changes. Only then the call may be rejected. -/
inductive Turn (memory : Memory) (etag : String) : Reply × Memory → Prop where
  | wrote (reply : Reply) (key : RecordKey) (properties : Properties)
      (success : isSuccess reply.status = true) (given : reply.etag = .given etag) :
      Turn memory etag (reply, memory.writtenUnder etag key properties)
  | deleted (reply : Reply) (key : RecordKey) (success : isSuccess reply.status = true)
      (silent : reply.etag = .absent) : Turn memory etag (reply, memory.erased key)
  | unchanged (reply : Reply) (silent : reply.etag = .absent) : Turn memory etag (reply, memory)

theorem turn_serveUnder (memory : Memory) (etag : String) (request : Request) :
    Turn memory etag (memory.serveUnder etag request) := by
  cases request with
  | upsert key properties ifMatch ifNoneMatch =>
    dsimp only [serveUnder, upsertUnder]
    split
    · exact .unchanged _ rfl
    · split
      · exact .unchanged _ rfl
      · split
        · exact .unchanged _ rfl
        · refine .wrote _ key properties ?_ rfl
          dsimp only
          split <;> decide
  | get key =>
    refine .unchanged _ ?_
    rw [Memory.get]
    split <;> rfl
  | delete key ifMatch =>
    dsimp only [serveUnder, Memory.delete]
    split
    · exact .unchanged _ rfl
    · split
      · exact .deleted _ key (by decide) rfl
      · exact .unchanged _ rfl

/-- A call that is rejected changes nothing. -/
theorem serveUnder_of_rejected {etag : String} {request : Request}
    (rejected : isSuccess (memory.serveUnder etag request).1.status = false) :
    (memory.serveUnder etag request).2 = memory := by
  have turn := memory.turn_serveUnder etag request
  generalize memory.serveUnder etag request = result at turn rejected ⊢
  cases turn with
  | wrote _ _ _ success | deleted _ _ success =>
    rw [success] at rejected
    cases rejected
  | unchanged => rfl

/-- Writes hand out the etags of the source one after the other. -/
theorem etagsIn_run (source : Nat → String) (steps : List Step) (memory : Memory) :
    ∃ count, etagsIn ((machine source).run steps memory).1 =
      (List.range' (memory.issued + 1) count).map source := by
  -- a write takes the next etag of the source, and every other step leaves the count as it is
  induction steps generalizing memory with
  | nil => exact ⟨0, rfl⟩
  | cons step rest inductionHypothesis =>
    cases step with
    | addZone resourceGroup zoneName => exact inductionHypothesis _
    | call request =>
      have turn := memory.turn_serveUnder (source (memory.issued + 1)) request
      simp only [Machine.run, machine, etagsIn, List.filterMap_cons]
      generalize memory.serveUnder (source (memory.issued + 1)) request = result at turn ⊢
      cases turn with
      | wrote reply key properties _ given =>
        obtain ⟨count, later⟩ := inductionHypothesis
          (memory.writtenUnder (source (memory.issued + 1)) key properties)
        refine ⟨count + 1, ?_⟩
        have handed : reply.bare.etag.get? = some (source (memory.issued + 1)) :=
          congrArg Part.get? given
        rw [Option.bind_some, handed, List.range'_succ, List.map_cons]
        exact congrArg _ later
      | deleted reply key _ silent =>
        have handed : reply.bare.etag.get? = none := congrArg Part.get? silent
        rw [Option.bind_some, handed]
        exact inductionHypothesis (memory.erased key)
      | unchanged reply silent =>
        have handed : reply.bare.etag.get? = none := congrArg Part.get? silent
        rw [Option.bind_some, handed]
        exact inductionHypothesis memory

/-- Every stored etag came from the source, and no two of them are equal. -/
structure Drawn (source : Nat → String) (memory : Memory) : Prop where
  known : ∀ entry ∈ memory.recordSets, ∃ number ≤ memory.issued, entry.2.etag = source number
  apart : ∀ first ∈ memory.recordSets, ∀ second ∈ memory.recordSets,
    first.2.etag = second.2.etag → first = second

theorem Drawn.written {source : Nat → String} (injective : Function.Injective source)
    (drawn : memory.Drawn source) (key : RecordKey) (properties : Properties) :
    (memory.writtenUnder (source (memory.issued + 1)) key properties).Drawn source := by
  -- stored etags have smaller numbers
  have fresh (entry : String × Stored) (member : entry ∈ memory.recordSets) :
      entry.2.etag ≠ source (memory.issued + 1) := by
    obtain ⟨number, bound, equal⟩ := drawn.known entry member
    intro same
    have again : number = memory.issued + 1 := injective (equal.symm.trans same)
    omega
  constructor
  · intro entry member
    rcases Keyed.mem_of_mem_insert member with rfl | member
    · exact ⟨memory.issued + 1, Nat.le_refl _, rfl⟩
    · obtain ⟨number, bound, equal⟩ := drawn.known entry member
      exact ⟨number, Nat.le_succ_of_le bound, equal⟩
  · intro first firstMember second secondMember same
    rcases Keyed.mem_of_mem_insert firstMember with rfl | firstMember
    · rcases Keyed.mem_of_mem_insert secondMember with rfl | secondMember
      · rfl
      · exact absurd same.symm (fresh second secondMember)
    · rcases Keyed.mem_of_mem_insert secondMember with rfl | secondMember
      · exact absurd same (fresh first firstMember)
      · exact drawn.apart first firstMember second secondMember same

theorem Drawn.take {source : Nat → String} (injective : Function.Injective source) (step : Step)
    (memory : Memory) (drawn : memory.Drawn source) :
    ((machine source).take step memory).2.Drawn source := by
  cases step with
  | addZone resourceGroup zoneName => exact ⟨drawn.known, drawn.apart⟩
  | call request =>
    have turn := memory.turn_serveUnder (source (memory.issued + 1)) request
    simp only [machine]
    generalize memory.serveUnder (source (memory.issued + 1)) request = result at turn ⊢
    cases turn with
    | wrote reply key properties => exact drawn.written injective key properties
    | deleted reply key =>
      have kept : (memory.erased key).recordSets ⊆ memory.recordSets := List.filter_sublist.subset
      exact ⟨fun entry member => drawn.known entry (kept member), fun first member second other =>
        drawn.apart first (kept member) second (kept other)⟩
    | unchanged => exact drawn

/-! ## Every run -/

/-- Whatever steps it takes, the memory is seen to do what the catalog does, and a call that it
rejects changes nothing. If the source of its etags never repeats, every write hands out an etag
that was not handed out before, and no two stored record sets share one. -/
theorem refines_catalog (subscriptionId : String) (source : Nat → String) {steps : List Step}
    (offered : ∀ step ∈ steps, step.Offered) :
    let ran := (machine source).run steps { subscriptionId }
    ran.1 = ((Catalog.machine source).run steps { subscriptionId }).1 ∧
      (∀ etag request, isSuccess (ran.2.serveUnder etag request).1.status = false →
        (ran.2.serveUnder etag request).2 = ran.2) ∧
      (Function.Injective source →
        (etagsIn ran.1).Nodup ∧ (ran.2.recordSets.map fun entry => entry.2.etag).Nodup) := by
  intro ran
  obtain ⟨seen, mirrors⟩ := Machine.run_alike Mirrors.size
    (fun fits mirrors => mirrors.take source fits) offered (mirrors_fresh subscriptionId)
  refine ⟨seen, fun etag request => serveUnder_of_rejected, fun injective => ⟨?_, ?_⟩⟩
  · obtain ⟨count, handed⟩ := etagsIn_run source steps { subscriptionId }
    rw [handed]
    exact List.Nodup.map injective (List.nodup_range' ..)
  · have start : ({ subscriptionId } : Memory).Drawn source := {
      known := fun _ member => absurd member List.not_mem_nil
      apart := fun _ member => absurd member List.not_mem_nil }
    have drawn : ran.2.Drawn source := Machine.run_preserves (Drawn.take injective) steps start
    exact List.Nodup.map_on drawn.apart (List.Nodup.of_map _ mirrors.distinct)

/-- A record set that is written, overwritten under another spelling, and not deleted for want of
its etag. -/
def overwriting : List Step :=
  let named (name : String) : RecordKey :=
    { resourceGroup := "G", zoneName := "z", recordName := name, recordType := .ptr }
  let properties : Properties := { metadata := .absent, ttl := 60, entries := [] }
  [.addZone "g" "Z", .call (.upsert (named "a/B") properties "" "*"),
    .call (.upsert (named "A/b") properties (etagOf 1) ""),
    .call (.delete (named "a/b") (etagOf 1)), .call (.get (named "a/b"))]

theorem refines_catalog_overwriting :
    (∀ step ∈ overwriting, step.Offered) ∧
      let ran := (machine etagOf).run overwriting { subscriptionId := "s" }
      ran.1 = ((Catalog.machine etagOf).run overwriting { subscriptionId := "s" }).1 ∧
        (etagsIn ran.1).Nodup ∧ etagsIn ran.1 = [etagOf 1, etagOf 2] ∧
        ran.1.map Observed.size = [0, 1, 1, 1, 1] := by
  have offered : ∀ step ∈ overwriting, step.Offered := by decide
  obtain ⟨alike, -, fresh⟩ := refines_catalog "s" etagOf offered
  refine ⟨offered, alike, (fresh fun _ _ => etagOf_inj.mp).1, ?_, ?_⟩
  · decide +kernel
  · decide +kernel

end Memory

end ReverseDns
