import ReverseDns.Proofs.Convergence
import ReverseDns.Proofs.WriteOutcomes

/-!
# What is created is read back

On a memory a record set is written if its zone is there and it has the etag that is asked for; then
it is read back as it was described, with its host names in order. Otherwise nothing changes.

* `wantedEtag` -- the etag that is asked for
* `Memory.HasZone`, `Memory.Matches` -- what a write needs
* `Refuses`, `ReadsBack` -- what comes of a write
* `create_then_read` -- which of them, and when
-/

namespace ReverseDns

open Reconcile (createOrUpdate expectedEtag trackedEtag identified refreshed lookUp refresh)
open Text (Slashless)

variable {memory : Memory} {address : Address} {desired : Desired} {tracked : Tracked}

/-! ## What a write needs -/

/-- The etag that a record set has to have when it is written: the one of its description, or else
the cached one if what is remembered is the same record set up to letter case. -/
def wantedEtag (desired : Desired) (tracked : Tracked) : String :=
  match desired.etag, tracked.usableId.map PtrRecordId.parse with
  | some etag, _ => etag
  | none, some (.ok id) =>
    if id.address.same desired.address then (tracked.attributes.map Attributes.etag).getD "" else ""
  | none, _ => ""

/-- Nothing is remembered, or an ID that can be read. -/
def Tracked.Readable (tracked : Tracked) : Prop :=
  ∀ text, tracked.usableId = some text → ∃ id, PtrRecordId.parse text = .ok id

theorem expectedEtag_eq (desired : Desired) (readable : tracked.Readable) :
    expectedEtag desired tracked = .ok (wantedEtag desired tracked) := by
  unfold expectedEtag wantedEtag
  cases desired.etag with
  | some etag => rfl
  | none =>
    cases usable : tracked.usableId with
    | none => simp [trackedEtag, usable]
    | some text =>
      -- an ID that cannot be read would leave the etag unknown
      obtain ⟨id, parsed⟩ := readable text usable
      simp only [trackedEtag, usable, parsed, Option.map_some]
      split <;> rfl

namespace Memory

/-- The zone of an address is registered. -/
def HasZone (memory : Memory) (address : Address) : Prop :=
  memory.zones.contains (zoneKey address.resourceGroup address.zoneName) = true

instance : Decidable (memory.HasZone address) := inferInstanceAs (Decidable (_ = true))

/-- No etag is asked for, or the record set at an address has it. -/
def Matches (memory : Memory) (address : Address) (etag : String) : Prop :=
  etag = "" ∨ ∃ stored, memory.find? address.ptr = some stored ∧ stored.etag = etag

theorem matches_iff {etag : String} :
    memory.Matches address etag ↔ matchesEtag (memory.find? address.ptr) etag = true := by
  simp [Matches, matchesEtag]

theorem upsert_without_zone (missing : ¬memory.HasZone address) (properties : Properties)
    (ifMatch : String) : ∃ message, memory.upsert address.ptr properties ifMatch "" =
      (refusal 404 message, memory) := by
  have missing : memory.zones.contains
      (zoneKey address.ptr.resourceGroup address.ptr.zoneName) = false :=
    Bool.eq_false_iff.mpr missing
  rw [upsert, upsertUnder, missing]
  exact ⟨_, rfl⟩

theorem upsert_without_match {ifMatch : String} (zone : memory.HasZone address)
    (mismatch : ¬memory.Matches address ifMatch) (properties : Properties) :
    ∃ message, memory.upsert address.ptr properties ifMatch "" = (refusal 412 message, memory) := by
  have zone : memory.zones.contains
      (zoneKey address.ptr.resourceGroup address.ptr.zoneName) = true := zone
  have mismatch := Bool.eq_false_iff.mpr (mt matches_iff.mpr mismatch)
  have unforbidden : ("" == "*") = false := by decide
  simp only [upsert, upsertUnder, zone, mismatch, unforbidden, Bool.not_true, Bool.not_false,
    Bool.false_and, Bool.false_eq_true, if_false, if_true]
  exact ⟨_, rfl⟩

theorem upsert_of_matches {ifMatch : String} (zone : memory.HasZone address)
    (matched : memory.Matches address ifMatch) (properties : Properties) :
    memory.upsert address.ptr properties ifMatch "" =
      (memory.acknowledgement address.ptr properties, memory.written address.ptr properties) :=
  have zone : memory.zones.contains
      (zoneKey address.ptr.resourceGroup address.ptr.zoneName) = true := zone
  upsert_of_matchesEtag properties zone (matches_iff.mp matched)

end Memory

/-! ## What comes of a write -/

/-- A write is refused with a status: nothing has changed. -/
structure Refuses {α : Type} (memory : Memory) (tracked : Tracked) (files : Files)
    (transcript : Transcript Memory α) (status : Float) : Prop where
  failed : ∃ failure, transcript.result = .error failure ∧ failure.kind = "RemoteError" ∧
    failure.status? = some status
  state : transcript.state = memory
  tracked : transcript.trackedAfter tracked = tracked
  files : transcript.files = files

/-- After a write a record set is found by its ID, and by what is remembered, as it was described.
Every other record set is as before. -/
structure ReadsBack (host : Host Memory) (before after : Memory) (files : Files) (desired : Desired)
    (tracked : Tracked) (id : PtrRecordId) : Prop where
  named : id = {
    subscriptionId := before.subscriptionId
    resourceGroup := desired.resourceGroupName
    zoneName := desired.zoneName
    recordName := desired.name }
  found : ∃ remote : Remote,
    ((lookUp id.address).run host after files).result = .ok (some remote) ∧
    (∃ current, ((refresh tracked).run host after files).result = .ok (current, some remote)) ∧
    remote.ttl = some desired.ttl ∧ remote.tags = desired.tags.getD [] ∧
    remote.records.Pairwise (· < ·) ∧
    ∀ name, name ∈ remote.records ↔ name ∈ desired.records
  others : ∀ key, Memory.recordKey key ≠ Memory.recordKey desired.address.ptr →
    after.find? key = before.find? key

variable {home : Home} {number : Nat} {files : Files}

theorem refuses_of_upsert {ifMatch message : String} {status : Float}
    (expected : expectedEtag desired tracked = .ok ifMatch)
    (refused : memory.upsert desired.address.ptr desired.properties ifMatch "" =
      (Memory.refusal status message, memory))
    (failed : isSuccess status = false) :
    Refuses memory tracked files ((Reconcile.write desired tracked).run
      { service := Memory.service, home, number } memory files) status := by
  rw [Memory.run_write expected refused, Reconcile.writeEnd]
  simp only [Memory.writeAnswer_refusal desired message failed]
  exact ⟨⟨_, rfl, rfl, rfl⟩, rfl, rfl, rfl⟩

section Created

variable {description : Option Json} (accepted : Desired.ofJson description = .ok desired)
  (parsed : PtrRecordId.parse (memory.idFor desired.address).format =
    .ok (memory.idFor desired.address))

include accepted in
theorem lookUp_written (memory : Memory) (home : Home) (number : Nat) (files : Files) :
    ((lookUp desired.address).run { service := Memory.service, home, number }
      (memory.written desired.address.ptr desired.properties) files).result =
        .ok (some (memory.remoteFor desired)) := by
  rw [Reconcile.run_lookUp]
  exact memory.readAnswer_written accepted

include accepted parsed in
/-- A record set that may be written is created and read back, if its ID can be written down. -/
theorem readsBack_of_upsert {ifMatch : String} (home : Home) (number : Nat) (files : Files)
    (expected : expectedEtag desired tracked = .ok ifMatch)
    (made : memory.upsert desired.address.ptr desired.properties ifMatch "" =
      (memory.acknowledgement desired.address.ptr desired.properties,
        memory.written desired.address.ptr desired.properties))
    (kept : (home.keep (identified tracked (memory.idFor desired.address).format) files).1 =
      .ok ()) :
    let host : Host Memory := { service := Memory.service, home, number }
    let transcript := (Reconcile.write desired tracked).run host memory files
    let final := refreshed (identified tracked (memory.idFor desired.address).format)
      (memory.remoteFor desired)
    transcript.result = .ok (final, memory.idFor desired.address) ∧
      transcript.trackedAfter tracked = final ∧
      ReadsBack host memory transcript.state transcript.files desired final
        (memory.idFor desired.address) := by
  intro host transcript final
  let first := identified tracked (memory.idFor desired.address).format
  have usable : first.usableId = some (memory.idFor desired.address).format :=
    Reconcile.usableId_identified tracked (PtrRecordId.ne_empty_of_parse parsed)
  have again (next : Tracked) : (home.keep next (home.keep first files).2).1 = .ok () :=
    Home.keep_again (Prod.ext kept rfl) next
  have ran : transcript = _ := Memory.run_write_made expected made parsed
  simp only [kept, Transcript.andThen_ok, Memory.run_refresh_made accepted parsed usable, first,
    again, Except.map] at ran
  rw [ran]
  have current : final.usableId = some (memory.idFor desired.address).format := usable
  let later := (home.keep final (home.keep first files).2).2
  have once := lookUp_written accepted memory home number later
  -- to read it again is to write the same down once more
  have twice := congrArg Transcript.result
    (Memory.run_refresh_made accepted parsed current home number later)
  have third := Home.keep_again (Prod.ext (again final) rfl)
    (refreshed final (memory.remoteFor desired))
  have increasing := Hostnames.ordered_increasing desired.records
  exact ⟨rfl, rfl, {
    named := rfl
    found := ⟨memory.remoteFor desired, once,
      ⟨_, twice.trans (congrArg (Except.map _) third)⟩, rfl, rfl, increasing,
      fun name => by simp [Memory.remoteFor, Stored.remote]⟩
    others := fun key apart => (Memory.find?_written ..).trans (if_neg apart) }⟩

end Created

theorem refuses_without_zone (readable : tracked.Readable)
    (missing : ¬memory.HasZone desired.address) (home : Home) (number : Nat) (files : Files) :
    Refuses memory tracked files ((Reconcile.write desired tracked).run
      { service := Memory.service, home, number } memory files) 404 := by
  obtain ⟨message, refused⟩ := Memory.upsert_without_zone missing desired.properties
    (wantedEtag desired tracked)
  exact refuses_of_upsert (expectedEtag_eq desired readable) refused (by decide)

theorem refuses_without_match (readable : tracked.Readable) (zone : memory.HasZone desired.address)
    (mismatch : ¬memory.Matches desired.address (wantedEtag desired tracked)) (home : Home)
    (number : Nat) (files : Files) :
    Refuses memory tracked files ((Reconcile.write desired tracked).run
      { service := Memory.service, home, number } memory files) 412 := by
  obtain ⟨message, refused⟩ := Memory.upsert_without_match zone mismatch desired.properties
  exact refuses_of_upsert (expectedEtag_eq desired readable) refused (by decide)

theorem Refuses.not_ok {α : Type} {transcript : Transcript Memory α} {status : Float}
    (refused : Refuses memory tracked files transcript status) (result : α) :
    transcript.result ≠ .ok result := by
  obtain ⟨failure, failed, -⟩ := refused.failed
  intro succeeded
  cases failed.symm.trans succeeded

/-- On a memory a description that is accepted is written if its zone is there, the record set has
the etag that is asked for, and its ID can be written down. -/
theorem create_then_read {description : Option Json} (subscription : memory.subscriptionId ≠ "")
    (subscriptionPlain : Slashless memory.subscriptionId)
    (accepted : Desired.ofJson description = .ok desired) (printable : desired.address.Printable)
    (readable : tracked.Readable) (home : Home) (number : Nat) (files : Files) :
    let host : Host Memory := { service := Memory.service, home, number }
    let transcript := (createOrUpdate description tracked).run host memory files
    let etag := wantedEtag desired tracked
    let kept := (home.keep (identified tracked (memory.idFor desired.address).format) files).1
    ((∃ result, transcript.result = .ok result) ↔ memory.HasZone desired.address ∧
      memory.Matches desired.address etag ∧ kept = .ok ()) ∧
    (∀ current id, transcript.result = .ok (current, id) →
      transcript.trackedAfter tracked = current ∧
        ReadsBack host memory transcript.state transcript.files desired current id) ∧
    (¬memory.HasZone desired.address → Refuses memory tracked files transcript 404) ∧
    (memory.HasZone desired.address → ¬memory.Matches desired.address etag →
      Refuses memory tracked files transcript 412) ∧
    (memory.HasZone desired.address → memory.Matches desired.address etag →
      ∀ failure, kept = .error failure → transcript.result = .error failure ∧
        transcript.state = memory.written desired.address.ptr desired.properties) := by
  intro host transcript etag kept
  obtain ⟨group, zoneName, name⟩ := Desired.address_nonempty accepted
  have parsed :=
    CommandLine.parse_idFor subscription subscriptionPlain group zoneName name printable
  have ran : transcript = (Reconcile.write desired tracked).run host memory files := by
    simp only [transcript, Reconcile.run_createOrUpdate, accepted]
  clear_value transcript
  by_cases zone : memory.HasZone desired.address
  case neg =>
    have refused : Refuses memory tracked files transcript 404 :=
      ran ▸ refuses_without_zone readable zone home number files
    exact ⟨by simp [zone, refused.not_ok], by simp [refused.not_ok], fun _ => refused,
      by simp [zone], by simp [zone]⟩
  by_cases matched : memory.Matches desired.address etag
  case neg =>
    have refused : Refuses memory tracked files transcript 412 :=
      ran ▸ refuses_without_match readable zone matched home number files
    exact ⟨by simp [matched, refused.not_ok], by simp [refused.not_ok], by simp [zone],
      fun _ _ => refused, by simp [matched]⟩
  have expected := expectedEtag_eq desired readable
  have made := Memory.upsert_of_matches zone matched desired.properties
  cases saved : kept with
  | ok done =>
    have back := readsBack_of_upsert accepted parsed home number files expected made saved
    -- said of the write alone so far
    dsimp only at back
    rw [← ran] at back
    obtain ⟨succeeded, remembered, back⟩ := back
    refine ⟨by simp [zone, matched, succeeded], ?_, by simp [zone], by simp [matched], by simp⟩
    intro current id result
    cases succeeded.symm.trans result
    exact ⟨remembered, back⟩
  | error failure =>
    have failed : transcript.result = .error failure ∧
        transcript.state = memory.written desired.address.ptr desired.properties := by
      rw [ran, Memory.run_write_made expected made parsed]
      dsimp only [kept] at saved
      simp only [saved]
      exact ⟨rfl, rfl⟩
    refine ⟨by simp [failed.1], by simp [failed.1], by simp [zone], by simp [matched], ?_⟩
    intro _ _ other same
    cases same
    exact failed

/-- The record set `a` is created in a memory with its zone, and read back. -/
theorem creates_and_reads_a :
    ∃ current id, (firstWrite "a").result = .ok (current, id) ∧
      ReadsBack { service := Memory.service, home := .memory, number := 0 } oneZone
        (firstWrite "a").state (firstWrite "a").files (Desired.read (Desired.describing "a"))
        current id := by
  have printable : (Desired.read (Desired.describing "a")).address.Printable :=
    ⟨⟨by decide, by decide, by decide⟩, by decide⟩
  have accepted : Desired.ofJson (some (Desired.describing "a")) = .ok _ := rfl
  have subscription : oneZone.subscriptionId ≠ "" := by decide
  have readable : Tracked.empty.Readable := nofun
  have zone : oneZone.HasZone (Desired.read (Desired.describing "a")).address := by
    decide +kernel
  obtain ⟨created, reads, -⟩ :=
    create_then_read subscription (by decide) accepted printable readable .memory 0 {}
  obtain ⟨⟨current, id⟩, succeeded⟩ := created.mpr ⟨zone, .inl rfl, rfl⟩
  exact ⟨current, id, succeeded, (reads current id succeeded).2⟩

/-- Where the ID cannot be written down, the call fails, though the zone is there and no etag is
asked for: the record set has been written. -/
theorem created_unread_below_file :
    let desired := Desired.read (Desired.describing "a")
    let files : Files := { nodes := [(["d"], .text "x")] }
    let transcript :=
      (createOrUpdate (some (Desired.describing "a")) .empty).run Reconcile.belowFile oneZone files
    Desired.ofJson (some (Desired.describing "a")) = .ok desired ∧ desired.address.Printable ∧
      StateFile.load files "d/s" = .ok .empty ∧ oneZone.HasZone desired.address ∧
      wantedEtag desired .empty = "" ∧ transcript.result.isOk = false ∧
      transcript.state.size = 1 := by
  refine ⟨rfl, ⟨⟨?_, ?_, ?_⟩, ?_⟩, rfl, ?_, rfl, ?_, ?_⟩ <;> decide +kernel

end ReverseDns
