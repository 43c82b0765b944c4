import ReverseDns.Proofs.Commands
import ReverseDns.Proofs.RecordSets
import ReverseDns.Proofs.Saving
import ReverseDns.Proofs.Settings

/-!
# Convergence

A run of `apply` on the memory makes the record set what its file describes, from every state file
that can be loaded or made, whatever it remembers: what is remembered is brought up to date first,
so the etag that is sent is the stored one.

* `Refreshed`, `run_refresh_memory` -- what is remembered after the first look-up
* `Prepared`, `run_replace_memory` -- what is there when the record set is written
* `run_write_prepared` -- the write, which is never refused
* `Converged`, `apply_converges` -- all that a run of `apply` leaves
-/

namespace ReverseDns.CommandLine

open Text (Slashless trimEnd)
open Reconcile (identified refreshed expectedEtag trackedEtag writeRequest usableId_eq_some)

/-! ## Lines that are printed -/

/-- The lines that were printed. -/
def printedIn (events : List Event) : List String :=
  events.filterMap fun
    | .printed line => some line
    | _ => none

@[simp] theorem printedIn_nil : printedIn [] = [] := rfl

@[simp] theorem printedIn_append (first second : List Event) :
    printedIn (first ++ second) = printedIn first ++ printedIn second :=
  List.filterMap_append

@[simp] theorem printedIn_said (level : Level) (text : String) (rest : List Event) :
    printedIn (.said level text :: rest) = printedIn rest := rfl

@[simp] theorem printedIn_printed (line : String) (rest : List Event) :
    printedIn (.printed line :: rest) = line :: printedIn rest := rfl

@[simp] theorem printedIn_saved (tracked : Tracked) (outcome : Except Failure Unit)
    (rest : List Event) : printedIn (.saved tracked outcome :: rest) = printedIn rest := rfl

@[simp] theorem printedIn_connected (config : Config) (rest : List Event) :
    printedIn (.connected config :: rest) = printedIn rest := rfl

@[simp] theorem printedIn_called (request : Request) (answer : Answer) (rest : List Event) :
    printedIn (.called request answer :: rest) = printedIn rest := rfl

/-- A run that ends with a result and prints nothing, in a file that can still be saved. -/
structure Goes {α : Type} (path : String) (transcript : Transcript Memory α) (result : α)
    (memory : Memory) : Prop where
  result : transcript.result = .ok result
  state : transcript.state = memory
  printed : printedIn transcript.events = []
  writable : transcript.files.Accepts path

section Goes

variable {α β : Type} {path : String} {transcript : Transcript Memory α} {result : α}
  {memory : Memory}

theorem Goes.andThen_eq (goes : Goes path transcript result memory)
    (next : α → Memory → Files → Transcript Memory β) :
    transcript.andThen next = (next result memory transcript.files).after transcript.events := by
  obtain ⟨ended, state, -, -⟩ := goes
  rw [Transcript.andThen, ended, state]

theorem Goes.after (goes : Goes path transcript result memory) {events : List Event}
    (quiet : printedIn events = []) : Goes path (transcript.after events) result memory where
  result := goes.result
  state := goes.state
  printed := by rw [Transcript.events_after, printedIn_append, quiet, goes.printed, List.nil_append]
  writable := goes.writable

/-- A run goes well if its result is only turned into another one. -/
theorem Goes.map (goes : Goes path transcript result memory) {f : α → Except Failure β} {value : β}
    (equal : f result = .ok value) :
    let mapped := transcript.andThen fun result state files => ⟨f result, [], state, files⟩
    Goes path mapped value memory ∧ mapped.files = transcript.files := by
  rw [goes.andThen_eq, equal]
  exact ⟨⟨rfl, rfl, by simp [goes.printed], goes.writable⟩, rfl⟩

end Goes

/-! ## The first look-up -/

variable (number : Nat) {memory : Memory} {path : String} {files : Files} {tracked : Tracked}
  {desired : Desired}

/-- A state file with an ID that can be read can be written. -/
theorem accepts_of_parse {id : PtrRecordId} (loaded : StateFile.load files path = .ok tracked)
    (parsed : PtrRecordId.parse tracked.idText = .ok id) : files.Accepts path := by
  refine StateFile.accepts_of_load ?_ loaded
  cases missing : files.has path with
  | true => rfl
  | false =>
    -- where there is no file, nothing is tracked
    rw [StateFile.load, missing] at loaded
    cases loaded
    exact absurd rfl (PtrRecordId.ne_empty_of_parse parsed)

/-- What a look-up in the memory makes of what is remembered: nothing where nothing was tracked or
the record set is gone, else the ID with the stored etag. -/
inductive Refreshed (memory : Memory) (tracked current : Tracked) : Prop where
  | untracked (unusable : current.usableId = none) (before : tracked.usableId = none)
  | gone (unusable : current.usableId = none) (id : PtrRecordId)
      (parsed : PtrRecordId.parse tracked.idText = .ok id)
      (missing : memory.find? id.address.ptr = none)
  | found (usable : current.usableId = some tracked.idText) (id : PtrRecordId) (stored : Stored)
      (parsed : PtrRecordId.parse tracked.idText = .ok id)
      (present : memory.find? id.address.ptr = some stored)
      (etag : (current.attributes.map Attributes.etag).getD "" = stored.etag)

/-- The memory as the service of a host that remembers in a file. -/
abbrev memoryHost (path : String) (number : Nat) : Host Memory :=
  { service := Memory.service, home := .file path, number }

/-- A record set that is found is written down as it was found. -/
theorem run_refresh_found {id : PtrRecordId} {remote : Remote}
    (parsed : PtrRecordId.parse tracked.idText = .ok id)
    (found : Reconcile.readAnswer id.address (.ok (memory.get id.address.ptr)) = .ok (some remote))
    (writable : files.Accepts path) :
    ∃ after, (Reconcile.refresh tracked).run (memoryHost path number) memory files =
        ⟨.ok (refreshed tracked remote, some remote),
          [Reconcile.readingLine id,
            .called (.get id.address.ptr) (.ok (memory.get id.address.ptr)),
            .saved (refreshed tracked remote) (.ok ())], memory, after⟩ ∧
      after.Accepts path := by
  have usable : tracked.usableId = some tracked.idText :=
    usableId_eq_some.mpr ⟨rfl, PtrRecordId.ne_empty_of_parse parsed⟩
  have served : Memory.service.serve (.get id.address.ptr) memory =
      { answer := .ok (memory.get id.address.ptr), state := memory } := rfl
  obtain ⟨after, kept, -, again⟩ :=
    StateFile.keep_of_accepts writable (refreshed tracked remote)
  rw [Reconcile.run_refresh, usable]
  simp only [parsed, served, Reconcile.refreshEnd, found, kept]
  exact ⟨after, rfl, again⟩

theorem run_refresh_memory (identified : memory.Identified) (named : memory.Named)
    (writable : files.Accepts path)
    (readable : ∀ text, tracked.usableId = some text → ∃ id, PtrRecordId.parse text = .ok id) :
    ∃ current remote, Goes path ((Reconcile.refresh tracked).run (memoryHost path number) memory
      files) (current, remote) memory ∧ Refreshed memory tracked current := by
  cases usable : tracked.usableId with
  | none =>
    rw [Reconcile.run_refresh, usable]
    exact ⟨tracked, none, ⟨rfl, rfl, rfl, writable⟩, .untracked usable usable⟩
  | some text =>
    obtain ⟨id, parsed⟩ := readable text usable
    obtain ⟨rfl, -⟩ := usableId_eq_some.mp usable
    cases found : memory.find? id.address.ptr with
    | none =>
      have served : Memory.service.serve (.get id.address.ptr) memory =
          { answer := .ok (memory.get id.address.ptr), state := memory } := rfl
      obtain ⟨after, kept, -, again⟩ := StateFile.keep_of_accepts writable .empty
      have read := Memory.readAnswer_get_of_none found
      rw [Reconcile.run_refresh, usable]
      simp only [parsed, served, Reconcile.refreshEnd, read, kept]
      refine ⟨.empty, none, ⟨rfl, rfl, ?_, again⟩, .gone rfl id parsed found⟩
      simp [Reconcile.readingLine, Reconcile.goneLine, callEvents]
    | some stored =>
      have member := Keyed.mem_of_get? found
      obtain ⟨records, flattened⟩ := Hostnames.flatten_of_named (named _ member)
      have read := Memory.readAnswer_get found (identified _ member) flattened
      obtain ⟨after, ran, again⟩ := run_refresh_found number parsed read writable
      rw [ran]
      refine ⟨_, _, ⟨rfl, rfl, ?_, again⟩, .found usable id stored parsed found rfl⟩
      simp [Reconcile.readingLine]

/-! ## The replacement -/

/-- What is there when the desired record set is written: its zone, a matching etag, and every
other record set but the one that it replaces. -/
structure Prepared (before after : Memory) (desired : Desired) (tracked kept : Tracked)
    (ifMatch : String) : Prop where
  zones : after.zones = before.zones
  subscription : after.subscriptionId = before.subscriptionId
  expected : expectedEtag desired kept = .ok ifMatch
  current : Memory.matchesEtag (after.find? desired.address.ptr) ifMatch = true
  replaced : ∀ id, PtrRecordId.parse tracked.idText = .ok id →
    id.address.same desired.address = false → after.find? id.address.ptr = none
  others : ∀ key, (∀ id, PtrRecordId.parse tracked.idText = .ok id →
    Memory.recordKey key ≠ Memory.recordKey id.address.ptr) → after.find? key = before.find? key

theorem matchesEtag_empty (existing : Option Stored) : Memory.matchesEtag existing "" = true := rfl

theorem expectedEtag_of_untracked {kept : Tracked} (unspecified : desired.etag = none)
    (unusable : kept.usableId = none) : expectedEtag desired kept = .ok "" := by
  rw [expectedEtag, unspecified]
  simp only [trackedEtag, unusable]

theorem run_remove_memory (path : String) (files : Files) {id : PtrRecordId} {status : Float}
    {after : Memory}
    (parsed : PtrRecordId.parse tracked.idText = .ok id)
    (deleted : memory.delete id.address.ptr "" = ({ status }, after))
    (success : isSuccess status = true) :
    (Reconcile.remove tracked).run (memoryHost path number) memory files =
      ⟨.ok (), [Reconcile.deletingLine id, .called (.delete id.address.ptr "") (.ok { status })],
        after, files⟩ := by
  have served : Memory.service.serve (.delete id.address.ptr "") memory =
      { answer := .ok { status }, state := after } := by
    simp only [Memory.service, Memory.serve, deleted]
  have done : Reconcile.deleteAnswer id.recordName (.ok { status }) = .ok () :=
    Reconcile.deleteAnswer_eq_ok.mpr ⟨_, rfl, success⟩
  rw [Reconcile.run_remove, parsed]
  simp only [served, done]
  rfl

section Prepared

variable {current : Tracked} (unspecified : desired.etag = none)

include unspecified

/-- Where nothing is remembered there is nothing to replace, if all that was tracked is gone. -/
theorem prepared_of_unusable (unusable : current.usableId = none)
    (gone : ∀ id, PtrRecordId.parse tracked.idText = .ok id → memory.find? id.address.ptr = none) :
    Prepared memory memory desired tracked current "" where
  zones := rfl
  subscription := rfl
  expected := expectedEtag_of_untracked unspecified unusable
  current := matchesEtag_empty _
  replaced id parsed _ := gone id parsed
  others _ _ := rfl

/-- Where the record set that is tracked is the desired one, it stays, and the cached etag was just
brought up to date. -/
theorem prepared_of_same (usable : current.usableId = some tracked.idText) {id : PtrRecordId}
    {stored : Stored} (parsed : PtrRecordId.parse tracked.idText = .ok id)
    (present : memory.find? id.address.ptr = some stored)
    (etag : (current.attributes.map Attributes.etag).getD "" = stored.etag)
    (same : id.address.same desired.address = true) :
    Prepared memory memory desired tracked current stored.etag where
  zones := rfl
  subscription := rfl
  expected := by
    rw [expectedEtag, unspecified]
    simp only [trackedEtag, usable, parsed, same, if_true, etag]
  current := by
    rw [← Memory.find?_of_same same, present]
    simp [Memory.matchesEtag]
  replaced other read different := by
    cases parsed.symm.trans read
    rw [same] at different
    cases different
  others _ _ := rfl

/-- Once the record set that is tracked was deleted, it is forgotten. -/
theorem prepared_of_deleted {id : PtrRecordId} (parsed : PtrRecordId.parse tracked.idText = .ok id) :
    Prepared memory (memory.delete id.address.ptr "").2 desired tracked .empty "" := by
  obtain ⟨status, erased, deleted, -, zones, subscription, find⟩ :=
    memory.delete_unconditional id.address.ptr
  rw [deleted]
  exact {
    zones := zones
    subscription := subscription
    expected := expectedEtag_of_untracked unspecified rfl
    current := matchesEtag_empty _
    replaced := fun other read _ => by
      cases parsed.symm.trans read
      rw [find, if_pos rfl]
    others := fun key apart => by rw [find, if_neg (apart id parsed)] }

/-- What was remembered after the first look-up says whether the record set that is tracked stays or
is replaced, and in both cases what is there afterwards. -/
theorem Refreshed.prepared (was : Refreshed memory tracked current) :
    ((∀ {σ : Type} (host : Host σ) (state : σ) (files : Files),
        (replace desired current).run host state files = ⟨.ok current, [], state, files⟩) ∧
      ∃ ifMatch, Prepared memory memory desired tracked current ifMatch) ∨
    ∃ id, current.usableId = some tracked.idText ∧ PtrRecordId.parse tracked.idText = .ok id ∧
      id.address.same desired.address = false ∧
      Prepared memory (memory.delete id.address.ptr "").2 desired tracked .empty "" := by
  cases was with
  | untracked unusable before =>
    refine .inl ⟨fun host state files => ?_, "",
      prepared_of_unusable unspecified unusable fun id parsed => ?_⟩
    · rw [run_replace, unusable]
    · -- an ID that can be read is not empty, so there is none
      have usable := usableId_eq_some.mpr ⟨rfl, PtrRecordId.ne_empty_of_parse parsed⟩
      cases before.symm.trans usable
  | gone unusable id parsed missing =>
    refine .inl ⟨fun host state files => ?_, "",
      prepared_of_unusable unspecified unusable fun other read => ?_⟩
    · rw [run_replace, unusable]
    · cases parsed.symm.trans read
      exact missing
  | found usable id stored parsed present etag =>
    cases same : id.address.same desired.address with
    | true =>
      refine .inl ⟨fun host state files => ?_, stored.etag,
        prepared_of_same unspecified usable parsed present etag same⟩
      simp only [run_replace, usable, parsed, same, if_true]
    | false => exact .inr ⟨id, usable, parsed, same, prepared_of_deleted unspecified parsed⟩

end Prepared

theorem run_replace_memory {current : Tracked} (unspecified : desired.etag = none)
    (was : Refreshed memory tracked current) (writable : files.Accepts path) :
    ∃ kept after ifMatch, Goes path ((replace desired current).run (memoryHost path number) memory
      files) kept after ∧ Prepared memory after desired tracked kept ifMatch := by
  rcases was.prepared unspecified with ⟨stays, ifMatch, prepared⟩ |
    ⟨id, usable, parsed, different, prepared⟩
  · refine ⟨current, memory, ifMatch, ?_, prepared⟩
    rw [stays]
    exact ⟨rfl, rfl, rfl, writable⟩
  · obtain ⟨after, kept, -, again⟩ := StateFile.keep_of_accepts writable .empty
    obtain ⟨status, erased, deleted, success, -⟩ := memory.delete_unconditional id.address.ptr
    rw [deleted] at prepared
    have removed := run_remove_memory number path files
      ((usableId_eq_some.mp usable).1 ▸ parsed) deleted success
    refine ⟨.empty, erased, "", ?_, prepared⟩
    simp only [run_replace, usable, parsed, different, Bool.false_eq_true, if_false, removed,
      Transcript.andThen_ok, kept]
    refine ⟨rfl, rfl, ?_, again⟩
    simp [replacingLine, Reconcile.deletingLine]

/-! ## The write -/

/-- What is tracked once a desired record set was written and read back. -/
def trackedOf (stored : Stored) (address : Address) (records : List Hostname) : Tracked where
  id := some stored.id
  attributes := some (.ofRemote (stored.remote address records))

theorem parse_idFor {address : Address} (subscription : memory.subscriptionId ≠ "")
    (subscriptionPlain : Slashless memory.subscriptionId) (group : address.resourceGroup ≠ "")
    (zone : address.zoneName ≠ "") (name : address.recordName ≠ "")
    (printable : address.Printable) :
    PtrRecordId.parse (memory.idFor address).format = .ok (memory.idFor address) := by
  have trimmed : trimEnd (memory.idFor address).recordName = (memory.idFor address).recordName :=
    printable.trimmed
  have named : trimEnd (memory.idFor address).recordName ≠ "" := by
    rw [trimmed]
    exact name
  have plain : (memory.idFor address).address.Plain := printable.toPlain
  have read := PtrRecordId.parse_format subscription subscriptionPlain group zone plain named
  rw [trimmed] at read
  exact read

/-- What was just written is found again, and tracked as it was written. -/
theorem run_refresh_written (kept : Tracked) {description : Option Json}
    (accepted : Desired.ofJson description = .ok desired)
    (parsed : PtrRecordId.parse (memory.idFor desired.address).format =
      .ok (memory.idFor desired.address))
    (writable : files.Accepts path) :
    let after := memory.written desired.address.ptr desired.properties
    let final := trackedOf (memory.storedOf desired.address.ptr desired.properties)
      desired.address (Hostnames.ordered desired.records)
    let transcript := (Reconcile.refresh (identified kept (memory.idFor desired.address).format)).run
      (memoryHost path number) after files
    ∃ remote, Goes path transcript (final, some remote) after ∧
      transcript.files.text? path = some (StateFile.render final) := by
  intro after final transcript
  have usable := Reconcile.usableId_identified kept (PtrRecordId.ne_empty_of_parse parsed)
  obtain ⟨later, saved, text, again⟩ := StateFile.keep_of_accepts writable final
  have ran : transcript = _ :=
    Memory.run_refresh_made accepted parsed usable (.file path) number files
  have remembered : refreshed (identified kept (memory.idFor desired.address).format)
      (memory.remoteFor desired) = final := rfl
  simp only [remembered, saved] at ran
  rw [ran]
  exact ⟨_, ⟨rfl, rfl, rfl, again⟩, text⟩

/-- A write that was prepared is made, and tracked. -/
theorem run_write_prepared {after : Memory} {kept : Tracked} {ifMatch : String}
    {description : Option Json} (accepted : Desired.ofJson description = .ok desired)
    (subscription : memory.subscriptionId ≠ "") (subscriptionPlain : Slashless memory.subscriptionId)
    (zone : memory.zones.contains (Memory.zoneKey desired.resourceGroupName desired.zoneName) = true)
    (printable : desired.address.Printable)
    (prepared : Prepared memory after desired tracked kept ifMatch)
    (writable : files.Accepts path) :
    let final := trackedOf (after.storedOf desired.address.ptr desired.properties) desired.address
      (Hostnames.ordered desired.records)
    let transcript := (Reconcile.write desired kept).run (memoryHost path number) after files
    ∃ id, Goes path transcript (final, id) (after.written desired.address.ptr desired.properties) ∧
      transcript.files.text? path = some (StateFile.render final) := by
  intro final transcript
  obtain ⟨group, zoneName, name⟩ := Desired.address_nonempty accepted
  have made := Memory.upsert_of_matchesEtag desired.properties
    (prepared.zones ▸ zone) prepared.current
  have parsed : PtrRecordId.parse (after.idFor desired.address).format =
      .ok (after.idFor desired.address) :=
    parse_idFor (prepared.subscription ▸ subscription) (prepared.subscription ▸ subscriptionPlain)
      group zoneName name printable
  obtain ⟨between, saved, -, again⟩ := StateFile.keep_of_accepts writable
    (identified kept (after.idFor desired.address).format)
  obtain ⟨remote, found, text⟩ := run_refresh_written number kept accepted parsed again
  have back : Reconcile.readBack desired (after.idFor desired.address) (final, some remote) =
      .ok (final, after.idFor desired.address) := rfl
  obtain ⟨goes, same⟩ := found.map back
  have ran : transcript = _ := Memory.run_write_made prepared.expected made parsed
  simp only [saved, Transcript.andThen_ok, Transcript.after_after] at ran
  rw [ran]
  refine ⟨after.idFor desired.address, goes.after (by simp [Reconcile.writingLine]), ?_⟩
  rw [Transcript.files_after, same]
  exact text

/-! ## The whole run -/

/-- What a run of `apply` leaves, where `stored` is what was written: the record set and the state
file as they are described, nothing of the record set that was tracked if it is another one, and
every other record set as it was. -/
structure Converged (before after : Memory) (files : Files) (path : String) (tracked : Tracked)
    (desired : Desired) (stored : Stored) : Prop where
  found : after.find? desired.address.ptr = some stored
  id : stored.id = (before.idFor desired.address).format
  ttl : stored.ttl = desired.ttl
  tags : stored.metadata = desired.tags.getD []
  hostnames : ∃ names, stored.entries = Hostnames.entries names ∧ names.Nodup ∧
    ∀ name, name ∈ names ↔ name ∈ desired.records
  saved : ∃ records, files.text? path = some (StateFile.render
      (trackedOf stored desired.address records)) ∧ records.Pairwise (· < ·) ∧
    ∀ name, name ∈ records ↔ name ∈ desired.records
  replaced : ∀ id, PtrRecordId.parse tracked.idText = .ok id →
    id.address.same desired.address = false → after.find? id.address.ptr = none
  others : ∀ key, Memory.recordKey key ≠ Memory.recordKey desired.address.ptr →
    (∀ id, PtrRecordId.parse tracked.idText = .ok id →
      Memory.recordKey key ≠ Memory.recordKey id.address.ptr) → after.find? key = before.find? key

theorem Prepared.converged {before after : Memory} {kept : Tracked} {ifMatch : String}
    (prepared : Prepared before after desired tracked kept ifMatch)
    (printable : desired.address.Printable)
    (text : files.text? path = some (StateFile.render
      (trackedOf (after.storedOf desired.address.ptr desired.properties) desired.address
        (Hostnames.ordered desired.records)))) :
    Converged before (after.written desired.address.ptr desired.properties) files path tracked
      desired (after.storedOf desired.address.ptr desired.properties) where
  found := by rw [Memory.find?_written, if_pos rfl]
  id := by rw [Memory.id_storedOf, Memory.idFor, prepared.subscription, Memory.idFor]
  ttl := rfl
  tags := rfl
  hostnames := ⟨Text.distinct desired.records, rfl, Text.nodup_distinct _,
    fun _ => Text.mem_distinct⟩
  saved := ⟨_, text, Hostnames.ordered_increasing _, fun _ => Hostnames.mem_ordered⟩
  replaced := by
    intro id parsed different
    -- the key of the record set that was tracked is not the one that was written
    have apart : Memory.recordKey id.address.ptr ≠ Memory.recordKey desired.address.ptr := by
      intro equal
      have same := (Memory.recordKey_ptr_eq_iff (PtrRecordId.plain_of_parse parsed)
        printable.toPlain).mp equal
      rw [same] at different
      cases different
    rw [Memory.find?_written, if_neg apart]
    exact prepared.replaced id parsed different
  others := by
    intro key apart untracked
    rw [Memory.find?_written, if_neg apart]
    exact prepared.others key untracked

/-- What a run of `apply` finds: a memory that calls led to, a description of a record set that can
be written into it, and a state file that is missing or tracks nothing but readable IDs. -/
structure Applicable (memory : Memory) (files : Files) (file path : String) (desired : Desired)
    (tracked : Tracked) : Prop where
  reachable : memory.Reachable
  named : memory.Named
  subscription : memory.subscriptionId ≠ ""
  subscriptionPlain : Slashless memory.subscriptionId
  accepted : ∃ description, files.readJson file = .ok description ∧
    Desired.ofJson (some description) = .ok desired
  unspecified : desired.etag = none
  zone : memory.zones.contains (Memory.zoneKey desired.resourceGroupName desired.zoneName) = true
  printable : desired.address.Printable
  loaded : StateFile.load files path = .ok tracked
  readable : ∀ text, tracked.usableId = some text → ∃ id, PtrRecordId.parse text = .ok id

theorem Applicable.writable {file : String}
    (applicable : Applicable memory files file path desired tracked)
    (creatable : files.has path = false → files.Accepts path) : files.Accepts path := by
  cases present : files.has path with
  | false => exact creatable present
  | true => exact StateFile.accepts_of_load present applicable.loaded

/-- A run of `apply` succeeds, and ends with the write and what it tracks. -/
theorem apply_ends {words : List String} {globals : Globals} {file path : String}
    (invoked : Invocation.ofWords words = .run globals (.apply file path)) (number : Nat)
    (environment : Environment) {files : Files} {memory : Memory} {desired : Desired}
    {tracked : Tracked} (applicable : Applicable memory files file path desired tracked)
    (writable : files.Accepts path) :
    let finished := execute Memory.service number environment words files memory
    ∃ between kept ifMatch, Prepared memory between desired tracked kept ifMatch ∧
      finished.exitCode = 0 ∧
      printedIn finished.events =
        [(between.storedOf desired.address.ptr desired.properties).id] ∧
      finished.state = between.written desired.address.ptr desired.properties ∧
      finished.files.text? path = some (StateFile.render
        (trackedOf (between.storedOf desired.address.ptr desired.properties) desired.address
          (Hostnames.ordered desired.records))) := by
  obtain ⟨reachable, named, subscription, subscriptionPlain, ⟨description, described, accepted⟩,
    unspecified, zone, printable, loaded, readable⟩ := applicable
  obtain ⟨config, resolved⟩ := resolve_of_run invoked environment
  have connected : Goes path ((connect globals environment).run (memoryHost path number) memory
      files) () memory := by
    rw [run_connect, resolved]
    exact ⟨rfl, rfl, rfl, writable⟩
  obtain ⟨current, remote, found, refreshed⟩ := run_refresh_memory number
    reachable.identified named connected.writable readable
  obtain ⟨kept, between, ifMatch, replaced, prepared⟩ :=
    run_replace_memory number unspecified refreshed found.writable
  obtain ⟨id, written, text⟩ := run_write_prepared number accepted subscription
    subscriptionPlain zone printable prepared replaced.writable
  -- the phases run one after the other, each in what the one before it left
  rw [execute_of_run invoked]
  have ran := run_converge (memoryHost path number) files files environment globals described
    accepted loaded memory
  rw [connected.andThen_eq, found.andThen_eq, replaced.andThen_eq, written.andThen_eq] at ran
  have program : ((Command.apply file path).program files environment globals).run
      (hostOf Memory.service number (.apply file path)) memory files = _ := ran
  rw [program]
  refine ⟨between, kept, ifMatch, prepared, rfl, ?_, rfl, text⟩
  simp [connected.printed, found.printed, replaced.printed, written.printed, lastLine, trackedOf]
  rfl

/-- A run of `apply` succeeds and prints the ID of the record set, and leaves it as its file
describes it, if the state file can be loaded, or made where it is missing. -/
theorem apply_converges {words : List String} {globals : Globals} {file path : String}
    (invoked : Invocation.ofWords words = .run globals (.apply file path)) (number : Nat)
    (environment : Environment) {files : Files} {memory : Memory} {desired : Desired}
    {tracked : Tracked} (applicable : Applicable memory files file path desired tracked)
    (creatable : files.has path = false → files.Accepts path) :
    let finished := execute Memory.service number environment words files memory
    ∃ stored, finished.exitCode = 0 ∧ printedIn finished.events = [stored.id] ∧
      Converged memory finished.state finished.files path tracked desired stored := by
  intro finished
  obtain ⟨between, kept, ifMatch, prepared, exit, printed, state, text⟩ :=
    apply_ends invoked number environment applicable (applicable.writable creatable)
  refine ⟨_, exit, printed, ?_⟩
  rw [state]
  exact prepared.converged applicable.printable text

/-- A memory with one zone and the record set `b`. -/
def holdingB : Memory :=
  ((({ subscriptionId := "s" } : Memory).addZone "g" "z").serve
    (writeRequest (Desired.read (Desired.describing "b")) "")).2

/-- A working directory in which `d` describes the record set `a`, and the state file `s` tracks
`b`. -/
def describedFiles : Files :=
  { nodes := [(["d"], .text (Desired.describing "a").pretty), (["s"], .text (StateFile.render
      { id := some "/subscriptions/s/resourceGroups/g/dnszones/z/PTR/b" }))] }

/-- The words that apply `d` with the state file at a path. -/
def applyWords (path : String) : List String := ["apply", "d", "-s", path]

def describedA : Desired := Desired.read ((describedFiles.readJson "d").toOption.getD .null)

def trackedB : Tracked := (StateFile.load describedFiles "s").toOption.getD .empty

-- The evaluations stand in one theorem, since the files are read and parsed in most of them.
theorem described_evaluated :
    ((describedFiles.readJson "d").toOption.isSome = true ∧
      (Desired.schema.issues
        (some ((describedFiles.readJson "d").toOption.getD .null))).isEmpty = true) ∧
    (describedA.resourceGroupName = "g" ∧ describedA.zoneName = "z" ∧ describedA.name = "a" ∧
      describedA.etag = none) ∧
    (describedFiles.has "s" = true ∧ (StateFile.load describedFiles "s").toOption.isSome = true ∧
      trackedB.idText = "/subscriptions/s/resourceGroups/g/dnszones/z/PTR/b") ∧
    Invocation.ofWords (applyWords "s") = .run {} (.apply "d" "s") ∧
    holdingB.zones.contains (Memory.zoneKey "g" "z") = true ∧
    ∀ entry ∈ holdingB.recordSets, entry.2.entries.isEmpty = true ∧
      Decimal.isIntegral entry.2.ttl = true ∧ entry.2.metadata.isEmpty = true := by
  decide +kernel

theorem describedA_parts : describedA.resourceGroupName = "g" ∧ describedA.zoneName = "z" ∧
    describedA.name = "a" ∧ describedA.etag = none :=
  described_evaluated.2.1

theorem holdingB_named : holdingB.Named := by
  obtain ⟨-, -, -, -, -, stored⟩ := described_evaluated
  intro entry member item inside
  rw [List.isEmpty_iff.mp (stored entry member).1] at inside
  cases inside

theorem eq_ok_of_isSome {α : Type} {outcome : Except Failure α} (value : α)
    (found : outcome.toOption.isSome = true) : outcome = .ok (outcome.toOption.getD value) := by
  cases outcome with
  | error failure => cases found
  | ok result => rfl

theorem exists_accepted {outcome : Except Failure Json} (found : outcome.toOption.isSome = true)
    (valid : (Desired.schema.issues (some (outcome.toOption.getD .null))).isEmpty = true) :
    ∃ description, outcome = .ok description ∧ Desired.ofJson (some description) =
      .ok (Desired.read (outcome.toOption.getD .null)) :=
  ⟨_, eq_ok_of_isSome _ found, Desired.ofJson_of_issues (List.isEmpty_iff.mp valid)⟩

theorem accepted_describedA : ∃ description, describedFiles.readJson "d" = .ok description ∧
    Desired.ofJson (some description) = .ok describedA := by
  obtain ⟨⟨found, valid⟩, -⟩ := described_evaluated
  exact exists_accepted found valid

theorem printable_describedA : describedA.address.Printable := by
  obtain ⟨group, zone, name, -⟩ := describedA_parts
  have address : describedA.address = ⟨"g", "z", "a"⟩ := by
    rw [Desired.address, group, zone, name]
  rw [address]
  exact {
    resourceGroup := by decide
    zoneName := by decide
    recordName := by decide
    trimmed := rfl }

/-- Whatever readable ID the state file tracks, `d` can be applied. -/
theorem applicable_describedFiles {path : String} {tracked : Tracked}
    (loaded : StateFile.load describedFiles path = .ok tracked)
    (readable : ∀ text, tracked.usableId = some text → ∃ id, PtrRecordId.parse text = .ok id) :
    Applicable holdingB describedFiles "d" path describedA tracked where
  reachable := .serve _ (.addZone "g" "z" (.fresh "s"))
  named := holdingB_named
  subscription := by decide
  subscriptionPlain := by decide
  accepted := accepted_describedA
  unspecified := describedA_parts.2.2.2
  zone := by
    rw [describedA_parts.1, describedA_parts.2.1]
    exact described_evaluated.2.2.2.2.1
  printable := printable_describedA
  loaded := loaded
  readable := readable

theorem applicable_trackedB : Applicable holdingB describedFiles "d" "s" describedA trackedB := by
  obtain ⟨-, -, ⟨-, found, tracked⟩, -⟩ := described_evaluated
  refine applicable_describedFiles (eq_ok_of_isSome _ found) fun text usable => ?_
  have same := (usableId_eq_some.mp usable).1
  rw [tracked] at same
  subst same
  exact ⟨_, rfl⟩

theorem creatable_s (missing : describedFiles.has "s" = false) : describedFiles.Accepts "s" := by
  have present := described_evaluated.2.2.1.1
  rw [missing] at present
  cases present

theorem invoked_s : Invocation.ofWords (applyWords "s") = .run {} (.apply "d" "s") :=
  described_evaluated.2.2.2.1

/-- Where the state file tracks `b`, a run of `apply` replaces it by `a`. -/
theorem apply_replaces_b :
    let finished := execute Memory.service 0 [] (applyWords "s") describedFiles holdingB
    ∃ stored, finished.exitCode = 0 ∧ printedIn finished.events = [stored.id] ∧
      Converged holdingB finished.state finished.files "s" trackedB describedA stored :=
  apply_converges invoked_s 0 [] applicable_trackedB creatable_s

/-- Where the directory of a missing state file is a file, a run of `apply` fails, though it wrote
the record set. -/
theorem apply_fails_below_file :
    Applicable holdingB describedFiles "d" "d/s" describedA .empty ∧
      describedFiles.has "d/s" = false ∧
      (execute Memory.service 0 [] (applyWords "d/s") describedFiles holdingB).exitCode = 1 ∧
      (execute Memory.service 0 [] (applyWords "d/s") describedFiles holdingB).state.size = 2 :=
  have applicable : Applicable holdingB describedFiles "d" "d/s" describedA .empty :=
    applicable_describedFiles rfl fun text usable => nomatch usable
  ⟨applicable, by decide +kernel⟩

end ReverseDns.CommandLine
