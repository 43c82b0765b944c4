import ReverseDns.Proofs.Convergence
import ReverseDns.Proofs.Tracking
import ReverseDns.Proofs.Versions

/-!
# State files in step with the memory

Command lines that are the only users of the memory and of one state file keep the two in step,
however they end. A command writes the ID and the attributes one after the other, but whatever a
state file held before, the look-up that follows makes it describe what is stored, or nothing. Only
a write whose ID cannot be read goes unnoticed, and it is never the record set that is tracked.

* `Describes`, `InStep` -- what a state file says is what the memory holds
* `Clean` -- the memories in which every look-up can be understood
* `inStep_refresh` -- a look-up puts any state file in step
* `Settled`, `Settled.write` and its companions -- what every part of a command preserves
* `Used`, `inStep_of_used` -- every run of command lines
-/

namespace ReverseDns.CommandLine

open Text (Slashless trimEnd)
open Reconcile (identified refreshed expectedEtag readAnswer)

variable {memory : Memory} {files : Files} {path : String} {tracked : Tracked} {desired : Desired}
  {α β : Type}

/-! ## State files that describe what is stored -/

/-- What is tracked is a stored record set: the ID names it, and the attributes are its own. -/
structure Describes (memory : Memory) (tracked : Tracked) (id : PtrRecordId) (stored : Stored)
    (records : List Hostname) : Prop where
  parsed : PtrRecordId.parse tracked.idText = .ok id
  found : memory.find? id.address.ptr = some stored
  attributes : tracked.attributes = some (.ofRemote (stored.remote id.address records))
  sorted : records.Pairwise (· < ·)
  hostnames : ∀ name, name ∈ records ↔ ∃ entry ∈ stored.entries, entry.hostname = .given name

/-- The state file at a path is missing, or it has neither an ID nor attributes, or it describes a
stored record set. -/
inductive InStep (memory : Memory) (files : Files) (path : String) : Prop where
  | missing (text : files.text? path = none)
  | bare (text : files.text? path = some (StateFile.render .empty))
  | described (tracked : Tracked) (id : PtrRecordId) (stored : Stored) (records : List Hostname)
      (text : files.text? path = some (StateFile.render tracked))
      (describes : Describes memory tracked id stored records)

/-- A state file that is written without an ID and attributes is in step, also where writing it
fails. -/
theorem inStep_keep_empty (memory : Memory) (files : Files) (path : String) :
    InStep memory ((Home.file path).keep .empty files).2 path := by
  rcases kept : (Home.file path).keep .empty files with ⟨outcome, after⟩
  cases outcome with
  | ok done => exact .bare (StateFile.accepts_of_keep kept).1
  | error failure => exact .missing (StateFile.text?_of_failed_keep kept).2

theorem Describes.inStep_keep {id : PtrRecordId} {stored : Stored} {records : List Hostname}
    (describes : Describes memory tracked id stored records) (files : Files) (path : String) :
    InStep memory ((Home.file path).keep tracked files).2 path := by
  rcases kept : (Home.file path).keep tracked files with ⟨outcome, after⟩
  cases outcome with
  | ok done =>
    exact .described tracked id stored records (StateFile.accepts_of_keep kept).1 describes
  | error failure => exact .missing (StateFile.text?_of_failed_keep kept).2

/-- A write beside the record set that is tracked leaves the state file in step. -/
theorem InStep.written (inStep : InStep memory files path) {address : Address}
    (apart : ¬address.Plain) (properties : Properties) :
    InStep (memory.written address.ptr properties) files path := by
  cases inStep with
  | missing text => exact .missing text
  | bare text => exact .bare text
  | described tracked id stored records text describes =>
    have other : Memory.recordKey id.address.ptr ≠ Memory.recordKey address.ptr := fun equal =>
      apart (Memory.plain_of_recordKey_ptr_eq (PtrRecordId.plain_of_parse describes.parsed) equal)
    have found : (memory.written address.ptr properties).find? id.address.ptr = some stored := by
      rw [Memory.find?_written, if_neg other]
      exact describes.found
    exact .described tracked id stored records text { describes with found }

/-! ## Memories in which every look-up can be understood -/

/-- A memory whose subscription has a name without slashes, and whose record sets all have an ID and
host names. -/
structure Clean (memory : Memory) : Prop where
  subscription : memory.subscriptionId ≠ ""
  subscriptionPlain : Slashless memory.subscriptionId
  identified : memory.Identified
  named : memory.Named

theorem Clean.written (clean : Clean memory) {description : Option Json}
    (accepted : Desired.ofJson description = .ok desired) :
    Clean (memory.written desired.address.ptr desired.properties) where
  subscription := clean.subscription
  subscriptionPlain := clean.subscriptionPlain
  identified := clean.identified.written _ _
  named := by
    intro entry member
    rcases Keyed.mem_of_mem_insert member with rfl | member
    · intro item inside
      obtain ⟨name, distinct, rfl⟩ := List.mem_map.mp inside
      have nonempty := Desired.records_nonempty accepted name (Text.mem_distinct.mp distinct)
      simp [Hostnames.IsNamed, Hostnames.ofEntry?, nonempty]
    · exact clean.named entry member

theorem Clean.delete (clean : Clean memory) (key : RecordKey) :
    Clean (memory.delete key "").2 := by
  have effect := memory.effect_serve (.delete key "")
  rw [Memory.serve] at effect
  generalize memory.delete key "" = outcome at effect ⊢
  cases effect with
  | deleted =>
    exact {
      subscription := clean.subscription
      subscriptionPlain := clean.subscriptionPlain
      identified := fun entry member => clean.identified entry (List.mem_filter.mp member).1
      named := fun entry member => clean.named entry (List.mem_filter.mp member).1 }
  | absent | refused => exact clean

/-! ## Look-ups -/

/-- A look-up in the memory finds nothing, or the record set that is stored. -/
theorem Clean.readAnswer (clean : Clean memory) (address : Address) :
    readAnswer address (.ok (memory.get address.ptr)) = .ok none ∨
      ∃ stored records, memory.find? address.ptr = some stored ∧
        Hostnames.flatten stored.entries = .ok records ∧
        readAnswer address (.ok (memory.get address.ptr)) =
          .ok (some (stored.remote address records)) := by
  cases found : memory.find? address.ptr with
  | none => exact .inl (Memory.readAnswer_get_of_none found)
  | some stored =>
    have member := Keyed.mem_of_get? found
    obtain ⟨records, flattened⟩ := Hostnames.flatten_of_named (clean.named _ member)
    exact .inr ⟨stored, records, rfl, flattened,
      Memory.readAnswer_get found (clean.identified _ member) flattened⟩

variable (number : Nat)

theorem state_refresh (tracked : Tracked) (memory : Memory) (files : Files) :
    ((Reconcile.refresh tracked).run (memoryHost path number) memory files).state = memory := by
  rw [Reconcile.run_refresh]
  split
  · rfl
  · split
    · rfl
    · dsimp only [Transcript.state_after, Reconcile.refreshEnd]
      split <;> rfl

/-- A look-up puts the state file in step, whatever it held before. -/
theorem inStep_refresh (clean : Clean memory) {text : String} {id : PtrRecordId}
    (usable : tracked.usableId = some text) (parsed : PtrRecordId.parse text = .ok id)
    (files : Files) (path : String) :
    InStep memory ((Reconcile.refresh tracked).run (memoryHost path number) memory files).files
      path := by
  have served : Memory.service.serve (.get id.address.ptr) memory =
      { answer := .ok (memory.get id.address.ptr), state := memory } := rfl
  rw [Reconcile.run_refresh]
  simp only [usable, parsed, served, Transcript.files_after, Reconcile.refreshEnd]
  rcases clean.readAnswer id.address with gone | ⟨stored, records, found, flattened, read⟩
  · rw [gone]
    exact inStep_keep_empty memory files path
  · rw [read]
    obtain ⟨sorted, hostnames⟩ := Hostnames.flatten_eq_ok flattened
    obtain ⟨rfl, -⟩ := Reconcile.usableId_eq_some.mp usable
    have describes : Describes memory (refreshed tracked (stored.remote id.address records)) id
        stored records := { parsed, found, attributes := rfl, sorted, hostnames }
    exact describes.inStep_keep files path

/-! ## Parts of commands -/

/-- The memory can be understood, and the state file is in step with it. -/
structure Settled (path : String) (memory : Memory) (files : Files) : Prop where
  clean : Clean memory
  inStep : InStep memory files path

/-- A run leaves the memory and the state file in step. -/
def Settles (path : String) (transcript : Transcript Memory α) : Prop :=
  Settled path transcript.state transcript.files

theorem settles_after {events : List Event} {transcript : Transcript Memory α} :
    Settles path (transcript.after events) ↔ Settles path transcript := Iff.rfl

theorem Settles.andThen {first : Transcript Memory α}
    {next : α → Memory → Files → Transcript Memory β} (front : Settles path first)
    (back : ∀ result, Settled path first.state first.files →
      Settles path (next result first.state first.files)) : Settles path (first.andThen next) := by
  obtain ⟨result, events, state, files⟩ := first
  cases result with
  | error failure => exact front
  | ok result => exact back result front

theorem settles_refresh_of_parsed (clean : Clean memory) {text : String} {id : PtrRecordId}
    (usable : tracked.usableId = some text) (parsed : PtrRecordId.parse text = .ok id)
    (files : Files) (path : String) :
    Settles path ((Reconcile.refresh tracked).run (memoryHost path number) memory files) := by
  have inStep := inStep_refresh number clean usable parsed files path
  rw [Settles, state_refresh]
  exact ⟨clean, inStep⟩

/-- What is made of the result of a run does not matter. -/
theorem Settles.map {transcript : Transcript Memory α} (settles : Settles path transcript)
    (outcome : α → Except Failure β) (events : α → List Event) :
    Settles path (transcript.andThen fun result state files =>
      ⟨outcome result, events result, state, files⟩) :=
  settles.andThen fun _ settled => settled

namespace Settled

variable (settled : Settled path memory files)

include settled

theorem connect (globals : Globals) (environment : Environment) :
    Settles path ((connect globals environment).run (memoryHost path number) memory files) := by
  rw [run_connect]
  split
  · exact settled
  · exact settled

theorem refresh (tracked : Tracked) :
    Settles path ((Reconcile.refresh tracked).run (memoryHost path number) memory files) := by
  cases usable : tracked.usableId with
  | none =>
    rw [Reconcile.run_refresh]
    simp only [usable]
    exact settled
  | some text =>
    cases parsed : PtrRecordId.parse text with
    | error failure =>
      rw [Reconcile.run_refresh]
      simp only [usable, parsed]
      exact settled
    | ok id => exact settles_refresh_of_parsed number settled.clean usable parsed files path

/-- A deletion of what is tracked, and then of the ID and attributes in the state file. Between the
two the state file may describe what is gone. -/
theorem remove (tracked : Tracked) (outcome : Except Failure Unit → Except Failure α) :
    Settles path (((Reconcile.remove tracked).run (memoryHost path number) memory files).andThen
      fun _ state files => ⟨outcome ((Home.file path).keep .empty files).1,
        [.saved .empty ((Home.file path).keep .empty files).1], state,
        ((Home.file path).keep .empty files).2⟩) := by
  cases parsed : PtrRecordId.parse tracked.idText with
  | error failure =>
    rw [Reconcile.run_remove, parsed]
    exact settled
  | ok id =>
    have clean := settled.clean.delete id.address.ptr
    obtain ⟨status, after, deleted, success, -⟩ := memory.delete_unconditional id.address.ptr
    rw [run_remove_memory number path files parsed deleted success]
    rw [deleted] at clean
    exact ⟨clean, inStep_keep_empty after files path⟩

theorem replace (desired : Desired) (tracked : Tracked) :
    Settles path ((replace desired tracked).run (memoryHost path number) memory files) := by
  rw [run_replace]
  split
  · exact settled
  · split
    · exact settled
    · split
      · exact settled
      · rw [settles_after]
        exact settled.remove number tracked fun outcome => outcome.map fun _ => Tracked.empty

/-- A write. If its ID cannot be read, the state file stays as it is, and so does the record set that
it describes: an address that cannot be read back has a slash. -/
theorem write {description : Option Json} (accepted : Desired.ofJson description = .ok desired)
    (trimmed : trimEnd desired.name = desired.name) (tracked : Tracked) :
    Settles path ((Reconcile.write desired tracked).run (memoryHost path number) memory files) := by
  cases expected : expectedEtag desired tracked with
  | error failure =>
    rw [Reconcile.run_write, expected]
    exact settled
  | ok ifMatch =>
    rcases memory.upsert_cases desired.address.ptr desired.properties ifMatch "" with
      made | ⟨status, message, unsuccessful, refused⟩
    · have clean := settled.clean.written accepted
      cases parsed : PtrRecordId.parse (memory.idFor desired.address).format with
      | error failure =>
        have apart : ¬desired.address.Plain := fun plain => by
          obtain ⟨group, zone, name⟩ := Desired.address_nonempty accepted
          have read := parse_idFor settled.clean.subscription settled.clean.subscriptionPlain group
            zone name { plain with trimmed }
          rw [read] at parsed
          cases parsed
        rw [Memory.run_write expected made, settles_after, Reconcile.writeEnd,
          memory.writeAnswer_acknowledgement, parsed]
        exact ⟨clean, settled.inStep.written apart desired.properties⟩
      | ok id =>
        rw [Memory.run_write_made expected made parsed]
        simp only [settles_after]
        rcases kept : (Home.file path).keep (identified tracked (memory.idFor desired.address).format)
          files with ⟨outcome, between⟩
        cases outcome with
        | error failure =>
          rw [Transcript.andThen_error]
          exact ⟨clean, .missing (StateFile.text?_of_failed_keep kept).2⟩
        | ok done =>
          have usable := Reconcile.usableId_identified tracked (PtrRecordId.ne_empty_of_parse parsed)
          rw [Transcript.andThen_ok, settles_after]
          exact (settles_refresh_of_parsed number clean usable parsed between path).map _ _
    · rw [Memory.run_write expected refused, settles_after, Reconcile.writeEnd,
        Memory.writeAnswer_refusal desired message unsuccessful]
      exact settled

end Settled

/-! ## Commands -/

/-- The record set that a command is to make, if its desired file describes one. -/
def Command.Wants (files : Files) (command : Command) (desired : Desired) : Prop :=
  ∃ file description, command = .apply file command.state ∧
    files.readJson file = .ok description ∧ Desired.ofJson (some description) = .ok desired

namespace Settled

variable (settled : Settled path memory files) (environment : Environment) (globals : Globals)

include settled

theorem takeOver (source : Files) (id : String) :
    Settles path ((takeOver source environment globals id path).run (memoryHost path number) memory
      files) := by
  rw [run_takeOver]
  split
  · exact settled
  next tracked loaded =>
    refine (settled.connect number globals environment).andThen fun _ settled => ?_
    generalize Transcript.state _ = memory at settled ⊢
    generalize Transcript.files _ = files at settled ⊢
    rw [Reconcile.run_adopt]
    cases parsed : PtrRecordId.parse id with
    | error failure => exact settled
    | ok read =>
      rcases kept : (Home.file path).keep (identified tracked id) files with ⟨outcome, between⟩
      cases outcome with
      | error failure => exact ⟨settled.clean, .missing (StateFile.text?_of_failed_keep kept).2⟩
      | ok done =>
        have usable := Reconcile.usableId_identified tracked (PtrRecordId.ne_empty_of_parse parsed)
        exact (settles_refresh_of_parsed number settled.clean usable parsed between path).map _ _

theorem converge (source : Files) (file : String)
    (trimmed : ∀ desired, (Command.apply file path).Wants source desired →
      trimEnd desired.name = desired.name) :
    Settles path ((converge source environment globals file path).run (memoryHost path number) memory
      files) := by
  cases described : source.readJson file with
  | error failure =>
    rw [CommandLine.converge, described]
    exact settled
  | ok description =>
    cases accepted : Desired.ofJson (some description) with
    | error failure =>
      rw [CommandLine.converge, described, Program.bind_eq, Program.run_bind, Program.run_ofExcept,
        Transcript.andThen_ok, accepted]
      exact settled
    | ok desired =>
      cases loaded : StateFile.load source path with
      | error failure =>
        rw [CommandLine.converge, described, Program.bind_eq, Program.run_bind,
          Program.run_ofExcept, Transcript.andThen_ok, accepted, Program.bind_eq, Program.run_bind,
          Program.run_ofExcept, Transcript.andThen_ok, loaded]
        exact settled
      | ok tracked =>
        have blankless := trimmed desired ⟨file, description, rfl, described, accepted⟩
        rw [run_converge _ source files environment globals described accepted loaded]
        refine (settled.connect number globals environment).andThen fun _ settled => ?_
        refine (settled.refresh number tracked).andThen fun found settled => ?_
        refine (settled.replace number desired found.1).andThen fun kept settled => ?_
        exact (settled.write number accepted blankless kept).map _ _

theorem program (source : Files) (command : Command) (state : command.state = path)
    (trimmed : ∀ desired, command.Wants source desired → trimEnd desired.name = desired.name) :
    Settles path ((command.program source environment globals).run (memoryHost path number) memory
      files) := by
  subst state
  cases command with
  | apply file path => exact settled.converge number environment globals source file trimmed
  | inspect path =>
    rw [Command.program, run_present]
    split
    · exact settled
    next tracked loaded =>
      refine (settled.connect number globals environment).andThen fun _ settled => ?_
      exact (settled.refresh number tracked).map _ _
  | destroy path =>
    rw [Command.program, run_discard]
    split
    · exact settled
    next tracked loaded =>
      split
      · exact settled
      next id usable =>
        refine (settled.connect number globals environment).andThen fun _ settled => ?_
        rw [← Transcript.andThen_andThen]
        exact (settled.remove number tracked fun outcome => outcome).map _ _
  | adopt id path => exact settled.takeOver number environment globals source id

end Settled

/-! ## Uses of one state file -/

/-- Where command lines lead that are the only users of a memory and of the state file at a path.
Before each of them any other file may have changed. -/
inductive Used (path : String) : Memory → Files → Prop where
  | unused {memory : Memory} {files : Files} (empty : memory.recordSets = [])
      (subscription : memory.subscriptionId ≠ "") (plain : Slashless memory.subscriptionId)
      (missing : files.text? path = none) : Used path memory files
  | run {memory : Memory} {before files : Files} {words : List String} {globals : Globals}
      {command : Command} (used : Used path memory before)
      (same : files.text? path = before.text? path)
      (invoked : Invocation.ofWords words = .run globals command) (state : command.state = path)
      (trimmed : ∀ desired, command.Wants files desired → trimEnd desired.name = desired.name)
      (number : Nat) (environment : Environment) :
      Used path (execute Memory.service number environment words files memory).state
        (execute Memory.service number environment words files memory).files

theorem InStep.of_text {files other : Files} (inStep : InStep memory files path)
    (same : other.text? path = files.text? path) : InStep memory other path := by
  cases inStep with
  | missing text => exact .missing (same.trans text)
  | bare text => exact .bare (same.trans text)
  | described tracked id stored records text describes =>
    exact .described tracked id stored records (same.trans text) describes

theorem settled_of_used {memory : Memory} {files : Files} (used : Used path memory files) :
    Settled path memory files := by
  induction used with
  | unused empty subscription plain missing =>
    have clean : Clean _ := {
      subscription := subscription
      subscriptionPlain := plain
      identified := fun entry member => by simp [empty] at member
      named := fun entry member => by simp [empty] at member }
    exact ⟨clean, .missing missing⟩
  | @run memory before files _ globals command _ same invoked state trimmed number environment
      inductionHypothesis =>
    have settled : Settled path memory files :=
      ⟨inductionHypothesis.clean, inductionHypothesis.inStep.of_text same⟩
    have settles := settled.program number environment globals files command state trimmed
    rw [execute_of_run invoked]
    subst state
    exact settles

/-- After any number of command lines the state file is missing, or has neither an ID nor
attributes, or describes a record set that is stored. -/
theorem inStep_of_used {memory : Memory} {files : Files} (used : Used path memory files) :
    InStep memory files path :=
  (settled_of_used used).inStep

/-- The state file that a first run of `apply` makes describes what the run stored. -/
theorem inStep_after_first_apply :
    InStep (execute Memory.service 0 [] (applyWords "t") describedFiles oneZone).state
      (execute Memory.service 0 [] (applyWords "t") describedFiles oneZone).files "t" :=
  have invoked : Invocation.ofWords (applyWords "t") = .run {} (.apply "d" "t") := by
    decide +kernel
  have unused : Used "t" oneZone describedFiles :=
    .unused rfl (by decide) (by decide) (by decide +kernel)
  inStep_of_used (.run unused rfl invoked rfl (by
    rintro desired ⟨file, description, same, described, accepted⟩
    obtain ⟨found, read, valid⟩ := accepted_describedA
    obtain ⟨rfl, -⟩ := Command.apply.inj same
    rw [← Except.ok.inj (read.symm.trans described), valid] at accepted
    obtain rfl := Except.ok.inj accepted
    rw [describedA_parts.2.2.1]
    decide +kernel) 0 [])

end ReverseDns.CommandLine
