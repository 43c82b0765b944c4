import ReverseDns.Proofs.FailedImports
import ReverseDns.Proofs.Monitors
import ReverseDns.Proofs.Snapshots

/-!
# State files that were written, loaded by the next run

What a run saves comes from a service whose answers have the declared type. Such a state file is
loaded again as it was left, if the TTL in it is a whole number. Any other TTL is saved just the
same, and from then on the state file is refused.

* `RecordSet.Typed`, `Service.Typed` -- answers of the declared type
* `Tracked.Typed` -- what is remembered of such answers
* `StateFile.load_of_typed`, `StateFile.load_of_fractional` -- which state files are loaded
* `steady_typing` -- every command saves only what is remembered of such answers
* `text?_of_run` -- a state file holds what was saved last
* `Kept`, `reloads_after_run` -- runs of command lines on a state file that was missing at first
-/

namespace ReverseDns

open Json (settle settleMembers settleItems Regular)

variable {σ : Type}

/-! ## Answers of the declared type -/

/-- A record set of the declared type: its TTL is a number and its metadata are texts, where it has
them. -/
structure RecordSet.Typed (found : RecordSet) : Prop where
  ttl : found.ttl ≠ .null
  regular : ∀ tags, found.metadata.get? = some tags → Regular (.obj tags)
  texts : ∀ tags, found.metadata.get? = some tags →
    ∀ member ∈ tags, ∃ text, member.2 = .text text

def TypedAnswer (answer : Answer) : Prop :=
  ∀ reply found, answer = .ok reply → reply.recordSet.get? = some found → found.Typed

def Service.Typed (service : Service σ) : Prop :=
  ∀ request state, TypedAnswer (service.serve request state).answer

/-! ## What is remembered of such answers -/

structure Remote.Typed (remote : Remote) : Prop where
  ttl : ∃ x, remote.ttl = some x
  regular : Regular (.obj remote.tags)
  texts : ∀ member ∈ remote.tags, ∃ text, member.2 = .text text

theorem Reconcile.typed_of_readAnswer {address : Address} {answer : Answer} {remote : Remote}
    (typed : TypedAnswer answer) (read : readAnswer address answer = .ok (some remote)) :
    remote.Typed := by
  obtain ⟨reply, rfl, -, -, described⟩ := readAnswer_eq_some.mp read
  obtain ⟨-, recordSet, given, ttl, -, tags⟩ := remoteOf_eq_ok described
  have declared := typed reply recordSet rfl given
  have number : ∃ x, remote.ttl = some x := by
    unfold ttlOf at ttl
    split at ttl
    next => cases ttl
    next null => exact absurd null declared.ttl
    next x _ => exact ⟨x, (Option.some.inj ttl).symm⟩
  cases metadata : recordSet.metadata.get? with
  | none =>
    have none : remote.tags = [] := by rw [tags, metadata, Option.getD_none]
    exact ⟨number, none ▸ .empty, by simp [none]⟩
  | some members =>
    have same : remote.tags = members := by rw [tags, metadata, Option.getD_some]
    exact ⟨number, same ▸ declared.regular members metadata, same ▸ declared.texts members metadata⟩

/-- Attributes that were read from answers of the declared type. -/
def Attributes.Typed (attributes : Attributes) : Prop :=
  ∃ remote : Remote, remote.Typed ∧ attributes = .ofRemote remote

/-- The TTL in attributes. -/
def Attributes.ttl? (attributes : Attributes) : Option Float :=
  (Keyed.get? attributes.members "ttl").bind Json.num?

/-- Attributes without a negative zero. -/
def Attributes.unsigned (attributes : Attributes) : Attributes where
  members := attributes.members.map fun member =>
    match member with
    | (name, .num x) => (name, .num (Decimal.unsignedZero x))
    | other => other

theorem Attributes.ttl?_ofRemote (remote : Remote) : (ofRemote remote).ttl? = remote.ttl := by
  cases ttl : remote.ttl <;> simp [ttl?, ofRemote, ttl, Keyed.get?_cons, Json.num?]

structure Tracked.Typed (tracked : Tracked) : Prop where
  id : ∀ id ∈ tracked.id, id.Joined
  attributes : ∀ attributes ∈ tracked.attributes, attributes.Typed

/-- The TTL is a whole number, if one is remembered. -/
def Tracked.Whole (tracked : Tracked) : Prop :=
  ∀ attributes ∈ tracked.attributes, ∀ x, attributes.ttl? = some x → Decimal.isIntegral x = true

def Tracked.unsigned (tracked : Tracked) : Tracked :=
  { tracked with attributes := tracked.attributes.map Attributes.unsigned }

theorem Decimal.unsignedZero_unsignedZero (x : Float) :
    unsignedZero (unsignedZero x) = unsignedZero x := by
  by_cases zero : (Binary.ofFloat x).significand = 0
  · have unsigned : unsignedZero x = 0 := if_pos zero
    rw [unsigned, unsignedZero, ite_self]
  · have same : unsignedZero x = x := if_neg zero
    rw [same, same]

theorem Attributes.unsigned_unsigned (attributes : Attributes) :
    attributes.unsigned.unsigned = attributes.unsigned := by
  simp only [unsigned, List.map_map, mk.injEq, List.map_inj_left, Function.comp]
  rintro ⟨name, value⟩ -
  cases value <;> simp [Decimal.unsignedZero_unsignedZero]

theorem Tracked.unsigned_unsigned (tracked : Tracked) :
    tracked.unsigned.unsigned = tracked.unsigned := by
  simp [unsigned, Function.comp_def, Attributes.unsigned_unsigned]

theorem Attributes.unsigned_ofRemote {remote : Remote} {x : Float} (ttl : remote.ttl = some x) :
    (ofRemote remote).unsigned =
      ofRemote { remote with ttl := some (Decimal.unsignedZero x) } := by
  simp [unsigned, ofRemote, ttl]

theorem Attributes.Typed.unsigned {attributes : Attributes} (typed : attributes.Typed) :
    attributes.unsigned.Typed := by
  obtain ⟨remote, ⟨⟨x, ttl⟩, regular, texts⟩, rfl⟩ := typed
  exact ⟨{ remote with ttl := some (Decimal.unsignedZero x) }, ⟨⟨_, rfl⟩, regular, texts⟩,
    unsigned_ofRemote ttl⟩

theorem Tracked.typed_empty : Tracked.empty.Typed := ⟨nofun, nofun⟩

theorem Tracked.Typed.unsigned {tracked : Tracked} (typed : tracked.Typed) :
    tracked.unsigned.Typed where
  id := typed.id
  attributes := by
    intro attributes member
    obtain ⟨stored, isStored, rfl⟩ := Option.map_eq_some_iff.mp member
    exact (typed.attributes stored isStored).unsigned

theorem Tracked.Typed.whole_unsigned {tracked : Tracked} (typed : tracked.Typed)
    (whole : tracked.Whole) : tracked.unsigned.Whole := by
  intro attributes member y found
  obtain ⟨stored, isStored, rfl⟩ := Option.map_eq_some_iff.mp member
  obtain ⟨remote, read, rfl⟩ := typed.attributes stored isStored
  obtain ⟨x, ttl⟩ := read.ttl
  rw [Attributes.unsigned_ofRemote ttl, Attributes.ttl?_ofRemote] at found
  cases found
  exact Schema.isIntegral_unsignedZero (whole _ isStored x (by rw [Attributes.ttl?_ofRemote, ttl]))

theorem Tracked.Typed.refreshed {tracked : Tracked} {remote : Remote} (typed : tracked.Typed)
    (read : remote.Typed) : (Reconcile.refreshed tracked remote).Typed where
  id := typed.id
  attributes := by
    rintro _ ⟨⟩
    exact ⟨remote, read, rfl⟩

theorem Tracked.Typed.identified {tracked : Tracked} (typed : tracked.Typed) (text : String) :
    (Reconcile.identified tracked text).Typed where
  id := by
    rintro _ ⟨⟩
    exact WideText.joined_coe text
  attributes := typed.attributes

/-! ## State files -/

theorem Json.settleItems_hostnames (names : List Hostname) :
    settleItems (names.map Hostname.toJson) = names.map Hostname.toJson := by
  induction names with
  | nil => rfl
  | cons name names inductionHypothesis =>
    rw [List.map_cons, settleItems, inductionHypothesis]
    rfl

theorem Json.settleMembers_texts {members : Members}
    (texts : ∀ member ∈ members, ∃ text, member.2 = .text text) :
    settleMembers members = members := by
  induction members with
  | nil => rfl
  | cons member members inductionHypothesis =>
    obtain ⟨name, value⟩ := member
    obtain ⟨text, rfl⟩ := texts _ (List.mem_cons_self ..)
    rw [settleMembers, inductionHypothesis fun other inside => texts other (.tail _ inside)]
    rfl

/-- Of attributes with a whole TTL, writing and reading changes nothing but a negative zero. -/
theorem Attributes.settle_ofRemote {remote : Remote} (typed : remote.Typed) {x : Float}
    (ttl : remote.ttl = some x) (whole : Decimal.isIntegral x = true) :
    { members := settleMembers (ofRemote remote).members } = (ofRemote remote).unsigned := by
  have finite : Decimal.isFinite x = true := by
    rw [Decimal.isIntegral, Bool.and_eq_true] at whole
    exact whole.1
  simp [ofRemote, ttl, settleMembers, settle, finite, Attributes.unsigned,
    Json.settleItems_hostnames, Json.settleMembers_texts typed.texts]

namespace Tracked

variable {tracked : Tracked}

theorem Typed.storable (typed : tracked.Typed) (whole : tracked.Whole) : tracked.Storable where
  id := typed.id
  attributes := by
    intro attributes member
    obtain ⟨remote, read, rfl⟩ := typed.attributes attributes member
    obtain ⟨x, ttl⟩ := read.ttl
    have integral := whole _ member x (by rw [Attributes.ttl?_ofRemote, ttl])
    exact Attributes.storable_ofRemote
      ⟨⟨x, ttl, integral⟩, read.regular, fun other inside _ => read.texts other inside⟩

theorem Typed.settled_eq (typed : tracked.Typed) (whole : tracked.Whole) :
    tracked.settled = tracked.unsigned := by
  obtain ⟨id, attributes⟩ := tracked
  cases attributes with
  | none => rfl
  | some attributes =>
    obtain ⟨remote, read, rfl⟩ := typed.attributes attributes rfl
    obtain ⟨x, ttl⟩ := read.ttl
    have integral := whole _ rfl x (by rw [Attributes.ttl?_ofRemote, ttl])
    simp only [settled, Option.map_some, Attributes.settle_ofRemote read ttl integral]
    rfl

end Tracked

namespace StateFile

variable {files : Files} {path : String} {tracked : Tracked}

theorem load_of_typed (typed : tracked.Typed) (whole : tracked.Whole)
    (text : files.text? path = some (render tracked)) : load files path = .ok tracked.unsigned := by
  rw [load_of_text (typed.storable whole) text, typed.settled_eq whole]

end StateFile

theorem Decimal.isIntegral_of_zero {x : Float} (zero : (Binary.ofFloat x).significand = 0) :
    isIntegral x = true := by
  have subnormal : exponentBits x = 0 := by
    by_contra normal
    simp [Binary.ofFloat, normal] at zero
  simp [isIntegral, isFinite, subnormal, zero]

theorem Schema.integerIssues_settle {x : Float} (fractional : Decimal.isIntegral x = false)
    (path : String) :
    integerIssues none path (some (settle (.num x))) = [⟨path, "Expected integer"⟩] := by
  unfold settle
  split
  · have nonzero : (Decimal.Binary.ofFloat x).significand ≠ 0 := fun zero => by
      rw [Decimal.isIntegral_of_zero zero] at fractional
      cases fractional
    simp [integerIssues, Decimal.unsignedZero, nonzero, fractional]
  · rfl

/-- Attributes with a TTL that is no whole number are refused for that alone. -/
theorem Attributes.issues_ofRemote {remote : Remote} (typed : remote.Typed) {x : Float}
    (ttl : remote.ttl = some x) (fractional : Decimal.isIntegral x = false) (path : String) :
    Schema.issuesAt schema path (some (.obj (settleMembers (ofRemote remote).members))) =
      [⟨path ++ Schema.step "ttl", "Expected integer"⟩] := by
  have members : settleMembers (ofRemote remote).members = ([
      ("name", .str remote.address.recordName),
      ("resourceGroupName", .str remote.address.resourceGroup),
      ("zoneName", .str remote.address.zoneName),
      ("ttl", settle (.num x)),
      ("etag", .str remote.etag),
      ("records", .arr (remote.records.map Hostname.toJson)),
      ("tags", .obj remote.tags)] : Members) := by
    simp [ofRemote, ttl, settleMembers, Json.settleMembers_texts typed.texts, settle,
      Json.settleItems_hostnames]
  have tags : Schema.tableIssues (path ++ Schema.step "tags") (some (.obj remote.tags)) = [] :=
    Schema.tableIssues_eq_nil.mpr fun member inside _ => typed.texts member inside
  have only : Schema.issuesAt schema path (some (.obj (settleMembers (ofRemote remote).members))) =
      Schema.integerIssues none (path ++ Schema.step "ttl") (some (settle (.num x))) ++
        (Schema.itemIssues (Schema.issuesAt (.text none)) (path ++ Schema.step "records") 0
          (remote.records.map Hostname.toJson) ++
          (Schema.tableIssues (path ++ Schema.step "tags") (some (.obj remote.tags)) ++ [])) := by
    rw [members]
    rfl
  rw [only, Schema.integerIssues_settle fractional, Schema.itemIssues_hostnames, tags]
  rfl

/-- The complaint about a state file with a TTL that is no whole number. -/
def fractionalTtl : Failure := .invalid .snapshot ["/attributes/ttl: Expected integer"]

theorem Tracked.issues_of_fractional {id : Option WideText} {remote : Remote}
    (typed : remote.Typed) {x : Float} (ttl : remote.ttl = some x)
    (fractional : Decimal.isIntegral x = false) :
    schema.issues (some (settle (toJson { id, attributes := some (.ofRemote remote) }))) =
      ["/attributes/ttl: Expected integer"] := by
  have only : Schema.issuesAt schema ""
      (some (settle (toJson { id, attributes := some (.ofRemote remote) }))) =
        Schema.issuesAt Attributes.schema ("" ++ Schema.step "attributes")
          (some (.obj (settleMembers (Attributes.ofRemote remote).members))) ++ [] := by
    cases id <;> rfl
  rw [Schema.issues, only, Attributes.issues_ofRemote typed ttl fractional]
  rfl

/-- A state file with any other TTL is refused. -/
theorem StateFile.load_of_fractional {files : Files} {path : String} {tracked : Tracked}
    (typed : tracked.Typed) (fractional : ¬tracked.Whole)
    (text : files.text? path = some (render tracked)) : load files path = .error fractionalTtl := by
  have regular : Regular tracked.toJson := by
    refine Tracked.regular_toJson typed.id fun attributes stored => ?_
    obtain ⟨remote, read, rfl⟩ := typed.attributes attributes stored
    obtain ⟨x, ttl⟩ := read.ttl
    exact Attributes.regular_ofRemote ttl read.regular
  have parsed : Json.parse (render tracked) = some (settle tracked.toJson) :=
    Json.parse_pretty regular (by decide) (Json.Reader.endsNumber_cons (by decide))
  have issues : Tracked.schema.issues (some (settle tracked.toJson)) =
      ["/attributes/ttl: Expected integer"] := by
    obtain ⟨id, attributes⟩ := tracked
    cases attributes with
    | none => exact absurd nofun fractional
    | some attributes =>
      obtain ⟨remote, read, rfl⟩ := typed.attributes attributes rfl
      obtain ⟨x, ttl⟩ := read.ttl
      refine Tracked.issues_of_fractional read ttl
        (Bool.eq_false_iff.mpr fun whole => fractional ?_)
      rintro _ ⟨⟩ y same
      rw [Attributes.ttl?_ofRemote, ttl] at same
      cases same
      exact whole
  have found := Files.text?_eq_some.mp text
  rw [load, if_pos (Files.has_of_read found), Files.readJson, found]
  simp only [parsed, Tracked.ofJson, Tracked.validate, issues, fractionalTtl]

/-! ## What commands save -/

/-- The monitor of a run on a service of the declared type: what is saved is of that type too. -/
def typing : Monitor Unit where
  admits _ _ answer := TypedAnswer answer
  saves _ tracked := tracked.Typed

theorem typing_keepsUp {service : Service σ} (typed : service.Typed) (home : Home) (number : Nat) :
    typing.KeepsUp { service, home, number } fun _ _ => True where
  remember _ _ _ _ _ _ := trivial
  prepare _ _ _ _ _ := ⟨trivial, trivial⟩
  serve _ request state _ _ := ⟨typed request state, trivial, trivial⟩

theorem typed_of_leads {now later : Unit} {events : List Event}
    (leads : typing.Leads now events later) {tracked : Tracked} {outcome : Except Failure Unit}
    (saved : .saved tracked outcome ∈ events) : tracked.Typed := by
  obtain ⟨_, _, -, -, typed⟩ := leads.allows saved
  exact typed

/-! ## What a state file holds -/

/-- What an event records as saved. -/
def saved? : Event → Option Tracked
  | .saved tracked _ => some tracked
  | _ => none

/-- What a run ended with that began with `loaded`: what it saved last, if it saved anything. -/
def endedWith (loaded : Tracked) (events : List Event) : Tracked :=
  (events.filterMap saved?).getLast?.getD loaded

/-- After a run a state file is missing, or it holds what was saved last, or nothing was saved and
it is as it was. -/
theorem Program.text?_of_run {α : Type} (host : Host σ) {path : String}
    (home : host.home = .file path) (program : Program α) (state : σ) (files : Files) :
    let transcript := program.run host state files
    transcript.files.text? path = none ∨
      (∃ tracked, (transcript.events.filterMap saved?).getLast? = some tracked ∧
        transcript.files.text? path = some (StateFile.render tracked)) ∨
      (transcript.events.filterMap saved? = [] ∧
        transcript.files.text? path = files.text? path) := by
  induction program generalizing state files with
  | done result => exact .inr (.inr ⟨rfl, rfl⟩)
  | stop failure => exact .inr (.inr ⟨rfl, rfl⟩)
  | say level text rest inductionHypothesis => exact inductionHypothesis state files
  | print line rest inductionHypothesis => exact inductionHypothesis state files
  | connect config rest inductionHypothesis => exact inductionHypothesis _ _ files
  | ask request rest inductionHypothesis =>
    have silent (overheard : List Overheard) :
        (overheard.map Event.overheard).filterMap saved? = [] := by
      simp [List.filterMap_eq_nil_iff, saved?]
    simp only [run, Transcript.files_after, Transcript.events_after, List.filterMap_append,
      List.filterMap_cons, saved?, silent, List.nil_append]
    exact inductionHypothesis _ _ files
  | save tracked rest inductionHypothesis =>
    simp only [run, home, Transcript.files_after, Transcript.events_after, List.singleton_append,
      List.filterMap_cons, saved?]
    rcases kept : (Home.file path).keep tracked files with ⟨outcome, between⟩
    rcases inductionHypothesis outcome state between with
      missing | ⟨last, isLast, text⟩ | ⟨none, same⟩
    · exact .inl missing
    · exact .inr (.inl ⟨last, by rw [List.getLast?_cons, isLast]; rfl, text⟩)
    · -- nothing was saved afterwards, so this save decides
      dsimp only
      rw [none, same]
      cases outcome with
      | ok done => exact .inr (.inl ⟨tracked, rfl, (StateFile.accepts_of_keep kept).1⟩)
      | error failure => exact .inl (StateFile.text?_of_failed_keep kept).2

namespace CommandLine

open Reconcile (typed_of_readAnswer)

variable {tracked : Tracked}

/-- Commands save only what is of the declared type, if what they load is. -/
theorem steady_typing : Steady typing () Tracked.Typed where
  calls _ := trivial
  called _ _ := rfl
  saves _ typed := typed
  saved _ := rfl
  empty := Tracked.typed_empty
  identified _ text typed := typed.identified text
  refreshed _ _ _ _ typed admitted read := typed.refreshed (typed_of_readAnswer admitted read)

/-! ## Runs on a state file that was missing at first -/

/-- Files that command lines leave which run on the state file at a path, the first of them without
one. Before each of them any other file may have changed. -/
inductive Kept (path : String) : Files → Prop where
  | missing {files : Files} (text : files.text? path = none) : Kept path files
  | run {before files : Files} {words : List String} {globals : Globals} {command : Command}
      {σ : Type} {service : Service σ} (kept : Kept path before)
      (same : files.text? path = before.text? path)
      (invoked : Invocation.ofWords words = .run globals command) (state : command.state = path)
      (typed : service.Typed) (number : Nat) (environment : Environment) (start : σ) :
      Kept path (execute service number environment words files start).files

/-- A state file that is missing, or holds something of the declared type. -/
def Holds (path : String) (files : Files) : Prop :=
  ∀ text, files.text? path = some text →
    ∃ tracked : Tracked, tracked.Typed ∧ text = StateFile.render tracked

theorem Holds.typed_of_load {path : String} {files : Files} (holds : Holds path files)
    (loaded : StateFile.load files path = .ok tracked) : tracked.Typed := by
  cases found : files.text? path with
  | none =>
    unfold StateFile.load at loaded
    split at loaded
    next =>
      have unread : ∃ fault, files.read path = .error fault := by
        cases read : files.read path with
        | error fault => exact ⟨fault, rfl⟩
        | ok content => rw [Files.text?_eq_some.mpr read] at found; cases found
      obtain ⟨fault, read⟩ := unread
      simp only [Files.readJson, read] at loaded
      cases loaded
    next =>
      cases loaded
      exact Tracked.typed_empty
  | some text =>
    obtain ⟨held, typed, rfl⟩ := holds text found
    by_cases whole : held.Whole
    · rw [StateFile.load_of_typed typed whole found] at loaded
      cases loaded
      exact typed.unsigned
    · rw [StateFile.load_of_fractional typed whole found] at loaded
      cases loaded

/-- How a state file is loaded that a run left: as the run ended, if the TTL is a whole number, and
else not at all. -/
inductive Reloads (files : Files) (path : String) (ended : Tracked) : Prop where
  | whole (whole : ended.Whole) (loaded : StateFile.load files path = .ok ended.unsigned)
  | refused (fractional : ¬ended.Whole) (refused : StateFile.load files path = .error fractionalTtl)

theorem filterMap_saved?_lastLine (events : List Event) (verb : Verb)
    (result : Except Failure Unit) :
    (events ++ lastLine verb result).filterMap saved? = events.filterMap saved? := by
  cases result <;> simp [lastLine, complaintLine, saved?]

/-- A run of a command leaves no state file, or what it saved last, or the file as it was. -/
theorem saved_or_same {words : List String} {globals : Globals} {command : Command}
    (invoked : Invocation.ofWords words = .run globals command) {service : Service σ}
    (typed : service.Typed) (number : Nat) (environment : Environment) {files : Files}
    (holds : Holds command.state files) (start : σ) :
    let finished := execute service number environment words files start
    finished.files.text? command.state = none ∨
      (∃ saved : Tracked, saved.Typed ∧ (finished.events.filterMap saved?).getLast? = some saved ∧
        finished.files.text? command.state = some (StateFile.render saved)) ∨
      (finished.events.filterMap saved? = [] ∧
        finished.files.text? command.state = files.text? command.state) := by
  dsimp only
  have obeys := steady_typing.program files environment globals command
    (fun _ _ => ⟨trivial, fun _ => rfl⟩) fun _ => holds.typed_of_load
  obtain ⟨later, leads, -⟩ := leads_of_run invoked obeys
    (typing_keepsUp typed (.file command.state) number) start trivial
  rw [execute_of_run invoked] at leads ⊢
  dsimp only at leads ⊢
  rw [filterMap_saved?_lastLine]
  rcases Program.text?_of_run (hostOf service number command) rfl
    (command.program files environment globals) start files with
      missing | ⟨saved, last, text⟩ | same
  · exact .inl missing
  · refine .inr (.inl ⟨saved, ?_, last, text⟩)
    obtain ⟨event, member, isSaved⟩ := List.mem_filterMap.mp (List.mem_of_getLast? last)
    cases event with
    | saved tracked outcome =>
      cases isSaved
      exact typed_of_leads leads (List.mem_append_left _ member)
    | said | printed | connected | called | overheard => cases isSaved
  · exact .inr (.inr same)

theorem Holds.after_run {words : List String} {globals : Globals} {command : Command}
    (invoked : Invocation.ofWords words = .run globals command) {service : Service σ}
    (typed : service.Typed) (number : Nat) (environment : Environment) {files : Files}
    (holds : Holds command.state files) (start : σ) :
    Holds command.state (execute service number environment words files start).files := by
  intro text present
  rcases saved_or_same invoked typed number environment holds start with
    missing | ⟨saved, typed, -, held⟩ | ⟨-, same⟩
  · cases missing.symm.trans present
  · exact ⟨saved, typed, Option.some.inj (present.symm.trans held)⟩
  · exact holds text (same.symm.trans present)

theorem holds_of_kept {path : String} {files : Files} (kept : Kept path files) :
    Holds path files := by
  induction kept with
  | missing text =>
    intro content present
    cases text.symm.trans present
  | run _ same invoked state typed number environment start holds =>
    subst state
    refine Holds.after_run invoked typed number environment (fun text present => ?_) start
    exact holds text (same.symm.trans present)

/-- What was loaded from such a file is loaded again, as long as the file is the same. -/
theorem Holds.reloads {path : String} {files other : Files} (holds : Holds path files)
    (loaded : StateFile.load files path = .ok tracked) {text : String}
    (present : files.text? path = some text) (same : other.text? path = some text) :
    Reloads other path tracked := by
  obtain ⟨held, typed, rfl⟩ := holds text present
  by_cases whole : held.Whole
  · rw [StateFile.load_of_typed typed whole present] at loaded
    cases loaded
    refine .whole (typed.whole_unsigned whole) ?_
    rw [StateFile.load_of_typed typed whole same, Tracked.unsigned_unsigned]
  · rw [StateFile.load_of_fractional typed whole present] at loaded
    cases loaded

/-- A state file that runs of command lines made, on services of the declared type, is loaded after
every run as the run ended, unless it ended with a TTL that is no whole number: then the state file
is refused, and so every later run fails and leaves all files as they are. -/
theorem reloads_after_run {path : String} {before files : Files} (kept : Kept path before)
    (same : files.text? path = before.text? path) {words : List String} {globals : Globals}
    {command : Command} (invoked : Invocation.ofWords words = .run globals command)
    (state : command.state = path) {service : Service σ} (typed : service.Typed) (number : Nat)
    (environment : Environment) (start : σ) :
    let finished := execute service number environment words files start
    (∀ loaded, StateFile.load files path = .ok loaded →
      finished.files.text? path = none ∨
        Reloads finished.files path (endedWith loaded finished.events)) ∧
      ∀ failure, StateFile.load files path = .error failure →
        finished.exitCode = 1 ∧ finished.files = files := by
  subst state
  intro finished
  have holds : Holds command.state files := fun text present =>
    holds_of_kept kept text (same.symm.trans present)
  refine ⟨fun loaded begun => ?_, fun failure refused => ?_⟩
  · rcases saved_or_same invoked typed number environment holds start with
      missing | ⟨saved, typed, last, text⟩ | ⟨none, unchanged⟩
    · exact .inl missing
    · right
      have ended : endedWith loaded finished.events = saved := by rw [endedWith, last]; rfl
      rw [ended]
      by_cases whole : saved.Whole
      · exact .whole whole (StateFile.load_of_typed typed whole text)
      · exact .refused whole (StateFile.load_of_fractional typed whole text)
    · have ended : endedWith loaded finished.events = loaded := by rw [endedWith, none]; rfl
      rw [ended]
      cases present : files.text? command.state with
      | none => exact .inl (unchanged.trans present)
      | some text => exact .inr (holds.reloads begun present (unchanged.trans present))
  · obtain ⟨reason, stops⟩ := program_eq_stop environment globals refused
    rw [show finished = _ from execute_of_run invoked service number environment files start, stops]
    exact ⟨rfl, rfl⟩

/-- A service that knows one record set, with this TTL. -/
def returning (ttl : Float) : Service Unit where
  serve _ _ := {
    answer := .ok {
      status := 200
      recordSet := .given {
        id := .given "/subscriptions/s/resourceGroups/g/dnszones/z/PTR/b"
        ttl := .given ttl } }
    state := () }

theorem typed_returning (ttl : Float) : (returning ttl).Typed := by
  rintro request state reply found ⟨⟩ ⟨⟩
  exact ⟨nofun, nofun, nofun⟩

/-- The first import in an empty working directory. -/
theorem reloads_after_first_import :
    let finished := execute (returning 60) 0 [] importWords {} ()
    finished.files.text? "s" = none ∨
      Reloads finished.files "s" (endedWith .empty finished.events) :=
  have invoked : Invocation.ofWords importWords =
      .run {} (.adopt "/subscriptions/s/resourceGroups/g/dnszones/z/PTR/b" "s") := by decide +kernel
  (reloads_after_run (.missing rfl) rfl invoked rfl (typed_returning 60) 0 [] ()).1 .empty rfl

/-- An import of a record set with half a second in its TTL succeeds, and its state file is
refused. -/
example :
    let finished := execute (returning 300.5) 0 [] importWords {} ()
    finished.exitCode = 0 ∧ (StateFile.load finished.files "s").toOption.isNone = true := by
  decide +kernel

end CommandLine

end ReverseDns
