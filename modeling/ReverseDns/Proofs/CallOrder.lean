import ReverseDns.Proofs.Monitors
import ReverseDns.Proofs.Convergence

/-!
# The order of calls

Whatever a service answers, the calls of `apply` follow one course: the tracked record set is looked
up, it is deleted if the desired one lives elsewhere, the desired one is written, and it is read
back. Every call is made only after the ones before it had answers that let it be made.

* `exchanges` -- the calls of a run with their answers
* `Opening`, `May` -- what may come before the write, and which call may come next
* `obeys_converge` -- the program of `apply` makes no other calls
* `Course`, `Disciplined` -- what this says about the calls of a whole run
* `apply_disciplined` -- every run of `apply` on every service
-/

namespace ReverseDns.CommandLine

open Program (Obeys bind_eq obeys_ofExcept_bind)
open Reconcile (readAnswer writeAnswer deleteAnswer remoteOf refreshed identified expectedEtag
  writeRequest readAnswer_eq_some deleteAnswer_eq_ok writeAnswer_eq_ok obeys_refresh_bind
  obeys_write_bind)

variable {σ β : Type}

/-! ## Calls -/

/-- A call and its answer. -/
abbrev Exchange := Request × Answer

/-- The call that an event records. -/
def exchange? : Event → Option Exchange
  | .called request answer => some (request, answer)
  | _ => none

/-- The calls of a run, in order. -/
def exchanges (events : List Event) : List Exchange := events.filterMap exchange?

theorem exchanges_overheard (request : Request) (answer : Answer) (overheard : List Overheard)
    (events : List Event) :
    exchanges (.called request answer :: overheard.map Event.overheard ++ events) =
      (request, answer) :: exchanges events := by
  have silent : (overheard.map Event.overheard).filterMap exchange? = [] := by
    induction overheard with
    | nil => rfl
    | cons line rest inductionHypothesis => simp [exchange?]
  simp [exchanges, exchange?, silent]

theorem exchanges_cons_of_none {event : Event} {events : List Event}
    (silent : exchange? event = none) : exchanges (event :: events) = exchanges events := by
  simp [exchanges, silent]

@[simp] theorem exchanges_append (first second : List Event) :
    exchanges (first ++ second) = exchanges first ++ exchanges second :=
  List.filterMap_append

@[simp] theorem exchanges_said (level : Level) (text : String) (rest : List Event) :
    exchanges (.said level text :: rest) = exchanges rest := rfl

@[simp] theorem exchanges_printed (line : String) (rest : List Event) :
    exchanges (.printed line :: rest) = exchanges rest := rfl

@[simp] theorem exchanges_saved (tracked : Tracked) (outcome : Except Failure Unit)
    (rest : List Event) : exchanges (.saved tracked outcome :: rest) = exchanges rest := rfl

@[simp] theorem exchanges_connected (config : Config) (rest : List Event) :
    exchanges (.connected config :: rest) = exchanges rest := rfl

@[simp] theorem exchanges_callEvents (request : Request) (response : Response σ) :
    exchanges (callEvents request response) = [(request, response.answer)] := by
  have called := exchanges_overheard request response.answer response.overheard []
  rwa [List.append_nil] at called

@[simp] theorem exchanges_complaints (failure : Failure) :
    exchanges (Reconcile.complaints failure) = [] := by
  cases failure <;> rfl

@[simp] theorem exchanges_lastLine {α : Type} (verb : Verb) (outcome : Except Failure α) :
    exchanges (lastLine verb outcome) = [] := by
  cases outcome <;> rfl

/-! ## Which call may come next -/

/-- What is tracked is the record set with an ID. -/
def Tracks (tracked : Tracked) (id : PtrRecordId) : Prop :=
  tracked.usableId = some tracked.idText ∧ PtrRecordId.parse tracked.idText = .ok id

/-- What comes before the write, and what is remembered then. -/
inductive Opening (desired : Desired) (tracked : Tracked) : List Exchange → Tracked → Prop where
  | untracked (nothing : tracked.usableId = none) : Opening desired tracked [] tracked
  | gone (id : PtrRecordId) (answer : Answer) (tracks : Tracks tracked id)
      (missing : readAnswer id.address answer = .ok none) :
      Opening desired tracked [(.get id.address.ptr, answer)] .empty
  | kept (id : PtrRecordId) (answer : Answer) (remote : Remote) (tracks : Tracks tracked id)
      (found : readAnswer id.address answer = .ok (some remote))
      (same : id.address.same desired.address = true) :
      Opening desired tracked [(.get id.address.ptr, answer)] (refreshed tracked remote)
  | replaced (id : PtrRecordId) (answer : Answer) (remote : Remote) (deletion : Answer)
      (tracks : Tracks tracked id) (found : readAnswer id.address answer = .ok (some remote))
      (different : id.address.same desired.address = false)
      (deleted : deleteAnswer id.recordName deletion = .ok ()) :
      Opening desired tracked
        [(.get id.address.ptr, answer), (.delete id.address.ptr "", deletion)] .empty

/-- The calls that may follow those that were made. -/
inductive May (desired : Desired) (tracked : Tracked) : List Exchange → Request → Prop where
  | look (id : PtrRecordId) (tracks : Tracks tracked id) :
      May desired tracked [] (.get id.address.ptr)
  | delete (id : PtrRecordId) (answer : Answer) (remote : Remote) (tracks : Tracks tracked id)
      (found : readAnswer id.address answer = .ok (some remote))
      (different : id.address.same desired.address = false) :
      May desired tracked [(.get id.address.ptr, answer)] (.delete id.address.ptr "")
  | write {earlier : List Exchange} {kept : Tracked} (ifMatch : String)
      (opening : Opening desired tracked earlier kept)
      (expected : expectedEtag desired kept = .ok ifMatch) :
      May desired tracked earlier (writeRequest desired ifMatch)
  | readBack {earlier : List Exchange} {kept : Tracked} (ifMatch : String) (answer : Answer)
      (text : String) (id : PtrRecordId) (opening : Opening desired tracked earlier kept)
      (expected : expectedEtag desired kept = .ok ifMatch)
      (written : writeAnswer desired answer = .ok (text, id)) :
      May desired tracked (earlier ++ [(writeRequest desired ifMatch, answer)])
        (.get id.address.ptr)

/-- The monitor of a run of `apply`: it has seen the calls so far, and lets no call follow after
something failed to be remembered or connected. -/
def discipline (desired : Desired) (tracked : Tracked) : Monitor (Option (List Exchange)) where
  calls now request := ∃ earlier, now = some earlier ∧ May desired tracked earlier request
  called now request answer := now.map (· ++ [(request, answer)])
  saved now _ outcome := outcome.toOption.bind fun _ => now
  connected now _ outcome := outcome.toOption.bind fun _ => now

/-! ## The program -/

variable {desired : Desired} {tracked : Tracked}

/-- A write after a proper opening, and whatever follows it without a call. -/
theorem obeys_write_of_opening {next : Tracked × PtrRecordId → Program β}
    (rest : ∀ now done, (next done).Obeys (discipline desired tracked) now)
    {earlier : List Exchange} {kept : Tracked} (opening : Opening desired tracked earlier kept) :
    ((Reconcile.write desired kept).bind next).Obeys (discipline desired tracked)
      (some earlier) := by
  refine obeys_write_bind (fun ifMatch expected => ⟨earlier, rfl, .write ifMatch opening expected⟩)
    fun ifMatch answer text id expected _ written => ⟨trivial, ?_⟩
  have onward (now : Option (List Exchange)) (found : Tracked × Option Remote) :
      ((Program.ofExcept (Reconcile.readBack desired id found)).bind next).Obeys
        (discipline desired tracked) now :=
    obeys_ofExcept_bind fun done _ => rest now done
  refine obeys_refresh_bind (fun _ => onward _ _) (fun other _ parsed => ?_)
    (fun _ _ _ _ _ _ => ⟨trivial, onward _ _⟩) (fun _ _ _ _ _ _ _ => ⟨trivial, onward _ _⟩)
  -- the ID that was remembered is the one that the write returned
  have same : PtrRecordId.parse text = .ok id := (writeAnswer_eq_ok.mp written).readable
  cases same.symm.trans parsed
  exact ⟨_, rfl, .readBack ifMatch answer text id opening expected written⟩

/-- The program of `apply` makes no calls but those that may come next. -/
theorem obeys_converge {source : Files} (environment : Environment) (globals : Globals)
    {file path : String} {description : Json} (described : source.readJson file = .ok description)
    (accepted : Desired.ofJson (some description) = .ok desired)
    (loaded : StateFile.load source path = .ok tracked) :
    (converge source environment globals file path).Obeys (discipline desired tracked)
      (some []) := by
  simp only [converge, described, accepted, loaded, bind_eq, Program.ofExcept_ok_bind]
  refine obeys_connect_bind fun config _ => ⟨trivial, fun _ => ?_⟩
  have printing (now : Option (List Exchange)) (done : Tracked × PtrRecordId) :
      (Program.printLine done.1.idText).Obeys (discipline desired tracked) now :=
    .print _ (.done _)
  refine obeys_refresh_bind (fun nothing => ?_) (fun id usable parsed => ?_)
    (fun id answer usable parsed _ missing => ⟨trivial, ?_⟩)
    (fun id answer remote usable parsed _ found => ⟨trivial, ?_⟩)
  · simp only [replace_of_untracked nothing]
    exact obeys_write_of_opening printing (.untracked nothing)
  · exact ⟨[], rfl, .look id ⟨usable, parsed⟩⟩
  · simp only [replace_of_untracked (rfl : Tracked.empty.usableId = none)]
    exact obeys_write_of_opening printing (.gone id answer ⟨usable, parsed⟩ missing)
  · refine obeys_replace_bind (fun nothing => ?_) (fun other _ again same => ?_)
      (fun other _ again different => ?_) (fun other deletion _ again different _ deleted => ?_)
    · cases usable.symm.trans nothing
    · cases parsed.symm.trans again
      exact obeys_write_of_opening printing (.kept id answer remote ⟨usable, parsed⟩ found same)
    · cases parsed.symm.trans again
      exact ⟨_, rfl, .delete id answer remote ⟨usable, parsed⟩ found different⟩
    · cases parsed.symm.trans again
      refine ⟨trivial, obeys_write_of_opening printing ?_⟩
      exact .replaced id answer remote deletion ⟨usable, parsed⟩ found different deleted

/-! ## The calls of a run -/

/-- After a failure nothing is called. -/
theorem exchanges_of_leads_none {events : List Event} {later : Option (List Exchange)}
    (leads : (discipline desired tracked).Leads none events later) : exchanges events = [] := by
  generalize start : (none : Option (List Exchange)) = now at leads
  induction leads with
  | nil => rfl
  | said _ _ _ inductionHypothesis => exact inductionHypothesis start
  | printed _ _ inductionHypothesis => exact inductionHypothesis start
  | saved _ outcome _ _ inductionHypothesis =>
    subst start
    exact inductionHypothesis (by cases outcome <;> rfl)
  | connected _ outcome _ _ _ inductionHypothesis =>
    subst start
    exact inductionHypothesis (by cases outcome <;> rfl)
  | called _ _ _ may =>
    obtain ⟨earlier, seen, -⟩ := may
    cases start.trans seen

/-- Every call of a run is one that may follow the calls before it. -/
theorem may_of_leads {earlier : List Exchange} {events : List Event}
    {later : Option (List Exchange)}
    (leads : (discipline desired tracked).Leads (some earlier) events later)
    {before : List Exchange} {request : Request} {answer : Answer} {after : List Exchange}
    (split : exchanges events = before ++ (request, answer) :: after) :
    May desired tracked (earlier ++ before) request := by
  generalize start : some earlier = now at leads
  induction leads generalizing earlier before with
  | nil => cases before <;> cases split
  | said _ _ _ inductionHypothesis => exact inductionHypothesis split start
  | printed _ _ inductionHypothesis => exact inductionHypothesis split start
  | saved _ outcome _ leads inductionHypothesis =>
    cases outcome with
    | ok done => exact inductionHypothesis split start
    | error failure =>
      -- nothing is called any more, so there is nothing to split
      rw [exchanges_cons_of_none rfl, exchanges_of_leads_none leads] at split
      cases before <;> cases split
  | connected _ outcome _ _ leads inductionHypothesis =>
    cases outcome with
    | ok done => exact inductionHypothesis split start
    | error failure =>
      rw [exchanges_cons_of_none rfl, exchanges_of_leads_none leads] at split
      cases before <;> cases split
  | called first reply overheard may _ _ _ inductionHypothesis =>
    subst start
    rw [exchanges_overheard] at split
    cases before with
    | nil =>
      obtain ⟨⟨rfl, rfl⟩, rfl⟩ := split
      obtain ⟨seen, same, may⟩ := may
      cases same
      rwa [List.append_nil]
    | cons exchange before =>
      obtain ⟨rfl, rest⟩ := List.cons.inj split
      have next : May desired tracked ((earlier ++ [(first, reply)]) ++ before) request :=
        inductionHypothesis rest rfl
      rwa [List.append_assoc] at next

/-- Something that failed to be remembered. -/
def FailedSave : Event → Prop
  | .saved _ (.error _) => True
  | _ => False

/-- Nothing is called after something failed to be remembered. -/
def Halts (events : List Event) : Prop :=
  events.Pairwise fun first second => FailedSave first → exchange? second = none

theorem Halts.append (front : List Event) {events : List Event}
    (fine : ∀ event ∈ front, ¬FailedSave event) (halts : Halts events) :
    Halts (front ++ events) := by
  refine List.pairwise_append.mpr ⟨?_, halts, fun event member _ _ failed =>
    absurd failed (fine event member)⟩
  exact List.Pairwise.imp_of_mem (fun member _ _ failed => absurd failed (fine _ member))
    (List.pairwise_of_forall (R := fun _ _ => True) fun _ _ => trivial)

theorem halts_of_leads {now later : Option (List Exchange)} {events : List Event}
    (leads : (discipline desired tracked).Leads now events later) : Halts events := by
  induction leads with
  | nil => exact .nil
  | said level text _ halts =>
    exact Halts.append [.said level text] (by simp [FailedSave]) halts
  | printed line _ halts =>
    exact Halts.append [.printed line] (by simp [FailedSave]) halts
  | connected config outcome _ _ _ halts =>
    exact Halts.append [.connected config] (by simp [FailedSave]) halts
  | called request answer overheard _ _ _ _ halts =>
    refine Halts.append (.called request answer :: overheard.map Event.overheard) ?_ halts
    simp [FailedSave]
  | saved kept outcome _ leads halts =>
    refine List.pairwise_cons.mpr ⟨fun event member failed => ?_, halts⟩
    cases outcome with
    | ok done => cases failed
    | error failure =>
      exact List.filterMap_eq_nil_iff.mp (exchanges_of_leads_none leads) event member

/-! ## The course of the calls -/

/-- The calls of a run in which no call fails: a look-up if something is tracked, a deletion if that
is not the desired record set, the write, and the look-up of what was written. -/
inductive Course (desired : Desired) (tracked : Tracked) : List Request → Prop where
  | untracked (ifMatch : String) (last : RecordKey) (nothing : tracked.usableId = none) :
      Course desired tracked [writeRequest desired ifMatch, .get last]
  | kept (id : PtrRecordId) (ifMatch : String) (last : RecordKey) (tracks : Tracks tracked id) :
      Course desired tracked [.get id.address.ptr, writeRequest desired ifMatch, .get last]
  | replaced (id : PtrRecordId) (ifMatch : String) (last : RecordKey) (tracks : Tracks tracked id)
      (different : id.address.same desired.address = false) :
      Course desired tracked
        [.get id.address.ptr, .delete id.address.ptr "", writeRequest desired ifMatch, .get last]

/-- Calls with answers of whatever kind, as `apply` makes them. -/
structure Disciplined (desired : Desired) (tracked : Tracked) (calls : List Exchange) : Prop where
  /-- The calls are the beginning of a course. -/
  course : calls = [] ∨
    ∃ course, Course desired tracked course ∧ calls.map Prod.fst <+: course
  recordType : ∀ call ∈ calls, call.1.key.recordType = .ptr
  /-- What is deleted is tracked, was found by the call before, and is not what is desired. -/
  deletion : ∀ earlier key ifMatch answer later,
    calls = earlier ++ (.delete key ifMatch, answer) :: later →
    ifMatch = "" ∧ ∃ id reply remote, Tracks tracked id ∧ key = id.address.ptr ∧
      id.address.same desired.address = false ∧
      earlier = [(.get id.address.ptr, .ok reply)] ∧ isSuccess reply.status = true ∧
      remoteOf id.address reply.recordSet.get? = .ok remote
  /-- What is written is the desired record set, after a look-up and a deletion that did not fail,
  and after a deletion without a cached etag. -/
  writing : ∀ earlier key properties ifMatch ifNoneMatch answer later,
    calls = earlier ++ (.upsert key properties ifMatch ifNoneMatch, answer) :: later →
    key = desired.address.ptr ∧ properties = desired.properties ∧ ifNoneMatch = "" ∧
      (∀ looked answer, (.get looked, answer) ∈ earlier → ∃ id found, Tracks tracked id ∧
        looked = id.address.ptr ∧ readAnswer id.address answer = .ok found) ∧
      ∀ gone token answer, (.delete gone token, answer) ∈ earlier →
        (∃ reply, answer = .ok reply ∧ isSuccess reply.status = true) ∧
          ifMatch = desired.etag.getD ""
  /-- What is looked up is tracked, or it is what the write before returned, and comes last. -/
  reading : ∀ earlier key answer later, calls = earlier ++ (.get key, answer) :: later →
    (earlier = [] ∧ ∃ id, Tracks tracked id ∧ key = id.address.ptr) ∨
      ∃ before ifMatch written text id,
        earlier = before ++ [(writeRequest desired ifMatch, written)] ∧
          writeAnswer desired written = .ok (text, id) ∧ key = id.address.ptr ∧ later = []

theorem Opening.course {earlier : List Exchange} {kept : Tracked}
    (opening : Opening desired tracked earlier kept) (ifMatch : String) (last : RecordKey) :
    Course desired tracked (earlier.map Prod.fst ++ [writeRequest desired ifMatch, .get last]) := by
  cases opening with
  | untracked nothing => exact .untracked ifMatch last nothing
  | gone id answer tracks => exact .kept id ifMatch last tracks
  | kept id answer remote tracks => exact .kept id ifMatch last tracks
  | replaced id answer remote deletion tracks found different =>
    exact .replaced id ifMatch last tracks different

theorem Opening.unwritten {earlier : List Exchange} {kept : Tracked}
    (opening : Opening desired tracked earlier kept) (ifMatch : String) (answer : Answer) :
    (writeRequest desired ifMatch, answer) ∉ earlier := by
  cases opening <;> simp [writeRequest]

theorem Opening.looked {earlier : List Exchange} {kept : Tracked}
    (opening : Opening desired tracked earlier kept) {key : RecordKey} {answer : Answer}
    (member : (.get key, answer) ∈ earlier) :
    ∃ id found, Tracks tracked id ∧ key = id.address.ptr ∧
      readAnswer id.address answer = .ok found := by
  cases opening with
  | untracked => cases member
  | gone id reply tracks read | kept id reply remote tracks read =>
    obtain ⟨rfl, rfl⟩ : key = id.address.ptr ∧ answer = reply := by simpa using member
    exact ⟨id, _, tracks, rfl, read⟩
  | replaced id reply remote deletion tracks read =>
    obtain ⟨rfl, rfl⟩ : key = id.address.ptr ∧ answer = reply := by simpa using member
    exact ⟨id, _, tracks, rfl, read⟩

/-- After a deletion in an opening nothing is remembered, and it succeeded. -/
theorem Opening.deleted {earlier : List Exchange} {kept : Tracked}
    (opening : Opening desired tracked earlier kept) {key : RecordKey} {token : String}
    {answer : Answer} (member : (.delete key token, answer) ∈ earlier) :
    kept = .empty ∧ ∃ reply, answer = .ok reply ∧ isSuccess reply.status = true := by
  cases opening with
  | untracked => cases member
  | gone | kept => simp at member
  | replaced id reply remote deletion tracks read different deleted =>
    obtain ⟨-, rfl⟩ : (key = id.address.ptr ∧ token = "") ∧ answer = deletion := by
      simpa using member
    exact ⟨rfl, deleteAnswer_eq_ok.mp deleted⟩

theorem May.recordType {earlier : List Exchange} {request : Request}
    (may : May desired tracked earlier request) : request.key.recordType = .ptr := by
  cases may <;> rfl

/-- After what was written was looked up, no call may follow. -/
theorem not_may_after_reading {before : List Exchange} {ifMatch : String} {written answer : Answer}
    {key : RecordKey} {request : Request} :
    ¬May desired tracked
      ((before ++ [(writeRequest desired ifMatch, written)]) ++ [(.get key, answer)]) request := by
  intro may
  generalize split : (before ++ [(writeRequest desired ifMatch, written)]) ++ [(.get key, answer)] =
    earlier at may
  have wrote : (writeRequest desired ifMatch, written) ∈ earlier := by simp [← split]
  cases may with
  | look => cases wrote
  | delete => simp [writeRequest] at wrote
  | write token opening => exact opening.unwritten ifMatch written wrote
  | readBack token reply text id opening =>
    have last := congrArg List.getLast? split
    simp [writeRequest] at last

theorem expectedEtag_empty (desired : Desired) :
    expectedEtag desired .empty = .ok (desired.etag.getD "") := by
  unfold expectedEtag
  cases desired.etag <;> rfl

variable {calls : List Exchange}

theorem course_of_may (may : ∀ before request answer after,
      calls = before ++ (request, answer) :: after → May desired tracked before request) :
    calls = [] ∨ ∃ course, Course desired tracked course ∧ calls.map Prod.fst <+: course := by
  rcases List.eq_nil_or_concat calls with rfl | ⟨before, ⟨request, answer⟩, rfl⟩
  · exact .inl rfl
  · refine .inr ?_
    rw [List.concat_eq_append, List.map_append]
    -- the last call tells how far the course went, and which one it is
    have last := may before request answer [] (by simp)
    cases last with
    | look id tracks => exact ⟨_, .kept id "" id.address.ptr tracks, _, rfl⟩
    | delete id reply remote tracks found different =>
      exact ⟨_, .replaced id "" id.address.ptr tracks different, _, rfl⟩
    | write ifMatch opening =>
      refine ⟨_, opening.course ifMatch desired.address.ptr, [.get desired.address.ptr], ?_⟩
      simp
    | readBack ifMatch reply text id opening =>
      refine ⟨_, opening.course ifMatch id.address.ptr, [], ?_⟩
      simp

/-- Calls each of which may follow the calls before it are as `apply` makes them. -/
theorem disciplined_of_may (may : ∀ before request answer after,
      calls = before ++ (request, answer) :: after → May desired tracked before request) :
    Disciplined desired tracked calls where
  course := course_of_may may
  recordType := by
    rintro ⟨request, answer⟩ member
    obtain ⟨before, after, split⟩ := List.append_of_mem member
    exact (may before request answer after split).recordType
  deletion := by
    intro earlier key ifMatch answer later split
    generalize called : Request.delete key ifMatch = request at split
    cases may _ _ _ _ split with
    | look | readBack => cases called
    | write => cases called
    | delete id reply remote tracks found different =>
      cases called
      obtain ⟨reply, rfl, -, accepted, described⟩ := readAnswer_eq_some.mp found
      exact ⟨rfl, id, reply, remote, tracks, rfl, different, rfl, accepted, described⟩
  writing := by
    intro earlier key properties ifMatch ifNoneMatch answer later split
    generalize called : Request.upsert key properties ifMatch ifNoneMatch = request at split
    cases may _ _ _ _ split with
    | look | readBack | delete => cases called
    | write token opening expected =>
      cases called
      refine ⟨rfl, rfl, rfl, fun _ _ => opening.looked, fun _ _ _ member => ?_⟩
      obtain ⟨rfl, accepted⟩ := opening.deleted member
      rw [expectedEtag_empty] at expected
      cases expected
      exact ⟨accepted, rfl⟩
  reading := by
    intro earlier key answer later split
    generalize called : Request.get key = request at split
    cases may _ _ _ _ split with
    | write | delete => cases called
    | look id tracks =>
      cases called
      exact .inl ⟨rfl, id, tracks, rfl⟩
    | @readBack before kept ifMatch written text id opening expected read =>
      cases called
      refine .inr ⟨before, ifMatch, written, text, id, rfl, read, rfl, ?_⟩
      cases later with
      | nil => rfl
      | cons next later =>
        exact absurd (may _ _ _ _ (split.trans (List.append_cons ..))) not_may_after_reading

/-! ## Runs of command lines -/

/-- Whatever a service answers, the calls of a run of `apply` are disciplined, and none follows
after something failed to be remembered. Where the description or the state file is not accepted,
nothing is called and nothing is written. -/
theorem apply_disciplined {words : List String} {globals : Globals} {file path : String}
    (invoked : Invocation.ofWords words = .run globals (.apply file path)) (service : Service σ)
    (number : Nat) (environment : Environment) (files : Files) (state : σ) :
    let finished := execute service number environment words files state
    (∀ description desired tracked, files.readJson file = .ok description →
      Desired.ofJson (some description) = .ok desired → StateFile.load files path = .ok tracked →
        Disciplined desired tracked (exchanges finished.events) ∧ Halts finished.events) ∧
      ((¬∃ description desired tracked, files.readJson file = .ok description ∧
        Desired.ofJson (some description) = .ok desired ∧ StateFile.load files path = .ok tracked) →
          finished.exitCode = 1 ∧ exchanges finished.events = [] ∧
            (∀ tracked outcome, .saved tracked outcome ∉ finished.events) ∧
            finished.files = files) := by
  refine ⟨fun description desired tracked described accepted loaded => ?_, fun invalid => ?_⟩
  · have obeys := obeys_converge environment globals described accepted loaded
    have keepsUp := (discipline desired tracked).keepsUp_any
      (hostOf service number (.apply file path)) (fun _ _ _ => trivial) (fun _ _ _ => trivial)
      fun _ _ _ _ => trivial
    obtain ⟨later, leads, -⟩ := leads_of_run invoked obeys keepsUp state trivial
    exact ⟨disciplined_of_may fun _ _ _ _ => may_of_leads leads, halts_of_leads leads⟩
  · obtain ⟨failure, stops⟩ := converge_eq_stop environment globals invalid
    rw [execute_of_run invoked, Command.program, stops]
    refine ⟨rfl, rfl, fun tracked outcome member => ?_, rfl⟩
    cases List.mem_singleton.mp member

/-- The state file tracks `b`, and `a` is desired. -/
theorem apply_disciplined_b :
    Disciplined describedA trackedB
        (exchanges (execute Memory.service 0 [] (applyWords "s") describedFiles holdingB).events) ∧
      Halts (execute Memory.service 0 [] (applyWords "s") describedFiles holdingB).events := by
  obtain ⟨description, described, accepted⟩ := accepted_describedA
  exact (apply_disciplined invoked_s Memory.service 0 [] describedFiles holdingB).1 description
    describedA trackedB described accepted applicable_trackedB.loaded

end ReverseDns.CommandLine
