import ReverseDns.Proofs.Answers
import ReverseDns.Proofs.Commands

/-!
# Monitors

A monitor watches a run from event to event: it says what may come next, and how it goes on from
there. That a program obeys a monitor is shown along the program, once for each operation; every run
of it on a service that the monitor keeps up with is then accepted, whatever the service answers.

* `Monitor` -- what may come next, and how a monitor goes on
* `Program.Obeys` -- the programs that do nothing else
* `Monitor.Leads`, `Leads.allows` -- the events that a monitor accepts, each of them allowed
* `Monitor.KeepsUp`, `Program.Obeys.run` -- every run on a service
* `obeys_refresh_bind`, `obeys_write_bind`, `obeys_createOrUpdate_bind`, `obeys_remove_bind`,
  `obeys_adopt_bind`, `obeys_connect_bind`, `obeys_replace_bind` -- what is left to show of a program that begins with
  an operation
* `Steady`, `Steady.program` -- monitors that only wait for a connection: every command obeys them
* `leads_of_run` -- runs of command lines
* `converge_eq_stop`, `program_eq_stop` -- programs of commands whose files are not accepted
-/

namespace ReverseDns

variable {α β γ τ σ : Type}

/-- Something that watches a run, with a state in `τ`. Left to itself it lets everything happen. -/
structure Monitor (τ : Type) where
  /-- The calls that may come next. -/
  calls : τ → Request → Prop := fun _ _ => True
  /-- What may be remembered next. -/
  saves : τ → Tracked → Prop := fun _ _ => True
  /-- The configurations that may be connected with next. -/
  connects : τ → Config → Prop := fun _ _ => True
  /-- The outcomes of connecting that are expected. -/
  accepts : τ → Config → Except Failure Unit → Prop := fun _ _ _ => True
  /-- The answers that are expected. -/
  admits : τ → Request → Answer → Prop := fun _ _ _ => True
  /-- What loggers are expected to overhear of a call. -/
  hears : τ → Request → Answer → List Overheard → Prop := fun _ _ _ _ => True
  called : τ → Request → Answer → τ := fun now _ _ => now
  saved : τ → Tracked → Except Failure Unit → τ := fun now _ _ => now
  connected : τ → Config → Except Failure Unit → τ := fun now _ _ => now

/-! ## Programs -/

namespace Program

theorem bind_assoc (first : Program α) (second : α → Program β) (third : β → Program γ) :
    (first.bind second).bind third = first.bind fun result => (second result).bind third := by
  induction first with
  | done | stop => rfl
  | say _ _ _ ih | print _ _ ih => simp only [bind, ih]
  | save _ _ ih | connect _ _ ih | ask _ _ ih => simp only [bind, ih]

theorem bind_done (program : Program α) : program.bind .done = program := by
  induction program with
  | done | stop => rfl
  | say _ _ _ ih | print _ _ ih => simp only [bind, ih]
  | save _ _ ih | connect _ _ ih | ask _ _ ih => simp only [bind, ih]

theorem bind_congr {first : Program α} {next : α → Program β} (other : α → Program β)
    (equal : ∀ result, next result = other result) : first.bind next = first.bind other :=
  congrArg first.bind (funext equal)

@[simp] theorem ofExcept_ok_bind (result : α) (next : α → Program β) :
    (ofExcept (.ok result)).bind next = next result := rfl

@[simp] theorem ofExcept_error_bind (failure : Failure) (next : α → Program β) :
    (ofExcept (.error failure)).bind next = .stop failure := rfl

/-- A program that does only what a monitor lets it do, from one state of the monitor on. -/
inductive Obeys (monitor : Monitor τ) : τ → Program α → Prop where
  | done {now : τ} (result : α) : Obeys monitor now (.done result)
  | stop {now : τ} (failure : Failure) : Obeys monitor now (.stop failure)
  | say {now : τ} (level : Level) (text : String) {next : Program α}
      (rest : Obeys monitor now next) : Obeys monitor now (.say level text next)
  | print {now : τ} (line : String) {next : Program α} (rest : Obeys monitor now next) :
      Obeys monitor now (.print line next)
  | save {now : τ} (tracked : Tracked) {next : Except Failure Unit → Program α}
      (may : monitor.saves now tracked)
      (rest : ∀ outcome, Obeys monitor (monitor.saved now tracked outcome) (next outcome)) :
      Obeys monitor now (.save tracked next)
  | connect {now : τ} (config : Config) {next : Except Failure Unit → Program α}
      (may : monitor.connects now config)
      (rest : ∀ outcome, monitor.accepts now config outcome →
        Obeys monitor (monitor.connected now config outcome) (next outcome)) :
      Obeys monitor now (.connect config next)
  | ask {now : τ} (request : Request) {next : Answer → Program α}
      (may : monitor.calls now request)
      (rest : ∀ answer, monitor.admits now request answer →
        Obeys monitor (monitor.called now request answer) (next answer)) :
      Obeys monitor now (.ask request next)

variable {monitor : Monitor τ} {now : τ}

theorem obeys_ofExcept_bind {outcome : Except Failure α} {next : α → Program β}
    (back : ∀ result, outcome = .ok result → (next result).Obeys monitor now) :
    ((ofExcept outcome).bind next).Obeys monitor now := by
  cases outcome with
  | ok result => exact back result rfl
  | error failure => exact .stop failure

theorem obeys_tell_bind {level : Level} {text : String} {next : Unit → Program β}
    (back : (next ()).Obeys monitor now) :
    ((tell level text).bind next).Obeys monitor now :=
  .say level text back

theorem obeys_remember_bind {tracked : Tracked} {next : Unit → Program β}
    (may : monitor.saves now tracked)
    (back : (next ()).Obeys monitor (monitor.saved now tracked (.ok ()))) :
    ((remember tracked).bind next).Obeys monitor now := by
  refine .save tracked may fun outcome => ?_
  cases outcome with
  | ok done => exact back
  | error failure => exact .stop failure

end Program

/-! ## Runs -/

namespace Monitor

/-- Events that take a monitor from one state to another, each of them accepted. -/
inductive Leads (monitor : Monitor τ) : τ → List Event → τ → Prop where
  | nil (now : τ) : Leads monitor now [] now
  | said {now later : τ} {events : List Event} (level : Level) (text : String)
      (rest : Leads monitor now events later) : Leads monitor now (.said level text :: events) later
  | printed {now later : τ} {events : List Event} (line : String)
      (rest : Leads monitor now events later) : Leads monitor now (.printed line :: events) later
  | saved {now later : τ} {events : List Event} (tracked : Tracked) (outcome : Except Failure Unit)
      (may : monitor.saves now tracked)
      (rest : Leads monitor (monitor.saved now tracked outcome) events later) :
      Leads monitor now (.saved tracked outcome :: events) later
  | connected {now later : τ} {events : List Event} (config : Config)
      (outcome : Except Failure Unit) (may : monitor.connects now config)
      (accepted : monitor.accepts now config outcome)
      (rest : Leads monitor (monitor.connected now config outcome) events later) :
      Leads monitor now (.connected config :: events) later
  | called {now later : τ} {events : List Event} (request : Request) (answer : Answer)
      (overheard : List Overheard) (may : monitor.calls now request)
      (admitted : monitor.admits now request answer)
      (heard : monitor.hears now request answer overheard)
      (rest : Leads monitor (monitor.called now request answer) events later) :
      Leads monitor now (.called request answer :: overheard.map Event.overheard ++ events) later

theorem Leads.append {monitor : Monitor τ} {now between later : τ} {front events : List Event}
    (first : monitor.Leads now front between) (second : monitor.Leads between events later) :
    monitor.Leads now (front ++ events) later := by
  induction first with
  | nil => exact second
  | said level text _ inductionHypothesis => exact .said level text (inductionHypothesis second)
  | printed line _ inductionHypothesis => exact .printed line (inductionHypothesis second)
  | saved tracked outcome may _ inductionHypothesis =>
    exact .saved tracked outcome may (inductionHypothesis second)
  | connected config outcome may accepted _ inductionHypothesis =>
    exact .connected config outcome may accepted (inductionHypothesis second)
  | called request answer overheard may admitted heard _ inductionHypothesis =>
    rw [List.append_assoc]
    exact .called request answer overheard may admitted heard (inductionHypothesis second)

/-- What a monitor lets an event be. -/
def Allows (monitor : Monitor τ) (now : τ) : Event → Prop
  | .called request answer => monitor.calls now request ∧ monitor.admits now request answer
  | .saved tracked _ => monitor.saves now tracked
  | .connected config => monitor.connects now config
  | _ => True

/-- Every event that a monitor accepted it allowed, where the events before had led it. -/
theorem Leads.allows {monitor : Monitor τ} {now later : τ} {events : List Event}
    (leads : monitor.Leads now events later) {event : Event} (member : event ∈ events) :
    ∃ earlier between, earlier <+: events ∧ monitor.Leads now earlier between ∧
      monitor.Allows between event := by
  -- an event comes first, or after one that leads on
  have first {now : τ} {events : List Event} (allows : monitor.Allows now event) :
      ∃ earlier between, earlier <+: events ∧ monitor.Leads now earlier between ∧
        monitor.Allows between event :=
    ⟨[], now, List.nil_prefix, .nil now, allows⟩
  induction leads with
  | nil => cases member
  | said level text _ inductionHypothesis =>
    rcases List.mem_cons.mp member with rfl | member
    · exact first trivial
    · obtain ⟨earlier, between, front, leads, allows⟩ := inductionHypothesis member
      exact ⟨_, between, List.cons_prefix_cons.mpr ⟨rfl, front⟩, .said level text leads, allows⟩
  | printed line _ inductionHypothesis =>
    rcases List.mem_cons.mp member with rfl | member
    · exact first trivial
    · obtain ⟨earlier, between, front, leads, allows⟩ := inductionHypothesis member
      exact ⟨_, between, List.cons_prefix_cons.mpr ⟨rfl, front⟩, .printed line leads, allows⟩
  | saved tracked outcome may _ inductionHypothesis =>
    rcases List.mem_cons.mp member with rfl | member
    · exact first may
    · obtain ⟨earlier, between, front, leads, allows⟩ := inductionHypothesis member
      exact ⟨_, between, List.cons_prefix_cons.mpr ⟨rfl, front⟩, .saved tracked outcome may leads,
        allows⟩
  | connected config outcome may accepted _ inductionHypothesis =>
    rcases List.mem_cons.mp member with rfl | member
    · exact first may
    · obtain ⟨earlier, between, front, leads, allows⟩ := inductionHypothesis member
      exact ⟨_, between, List.cons_prefix_cons.mpr ⟨rfl, front⟩,
        .connected config outcome may accepted leads, allows⟩
  | called request answer overheard may admitted heard _ inductionHypothesis =>
    rcases List.mem_append.mp member with member | member
    · rcases List.mem_cons.mp member with rfl | member
      · exact first ⟨may, admitted⟩
      · obtain ⟨line, -, rfl⟩ := List.mem_map.mp member
        exact first trivial
    · obtain ⟨earlier, between, front, leads, allows⟩ := inductionHypothesis member
      exact ⟨_, between, (List.prefix_append_right_inj _).mpr front,
        .called request answer overheard may admitted heard leads, allows⟩

/-- A monitor that keeps up with the service of a host: where the two are related, so they are
after every step, and answers are as expected. -/
structure KeepsUp (monitor : Monitor τ) (host : Host σ) (related : τ → σ → Prop) : Prop where
  remember : ∀ now tracked outcome state, related now state → monitor.saves now tracked →
    related (monitor.saved now tracked outcome) state
  prepare : ∀ now config state, related now state → monitor.connects now config →
    monitor.accepts now config (host.service.prepare host.number config state).1 ∧
      related (monitor.connected now config (host.service.prepare host.number config state).1)
        (host.service.prepare host.number config state).2
  serve : ∀ now request state, related now state → monitor.calls now request →
    monitor.admits now request (host.service.serve request state).answer ∧
      monitor.hears now request (host.service.serve request state).answer
        (host.service.serve request state).overheard ∧
      related (monitor.called now request (host.service.serve request state).answer)
        (host.service.serve request state).state

/-- A monitor that expects nothing of answers keeps up with every service. -/
theorem keepsUp_any {monitor : Monitor τ} (host : Host σ)
    (accepts : ∀ now config outcome, monitor.accepts now config outcome)
    (admits : ∀ now request answer, monitor.admits now request answer)
    (hears : ∀ now request answer overheard, monitor.hears now request answer overheard) :
    monitor.KeepsUp host fun _ _ => True where
  remember _ _ _ _ _ _ := trivial
  prepare _ _ _ _ _ := ⟨accepts _ _ _, trivial⟩
  serve _ _ _ _ _ := ⟨admits _ _ _, hears _ _ _ _, trivial⟩

end Monitor

/-- A program that obeys a monitor is accepted in every run on a service with which the monitor
keeps up. -/
theorem Program.Obeys.run {monitor : Monitor τ} {now : τ} {program : Program α}
    (obeys : program.Obeys monitor now) {host : Host σ} {related : τ → σ → Prop}
    (keepsUp : monitor.KeepsUp host related) {state : σ} (start : related now state)
    (files : Files) :
    ∃ later, monitor.Leads now (program.run host state files).events later ∧
      related later (program.run host state files).state := by
  -- every step of the program is one of the monitor, and the service moves along
  induction obeys generalizing state files with
  | done result => exact ⟨_, .nil _, start⟩
  | stop failure => exact ⟨_, .nil _, start⟩
  | say level text _ inductionHypothesis =>
    obtain ⟨later, leads, ended⟩ := inductionHypothesis start files
    exact ⟨later, .said level text leads, ended⟩
  | print line _ inductionHypothesis =>
    obtain ⟨later, leads, ended⟩ := inductionHypothesis start files
    exact ⟨later, .printed line leads, ended⟩
  | save tracked may _ inductionHypothesis =>
    obtain ⟨later, leads, ended⟩ := inductionHypothesis (host.home.keep tracked files).1
      (keepsUp.remember _ tracked _ _ start may) (host.home.keep tracked files).2
    exact ⟨later, .saved tracked _ may leads, ended⟩
  | connect config may _ inductionHypothesis =>
    obtain ⟨accepted, related⟩ := keepsUp.prepare _ config _ start may
    obtain ⟨later, leads, ended⟩ :=
      inductionHypothesis (host.service.prepare host.number config state).1 accepted related files
    exact ⟨later, .connected config _ may accepted leads, ended⟩
  | ask request may _ inductionHypothesis =>
    obtain ⟨admitted, heard, related⟩ := keepsUp.serve _ request _ start may
    obtain ⟨later, leads, ended⟩ :=
      inductionHypothesis (host.service.serve request state).answer admitted related files
    exact ⟨later, .called request _ _ may admitted heard leads, ended⟩

/-- On every service, if the monitor expects nothing of answers. -/
theorem Program.Obeys.leads {monitor : Monitor τ} {now : τ} {program : Program α}
    (obeys : program.Obeys monitor now)
    (accepts : ∀ now config outcome, monitor.accepts now config outcome)
    (admits : ∀ now request answer, monitor.admits now request answer)
    (hears : ∀ now request answer overheard, monitor.hears now request answer overheard)
    (host : Host σ) (state : σ) (files : Files) :
    ∃ later, monitor.Leads now (program.run host state files).events later := by
  have keepsUp := Monitor.keepsUp_any host accepts admits hears
  obtain ⟨later, leads, -⟩ := obeys.run keepsUp trivial files
  exact ⟨later, leads⟩

/-! ## Operations -/

namespace Reconcile

open Program (bind_eq pure_eq Obeys ofExcept obeys_ofExcept_bind obeys_tell_bind
  obeys_remember_bind)

variable {monitor : Monitor τ} {now : τ}

theorem obeys_failRemote (attempt : Attempt) (status : Option Float) (cause : Option Thrown)
    (next : α → Program β) :
    ((failRemote attempt status cause).bind next).Obeys monitor now := by
  unfold failRemote
  split
  · exact .say _ _ (.stop _)
  · exact .stop _

/-- A call, after which the program goes on with the reply, or fails. -/
theorem obeys_reply_bind {attempt : Attempt} {request : Request} {next : Reply → Program β}
    (may : monitor.calls now request)
    (back : ∀ reply, monitor.admits now request (.ok reply) →
      (next reply).Obeys monitor (monitor.called now request (.ok reply))) :
    ((reply attempt request).bind next).Obeys monitor now := by
  refine .ask request may fun answer admitted => ?_
  cases answer with
  | ok reply => exact back reply admitted
  | error thrown => exact obeys_failRemote attempt none (some thrown) next

theorem obeys_lookUp_bind {address : Address} {next : Option Remote → Program β}
    (may : monitor.calls now (.get address.ptr))
    (back : ∀ answer found, monitor.admits now (.get address.ptr) answer →
      readAnswer address answer = .ok found →
      (next found).Obeys monitor (monitor.called now (.get address.ptr) answer)) :
    ((lookUp address).bind next).Obeys monitor now := by
  simp only [lookUp, bind_eq, Program.bind_assoc]
  refine obeys_reply_bind may fun reply admitted => ?_
  split
  next missing =>
    exact back (.ok reply) none admitted (readAnswer_eq_none.mpr ⟨reply, rfl, missing⟩)
  next present =>
    split
    next accepted =>
      rw [Program.bind_assoc]
      refine obeys_ofExcept_bind fun remote described => ?_
      exact back (.ok reply) (some remote) admitted
        (readAnswer_eq_some.mpr ⟨reply, rfl, present, accepted, described⟩)
    next refused => exact obeys_failRemote _ _ _ next

/-- What is left to show of a refresh: that its call may come, that whatever the answer says may be
remembered, and that the program goes on from there. -/
theorem obeys_refresh_bind {tracked : Tracked} {next : Tracked × Option Remote → Program β}
    (untracked : tracked.usableId = none → (next (tracked, none)).Obeys monitor now)
    (may : ∀ id, tracked.usableId = some tracked.idText →
      PtrRecordId.parse tracked.idText = .ok id → monitor.calls now (.get id.address.ptr))
    (gone : ∀ id answer, tracked.usableId = some tracked.idText →
      PtrRecordId.parse tracked.idText = .ok id →
      monitor.admits now (.get id.address.ptr) answer → readAnswer id.address answer = .ok none →
      let read := monitor.called now (.get id.address.ptr) answer
      monitor.saves read .empty ∧
        (next (.empty, none)).Obeys monitor (monitor.saved read .empty (.ok ())))
    (found : ∀ id answer remote, tracked.usableId = some tracked.idText →
      PtrRecordId.parse tracked.idText = .ok id →
      monitor.admits now (.get id.address.ptr) answer →
      readAnswer id.address answer = .ok (some remote) →
      let read := monitor.called now (.get id.address.ptr) answer
      monitor.saves read (refreshed tracked remote) ∧
        (next (refreshed tracked remote, some remote)).Obeys monitor
          (monitor.saved read (refreshed tracked remote) (.ok ()))) :
    ((refresh tracked).bind next).Obeys monitor now := by
  cases usable : tracked.usableId with
  | none =>
    simp only [refresh, usable]
    exact untracked usable
  | some text =>
    obtain ⟨rfl, -⟩ := usableId_eq_some.mp usable
    simp only [refresh, usable, bind_eq, Program.bind_assoc]
    refine obeys_ofExcept_bind fun id parsed => .say _ _ ?_
    refine obeys_lookUp_bind (may id usable parsed) fun answer answered admitted read => ?_
    cases answered with
    | none =>
      obtain ⟨saves, back⟩ := gone id answer usable parsed admitted read
      simp only [Program.bind_assoc]
      exact obeys_tell_bind (obeys_remember_bind saves back)
    | some remote =>
      obtain ⟨saves, back⟩ := found id answer remote usable parsed admitted read
      simp only [Program.bind_assoc]
      exact obeys_remember_bind saves back

theorem obeys_remove_bind {tracked : Tracked} {next : Unit → Program β}
    (may : ∀ id, PtrRecordId.parse tracked.idText = .ok id →
      monitor.calls now (.delete id.address.ptr ""))
    (back : ∀ id answer, PtrRecordId.parse tracked.idText = .ok id →
      monitor.admits now (.delete id.address.ptr "") answer →
      deleteAnswer id.recordName answer = .ok () →
      (next ()).Obeys monitor (monitor.called now (.delete id.address.ptr "") answer)) :
    ((remove tracked).bind next).Obeys monitor now := by
  simp only [remove, bind_eq, Program.bind_assoc]
  refine obeys_ofExcept_bind fun id parsed => .say _ _ ?_
  refine obeys_reply_bind (may id parsed) fun reply admitted => ?_
  split
  next accepted =>
    exact back id (.ok reply) parsed admitted (deleteAnswer_eq_ok.mpr ⟨reply, rfl, accepted⟩)
  next refused => exact obeys_failRemote _ _ _ next

theorem obeys_adopt_bind {text : String} {tracked : Tracked}
    {next : Tracked × PtrRecordId → Program β}
    (back : ∀ id, PtrRecordId.parse text = .ok id →
      monitor.saves now (identified tracked text) ∧
        (next (identified tracked text, id)).Obeys monitor
          (monitor.saved now (identified tracked text) (.ok ()))) :
    ((adopt text tracked).bind next).Obeys monitor now := by
  simp only [adopt, bind_eq, Program.bind_assoc]
  refine obeys_ofExcept_bind fun id parsed => .say _ _ ?_
  obtain ⟨saves, back⟩ := back id parsed
  exact obeys_remember_bind saves back

/-- What is left to show of a write: that its call may come, that the ID may be remembered, and what
there is to show of the refresh that follows. -/
theorem obeys_write_bind {desired : Desired} {tracked : Tracked}
    {next : Tracked × PtrRecordId → Program β}
    (may : ∀ ifMatch, expectedEtag desired tracked = .ok ifMatch →
      monitor.calls now (writeRequest desired ifMatch))
    (back : ∀ ifMatch answer text id, expectedEtag desired tracked = .ok ifMatch →
      monitor.admits now (writeRequest desired ifMatch) answer →
      writeAnswer desired answer = .ok (text, id) →
      let written := monitor.called now (writeRequest desired ifMatch) answer
      monitor.saves written (identified tracked text) ∧
        ((refresh (identified tracked text)).bind fun found =>
          (ofExcept (readBack desired id found)).bind next).Obeys monitor
            (monitor.saved written (identified tracked text) (.ok ()))) :
    ((write desired tracked).bind next).Obeys monitor now := by
  simp only [write, bind_eq, Program.bind_assoc]
  refine obeys_ofExcept_bind fun ifMatch expected => .say _ _ ?_
  refine obeys_reply_bind (may ifMatch expected) fun reply admitted => ?_
  split
  next accepted =>
    split
    next empty => exact .stop _
    next nonempty =>
      simp only [Program.bind_assoc]
      refine obeys_ofExcept_bind fun id parsed => ?_
      obtain ⟨saves, back⟩ := back ifMatch (.ok reply) (reply.id.get?.getD "") id expected admitted
        (by simp [writeAnswer, replyOf, accepted, nonempty, parsed, Except.map])
      refine obeys_remember_bind saves ?_
      -- the program looks into what was found before it checks it, `readBack` does both
      rw [Program.bind_congr fun found => (ofExcept (readBack desired id found)).bind next]
      · exact back
      · rintro ⟨kept, _ | remote⟩ <;> rfl
  next refused => exact obeys_failRemote _ _ _ next

theorem obeys_createOrUpdate_bind {description : Option Json} {tracked : Tracked}
    {next : Tracked × PtrRecordId → Program β}
    (back : ∀ desired, Desired.ofJson description = .ok desired →
      ((write desired tracked).bind next).Obeys monitor now) :
    ((createOrUpdate description tracked).bind next).Obeys monitor now := by
  simp only [createOrUpdate, bind_eq, Program.bind_assoc]
  exact obeys_ofExcept_bind back

end Reconcile

namespace CommandLine

open Program (bind_eq Obeys ofExcept obeys_ofExcept_bind obeys_tell_bind obeys_remember_bind)
open Reconcile (deleteAnswer obeys_remove_bind usableId_eq_some)

variable {monitor : Monitor τ} {now : τ}

theorem obeys_connect_bind {globals : Globals} {environment : Environment} {next : Unit → Program β}
    (back : ∀ config, Config.resolve globals.settings environment = .ok config →
      monitor.connects now config ∧ (monitor.accepts now config (.ok ()) →
        (next ()).Obeys monitor (monitor.connected now config (.ok ())))) :
    ((connect globals environment).bind next).Obeys monitor now := by
  simp only [connect, bind_eq, Program.bind_assoc]
  refine obeys_ofExcept_bind fun config resolved => ?_
  obtain ⟨may, back⟩ := back config resolved
  refine .connect config may fun outcome accepted => ?_
  cases outcome with
  | ok done => exact back accepted
  | error failure => exact .stop failure

theorem replace_of_untracked {desired : Desired} {tracked : Tracked}
    (nothing : tracked.usableId = none) : replace desired tracked = .done tracked := by
  simp only [replace, nothing]
  rfl

/-- What is left to show of a replacement: where the tracked record set is the desired one, or there
is none, the program goes on, and elsewhere the deletion may come first. -/
theorem obeys_replace_bind {desired : Desired} {tracked : Tracked} {next : Tracked → Program β}
    (untracked : tracked.usableId = none → (next tracked).Obeys monitor now)
    (same : ∀ id, tracked.usableId = some tracked.idText →
      PtrRecordId.parse tracked.idText = .ok id → id.address.same desired.address = true →
      (next tracked).Obeys monitor now)
    (may : ∀ id, tracked.usableId = some tracked.idText →
      PtrRecordId.parse tracked.idText = .ok id → id.address.same desired.address = false →
      monitor.calls now (.delete id.address.ptr ""))
    (removed : ∀ id answer, tracked.usableId = some tracked.idText →
      PtrRecordId.parse tracked.idText = .ok id → id.address.same desired.address = false →
      monitor.admits now (.delete id.address.ptr "") answer →
      deleteAnswer id.recordName answer = .ok () →
      let gone := monitor.called now (.delete id.address.ptr "") answer
      monitor.saves gone .empty ∧
        (next .empty).Obeys monitor (monitor.saved gone .empty (.ok ()))) :
    ((replace desired tracked).bind next).Obeys monitor now := by
  cases usable : tracked.usableId with
  | none =>
    rw [replace_of_untracked usable]
    exact untracked usable
  | some text =>
    obtain ⟨rfl, -⟩ := usableId_eq_some.mp usable
    simp only [replace, usable, bind_eq, Program.bind_assoc]
    refine obeys_ofExcept_bind fun id parsed => ?_
    split
    next equal => exact same id usable parsed equal
    next different =>
      replace different := Bool.eq_false_iff.mpr different
      simp only [Program.bind_assoc]
      refine obeys_tell_bind (obeys_remove_bind (fun other again => ?_)
        fun other answer again admitted accepted => ?_)
      · cases parsed.symm.trans again
        exact may id usable parsed different
      · cases parsed.symm.trans again
        obtain ⟨saves, back⟩ := removed id answer usable parsed different admitted accepted
        exact obeys_remember_bind saves back

/-! ## Monitors that wait for a connection -/

open Reconcile (readAnswer identified refreshed obeys_refresh_bind obeys_write_bind
  obeys_adopt_bind)

/-- A monitor that is ready once a run connected, and stays so: every call may be made, and whatever
is of a kind may be remembered. -/
structure Steady (monitor : Monitor τ) (ready : τ) (kind : Tracked → Prop) : Prop where
  calls : ∀ request, monitor.calls ready request
  called : ∀ request answer, monitor.called ready request answer = ready
  saves : ∀ tracked, kind tracked → monitor.saves ready tracked
  saved : ∀ tracked, monitor.saved ready tracked (.ok ()) = ready
  empty : kind .empty
  identified : ∀ tracked text, kind tracked → kind (identified tracked text)
  refreshed : ∀ tracked address answer remote, kind tracked →
    monitor.admits ready (.get address.ptr) answer →
    readAnswer address answer = .ok (some remote) → kind (refreshed tracked remote)

namespace Steady

variable {ready : τ} {kind : Tracked → Prop} {tracked : Tracked}

theorem refresh_bind (steady : Steady monitor ready kind) (kept : kind tracked)
    {next : Tracked × Option Remote → Program β}
    (back : ∀ found : Tracked × Option Remote, kind found.1 →
      (next found).Obeys monitor ready) :
    ((Reconcile.refresh tracked).bind next).Obeys monitor ready := by
  refine obeys_refresh_bind (fun _ => back _ kept) (fun id _ _ => steady.calls _)
    (fun id answer _ _ admitted read => ?_) (fun id answer remote _ _ admitted read => ?_)
  · rw [steady.called]
    refine ⟨steady.saves _ steady.empty, ?_⟩
    rw [steady.saved]
    exact back _ steady.empty
  · have refreshed := steady.refreshed tracked id.address answer remote kept admitted read
    rw [steady.called]
    refine ⟨steady.saves _ refreshed, ?_⟩
    rw [steady.saved]
    exact back _ refreshed

theorem write_bind (steady : Steady monitor ready kind) (kept : kind tracked) {desired : Desired}
    {next : Tracked × PtrRecordId → Program β}
    (back : ∀ done, (next done).Obeys monitor ready) :
    ((Reconcile.write desired tracked).bind next).Obeys monitor ready := by
  refine obeys_write_bind (fun _ _ => steady.calls _) fun ifMatch answer text id _ _ _ => ?_
  have identified := steady.identified tracked text kept
  rw [steady.called]
  refine ⟨steady.saves _ identified, ?_⟩
  rw [steady.saved]
  exact steady.refresh_bind identified fun found _ => obeys_ofExcept_bind fun done _ => back done

theorem remember_empty_bind (steady : Steady monitor ready kind) {next : Unit → Program β}
    (back : (next ()).Obeys monitor ready) :
    ((Program.remember .empty).bind next).Obeys monitor ready := by
  refine obeys_remember_bind (steady.saves _ steady.empty) ?_
  rw [steady.saved]
  exact back

/-- The program of every command obeys such a monitor, if it may connect and what it loads is of the
kind. -/
theorem program (steady : Steady monitor ready kind) (source : Files)
    (environment : Environment) (globals : Globals) (command : Command)
    (connects : ∀ config, Config.resolve globals.settings environment = .ok config →
      monitor.connects now config ∧ (monitor.accepts now config (.ok ()) →
        monitor.connected now config (.ok ()) = ready))
    (loads : ∀ tracked, StateFile.load source command.state = .ok tracked → kind tracked) :
    (command.program source environment globals).Obeys monitor now := by
  have printing (line : String) :
      (Program.printLine line).Obeys monitor ready :=
    .print line (.done ())
  have connecting {next : Unit → Program Unit}
      (back : (next ()).Obeys monitor ready) :
      ((connect globals environment).bind next).Obeys monitor now :=
    obeys_connect_bind fun config resolved =>
      ⟨(connects config resolved).1, fun accepted => (connects config resolved).2 accepted ▸ back⟩
  cases command with
  | apply file path =>
    simp only [Command.program, converge, bind_eq]
    refine obeys_ofExcept_bind fun description _ => obeys_ofExcept_bind fun desired _ => ?_
    refine obeys_ofExcept_bind fun tracked loaded => connecting ?_
    refine steady.refresh_bind (loads tracked loaded) fun found current => ?_
    refine obeys_replace_bind (fun _ => ?_) (fun _ _ _ _ => ?_) (fun _ _ _ _ => steady.calls _)
      (fun _ _ _ _ _ _ _ => ?_)
    · exact steady.write_bind current fun done => printing _
    · exact steady.write_bind current fun done => printing _
    · rw [steady.called]
      refine ⟨steady.saves _ steady.empty, ?_⟩
      rw [steady.saved]
      exact steady.write_bind steady.empty fun done => printing _
  | inspect path =>
    simp only [Command.program, present, bind_eq]
    refine obeys_ofExcept_bind fun tracked loaded => connecting ?_
    refine steady.refresh_bind (loads tracked loaded) fun found _ => ?_
    obtain ⟨kept, _ | remote⟩ := found
    · exact printing _
    · exact printing _
  | destroy path =>
    simp only [Command.program, discard, bind_eq]
    refine obeys_ofExcept_bind fun tracked _ => ?_
    split
    · exact .stop _
    · refine connecting (obeys_remove_bind (fun _ _ => steady.calls _) fun _ _ _ _ _ => ?_)
      rw [steady.called]
      exact steady.remember_empty_bind (printing _)
  | adopt id path =>
    simp only [Command.program, takeOver, bind_eq]
    refine obeys_ofExcept_bind fun tracked loaded => connecting ?_
    have identified := steady.identified tracked id (loads tracked loaded)
    refine obeys_adopt_bind fun parsed _ => ⟨steady.saves _ identified, ?_⟩
    rw [steady.saved]
    refine steady.refresh_bind identified fun found _ => ?_
    obtain ⟨kept, _ | remote⟩ := found
    · exact .stop _
    · exact printing _

end Steady

/-! ## Runs of command lines -/

theorem leads_lastLine (monitor : Monitor τ) (now : τ) (verb : Verb) (result : Except Failure α) :
    monitor.Leads now (lastLine verb result) now := by
  cases result with
  | ok done => exact .nil now
  | error failure => exact .said _ _ (.nil now)

/-- The run of a command line is accepted if the program of its command obeys the monitor. -/
theorem leads_of_run {words : List String} {globals : Globals} {command : Command}
    (invoked : Invocation.ofWords words = .run globals command) {environment : Environment}
    {files : Files}
    (obeys : (command.program files environment globals).Obeys monitor now)
    {service : Service σ} {number : Nat} {related : τ → σ → Prop}
    (keepsUp : monitor.KeepsUp (hostOf service number command) related) (state : σ)
    (start : related now state) :
    let finished := execute service number environment words files state
    ∃ later, monitor.Leads now finished.events later ∧ related later finished.state := by
  obtain ⟨later, leads, ended⟩ := obeys.run keepsUp start files
  rw [execute_of_run invoked]
  exact ⟨later, leads.append (leads_lastLine monitor later _ _), ended⟩

/-! ## Files that are not accepted -/

/-- Where the description or the state file is not accepted, the program of `apply` only fails. -/
theorem converge_eq_stop {source : Files} {file path : String} (environment : Environment)
    (globals : Globals)
    (invalid : ¬∃ description desired tracked, source.readJson file = .ok description ∧
      Desired.ofJson (some description) = .ok desired ∧ StateFile.load source path = .ok tracked) :
    ∃ failure, converge source environment globals file path = .stop failure := by
  unfold converge
  cases described : source.readJson file with
  | error failure => exact ⟨failure, by simp [bind_eq]⟩
  | ok description =>
    cases accepted : Desired.ofJson (some description) with
    | error failure => exact ⟨failure, by simp [bind_eq, accepted]⟩
    | ok desired =>
      cases loaded : StateFile.load source path with
      | error failure => exact ⟨failure, by simp [bind_eq, accepted]⟩
      | ok tracked =>
        exact absurd ⟨description, desired, tracked, described, accepted, loaded⟩ invalid

/-- A command whose state file cannot be loaded only fails. -/
theorem program_eq_stop {source : Files} {command : Command} {failure : Failure}
    (environment : Environment) (globals : Globals)
    (refused : StateFile.load source command.state = .error failure) :
    ∃ failure, command.program source environment globals = .stop failure := by
  cases command with
  | apply file path =>
    refine converge_eq_stop environment globals ?_
    rintro ⟨_, _, tracked, -, -, loaded⟩
    cases refused.symm.trans loaded
  | inspect path =>
    have refused : StateFile.load source path = .error failure := refused
    exact ⟨failure, by simp [Command.program, present, bind_eq, refused]⟩
  | destroy path =>
    have refused : StateFile.load source path = .error failure := refused
    exact ⟨failure, by simp [Command.program, discard, bind_eq, refused]⟩
  | adopt id path =>
    have refused : StateFile.load source path = .error failure := refused
    exact ⟨failure, by simp [Command.program, takeOver, bind_eq, refused]⟩

end CommandLine

end ReverseDns
