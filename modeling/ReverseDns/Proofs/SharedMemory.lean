import ReverseDns.Proofs.EtagProvenance
import ReverseDns.Proofs.Monitors
import ReverseDns.Proofs.Tracking
import ReverseDns.Proofs.Versions

/-!
# Clients that share a memory

Any number of clients work on one memory at the same time, each with its own store, and others
call it directly. A client moves on by one step of its action, so that the calls of all of them
interleave in every order. The only guard against lost updates is the etag that a write sends.

* `Program.Writeless`, `Program.oneWrite` -- programs that write nothing, and the monitor that lets one
  write pass
* `Participant`, `Shared` -- a client with what is left of its action, and all of them on one memory
* `Move`, `Shared.step`, `Shared.run` -- who moves next, and what happens
* `Participant.Stage` -- where in its action a client may stand
* `Shared.no_lost_update` -- what became of a write shows whether its etag was still current
-/

namespace ReverseDns

open Reconcile (expectedEtag writeRequest)

/-- What a call writes to, and under which etag. -/
def Request.writes? : Request → Option (RecordKey × String)
  | .upsert key _ ifMatch _ => some (key, ifMatch)
  | _ => none

/-! ## What is left of an action -/

namespace Program

variable {α β : Type}

/-- The call that a program is about to make. -/
def asks? : Program α → Option Request
  | .ask request _ => some request
  | _ => none

/-- A program writes no record set, whatever it is answered. -/
inductive Writeless : Program α → Prop where
  | done (result : α) : Writeless (.done result)
  | stop (failure : Failure) : Writeless (.stop failure)
  | say (level : Level) (text : String) {next : Program α} :
      next.Writeless → Writeless (.say level text next)
  | print (line : String) {next : Program α} : next.Writeless → Writeless (.print line next)
  | save (tracked : Tracked) {next : Except Failure Unit → Program α} :
      (∀ outcome, (next outcome).Writeless) → Writeless (.save tracked next)
  | connect (config : Config) {next : Except Failure Unit → Program α} :
      (∀ outcome, (next outcome).Writeless) → Writeless (.connect config next)
  | get (key : RecordKey) {next : Answer → Program α} :
      (∀ answer, (next answer).Writeless) → Writeless (.ask (.get key) next)
  | delete (key : RecordKey) (ifMatch : String) {next : Answer → Program α} :
      (∀ answer, (next answer).Writeless) → Writeless (.ask (.delete key ifMatch) next)

/-- A program only says why it fails: it calls nothing and remembers nothing. -/
inductive OnlyFails : Program α → Prop where
  | stop (failure : Failure) : OnlyFails (.stop failure)
  | say (level : Level) (text : String) {next : Program α} :
      next.OnlyFails → OnlyFails (.say level text next)

theorem Writeless.bind {first : Program α} {next : α → Program β} (front : first.Writeless)
    (back : ∀ result, (next result).Writeless) : (first.bind next).Writeless := by
  induction front with
  | done result => exact back result
  | stop failure => exact .stop failure
  | say level text _ inductionHypothesis => exact .say level text inductionHypothesis
  | print line _ inductionHypothesis => exact .print line inductionHypothesis
  | save tracked _ inductionHypothesis => exact .save tracked inductionHypothesis
  | connect config _ inductionHypothesis => exact .connect config inductionHypothesis
  | get key _ inductionHypothesis => exact .get key inductionHypothesis
  | delete key ifMatch _ inductionHypothesis => exact .delete key ifMatch inductionHypothesis

theorem OnlyFails.bind {first : Program α} (next : α → Program β) (fails : first.OnlyFails) :
    (first.bind next).OnlyFails := by
  induction fails with
  | stop failure => exact .stop failure
  | say level text _ inductionHypothesis => exact .say level text inductionHypothesis

/-- A monitor of the calls that write: it lets one pass where one is ahead, and none after the first
call. -/
def oneWrite : Monitor Bool where
  calls ahead request := ahead = true ∨ request.writes? = none
  called _ _ _ := false

theorem Obeys.writeless {program : Program α} (obeys : program.Obeys oneWrite false) :
    program.Writeless := by
  generalize start : false = ahead at obeys
  induction obeys with
  | done result => exact .done result
  | stop failure => exact .stop failure
  | say level text _ inductionHypothesis => exact .say level text (inductionHypothesis start)
  | print line _ inductionHypothesis => exact .print line (inductionHypothesis start)
  | save tracked _ _ inductionHypothesis =>
    exact .save tracked fun outcome => inductionHypothesis outcome start
  | connect config _ _ inductionHypothesis =>
    exact .connect config fun outcome => inductionHypothesis outcome trivial start
  | ask request may _ inductionHypothesis =>
    subst start
    have silent : request.writes? = none := may.resolve_left Bool.false_ne_true
    cases request with
    | upsert key properties ifMatch ifNoneMatch => cases silent
    | get key => exact .get key fun answer => inductionHypothesis answer trivial rfl
    | delete key ifMatch =>
      exact .delete key ifMatch fun answer => inductionHypothesis answer trivial rfl

end Program

namespace Reconcile

open Program (bind_eq oneWrite obeys_ofExcept_bind)

theorem onlyFails_failRemote {α : Type} (attempt : Attempt) (status : Option Float)
    (cause : Option Thrown) : (failRemote attempt status cause : Program α).OnlyFails := by
  unfold failRemote
  split
  · exact .say _ _ (.stop _)
  · exact .stop _

theorem obeys_refresh_oneWrite {β : Type} (tracked : Tracked)
    {next : Tracked × Option Remote → Program β}
    (back : ∀ found, (next found).Obeys oneWrite false) :
    ((refresh tracked).bind next).Obeys oneWrite false :=
  obeys_refresh_bind (fun _ => back _) (fun _ _ _ => .inr rfl)
    (fun _ _ _ _ _ _ => ⟨trivial, back _⟩) (fun _ _ _ _ _ _ _ => ⟨trivial, back _⟩)

theorem obeys_write_oneWrite (desired : Desired) (tracked : Tracked) :
    (write desired tracked).Obeys oneWrite true := by
  rw [← Program.bind_done (write desired tracked)]
  refine obeys_write_bind (fun _ _ => .inl rfl) fun ifMatch answer text id _ _ _ => ⟨trivial, ?_⟩
  exact obeys_refresh_oneWrite _ fun found => obeys_ofExcept_bind fun done _ => .done done

theorem writeless_refresh (tracked : Tracked) : (refresh tracked).Writeless := by
  rw [← Program.bind_done (refresh tracked)]
  exact Program.Obeys.writeless (obeys_refresh_oneWrite tracked fun found => .done found)

theorem writeless_remove (tracked : Tracked) : (remove tracked).Writeless := by
  rw [← Program.bind_done (remove tracked)]
  exact Program.Obeys.writeless (obeys_remove_bind (fun _ _ => .inr rfl) fun _ _ _ _ _ => .done ())

theorem writeless_adopt (text : String) (tracked : Tracked) : (adopt text tracked).Writeless := by
  rw [← Program.bind_done (adopt text tracked)]
  exact Program.Obeys.writeless (obeys_adopt_bind fun _ _ => ⟨trivial, .done _⟩)

theorem createOrUpdate_eq {description : Option Json} {desired : Desired}
    (accepted : Desired.ofJson description = .ok desired) (tracked : Tracked) :
    createOrUpdate description tracked = write desired tracked := by
  simp only [createOrUpdate, accepted, bind_eq]
  rfl

theorem write_eq_stop {desired : Desired} {tracked : Tracked} {failure : Failure}
    (unknown : expectedEtag desired tracked = .error failure) :
    write desired tracked = .stop failure := by
  simp only [write, unknown, bind_eq]
  rfl

/-- A write says a line and sends the expected etag. What follows writes nothing, and where the
call is refused, it remembers nothing either. -/
theorem write_eq {desired : Desired} {tracked : Tracked} {ifMatch : String}
    (expected : expectedEtag desired tracked = .ok ifMatch) :
    ∃ level line next, write desired tracked =
        .say level line (.ask (writeRequest desired ifMatch) next) ∧
      (∀ answer, (next answer).Writeless) ∧
      ∀ reply, isSuccess reply.status = false → (next (.ok reply)).OnlyFails := by
  have obeys := obeys_write_oneWrite desired tracked
  simp only [write, expected, bind_eq] at obeys ⊢
  refine ⟨_, _, _, rfl, fun answer => ?_, fun reply refused => ?_⟩
  · -- the one write is this call
    cases obeys with
    | say _ _ obeys =>
      cases obeys with
      | ask _ _ rest => exact (rest answer trivial).writeless
  · simp [Program.bind, Program.pure_eq, refused, onlyFails_failRemote]

end Reconcile

/-! ## Clients and moves -/

/-- A client: what its store remembers, the action under way or done last, what the store
remembered when the action began, and what is left of it. -/
structure Participant where
  tracked : Tracked := .empty
  begun : Tracked := tracked
  action : Option Action := none
  rest : Program Unit := .done ()

/-- A client at the beginning of an action. -/
def Participant.starting (tracked : Tracked) (action : Action) : Participant where
  tracked := tracked
  action := some action
  rest := action.program tracked

/-- A client begins an action once the one before is at its end. -/
def Participant.begin (client : Participant) (action : Action) : Participant :=
  match client.rest with
  | .done _ | .stop _ => .starting client.tracked action
  | _ => client

/-- Clients on one memory, and the calls that were answered, oldest first. -/
structure Shared (ι : Type) where
  memory : Memory
  clients : ι → Participant
  calls : List Memory.Replied := []

/-- Who moves next. -/
inductive Move (ι : Type) where
  /-- A client begins an action. -/
  | begin (client : ι) (action : Action)
  /-- A client takes the next step of its action. Where it remembers something, that has an
  outcome: a store may be unable to keep it. -/
  | advance (client : ι) (outcome : Except Failure Unit)
  /-- Someone else calls the memory. -/
  | request (request : Request)

namespace Shared

variable {ι : Type} [DecidableEq ι]

def put (shared : Shared ι) (name : ι) (client : Participant) : Shared ι :=
  { shared with clients := fun other => if other = name then client else shared.clients other }

/-- A call is answered. -/
def serve (shared : Shared ι) (request : Request) : Reply × Shared ι :=
  let (reply, memory) := shared.memory.serve request
  (reply, { shared with memory, calls := shared.calls ++ [⟨request, reply⟩] })

/-- A client takes the next step of its action. -/
def advance (shared : Shared ι) (name : ι) (outcome : Except Failure Unit) : Shared ι :=
  let client := shared.clients name
  match client.rest with
  | .done _ | .stop _ => shared
  | .say _ _ next | .print _ next => shared.put name { client with rest := next }
  | .save tracked next => shared.put name { client with tracked, rest := next outcome }
  | .connect _ next => shared.put name { client with rest := next outcome }
  | .ask request next =>
    let (reply, shared) := shared.serve request
    shared.put name { client with rest := next (.ok reply) }

def step (shared : Shared ι) : Move ι → Shared ι
  | .begin name action => shared.put name ((shared.clients name).begin action)
  | .advance name outcome => shared.advance name outcome
  | .request request => (shared.serve request).2

def run (shared : Shared ι) (moves : List (Move ι)) : Shared ι := moves.foldl step shared

/-- Idle clients, with what their stores remember, on a memory. -/
def opening (memory : Memory) (stores : ι → Tracked) : Shared ι where
  memory := memory
  clients name := { tracked := stores name }

end Shared

/-! ## Where a client may stand -/

/-- A client is about to write, and has not remembered anything since its action began. -/
structure Participant.Writing (client : Participant) (description : Option Json) (desired : Desired)
    (ifMatch : String) (next : Answer → Program Unit) : Prop where
  action : client.action = some (.createOrUpdate description)
  accepted : Desired.ofJson description = .ok desired
  expected : expectedEtag desired client.begun = .ok ifMatch
  unsaved : client.tracked = client.begun
  writeless : ∀ answer, (next answer).Writeless
  fails : ∀ reply, isSuccess reply.status = false → (next (.ok reply)).OnlyFails

/-- Where in its action a client stands: before the line about a write, before the write itself, or
where no write is to come. -/
inductive Participant.Stage (client : Participant) : Prop where
  | announcing (description : Option Json) (desired : Desired) (ifMatch : String)
      (next : Answer → Program Unit) (level : Level) (text : String) :
      client.Writing description desired ifMatch next →
      client.rest = .say level text (.ask (writeRequest desired ifMatch) next) → Stage client
  | writing (description : Option Json) (desired : Desired) (ifMatch : String)
      (next : Answer → Program Unit) :
      client.Writing description desired ifMatch next →
      client.rest = .ask (writeRequest desired ifMatch) next → Stage client
  | writeless : client.rest.Writeless → Stage client

theorem Participant.stage_starting (tracked : Tracked) (action : Action) :
    (Participant.starting tracked action).Stage := by
  cases action with
  | createOrUpdate description =>
    have program : (starting tracked (.createOrUpdate description)).rest =
        (Reconcile.createOrUpdate description tracked).bind fun _ => .done () := rfl
    cases accepted : Desired.ofJson description with
    | error failure =>
      refine .writeless ?_
      simp only [program, Reconcile.createOrUpdate, accepted, Program.bind_eq]
      exact .stop failure
    | ok desired =>
      rw [Reconcile.createOrUpdate_eq accepted] at program
      cases expected : expectedEtag desired tracked with
      | error failure =>
        rw [Reconcile.write_eq_stop expected] at program
        exact .writeless (program ▸ .stop failure)
      | ok ifMatch =>
        obtain ⟨level, text, next, equal, writeless, fails⟩ := Reconcile.write_eq expected
        rw [equal] at program
        exact .announcing description desired ifMatch
          (fun answer => (next answer).bind fun _ => .done ()) level text
          { action := rfl, accepted, expected, unsaved := rfl
            writeless := fun answer => (writeless answer).bind fun _ => .done ()
            fails := fun reply refused => (fails reply refused).bind _ } program
  | read => exact .writeless ((Reconcile.writeless_refresh tracked).bind fun _ => .done ())
  | delete => exact .writeless (Reconcile.writeless_remove tracked)
  | adopt id =>
    refine .writeless ?_
    simp only [starting, Action.program]
    exact (Reconcile.writeless_adopt id tracked).bind fun _ => .done ()

theorem Participant.Stage.begin {client : Participant} (stage : client.Stage) (action : Action) :
    (client.begin action).Stage := by
  unfold Participant.begin
  split
  · exact Participant.stage_starting client.tracked action
  · exact Participant.stage_starting client.tracked action
  · exact stage

namespace Shared

variable {ι : Type}

/-- The calls lead from the first memory to the present one, and every client is at a stage of its
action. -/
structure Sound (start : Memory) (shared : Shared ι) : Prop where
  leads : start.Leads shared.calls shared.memory
  stage : ∀ name, (shared.clients name).Stage

variable {start : Memory} {shared : Shared ι}

theorem sound_opening (memory : Memory) (stores : ι → Tracked) :
    (opening memory stores).Sound memory where
  leads := rfl
  stage _ := .writeless (.done ())

theorem Sound.serve (sound : shared.Sound start) (request : Request) :
    (shared.serve request).2.Sound start where
  leads := sound.leads.serve request
  stage := sound.stage

variable [DecidableEq ι]

theorem Sound.put (sound : shared.Sound start) (name : ι) {client : Participant}
    (stage : client.Stage) : (shared.put name client).Sound start where
  leads := sound.leads
  stage other := by
    simp only [Shared.put]
    split
    · exact stage
    · exact sound.stage other

theorem Sound.advance (sound : shared.Sound start) (name : ι) (outcome : Except Failure Unit) :
    (shared.advance name outcome).Sound start := by
  unfold Shared.advance
  cases sound.stage name with
  | announcing description desired ifMatch next level text writing rest =>
    simp only [rest]
    exact sound.put name (.writing description desired ifMatch next
      ⟨writing.action, writing.accepted, writing.expected, writing.unsaved, writing.writeless,
        writing.fails⟩ rfl)
  | writing description desired ifMatch next writing rest =>
    simp only [rest]
    exact (sound.serve _).put name (.writeless (writing.writeless _))
  | writeless writeless =>
    simp only
    generalize (shared.clients name).rest = rest at writeless
    cases writeless with
    | done | stop => exact sound
    | say _ _ later => exact sound.put name (.writeless later)
    | print _ later => exact sound.put name (.writeless later)
    | save tracked later => exact sound.put name (.writeless (later outcome))
    | connect _ later => exact sound.put name (.writeless (later outcome))
    | get key later => exact (sound.serve (.get key)).put name (.writeless (later _))
    | delete key ifMatch later =>
      exact (sound.serve (.delete key ifMatch)).put name (.writeless (later _))

theorem Sound.step (sound : shared.Sound start) (move : Move ι) :
    (shared.step move).Sound start := by
  cases move with
  | begin name action => exact sound.put name ((sound.stage name).begin action)
  | advance name outcome => exact sound.advance name outcome
  | request request => exact sound.serve request

theorem Sound.run (sound : shared.Sound start) (moves : List (Move ι)) :
    (shared.run moves).Sound start := by
  induction moves generalizing shared with
  | nil => exact sound
  | cons move rest inductionHypothesis => exact inductionHypothesis (sound.step move)

end Shared

/-! ## Writes under an etag -/

namespace Shared

variable {ι : Type} [DecidableEq ι]

/-- No update is lost. Whenever a client among any others is about to write, the write is that of a
`createOrUpdate`, under the etag that is asked for or cached. If it is accepted, then nobody has
changed the record set since any look-up of it that returned this etag; if it is refused, the
memory and what the client remembers stay as they are, and the action only fails. -/
theorem no_lost_update (memory : Memory) (reachable : memory.Reachable) (stores : ι → Tracked)
    (moves : List (Move ι)) (name : ι) (key : RecordKey) (ifMatch : String)
    (asked : (((opening memory stores).run moves).clients name).rest.asks?.bind Request.writes? =
      some (key, ifMatch)) :
    let shared := (opening memory stores).run moves
    let client := shared.clients name
    let after := shared.step (.advance name (.ok ()))
    (∃ description desired, client.action = some (.createOrUpdate description) ∧
      Desired.ofJson description = .ok desired ∧ key = desired.address.ptr ∧
      expectedEtag desired client.begun = .ok ifMatch) ∧
    ∃ write, after.calls = shared.calls ++ [write] ∧
      write.request.writes? = some (key, ifMatch) ∧
      (isSuccess write.reply.status = true → ∀ early look between,
        shared.calls = early ++ look :: between → look.Returned key ifMatch →
          ∀ call ∈ between, ¬ call.Changes key) ∧
      (isSuccess write.reply.status = false → after.memory = shared.memory ∧
        (after.clients name).tracked = client.begun ∧ (after.clients name).rest.OnlyFails) := by
  intro shared client after
  have sound : shared.Sound memory := (sound_opening memory stores).run moves
  cases sound.stage name with
  | announcing _ _ _ _ _ _ _ rest =>
    change (shared.clients name).rest.asks?.bind _ = _ at asked
    rw [rest] at asked
    cases asked
  | writeless writeless =>
    change (shared.clients name).rest.asks?.bind _ = _ at asked
    generalize (shared.clients name).rest = rest at writeless asked
    cases writeless <;> cases asked
  | writing description desired etag next writing rest =>
    change (shared.clients name).rest.asks?.bind _ = _ at asked
    rw [rest] at asked
    cases asked
    refine ⟨⟨description, desired, writing.action, writing.accepted, rfl, writing.expected⟩, ?_⟩
    let reply := (shared.memory.serve (writeRequest desired ifMatch)).1
    have stepped : after = (shared.serve (writeRequest desired ifMatch)).2.put name
        { client with rest := next (.ok reply) } := by
      simp only [after, Shared.step, Shared.advance, rest]
      rfl
    rw [stepped]
    refine ⟨⟨writeRequest desired ifMatch, reply⟩, rfl, rfl,
      fun accepted early look between calls returned => ?_, fun refused => ?_⟩
    · exact Memory.unchanged_of_accepted reachable.numbered (calls ▸ sound.leads) returned accepted
    · refine ⟨Memory.serve_of_refused refused, ?_, ?_⟩
      · simp only [Shared.put, if_true]
        exact writing.unsaved
      · simp only [Shared.put, if_true]
        exact writing.fails reply refused

/-- A client writes the record set `a`; then someone else writes `b`, and the client is about to
write `a` again. -/
def rewriting : List (Move Unit) :=
  let write := Move.begin () (.createOrUpdate (some (Desired.describing "a")))
  let advance := Move.advance () (.ok ())
  let request := writeRequest (Desired.read (Desired.describing "b")) ""
  write :: List.replicate 6 advance ++ [.request request, write, advance]

/-- What these moves lead to. -/
def rewritten : Shared Unit := (opening oneZone fun _ => .empty).run rewriting

/-- The key of the record set `a`. -/
def keyA : RecordKey := (Desired.read (Desired.describing "a")).address.ptr

theorem reachable_oneZone : oneZone.Reachable := by
  have zoned := Memory.Reachable.addZone "g" "z" (.fresh "s")
  have key : Memory.zoneKey "g" "z" = "g/z" := rfl
  rwa [Memory.addZone, key] at zoned

/-- The second write of `a` is accepted, so nobody has changed `a` since the client read it. -/
theorem unchanged_between_writes :
    ∃ write look other, rewritten.calls = [write, look, other] ∧
      look.Returned keyA "etag-1" ∧ ¬ other.Changes keyA := by
  have ran : rewritten.calls.length = 3 ∧
      (∀ call ∈ rewritten.calls[1]?, call.Returned keyA "etag-1") ∧
      (rewritten.clients ()).rest.asks?.bind Request.writes? = some (keyA, "etag-1") ∧
      (rewritten.step (.advance () (.ok ()))).calls.getLast?.map
        (fun call => isSuccess call.reply.status) = some true := by
    decide +kernel
  have outcome := no_lost_update oneZone reachable_oneZone (fun _ => .empty) rewriting () keyA "etag-1"
  -- from here on it does not matter what the clients are, only what was found out about them
  unfold rewritten at ran ⊢
  generalize (opening oneZone fun _ => .empty).run rewriting = shared at ran outcome ⊢
  obtain ⟨length, returned, asked, accepted⟩ := ran
  obtain ⟨-, second, later, -, unchanged, -⟩ := outcome asked
  rw [later, List.getLast?_concat, Option.map_some, Option.some.injEq] at accepted
  match calls : shared.calls with
  | [write, look, other] =>
    rw [calls] at returned
    have returned := returned look rfl
    exact ⟨write, look, other, rfl, returned,
      unchanged accepted [write] look [other] calls returned other (List.mem_singleton_self other)⟩
  | [] | [_] | [_, _] | _ :: _ :: _ :: _ :: _ => simp [calls] at length

end Shared

end ReverseDns
