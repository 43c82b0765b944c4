import ReverseDns.Proofs.Sessions
import ReverseDns.Service.Azure

/-!
# Similar runs

Two services may say the same in different words: their errors differ, and one hands on less of an
entry than the other. Operations do not read that far, so they come to the same on both.

* `Failure.Like`, `Agrees` -- failures of one kind and status, and results that agree
* `Reply.Like` -- replies that say the same to every operation
* `Transcript.Like` -- runs with agreeing results, the same saves and the same files
* `Host.Like` -- hosts that answer alike, and stay alike
* `like_refresh`, `like_createOrUpdate` and their companions -- every operation runs alike on them
-/

namespace ReverseDns

variable {σ τ α β γ δ : Type}

/-! ## Results and replies -/

/-- Failures of one kind with one status. -/
structure Failure.Like (first second : Failure) : Prop where
  kind : first.kind = second.kind
  status : first.status? = second.status?

/-- Results that agree, where `same` compares values. -/
inductive Agrees (same : α → β → Prop) : Except Failure α → Except Failure β → Prop where
  | ok {first : α} {second : β} : same first second → Agrees same (.ok first) (.ok second)
  | error {first second : Failure} : first.Like second → Agrees same (.error first) (.error second)

theorem Agrees.refl (outcome : Except Failure α) : Agrees Eq outcome outcome := by
  cases outcome with
  | ok result => exact .ok rfl
  | error failure => exact .error ⟨rfl, rfl⟩

/-- Replies that say the same to every operation. -/
structure Reply.Like (first second : Reply) : Prop where
  status : second.status = first.status
  id : isSuccess first.status = true → second.id.get? = first.id.get?
  recordSet : isSuccess first.status = true →
    second.recordSet.get? = first.recordSet.get?.map Azure.handOn
  tellable : isSuccess first.status = false →
    isTellable first.error = true ∧ isTellable second.error = true

/-! ## Runs -/

/-- Runs with results that agree, the same saves and the same files, which leave related states
behind. -/
structure Transcript.Like (related : σ → τ → Prop) (same : α → β → Prop) (first : Transcript σ α)
    (second : Transcript τ β) : Prop where
  result : Agrees same first.result second.result
  saves : first.saves = second.saves
  files : first.files = second.files
  state : related first.state second.state

namespace Transcript.Like

variable {related : σ → τ → Prop} {same : α → β → Prop} {other : γ → δ → Prop}

theorem andThen {first : Transcript σ α} {second : Transcript τ β}
    {next : α → σ → Files → Transcript σ γ} {later : β → τ → Files → Transcript τ δ}
    (front : Like related same first second)
    (back : ∀ result outcome state stand files, same result outcome → related state stand →
      Like related other (next result state files) (later outcome stand files)) :
    Like related other (first.andThen next) (second.andThen later) := by
  obtain ⟨result, events, state, files⟩ := first
  obtain ⟨outcome, others, stand, others'⟩ := second
  obtain ⟨agrees, saves, kept, states⟩ := front
  cases agrees with
  | error failures => exact ⟨.error failures, saves, kept, states⟩
  | ok equal =>
    dsimp only at kept states
    subst kept
    have rest := back _ _ state stand files equal states
    refine ⟨rest.result, ?_, rest.files, rest.state⟩
    have saved := rest.saves
    simp only [Transcript.saves, Transcript.andThen_ok, Transcript.events_after,
      List.filterMap_append] at saves saved ⊢
    rw [saves, saved]

end Transcript.Like

/-- Hosts that answer alike in related states, and remember in the same home. -/
structure Host.Like (related : σ → τ → Prop) (first : Host σ) (second : Host τ) : Prop where
  home : first.home = second.home
  serve : ∀ request state stand, related state stand →
    related (first.service.serve request state).state (second.service.serve request stand).state ∧
      ∃ reply other, (first.service.serve request state).answer = .ok reply ∧
        (second.service.serve request stand).answer = .ok other ∧ reply.Like other

/-- Programs that run alike on hosts that are alike. -/
structure Program.Like (related : σ → τ → Prop) (first : Host σ) (second : Host τ)
    (same : α → β → Prop) (program : Program α) (other : Program β) : Prop where
  run : ∀ state stand files, related state stand →
    Transcript.Like related same (program.run first state files) (other.run second stand files)

namespace Program

variable {related : σ → τ → Prop} {first : Host σ} {second : Host τ}

theorem Like.bind {same : α → β → Prop} {equal : γ → δ → Prop} {program : Program α}
    {other : Program β} {next : α → Program γ} {later : β → Program δ}
    (front : program.Like related first second same other)
    (back : ∀ result outcome, same result outcome →
      (next result).Like related first second equal (later outcome)) :
    (program.bind next).Like related first second equal (other.bind later) where
  run state stand files states := by
    rw [run_bind, run_bind]
    exact (front.run state stand files states).andThen
      fun result outcome state stand files equal states =>
        (back result outcome equal).run state stand files states

theorem like_done {same : α → β → Prop} {result : α} {outcome : β} (equal : same result outcome) :
    (done result).Like related first second same (done outcome) where
  run _ _ _ states := ⟨.ok equal, rfl, rfl, states⟩

theorem Like.map {program : Program α} (like : program.Like related first second Eq program)
    (f : α → β) :
    (program.bind fun result => .done (f result)).Like related first second Eq
      (program.bind fun result => .done (f result)) :=
  like.bind fun _ _ equal => like_done (congrArg f equal)

theorem like_stop {same : α → β → Prop} {failure other : Failure} (like : failure.Like other) :
    (stop failure : Program α).Like related first second same (stop other : Program β) where
  run _ _ _ states := ⟨.error like, rfl, rfl, states⟩

theorem like_ofExcept {same : α → β → Prop} {outcome : Except Failure α}
    {other : Except Failure β} (agrees : Agrees same outcome other) :
    (ofExcept outcome).Like related first second same (ofExcept other) := by
  cases agrees with
  | ok equal => exact like_done equal
  | error failures => exact like_stop failures

theorem like_tell (level other : Level) (text line : String) :
    (tell level text).Like related first second Eq (tell other line) where
  run _ _ _ states := ⟨.ok rfl, rfl, rfl, states⟩

theorem like_remember (like : first.Like related second) (tracked : Tracked) :
    (remember tracked).Like related first second Eq (remember tracked) where
  run state stand files states := by
    rw [run_remember, run_remember, like.home]
    exact ⟨.refl _, rfl, rfl, states⟩

end Program

/-! ## Operations -/

namespace Reconcile

open Program (bind_eq tell remember ofExcept like_done like_stop like_ofExcept like_tell
  like_remember)

variable {related : σ → τ → Prop} {first : Host σ} {second : Host τ}

/-- Entries are read alike if all that is kept of them is the host name. -/
theorem flatten_hostnames (entries : List Entry) :
    Hostnames.flatten (entries.map fun entry => { hostname := entry.hostname }) =
      Hostnames.flatten entries := by
  have names : (entries.map fun entry => ({ hostname := entry.hostname } : Entry)).mapM
      Hostnames.ofEntry? = entries.mapM Hostnames.ofEntry? := by
    rw [List.mapM_map]
    rfl
  rw [Hostnames.flatten, Hostnames.flatten, names]

/-- A record set is read alike before and after it is handed on. -/
theorem remoteOf_handOn (address : Address) (found : Option RecordSet) :
    remoteOf address (found.map Azure.handOn) = remoteOf address found := by
  cases found with
  | none => rfl
  | some recordSet =>
    have entries : Hostnames.flatten ((Azure.handOn recordSet).entries.get?.getD []) =
        Hostnames.flatten (recordSet.entries.get?.getD []) := by
      cases given : recordSet.entries with
      | absent | null => simp [Azure.handOn, given, Part.withoutNull, Part.get?, Part.ofOption,
          Part.map]
      | given entries =>
        simp only [Azure.handOn, given, Part.withoutNull, Part.get?, Part.ofOption, Part.map,
          Option.getD_some]
        exact flatten_hostnames entries
    cases identified : recordSet.id.get? with
    | none => simp [remoteOf, Azure.handOn, identified]
    | some id =>
      have handed : (Azure.handOn recordSet).id.get? = some id := identified
      have ttl : ttlOf (Azure.handOn recordSet) = ttlOf recordSet := rfl
      simp only [remoteOf, Option.map_some, Option.bind_some, identified, handed, ttl, entries]
      rfl

theorem like_failRemote {same : α → β → Prop} (attempt : Attempt) (status : Option Float)
    {cause other : Option Thrown} (tellable : isTellable cause = true)
    (otherTellable : isTellable other = true)
    (statuses : remoteStatus status cause = remoteStatus status other) :
    (failRemote attempt status cause : Program α).Like related first second same
      (failRemote attempt status other : Program β) := by
  simp only [failRemote, tellable, otherTellable, if_true, bind_eq]
  exact (like_tell _ _ _ _).bind fun _ _ _ => like_stop ⟨rfl, statuses⟩

/-- What follows a call may rely on a reply that says the same. -/
theorem like_reply (like : first.Like related second) (attempt : Attempt) (request : Request) :
    (reply attempt request).Like related first second Reply.Like (reply attempt request) where
  run state stand files states := by
    obtain ⟨after, reply, other, answer, otherAnswer, replies⟩ :=
      like.serve request state stand states
    rw [run_reply, run_reply]
    simp only [answer, otherAnswer, replyOf, complaintsOf_ok, List.append_nil]
    exact ⟨.ok replies, by rw [Transcript.saves_callEvents, Transcript.saves_callEvents], rfl, after⟩

theorem like_lookUp (like : first.Like related second) (address : Address) :
    (lookUp address).Like related first second Eq (lookUp address) := by
  simp only [lookUp, bind_eq]
  refine (like_reply like _ _).bind fun reply other replies => ?_
  rw [replies.status]
  split
  · exact like_done rfl
  · split
    next success =>
      rw [replies.recordSet success, remoteOf_handOn]
      refine (like_ofExcept (.refl _)).bind fun remote found equal => ?_
      exact like_done (congrArg some equal)
    next failed =>
      have tellable := replies.tellable (by simpa using failed)
      exact like_failRemote _ _ tellable.1 tellable.2 rfl

theorem like_refresh (like : first.Like related second) (tracked : Tracked) :
    (refresh tracked).Like related first second Eq (refresh tracked) := by
  simp only [refresh, bind_eq]
  split
  · exact like_done rfl
  · refine (like_ofExcept (.refl _)).bind fun id other equal => ?_
    subst equal
    refine (like_tell _ _ _ _).bind fun _ _ _ => ?_
    refine (like_lookUp like id.address).bind fun found remote equal => ?_
    subst equal
    cases found with
    | none =>
      refine (like_tell _ _ _ _).bind fun _ _ _ => ?_
      exact (like_remember like _).bind fun _ _ _ => like_done rfl
    | some remote => exact (like_remember like _).bind fun _ _ _ => like_done rfl

theorem like_write (like : first.Like related second) (desired : Desired) (tracked : Tracked) :
    (write desired tracked).Like related first second Eq (write desired tracked) := by
  simp only [write, bind_eq]
  refine (like_ofExcept (.refl _)).bind fun ifMatch other equal => ?_
  subst equal
  refine (like_tell _ _ _ _).bind fun _ _ _ => ?_
  refine (like_reply like _ _).bind fun reply other replies => ?_
  rw [replies.status]
  split
  next success =>
    rw [replies.id success]
    split
    · exact like_stop ⟨rfl, rfl⟩
    · refine (like_ofExcept (.refl _)).bind fun id other equal => ?_
      subst equal
      refine (like_remember like _).bind fun _ _ _ => ?_
      refine (like_refresh like _).bind fun found other equal => ?_
      subst equal
      obtain ⟨tracked, _ | remote⟩ := found
      · exact like_stop ⟨rfl, rfl⟩
      · exact like_done rfl
  next failed =>
    have tellable := replies.tellable (by simpa using failed)
    exact like_failRemote _ _ tellable.1 tellable.2 rfl

theorem like_createOrUpdate (like : first.Like related second) (description : Option Json)
    (tracked : Tracked) :
    (createOrUpdate description tracked).Like related first second Eq
      (createOrUpdate description tracked) := by
  simp only [createOrUpdate, bind_eq]
  refine (like_ofExcept (.refl _)).bind fun desired other equal => ?_
  subst equal
  exact like_write like desired tracked

theorem like_remove (like : first.Like related second) (tracked : Tracked) :
    (remove tracked).Like related first second Eq (remove tracked) := by
  simp only [remove, bind_eq]
  refine (like_ofExcept (.refl _)).bind fun id other equal => ?_
  subst equal
  refine (like_tell _ _ _ _).bind fun _ _ _ => ?_
  refine (like_reply like _ _).bind fun reply other replies => ?_
  rw [replies.status]
  split
  · exact like_done rfl
  next failed =>
    have tellable := replies.tellable (by simpa using failed)
    exact like_failRemote _ _ tellable.1 tellable.2 rfl

theorem like_adopt (like : first.Like related second) (text : String) (tracked : Tracked) :
    (adopt text tracked).Like related first second Eq (adopt text tracked) := by
  simp only [adopt, bind_eq]
  refine (like_ofExcept (.refl _)).bind fun id other equal => ?_
  subst equal
  refine (like_tell _ _ _ _).bind fun _ _ _ => ?_
  exact (like_remember like _).bind fun _ _ _ => like_done rfl

end Reconcile

end ReverseDns
