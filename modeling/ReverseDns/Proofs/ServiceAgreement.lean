import Mathlib.Data.List.Forall2
import ReverseDns.Proofs.SimilarRuns
import ReverseDns.Proofs.Tracing
import ReverseDns.Proofs.Tracking
import ReverseDns.Proofs.Versions

/-!
# The remote service and the one in memory

The remote service stands between its callers and a management client: it leaves empty tokens out,
picks up the status on the way, tells listeners, and turns what is thrown back into replies. Where
the client fronts a memory, all of this cancels out, and operations come to what they come to on
the memory itself.

* `ClientCall.request` -- what a call of the client asks of a memory
* `Client.Fronts` -- a client that fronts a memory
* `Azure.like_memory` -- the service over such a client answers like the memory
* `Task`, `Situation`, `Situation.follow` -- operations on stores, one after the other
* `agrees_with_memory` -- step by step, both services come to the same
-/

namespace ReverseDns

variable {ι τ κ σ : Type}

/-! ## Clients that front a memory -/

/-- The request that a call of the client makes: a token that is absent asks for no check. -/
def ClientCall.request : ClientCall → Request
  | .write key properties ifMatch ifNoneMatch =>
    .upsert key properties (ifMatch.getD "") (ifNoneMatch.getD "")
  | .read key => .get key
  | .erase key ifMatch => .delete key (ifMatch.getD "")

theorem token_getD (text : String) : (token text).getD "" = text := by
  unfold token
  split
  next empty => exact empty.symm
  next => rfl

/-- Leaving empty tokens out changes nothing. -/
theorem ClientCall.request_ofRequest (request : Request) :
    (ClientCall.ofRequest request).request = request := by
  cases request <;> simp [ClientCall.ofRequest, ClientCall.request, token_getD]

/-- What a call that was accepted with a reply returns: the record set that was found, or the ID and
the etag of the one that was written. -/
def ClientCall.Returns (reply : Reply) (found : RecordSet) : ClientCall → Prop
  | .write .. => found.id = reply.id ∧ found.etag = reply.etag
  | .read _ => reply.recordSet = .given found
  | .erase .. => True

/-- How a client tells of a reply: a status of success is reported, and the record set is returned;
any other status is carried by an error that is thrown. -/
structure ClientReply.TellsOf (told : ClientReply) (call : ClientCall) (reply : Reply) : Prop where
  accepted : isSuccess reply.status = true →
    told.status = some reply.status ∧ ∃ found, told.result = .ok found ∧ call.Returns reply found
  refused : isSuccess reply.status = false →
    ∃ thrown, told.result = .error thrown ∧ thrown.status? = some reply.status ∧
      thrown.isDescribable = true

theorem ClientReply.TellsOf.describable {told : ClientReply} {call : ClientCall} {reply : Reply}
    (tells : told.TellsOf call reply) {thrown : Thrown} (threw : told.result = .error thrown) :
    thrown.isDescribable = true := by
  cases status : isSuccess reply.status with
  | true =>
    obtain ⟨-, found, result, -⟩ := tells.accepted status
    cases threw.symm.trans result
  | false =>
    obtain ⟨other, result, -, describable⟩ := tells.refused status
    cases threw.symm.trans result
    exact describable

/-- For a subscription, a client fronts the memory that is part of its state. -/
structure Client.Fronts (client : Client τ) (subscription : String) (memoryOf : τ → Memory) :
    Prop where
  state : ∀ credential call state,
    memoryOf (client.call subscription credential call state).2 =
      ((memoryOf state).serve call.request).2
  tells : ∀ credential call state,
    (client.call subscription credential call state).1.TellsOf call
      ((memoryOf state).serve call.request).1

/-! ## Credentials -/

/-- The credential of the configured method can be made. -/
def Azure.CanSign (azure : Azure ι τ) : Prop :=
  ∃ source, azure.keyring.method.source azure.keyring.tenantId azure.environment = .ok source

/-- A credential that can be made is obtained, and can be made again. -/
theorem Keyring.obtain_ok {keyring : Keyring} {environment : Environment} {source : CredentialSource}
    {method : CredentialMethod} (made : method.source keyring.tenantId environment = .ok source)
    (now : Float) :
    ∃ credential after, keyring.obtain environment now method = (.ok credential, after) ∧
      after.method = keyring.method ∧ after.tenantId = keyring.tenantId := by
  have others : (keyring.drop method).tenantId = keyring.tenantId := rfl
  unfold obtain current
  cases keyring.find? method with
  | none =>
    simp only [make, made]
    exact ⟨_, _, rfl, rfl, rfl⟩
  | some entry =>
    dsimp only
    by_cases expired : entry.expiresAt < now
    · simp only [expired, if_true, make, others, made]
      exact ⟨_, _, rfl, rfl, rfl⟩
    · simp only [expired, if_false]
      exact ⟨_, _, rfl, rfl, rfl⟩

/-! ## The service over such a client -/

namespace Azure

/-- The service over a client, with listeners of any kind. -/
def listened [DecidableEq ι] (client : Client τ) (react : ι → CallEvent → Reaction ι) :
    Service (Azure ι τ) where
  serve request azure :=
    let served := azure.serve client react request
    { answer := served.answer, state := served.state }

/-- The service has a subscription, can sign, and its client fronts this memory. -/
structure Stands (subscription : String) (memoryOf : τ → Memory) (memory : Memory)
    (azure : Azure ι τ) : Prop where
  subscription : azure.subscriptionId = subscription
  signs : azure.CanSign
  memory : memoryOf azure.client = memory

variable {subscription : String} {memoryOf : τ → Memory} {memory : Memory} {azure : Azure ι τ}

/-- A call is made with some credential, and the service can sign again. -/
theorem perform_of_canSign (client : Client τ) (signs : azure.CanSign) (request : Request) :
    ∃ credential keyring,
      let called :=
        client.call azure.subscriptionId credential (ClientCall.ofRequest request) azure.client
      perform client request azure =
        { result := called.1.result, status := called.1.status.filter isTruthy,
          state := { azure with
            keyring, client := called.2, clock := azure.clock + called.1.elapsed } } ∧
      (perform client request azure).state.CanSign := by
  obtain ⟨source, made⟩ := signs
  obtain ⟨credential, keyring, obtained, method, tenant⟩ := Keyring.obtain_ok made azure.clock
  have performed : perform client request azure =
      let called :=
        client.call azure.subscriptionId credential (ClientCall.ofRequest request) azure.client
      { result := called.1.result, status := called.1.status.filter isTruthy,
        state := { azure with
          keyring, client := called.2, clock := azure.clock + called.1.elapsed } } := by
    simp only [perform, obtained]
  refine ⟨credential, keyring, performed, ?_⟩
  rw [performed]
  exact ⟨source, by rw [← made, ← method, ← tenant]⟩

/-- A call is made with some credential, and the service stands as before. -/
theorem perform_eq (client : Client τ) (stands : azure.Stands subscription memoryOf memory) (request : Request) :
    ∃ credential,
      let called := client.call subscription credential (ClientCall.ofRequest request) azure.client
      (perform client request azure).result = called.1.result ∧
      (perform client request azure).status = called.1.status.filter isTruthy ∧
      (perform client request azure).state.Stands subscription memoryOf (memoryOf called.2) := by
  obtain ⟨rfl, signs, -⟩ := stands
  obtain ⟨credential, keyring, performed, signs⟩ := perform_of_canSign client signs request
  refine ⟨credential, by rw [performed], by rw [performed], ?_, signs, ?_⟩
  · rw [performed]
  · rw [performed]

end Azure

/-! ## Replies of a memory -/

namespace Memory

theorem isTruthy_acknowledgement (memory : Memory) (key : RecordKey) (properties : Properties) :
    isTruthy (memory.acknowledgement key properties).status = true := by
  unfold acknowledgement
  dsimp only
  split <;> decide

end Memory

/-! ## Answers -/

namespace Azure

/-- A call that was accepted is answered with its status, and with what belongs to the request. -/
theorem answer_of_accepted {request : Request} {told : ClientReply} {reply : Reply}
    (tells : told.TellsOf (ClientCall.ofRequest request) reply)
    (success : isSuccess reply.status = true) (truthy : isTruthy reply.status = true) :
    ∃ found, (ClientCall.ofRequest request).Returns reply found ∧
      answer request (told.status.filter isTruthy) told.result =
        .ok (Azure.success request (some reply.status) found) := by
  obtain ⟨status, found, result, returns⟩ := tells.accepted success
  exact ⟨found, returns, by rw [status, result, Option.filter_some_pos truthy, answer]⟩

theorem answer_of_refused {request : Request} {told : ClientReply} {reply : Reply}
    (tells : told.TellsOf (ClientCall.ofRequest request) reply)
    (failed : isSuccess reply.status = false) (tellable : isTellable reply.error = true) :
    ∃ other, answer request (told.status.filter isTruthy) told.result = .ok other ∧
      reply.Like other := by
  obtain ⟨thrown, result, status, describable⟩ := tells.refused failed
  refine ⟨{ status := reply.status, error := some thrown }, by rw [result, answer, status], ?_⟩
  exact { status := rfl, id := by simp [failed], recordSet := by simp [failed]
          tellable := fun _ => ⟨tellable, describable⟩ }

/-- What the service makes of a call says the same as the reply of the memory. -/
theorem answer_like {memory : Memory} {request : Request} {told : ClientReply}
    (tells : told.TellsOf (ClientCall.ofRequest request) (memory.serve request).1) :
    ∃ other, answer request (told.status.filter isTruthy) told.result = .ok other ∧
      (memory.serve request).1.Like other := by
  have found : isSuccess 200 = true ∧ isTruthy 200 = true := by decide
  have nothing : isSuccess 204 = true ∧ isTruthy 204 = true := by decide
  have missing : isSuccess 404 = false := by decide
  have effect := memory.effect_serve request
  generalize memory.serve request = outcome at effect tells
  cases effect with
  | wrote key properties ifMatch ifNoneMatch =>
    have success := memory.isSuccess_acknowledgement key properties
    obtain ⟨_, returns, answered⟩ :=
      answer_of_accepted tells success (memory.isTruthy_acknowledgement key properties)
    refine ⟨_, answered, ?_⟩
    exact { status := rfl, id := fun _ => congrArg Part.get? returns.1, recordSet := fun _ => rfl
            tellable := by simp [success] }
  | deleted key ifMatch =>
    obtain ⟨_, -, answered⟩ := answer_of_accepted tells found.1 found.2
    refine ⟨_, answered, ?_⟩
    exact { status := rfl, id := fun _ => rfl, recordSet := fun _ => rfl
            tellable := by simp [found] }
  | absent key ifMatch =>
    obtain ⟨_, -, answered⟩ := answer_of_accepted tells nothing.1 nothing.2
    refine ⟨_, answered, ?_⟩
    exact { status := rfl, id := fun _ => rfl, recordSet := fun _ => rfl
            tellable := by simp [nothing] }
  | looked key =>
    unfold Memory.get at tells ⊢
    split at tells
    next => exact answer_of_refused tells missing (Memory.isTellable_ofMessage _)
    next stored _ =>
      obtain ⟨handed, returns, answered⟩ := answer_of_accepted tells found.1 found.2
      refine ⟨_, answered, ?_⟩
      obtain rfl : Memory.view stored = handed := Part.given.inj returns
      exact { status := rfl, id := fun _ => rfl, recordSet := fun _ => rfl
              tellable := by simp [found] }
  | refused request status message failed =>
    exact answer_of_refused tells failed (Memory.isTellable_ofMessage message)

/-- The service over a client that fronts a memory answers like the memory, whoever listens, and
goes on to do so. -/
theorem like_memory [DecidableEq ι] {front : Client τ} {react : ι → CallEvent → Reaction ι}
    (fronts : front.Fronts subscription memoryOf) (tellable : Tracer.Tellable react)
    (home : Home) :
    Host.Like (fun memory azure => Stands subscription memoryOf memory azure)
      { service := Memory.service, home } { service := listened front react, home } where
  home := rfl
  serve request memory azure stands := by
    obtain ⟨credential, result, status, after⟩ := perform_eq front stands request
    have tells := fronts.tells credential (ClientCall.ofRequest request) azure.client
    have moved := fronts.state credential (ClientCall.ofRequest request) azure.client
    rw [ClientCall.request_ofRequest, stands.memory] at tells moved
    -- whatever the client throws has a line, so tracing changes nothing
    have traced := Tracer.work_trace tellable Azure.clock request.operation.name request.key
      (perform front request) azure.tracer azure fun thrown threw =>
        tells.describable (result.symm.trans threw)
    obtain ⟨other, answered, like⟩ := answer_like tells
    rw [moved] at after
    refine ⟨?_, _, other, rfl, ?_, like⟩
    · simp only [listened, serve, traced]
      exact ⟨after.subscription, after.signs, after.memory⟩
    · simp only [listened, serve, traced, result, status]
      exact answered

end Azure

/-! ## Operations on stores -/

/-- What is done with what a store remembers. -/
inductive Errand where
  | createOrUpdate (description : Option Json)
  | lookUp (address : Address)
  | refresh
  | remove
  | adopt (id : String)

/-- What an errand brings back. -/
inductive Finding where
  | named (id : PtrRecordId)
  | found (remote : Option Remote)
  | nothing

def Errand.program (tracked : Tracked) : Errand → Program Finding
  | .createOrUpdate description =>
    (Reconcile.createOrUpdate description tracked).bind fun result => .done (.named result.2)
  | .lookUp address => (Reconcile.lookUp address).bind fun remote => .done (.found remote)
  | .refresh => (Reconcile.refresh tracked).bind fun result => .done (.found result.2)
  | .remove => (Reconcile.remove tracked).bind fun _ => .done .nothing
  | .adopt id => (Reconcile.adopt id tracked).bind fun result => .done (.named result.2)

/-- An errand with one of the stores. -/
structure Task (κ : Type) where
  store : κ
  errand : Errand

/-- A service, the files, and what every store remembers. -/
structure Situation (σ κ : Type) where
  state : σ
  files : Files
  remembered : κ → Tracked

theorem Errand.like {related : σ → τ → Prop} {first : Host σ} {second : Host τ}
    (like : first.Like related second) (tracked : Tracked) (errand : Errand) :
    (errand.program tracked).Like related first second Eq (errand.program tracked) := by
  cases errand <;> simp only [Errand.program]
  case createOrUpdate description =>
    exact (Reconcile.like_createOrUpdate like description tracked).map _
  case lookUp address => exact (Reconcile.like_lookUp like address).map _
  case refresh => exact (Reconcile.like_refresh like tracked).map _
  case remove => exact (Reconcile.like_remove like tracked).map _
  case adopt id => exact (Reconcile.like_adopt like id tracked).map _

namespace Situation

variable [DecidableEq κ]

/-- Do a task: what comes of it, and the situation after it. -/
def perform (service : Service σ) (homes : κ → Home) (situation : Situation σ κ) (task : Task κ) :
    Except Failure Finding × Situation σ κ :=
  let tracked := situation.remembered task.store
  let transcript := (task.errand.program tracked).run { service, home := homes task.store }
    situation.state situation.files
  (transcript.result,
   { state := transcript.state
     files := transcript.files
     remembered := fun store =>
      if store = task.store then transcript.trackedAfter tracked
      else situation.remembered store })

/-- Do tasks one after the other, whether they fail or not: what comes of each, and the situation
after it. -/
def follow (service : Service σ) (homes : κ → Home) (situation : Situation σ κ) :
    List (Task κ) → List (Except Failure Finding × Situation σ κ)
  | [] => []
  | task :: rest =>
    let outcome := situation.perform service homes task
    outcome :: follow service homes outcome.2 rest

/-- Situations with the same files and stores, and with related services. -/
structure Like (related : σ → τ → Prop) (first : Situation σ κ) (second : Situation τ κ) :
    Prop where
  state : related first.state second.state
  files : first.files = second.files
  remembered : first.remembered = second.remembered

/-- Outcomes that agree, with situations that are alike. -/
def Alike (related : σ → τ → Prop) (first : Except Failure Finding × Situation σ κ)
    (second : Except Failure Finding × Situation τ κ) : Prop :=
  Agrees Eq first.1 second.1 ∧ first.2.Like related second.2

theorem perform_alike {related : σ → τ → Prop} {first : Service σ} {second : Service τ}
    (like : ∀ home, Host.Like related { service := first, home } { service := second, home })
    (homes : κ → Home) {situation : Situation σ κ} {other : Situation τ κ}
    (situations : situation.Like related other) (task : Task κ) :
    Alike related (situation.perform first homes task) (other.perform second homes task) := by
  obtain ⟨state, files, remembered⟩ := situation
  obtain ⟨stand, others, others'⟩ := other
  obtain ⟨states, kept, stores⟩ := situations
  dsimp only at kept stores
  subst kept stores
  have ran := (task.errand.like (like (homes task.store)) (remembered task.store)).run state stand
    files states
  refine ⟨ran.result, ran.state, ran.files, ?_⟩
  simp only [perform, Transcript.trackedAfter, ran.saves]

theorem follow_alike {related : σ → τ → Prop} {first : Service σ} {second : Service τ}
    (like : ∀ home, Host.Like related { service := first, home } { service := second, home })
    (homes : κ → Home) (tasks : List (Task κ)) {situation : Situation σ κ}
    {other : Situation τ κ} (situations : situation.Like related other) :
    List.Forall₂ (Alike related) (situation.follow first homes tasks)
      (other.follow second homes tasks) := by
  induction tasks generalizing situation other with
  | nil => exact .nil
  | cons task rest inductionHypothesis =>
    have performed := perform_alike like homes situations task
    exact .cons performed (inductionHypothesis performed.2)

end Situation

/-- Over a client that fronts a memory, with credentials that can be made, and with any listeners
whose errors can be put into words, the remote service comes to what the memory itself comes to:
after every task the results agree, the stores remember the same, the files are the same, and the
client's memory is the memory. -/
theorem agrees_with_memory [DecidableEq ι] [DecidableEq κ] (client : Client τ)
    (memoryOf : τ → Memory) (azure : Azure ι τ)
    (fronts : client.Fronts azure.subscriptionId memoryOf) (signs : azure.CanSign)
    (react : ι → CallEvent → Reaction ι) (tellable : Tracer.Tellable react) (homes : κ → Home)
    (files : Files) (stores : κ → Tracked) (tasks : List (Task κ)) :
    List.Forall₂ (Situation.Alike fun memory azure => memory = memoryOf azure.client)
      ((Situation.mk (memoryOf azure.client) files stores).follow Memory.service homes tasks)
      ((Situation.mk azure files stores).follow (Azure.listened client react) homes tasks) := by
  have like := Azure.like_memory fronts tellable
  refine (Situation.follow_alike like homes tasks ⟨⟨rfl, signs, rfl⟩, rfl, rfl⟩).imp ?_
  rintro first second ⟨results, situations⟩
  exact ⟨results, situations.state.memory.symm, situations.files, situations.remembered⟩

/-! ## A client over a memory -/

/-- What a client makes of a reply: it reports the status and returns the record set, or throws an
error that carries the status. -/
def ClientReply.ofReply (reply : Reply) : ClientReply :=
  if isSuccess reply.status then
    { status := some reply.status,
      result := .ok (reply.recordSet.get?.getD { id := reply.id, etag := reply.etag }) }
  else
    { result := .error (.error [("statusCode", .num reply.status),
        ("message", .str "The call was refused")]) }

/-- The client whose state is a memory. -/
def Memory.client : Client Memory where
  call _ _ call memory :=
    let (reply, memory) := memory.serve call.request
    (.ofReply reply, memory)

/-- What such a client makes of a reply tells of it. -/
theorem ClientReply.tellsOf_ofReply {call : ClientCall} {reply : Reply}
    (returns : isSuccess reply.status = true →
      call.Returns reply (reply.recordSet.get?.getD { id := reply.id, etag := reply.etag })) :
    (ClientReply.ofReply reply).TellsOf call reply := by
  have status : Thrown.status? (.error [("statusCode", .num reply.status),
      ("message", .str "The call was refused")]) = some reply.status := rfl
  have describable : Thrown.isDescribable (.error [("statusCode", .num reply.status),
      ("message", .str "The call was refused")]) = true := rfl
  unfold ofReply
  split
  next success =>
    exact ⟨fun _ => ⟨rfl, _, rfl, returns success⟩, fun failed => by simp [success] at failed⟩
  next failed => exact ⟨fun success => absurd success failed, fun _ => ⟨_, rfl, status, describable⟩⟩

theorem Memory.returns_serve (memory : Memory) (call : ClientCall)
    (success : isSuccess (memory.serve call.request).1.status = true) :
    let reply := (memory.serve call.request).1
    call.Returns reply (reply.recordSet.get?.getD { id := reply.id, etag := reply.etag }) := by
  have missing : isSuccess 404 = false := by decide
  have effect := memory.effect_serve call.request
  generalize memory.serve call.request = outcome at effect success ⊢
  cases call with
  | write key properties ifMatch ifNoneMatch =>
    cases effect with
    | wrote => exact ⟨rfl, rfl⟩
    | refused _ _ _ failed => simp [failed, refusal] at success
  | read key =>
    cases effect with
    | looked =>
      unfold Memory.get at success ⊢
      split at success
      · simp [missing, refusal] at success
      · rfl
    | refused _ _ _ failed => simp [failed, refusal] at success
  | erase key ifMatch => trivial

theorem Memory.client_fronts (subscription : String) : Memory.client.Fronts subscription id where
  state _ _ _ := rfl
  tells _ call memory := ClientReply.tellsOf_ofReply fun success => memory.returns_serve call success

/-- A listener that always throws. -/
def complaining : Unit → CallEvent → Reaction Unit :=
  fun _ _ => { raises := some (.value (.str "not now")) }

/-- A remote service that is traced, over a memory with one zone. -/
def tracedZone : Azure Unit Memory where
  subscriptionId := "s"
  keyring := .start none none .absent [] 0
  tracer := { enabled := true, listeners := [()] }
  client := oneZone

/-- Writing, reading and deleting `a` comes to the same on the remote service and in memory, although
the listener throws at every call. -/
theorem agrees_on_a :
    let tasks := [Errand.createOrUpdate (some (Desired.describing "a")), .refresh, .remove].map
      (Task.mk ())
    List.Forall₂ (Situation.Alike fun memory azure => memory = azure.client)
      ((Situation.mk oneZone {} fun _ => .empty).follow Memory.service (fun _ => .memory) tasks)
      ((Situation.mk tracedZone {} fun _ => .empty).follow
        (Azure.listened Memory.client complaining) (fun _ => .memory) tasks) :=
  agrees_with_memory Memory.client id tracedZone (Memory.client_fronts "s") ⟨_, rfl⟩ complaining
    (fun _ _ => rfl) (fun _ => .memory) {} (fun _ => .empty) _

/-- A listener that throws a value without a text makes the call fail that it observes. -/
example :
    let react : Unit → CallEvent → Reaction Unit :=
      fun _ _ => { raises := some (.value (.obj [("toString", .num 1)])) }
    let request := Request.delete (Desired.read (Desired.describing "a")).address.ptr ""
    (tracedZone.serve Memory.client complaining request).answer.toOption.isSome = true ∧
      (tracedZone.serve Memory.client react request).answer.toOption.isSome = false := by
  decide +kernel

end ReverseDns
