import ReverseDns.Proofs.ServiceAgreement
import ReverseDns.Proofs.WriteOutcomes

/-!
# What deletions come to

A deletion over the remote service makes one call of the management client and is decided by what
the client does. The status of a response counts where the client returns. Where it throws, only the
status that is thrown counts: a success that was seen before does not, and one that is thrown does.

* `Tracer.aired`, `Tracer.work_trace_aired` -- what traced work comes to where it may throw anything
* `Deletion` -- every way in which a deletion ends
* `Deletion.succeeds_iff` -- the ways that are successes
* `deletion_deleteAnswer` -- what is made of the answer of the service
* `remove_ends` -- every deletion ends in one of the ways, and leaves what is remembered alone
-/

namespace ReverseDns

variable {ι τ σ α : Type}

/-! ## Traced work that throws -/

namespace Tracer

/-- What is thrown in the end: where calls are traced, it has to be put into words. -/
def aired (traced : Bool) (thrown : Thrown) : Thrown :=
  if traced && !thrown.isDescribable then .withoutText else thrown

theorem aired_of_describable {thrown : Thrown} (describable : thrown.isDescribable = true)
    (traced : Bool) : aired traced thrown = thrown := by
  simp [aired, describable]

theorem aired_untraced (thrown : Thrown) : aired false thrown = thrown := rfl

/-- Traced work comes to what the work comes to, but for what cannot be put into words. -/
theorem work_trace_aired [DecidableEq ι] {react : ι → CallEvent → Reaction ι}
    (tellable : Tellable react) (clock : σ → Float) (operation : String) (recordSet : RecordKey)
    (perform : σ → Work σ α) (tracer : Tracer ι) (state : σ) :
    (tracer.trace react clock operation recordSet perform state).work =
      { perform state with
        result := (perform state).result.mapError (aired tracer.enabled) } := by
  cases enabled : tracer.enabled with
  | false =>
    rw [trace_of_disabled react clock operation recordSet perform state enabled]
    cases came : (perform state).result <;> simp only [Except.mapError, aired_untraced, ← came]
  | true =>
    cases came : (perform state).result with
    | ok found =>
      rw [work_trace tellable clock operation recordSet perform tracer state
        fun thrown threw => nomatch came.symm.trans threw]
      simp only [Except.mapError, ← came]
    | error thrown =>
      cases describable : thrown.isDescribable with
      | true =>
        rw [work_trace tellable clock operation recordSet perform tracer state
          fun other threw => by cases came.symm.trans threw; exact describable]
        simp only [Except.mapError, aired_of_describable describable, ← came]
      | false =>
        -- nobody is told of what cannot be put into words
        have unspeakable : tracer.reportThrown react
            (occasionOf clock operation recordSet perform state) thrown =
              (.withoutText, [], tracer) := by
          unfold reportThrown
          exact if_neg (by simp [describable])
        rw [trace_of_error enabled came unspeakable]
        simp [Except.mapError, aired, describable]

end Tracer

/-! ## Ends of a deletion -/

/-- The status of the response, if one arrived; zero is none. -/
def ClientReply.arrived (reply : ClientReply) : Option Float := reply.status.filter isTruthy

/-- How a deletion ends after what the client did. -/
inductive Deletion (recordName : String) (traced : Bool) (told : ClientReply) :
    Except Failure Unit → Prop where
  /-- The client returned, and no status arrived or one of success. -/
  | done (found : RecordSet) (returned : told.result = .ok found)
      (success : ∀ status, told.arrived = some status → isSuccess status = true) :
      Deletion recordName traced told (.ok ())
  /-- The client returned, and another status arrived. -/
  | refused (found : RecordSet) (status : Float) (returned : told.result = .ok found)
      (arrived : told.arrived = some status) (failed : isSuccess status = false) :
      Deletion recordName traced told (.error (.remote (.deleting recordName) (some status) none))
  /-- The client threw an error with a status of success: it is ignored. -/
  | ignored (thrown : Thrown) (status : Float) (threw : told.result = .error thrown)
      (carried : thrown.status? = some status) (success : isSuccess status = true)
      (heard : traced = true → thrown.isDescribable = true) :
      Deletion recordName traced told (.ok ())
  /-- The client threw an error with another status, or without one. -/
  | failed (thrown : Thrown) (threw : told.result = .error thrown)
      (carried : ∀ status, thrown.status? = some status → isSuccess status = false)
      (describable : thrown.isDescribable = true) :
      Deletion recordName traced told
        (.error (.remote (.deleting recordName) thrown.status? (some thrown)))
  /-- The client threw what cannot be put into words, for the listeners. -/
  | unheard (thrown : Thrown) (threw : told.result = .error thrown)
      (wordless : thrown.isDescribable = false) (on : traced = true) :
      Deletion recordName traced told
        (.error (.remote (.deleting recordName) none (some .withoutText)))
  /-- The client threw what cannot be put into words, for the failure. -/
  | unspeakable (thrown : Thrown) (threw : told.result = .error thrown)
      (carried : ∀ status, thrown.status? = some status → isSuccess status = false)
      (wordless : thrown.isDescribable = false) (off : traced = false) :
      Deletion recordName traced told (.error .indescribable)

namespace Deletion

variable {recordName : String} {traced : Bool} {told : ClientReply}

/-- A deletion succeeds if the client returned without a status of failure, or if it threw a status
of success beside what can be put into words. -/
theorem succeeds_iff {result : Except Failure Unit}
    (ends : Deletion recordName traced told result) :
    result = .ok () ↔
      (∃ found, told.result = .ok found ∧
        ∀ status, told.arrived = some status → isSuccess status = true) ∨
      ∃ thrown status, told.result = .error thrown ∧ thrown.status? = some status ∧
        isSuccess status = true ∧ (traced = true → thrown.isDescribable = true) := by
  cases ends with
  | done found returned success => exact iff_of_true rfl (.inl ⟨found, returned, success⟩)
  | refused found status returned arrived failed =>
    refine iff_of_false nofun ?_
    rintro (⟨_, -, success⟩ | ⟨_, _, threw, -⟩)
    · simp [success status arrived] at failed
    · cases returned.symm.trans threw
  | ignored thrown status threw carried success heard =>
    exact iff_of_true rfl (.inr ⟨thrown, status, threw, carried, success, heard⟩)
  | failed thrown threw carried describable =>
    refine iff_of_false nofun ?_
    rintro (⟨_, returned, -⟩ | ⟨_, status, again, known, success, -⟩)
    · cases threw.symm.trans returned
    · cases threw.symm.trans again
      simp [carried status known] at success
  | unheard thrown threw wordless on =>
    refine iff_of_false nofun ?_
    rintro (⟨_, returned, -⟩ | ⟨_, _, again, -, -, heard⟩)
    · cases threw.symm.trans returned
    · cases threw.symm.trans again
      simp [heard on] at wordless
  | unspeakable thrown threw carried wordless off =>
    refine iff_of_false nofun ?_
    rintro (⟨_, returned, -⟩ | ⟨_, status, again, known, success, -⟩)
    · cases threw.symm.trans returned
    · cases threw.symm.trans again
      simp [carried status known] at success

end Deletion

namespace Reconcile

variable {recordName : String}

theorem callFailure_of_describable (attempt : Attempt) (status : Option Float) {thrown : Thrown}
    (describable : thrown.isDescribable = true) :
    callFailure attempt status (some thrown) = .remote attempt status (some thrown) :=
  if_pos describable

theorem callFailure_of_wordless (attempt : Attempt) (status : Option Float) {thrown : Thrown}
    (wordless : thrown.isDescribable = false) :
    callFailure attempt status (some thrown) = .indescribable :=
  if_neg (by simp [isTellable, wordless])

/-- What a deletion makes of the status that was thrown. -/
def deleteThrown (recordName : String) (thrown : Thrown) : Except Failure Unit :=
  match thrown.status? with
  | some status =>
    if isSuccess status then .ok ()
    else .error (callFailure (.deleting recordName) (some status) (some thrown))
  | none => .error (callFailure (.deleting recordName) none (some thrown))

theorem deleteAnswer_of_thrown (key : RecordKey) (ifMatch : String) (status : Option Float)
    (thrown : Thrown) :
    deleteAnswer recordName (Azure.answer (.delete key ifMatch) status (.error thrown)) =
      deleteThrown recordName thrown := by
  rw [Azure.answer, deleteThrown]
  cases thrown.status? <;> rfl

theorem deleteThrown_of_success {thrown : Thrown} {status : Float}
    (carried : thrown.status? = some status) (success : isSuccess status = true) :
    deleteThrown recordName thrown = .ok () := by
  simp only [deleteThrown, carried, success, if_true]

theorem deleteThrown_of_failure {thrown : Thrown}
    (carried : ∀ status, thrown.status? = some status → isSuccess status = false) :
    deleteThrown recordName thrown =
      .error (callFailure (.deleting recordName) thrown.status? (some thrown)) := by
  unfold deleteThrown
  split
  next status known => rw [carried status known, if_neg Bool.false_ne_true, known]
  next none => rw [none]

/-- Whether a status of success was thrown. -/
theorem thrown_success_or (thrown : Thrown) :
    (∃ status, thrown.status? = some status ∧ isSuccess status = true) ∨
      ∀ status, thrown.status? = some status → isSuccess status = false := by
  by_cases success : ∃ status, thrown.status? = some status ∧ isSuccess status = true
  · exact .inl success
  · exact .inr fun status known => Bool.eq_false_iff.mpr fun other => success ⟨status, known, other⟩

theorem deletion_deleteAnswer (recordName : String) (traced : Bool) (told : ClientReply)
    (key : RecordKey) (ifMatch : String) :
    Deletion recordName traced told (deleteAnswer recordName
      (Azure.answer (.delete key ifMatch) told.arrived
        (told.result.mapError (Tracer.aired traced)))) := by
  cases came : told.result with
  | ok found =>
    have answered : deleteAnswer recordName (Azure.answer (.delete key ifMatch) told.arrived
        ((.ok found : Except Thrown RecordSet).mapError (Tracer.aired traced))) =
          if isSuccess (told.arrived.getD 200) then .ok ()
          else .error (.remote (.deleting recordName) (some (told.arrived.getD 200)) none) := rfl
    rw [answered]
    cases arrived : told.arrived with
    | none => exact .done found came fun status known => nomatch arrived.symm.trans known
    | some status =>
      rw [Option.getD_some]
      cases success : isSuccess status with
      | true =>
        exact .done found came fun other known => by
          cases arrived.symm.trans known
          exact success
      | false => exact .refused found status came arrived success
  | error thrown =>
    rw [Except.mapError, deleteAnswer_of_thrown]
    -- first whether listeners can be told of it, then whether its status is one of success
    cases describable : thrown.isDescribable with
    | true =>
      rw [Tracer.aired_of_describable describable]
      rcases thrown_success_or thrown with ⟨status, carried, success⟩ | carried
      · rw [deleteThrown_of_success carried success]
        exact .ignored thrown status came carried success fun _ => describable
      · rw [deleteThrown_of_failure carried, callFailure_of_describable _ _ describable]
        exact .failed thrown came carried describable
    | false =>
      cases on : traced with
      | true =>
        have aired : Tracer.aired true thrown = .withoutText := by simp [Tracer.aired, describable]
        rw [aired]
        exact .unheard thrown came describable rfl
      | false =>
        rw [Tracer.aired_untraced]
        rcases thrown_success_or thrown with ⟨status, carried, success⟩ | carried
        · rw [deleteThrown_of_success carried success]
          exact .ignored thrown status came carried success nofun
        · rw [deleteThrown_of_failure carried, callFailure_of_wordless _ _ describable]
          exact .unspeakable thrown came carried describable rfl

/-- A deletion makes one call, remembers nothing, and comes to what is made of the answer. -/
theorem ran_remove (host : Host σ) {tracked : Tracked} {id : PtrRecordId}
    (parsed : PtrRecordId.parse tracked.idText = .ok id) (state : σ) (files : Files) :
    let request := Request.delete id.address.ptr ""
    let response := host.service.serve request state
    let transcript := (remove tracked).run host state files
    transcript.result = deleteAnswer id.recordName response.answer ∧
      transcript.requests = [request] ∧ transcript.saves = [] ∧
      transcript.state = response.state ∧ transcript.files = files := by
  intro request response transcript
  have ran : transcript =
      (⟨deleteAnswer id.recordName response.answer,
        complaintsOf (deleteAnswer id.recordName response.answer), response.state, files⟩ :
          Transcript σ Unit).after (deletingLine id :: callEvents request response) := by
    rw [show transcript = _ from run_remove host tracked state files, parsed]
    rfl
  rw [ran, deletingLine, Transcript.requests_called, Transcript.saves_called]
  refine ⟨rfl, ?_, ?_, rfl, rfl⟩
  · cases deleteAnswer id.recordName response.answer with
    | ok => rfl
    | error failure => exact congrArg (List.cons request) (requests_complaints failure _ _ _)
  · cases deleteAnswer id.recordName response.answer with
    | ok => rfl
    | error failure => exact saves_complaints failure _ _ _

end Reconcile

/-! ## Deletions over the remote service -/

variable [DecidableEq ι] {react : ι → CallEvent → Reaction ι} {azure : Azure ι τ}

/-- A request is answered after one call of the client, made with some credential. -/
theorem Azure.served_of_canSign (client : Client τ) (tellable : Tracer.Tellable react)
    (signs : azure.CanSign) (request : Request) :
    ∃ credential,
      let called :=
        client.call azure.subscriptionId credential (ClientCall.ofRequest request) azure.client
      let response := (listened client react).serve request azure
      response.answer = answer request called.1.arrived
          (called.1.result.mapError (Tracer.aired azure.tracer.enabled)) ∧
        response.state.client = called.2 := by
  obtain ⟨credential, keyring, performed, -⟩ := perform_of_canSign client signs request
  have traced := Tracer.work_trace_aired tellable Azure.clock request.operation.name request.key
    (perform client request) azure.tracer azure
  refine ⟨credential, ?_, ?_⟩
  · simp only [listened, serve, traced, performed]
    rfl
  · simp only [listened, serve, traced, performed]

/-- However the client behaves, a deletion makes one call of it, with the record set that is
tracked and whatever its etag, and ends in one of the ways. What is remembered stays, and so do the
files. -/
theorem remove_ends (client : Client τ) (tellable : Tracer.Tellable react) (home : Home)
    (signs : azure.CanSign) {tracked : Tracked} {id : PtrRecordId}
    (parsed : PtrRecordId.parse tracked.idText = .ok id) (files : Files) :
    let transcript := (Reconcile.remove tracked).run
      { service := Azure.listened client react, home } azure files
    ∃ credential,
      let called :=
        client.call azure.subscriptionId credential (.erase id.address.ptr none) azure.client
      Deletion id.recordName azure.tracer.enabled called.1 transcript.result ∧
        transcript.requests = [.delete id.address.ptr ""] ∧ transcript.state.client = called.2 ∧
        transcript.saves = [] ∧ transcript.files = files := by
  intro transcript
  obtain ⟨credential, answered, moved⟩ :=
    Azure.served_of_canSign client tellable signs (.delete id.address.ptr "")
  obtain ⟨result, requests, saves, state, kept⟩ := Reconcile.ran_remove
    { service := Azure.listened client react, home } parsed azure files
  refine ⟨credential, ?_, requests, ?_, saves, kept⟩
  · have same := result.trans (congrArg (Reconcile.deleteAnswer id.recordName) answered)
    rw [same]
    exact Reconcile.deletion_deleteAnswer ..
  · rw [state]
    exact moved

/-- A client whose calls report 204 and then throw. -/
def hangingUp : Client Unit where
  call _ _ _ _ := ({ status := some 204, result := .error (.ofMessage "socket hang up") }, ())

/-- A remote service over this client. -/
def hungUp : Azure RunListener Unit where
  subscriptionId := "s"
  keyring := .start none none .absent [] 0
  client := ()

def trackingA : Tracked := { id := some Reconcile.idA.format }

/-- A success that is seen before the client throws does not count. -/
theorem remove_ends_hung_up :
    PtrRecordId.parse trackingA.idText = .ok Reconcile.idA ∧
      ((Reconcile.remove trackingA).run
        { service := Azure.listened hangingUp RunListener.react, home := .memory }
        hungUp {}).result =
          .error (.remote (.deleting "a") none (some (.ofMessage "socket hang up"))) := by
  have parsed : PtrRecordId.parse trackingA.idText = .ok Reconcile.idA :=
    PtrRecordId.parse_format (by decide) (by decide) (by decide) (by decide)
      ⟨by decide, by decide, by decide⟩ (by decide)
  refine ⟨parsed, ?_⟩
  have tellable : Tracer.Tellable RunListener.react := fun _ _ => rfl
  have worded : (Thrown.ofMessage "socket hang up").isDescribable = true := by decide
  have statusless : (Thrown.ofMessage "socket hang up").status? = none := rfl
  obtain ⟨credential, ends, -⟩ :=
    remove_ends hangingUp tellable .memory (⟨_, rfl⟩ : hungUp.CanSign) parsed {}
  generalize ((Reconcile.remove trackingA).run _ hungUp {}).result = result at ends ⊢
  cases ends with
  | done found returned => cases returned
  | refused found status returned => cases returned
  | ignored thrown status threw carried =>
    cases threw
    cases statusless.symm.trans carried
  | failed thrown threw =>
    cases threw
    rw [statusless]
    rfl
  | unheard thrown threw wordless on => cases on
  | unspeakable thrown threw carried wordless =>
    cases threw
    cases worded.symm.trans wordless

end ReverseDns
