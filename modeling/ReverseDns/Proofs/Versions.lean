import ReverseDns.Proofs.EtagProvenance
import ReverseDns.Proofs.RecordSets

/-!
# Etags as versions

Every write issues an etag that was never issued before, so an etag that is still stored shows that
nobody has changed the record set since.

* `Memory.Numbered` -- every stored etag was issued, an invariant of all calls
* `Memory.Replied`, `Memory.Leads` -- a call with its reply, and where calls lead to
* `Memory.Replied.Changes` -- a call that changed a record set
* `Memory.unchanged_of_leads` -- nobody changed a record set that has the etag it had before
* `Memory.unchanged_of_accepted` -- what a write shows that is made under an etag
-/

namespace ReverseDns.Memory

/-! ## Issued etags -/

/-- Etags with different numbers differ: their digits can be read back. -/
theorem etagOf_inj {first second : Nat} : etagOf first = etagOf second ↔ first = second := by
  constructor
  · intro equal
    have digits : first.repr.toList = second.repr.toList := by
      have lists := congrArg String.toList equal
      simpa [etagOf, String.toList_append] using lists
    have numbers := congrArg (fun digits => Nat.ofDigitChars 10 digits 0) digits
    simpa using numbers
  · exact congrArg etagOf

/-- An etag was issued by a memory. -/
def Issued (memory : Memory) (etag : String) : Prop :=
  ∃ number ≤ memory.issued, etag = etagOf number

/-- Every stored etag was issued. -/
def Numbered (memory : Memory) : Prop :=
  ∀ entry ∈ memory.recordSets, memory.Issued entry.2.etag

/-- The etag of a stored record set. -/
def etag? (memory : Memory) (key : RecordKey) : Option String :=
  (memory.find? key).map Stored.etag

/-- The next etag was never issued. -/
theorem not_issued_next (memory : Memory) : ¬ memory.Issued (etagOf (memory.issued + 1)) := by
  rintro ⟨number, bound, equal⟩
  have same := etagOf_inj.mp equal
  omega

theorem Issued.written {memory : Memory} {etag : String} (issued : memory.Issued etag)
    (key : RecordKey) (properties : Properties) : (memory.written key properties).Issued etag := by
  obtain ⟨number, bound, equal⟩ := issued
  exact ⟨number, Nat.le_succ_of_le bound, equal⟩

theorem Numbered.issued_etag {memory : Memory} (numbered : memory.Numbered) {key : RecordKey}
    {etag : String} (stored : memory.etag? key = some etag) : memory.Issued etag := by
  obtain ⟨record, found, rfl⟩ := Option.map_eq_some_iff.mp stored
  exact numbered _ (Keyed.mem_of_get? found)

theorem Numbered.written {memory : Memory} (numbered : memory.Numbered) (key : RecordKey)
    (properties : Properties) : (memory.written key properties).Numbered := by
  intro entry member
  rcases Keyed.mem_of_mem_insert member with rfl | member
  · exact ⟨memory.issued + 1, Nat.le_refl _, rfl⟩
  · exact (numbered entry member).written key properties

theorem Numbered.erased {memory : Memory} (numbered : memory.Numbered) (key : RecordKey) :
    (memory.erased key).Numbered :=
  fun entry member => numbered entry (List.mem_filter.mp member).1

/-! ## What a call does -/

/-- A call with the reply to it. -/
structure Replied where
  request : Request
  reply : Reply

/-- A call changed the record set with a key: it wrote or deleted it, and was successful. -/
def Replied.Changes (call : Replied) (key : RecordKey) : Prop :=
  isSuccess call.reply.status = true ∧
    match call.request with
    | .upsert target .. => recordKey target = recordKey key
    | .get _ => False
    | .delete target _ => recordKey target = recordKey key

/-- What a call does: the reply to it and the memory after it. -/
inductive Effect (memory : Memory) : Request → Reply × Memory → Prop where
  /-- A write is made: no etag is asked for, or it is the stored one. -/
  | wrote (key : RecordKey) (properties : Properties) (ifMatch ifNoneMatch : String) :
      matchesEtag (memory.find? key) ifMatch = true →
      Effect memory (.upsert key properties ifMatch ifNoneMatch)
        (memory.acknowledgement key properties, memory.written key properties)
  /-- A stored record set is deleted. -/
  | deleted (key : RecordKey) (ifMatch : String) :
      matchesEtag (memory.find? key) ifMatch = true →
      Effect memory (.delete key ifMatch) ({ status := 200 }, memory.erased key)
  /-- There is nothing to delete. -/
  | absent (key : RecordKey) (ifMatch : String) : memory.find? key = none →
      Effect memory (.delete key ifMatch) ({ status := 204 }, memory)
  /-- A record set is looked up. -/
  | looked (key : RecordKey) : Effect memory (.get key) (memory.get key, memory)
  /-- A call is refused. -/
  | refused (request : Request) (status : Float) (message : String) : isSuccess status = false →
      Effect memory request (refusal status message, memory)

theorem effect_serve (memory : Memory) (request : Request) :
    Effect memory request (memory.serve request) := by
  have notFound : isSuccess 404 = false := by decide
  have failed : isSuccess 412 = false := by decide
  cases request with
  | upsert key properties ifMatch ifNoneMatch =>
    simp only [serve, upsert, upsertUnder]
    split
    · exact .refused _ 404 _ notFound
    · split
      · exact .refused _ 412 _ failed
      · split
        · exact .refused _ 412 _ failed
        next current => exact .wrote key properties ifMatch ifNoneMatch (by simpa using current)
  | get key => exact .looked key
  | delete key ifMatch =>
    simp only [serve, delete]
    split
    next missing => exact .absent key ifMatch missing
    next stored found =>
      split
      next current => exact .deleted key ifMatch (found ▸ current)
      next => exact .refused _ 412 _ failed

theorem Numbered.serve {memory : Memory} (numbered : memory.Numbered) (request : Request) :
    (memory.serve request).2.Numbered := by
  have effect := memory.effect_serve request
  generalize memory.serve request = outcome at effect ⊢
  cases effect with
  | wrote key properties => exact numbered.written key properties
  | deleted key => exact numbered.erased key
  | absent | looked | refused => exact numbered

/-- In every memory that calls lead to, every stored etag was issued. -/
theorem Reachable.numbered {memory : Memory} (reachable : memory.Reachable) :
    memory.Numbered := by
  induction reachable with
  | fresh subscriptionId => exact fun entry member => nomatch member
  | addZone resourceGroup zoneName _ inductionHypothesis => exact inductionHypothesis
  | serve request _ inductionHypothesis => exact inductionHypothesis.serve request

theorem Issued.serve {memory : Memory} {etag : String} (issued : memory.Issued etag)
    (request : Request) : (memory.serve request).2.Issued etag := by
  have effect := memory.effect_serve request
  generalize memory.serve request = outcome at effect ⊢
  cases effect with
  | wrote key properties => exact issued.written key properties
  | deleted | absent | looked | refused => exact issued

theorem etag?_written (memory : Memory) (key other : RecordKey) (properties : Properties) :
    (memory.written key properties).etag? other =
      if recordKey other = recordKey key then some (etagOf (memory.issued + 1))
      else memory.etag? other := by
  rw [etag?, find?_written]
  split
  · rfl
  · rfl

theorem etag?_erased (memory : Memory) (key other : RecordKey) :
    (memory.erased key).etag? other =
      if recordKey other = recordKey key then none else memory.etag? other := by
  rw [etag?, find?_erased]
  split
  · rfl
  · rfl

theorem etag?_eq_none_of_find? {memory : Memory} {key other : RecordKey}
    (missing : memory.find? key = none) (same : recordKey other = recordKey key) :
    memory.etag? other = none := by
  rw [find?] at missing
  rw [etag?, find?, same, missing]
  rfl

/-- An issued etag is not stored after a change, and stays so. -/
theorem etag?_serve_ne {memory : Memory} {key : RecordKey} {etag : String} {request : Request}
    (issued : memory.Issued etag)
    (replaced : memory.etag? key ≠ some etag ∨
      Replied.Changes ⟨request, (memory.serve request).1⟩ key) :
    (memory.serve request).2.etag? key ≠ some etag := by
  have effect := memory.effect_serve request
  generalize memory.serve request = outcome at effect replaced ⊢
  cases effect with
  | wrote target properties ifMatch ifNoneMatch =>
    rw [etag?_written]
    split
    next =>
      -- the record set now has the next etag
      intro equal
      exact memory.not_issued_next (Option.some.inj equal ▸ issued)
    next distinct => exact replaced.resolve_right fun changed => distinct changed.2.symm
  | deleted target =>
    rw [etag?_erased]
    split
    next => simp
    next distinct => exact replaced.resolve_right fun changed => distinct changed.2.symm
  | absent target ifMatch missing =>
    rcases replaced with other | changed
    · exact other
    · simp [etag?_eq_none_of_find? missing changed.2.symm]
  | looked target => exact replaced.resolve_right And.right
  | refused request status message failed =>
    exact replaced.resolve_right fun changed => by simp [failed, refusal, Replied.Changes] at changed

/-- A record set keeps its etag under a call that does not change it. -/
theorem etag?_serve_of_not_changes {memory : Memory} {key : RecordKey} {request : Request}
    (unchanged : ¬ Replied.Changes ⟨request, (memory.serve request).1⟩ key) :
    (memory.serve request).2.etag? key = memory.etag? key := by
  have success : isSuccess 200 = true := by decide
  have effect := memory.effect_serve request
  generalize memory.serve request = outcome at effect unchanged ⊢
  cases effect with
  | wrote target properties =>
    rw [etag?_written, if_neg]
    exact fun same => unchanged ⟨memory.isSuccess_acknowledgement target properties, same.symm⟩
  | deleted target =>
    rw [etag?_erased, if_neg]
    exact fun same => unchanged ⟨success, same.symm⟩
  | absent | looked | refused => rfl

/-! ## Histories -/

/-- Calls, each with its reply, lead from one memory to another. -/
def Leads (before : Memory) (calls : List Replied) (after : Memory) : Prop :=
  match calls with
  | [] => after = before
  | call :: rest =>
    (before.serve call.request).1 = call.reply ∧ Leads (before.serve call.request).2 rest after

theorem leads_append {before after : Memory} {first second : List Replied} :
    Leads before (first ++ second) after ↔
      ∃ between, Leads before first between ∧ Leads between second after := by
  induction first generalizing before with
  | nil => simp [Leads]
  | cons call rest inductionHypothesis =>
    simp only [List.cons_append, Leads, inductionHypothesis, and_assoc, exists_and_left]

/-- One more call. -/
theorem Leads.serve {before after : Memory} {calls : List Replied} (leads : Leads before calls after)
    (request : Request) :
    Leads before (calls ++ [⟨request, (after.serve request).1⟩]) (after.serve request).2 :=
  leads_append.mpr ⟨after, leads, rfl, rfl⟩

theorem Leads.numbered {before after : Memory} {calls : List Replied}
    (leads : before.Leads calls after) (numbered : before.Numbered) : after.Numbered := by
  induction calls generalizing before with
  | nil => exact leads ▸ numbered
  | cons call rest inductionHypothesis =>
    exact inductionHypothesis leads.2 (numbered.serve call.request)

/-- An issued etag that is not stored is never stored again. -/
theorem Leads.etag?_ne {before after : Memory} {calls : List Replied} {key : RecordKey}
    {etag : String} (leads : Leads before calls after) (issued : before.Issued etag)
    (replaced : before.etag? key ≠ some etag) : after.etag? key ≠ some etag := by
  induction calls generalizing before with
  | nil => exact leads ▸ replaced
  | cons call rest inductionHypothesis =>
    exact inductionHypothesis leads.2 (issued.serve call.request)
      (etag?_serve_ne issued (.inl replaced))

/-- Between two moments at which a record set has the same etag, no call changed it. -/
theorem unchanged_of_leads {before after : Memory} {calls : List Replied} {key : RecordKey}
    {etag : String} (leads : Leads before calls after) (numbered : before.Numbered)
    (first : before.etag? key = some etag) (last : after.etag? key = some etag) :
    ∀ call ∈ calls, ¬ call.Changes key := by
  induction calls generalizing before with
  | nil => simp
  | cons call rest inductionHypothesis =>
    obtain ⟨replied, leads⟩ := leads
    have issued := numbered.issued_etag first
    have unchanged : ¬ Replied.Changes ⟨call.request, (before.serve call.request).1⟩ key := by
      -- a change would have replaced the etag for good
      intro changed
      exact leads.etag?_ne (issued.serve call.request) (etag?_serve_ne issued (.inr changed)) last
    intro other member
    rcases List.mem_cons.mp member with rfl | member
    · rwa [replied] at unchanged
    · exact inductionHypothesis leads (numbered.serve call.request)
        ((etag?_serve_of_not_changes unchanged).trans first) other member

/-! ## Writes under an etag -/

/-- A call looked a record set up and returned its etag. -/
def Replied.Returned (call : Replied) (key : RecordKey) (etag : String) : Prop :=
  ∃ target, call.request = .get target ∧ recordKey target = recordKey key ∧
    etagOf? (.ok call.reply) = some etag

instance (call : Replied) (key : RecordKey) (etag : String) :
    Decidable (call.Returned key etag) :=
  match request : call.request with
  | .get target =>
    decidable_of_iff (recordKey target = recordKey key ∧ etagOf? (.ok call.reply) = some etag)
      ⟨fun found => ⟨target, request, found⟩,
        fun ⟨_, same, found⟩ => Request.get.inj (request.symm.trans same) ▸ found⟩
  | .upsert .. => isFalse fun ⟨_, same, _⟩ => nomatch request.symm.trans same
  | .delete .. => isFalse fun ⟨_, same, _⟩ => nomatch request.symm.trans same

theorem Issued.ne_empty {memory : Memory} {etag : String} (issued : memory.Issued etag) :
    etag ≠ "" := by
  rintro rfl
  obtain ⟨number, -, equal⟩ := issued
  have lists := congrArg String.toList equal
  simp [etagOf, String.toList_append] at lists

theorem etagOf?_get (memory : Memory) (key : RecordKey) :
    etagOf? (.ok (memory.get key)) = memory.etag? key := by
  unfold get etag?
  split
  next missing =>
    rw [missing]
    rfl
  next stored found =>
    rw [found]
    rfl

/-- Once an etag was returned, it is the one that is stored. -/
theorem etag?_of_returned {memory : Memory} {call : Replied} {key : RecordKey} {etag : String}
    (replied : (memory.serve call.request).1 = call.reply) (returned : call.Returned key etag) :
    (memory.serve call.request).2.etag? key = some etag := by
  obtain ⟨target, request, same, found⟩ := returned
  rw [request] at replied ⊢
  rw [← replied] at found
  calc memory.etag? key = memory.etag? target := by rw [etag?, etag?, find?, find?, same]
    _ = some etag := (memory.etagOf?_get target).symm.trans found

/-- A write that is made under an etag finds it stored. -/
theorem etag?_of_accepted {memory : Memory} {key : RecordKey} {properties : Properties}
    {ifMatch ifNoneMatch : String} (conditional : ifMatch ≠ "")
    (accepted : isSuccess
      (memory.serve (.upsert key properties ifMatch ifNoneMatch)).1.status = true) :
    memory.etag? key = some ifMatch := by
  have effect := memory.effect_serve (.upsert key properties ifMatch ifNoneMatch)
  generalize memory.serve (.upsert key properties ifMatch ifNoneMatch) = outcome at effect accepted
  cases effect with
  | wrote _ _ _ _ current => simpa [matchesEtag, conditional, etag?] using current
  | refused _ _ _ failed => simp [failed, refusal] at accepted

/-- A call that is not successful leaves the memory as it is. -/
theorem serve_of_refused {memory : Memory} {request : Request}
    (refused : isSuccess (memory.serve request).1.status = false) :
    (memory.serve request).2 = memory := by
  have deleted : isSuccess 200 = true := by decide
  have effect := memory.effect_serve request
  generalize memory.serve request = outcome at effect refused ⊢
  cases effect with
  | wrote key properties =>
    exact absurd (memory.isSuccess_acknowledgement key properties) (by simp [refused])
  | deleted => simp [deleted] at refused
  | absent | looked | refused => rfl

/-- A write that is made under an etag comes before every other change since the etag was
returned. -/
theorem unchanged_of_accepted {start memory : Memory} {early between : List Replied}
    {call : Replied} {key : RecordKey} {properties : Properties} {ifMatch ifNoneMatch : String}
    (numbered : start.Numbered) (leads : start.Leads (early ++ call :: between) memory)
    (returned : call.Returned key ifMatch)
    (accepted : isSuccess
      (memory.serve (.upsert key properties ifMatch ifNoneMatch)).1.status = true) :
    ∀ other ∈ between, ¬ other.Changes key := by
  obtain ⟨looked, before, replied, after⟩ := leads_append.mp leads
  have current := etag?_of_returned replied returned
  have numbered := (before.numbered numbered).serve call.request
  have conditional := (numbered.issued_etag current).ne_empty
  exact unchanged_of_leads after numbered current (etag?_of_accepted conditional accepted)

end ReverseDns.Memory
