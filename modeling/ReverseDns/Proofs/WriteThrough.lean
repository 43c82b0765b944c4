import ReverseDns.Proofs.Snapshots

/-!
# The state file is a copy of the store

A store that was loaded from a file is written to it at every change. Where the file can be saved,
loading it again gives the ID and the attributes that the store has, whatever the attributes hold
beside their known members. Where it cannot, every change is refused. No other file is written.

* `Json.Same`, `Json.Finite` -- equal values, and values whose numbers are finite
* `Change.Storable` -- a change that can be written
* `Store.after` -- a store and its files after some changes
* `Store.InUse` -- what every change keeps
* `write_through` -- what a change writes
-/

namespace ReverseDns

/-! ## Equal values -/

namespace Json

/-- Equal as values. Numbers are compared as numbers, so that 0 and -0 are the same. -/
inductive Same : Json → Json → Prop where
  | null : Same .null .null
  | bool (b : Bool) : Same (.bool b) (.bool b)
  | num {x y : Float} (equal : (x == y) = true) : Same (.num x) (.num y)
  | text (value : WideText) : Same (.text value) (.text value)
  | arr {items others : List Json} (same : List.Forall₂ Same items others) :
      Same (.arr items) (.arr others)
  | obj {members others : Members} (names : Keyed.keys members = Keyed.keys others)
      (values : List.Forall₂ Same (members.map Prod.snd) (others.map Prod.snd)) :
      Same (.obj members) (.obj others)

/-- All numbers in a value are finite. -/
inductive Finite : Json → Prop where
  | null : Finite .null
  | bool (b : Bool) : Finite (.bool b)
  | num {x : Float} (finite : Decimal.isFinite x = true) : Finite (.num x)
  | text (value : WideText) : Finite (.text value)
  | arr {items : List Json} (finite : ∀ item ∈ items, Finite item) : Finite (.arr items)
  | obj {members : Members} (finite : ∀ member ∈ members, Finite member.2) : Finite (.obj members)

mutual

/-- A value with finite numbers is the same when it was written and read. -/
theorem Finite.same_settle {value : Json} (finite : Finite value) : Same value (settle value) := by
  match value, finite with
  | .null, _ => exact .null
  | .bool b, _ => exact .bool b
  | .num x, .num finite =>
    -- all that is lost of a finite number is the sign of a zero
    rw [settle, if_pos finite]
    exact .num (Decimal.beq_unsignedZero finite)
  | .text value, _ => exact .text value
  | .arr items, .arr finite => exact .arr (same_settleItems finite)
  | .obj members, .obj finite =>
    exact .obj (keys_settleMembers members).symm (same_settleMembers finite)

theorem same_settleItems {items : List Json} (finite : ∀ item ∈ items, Finite item) :
    List.Forall₂ Same items (settleItems items) := by
  match items with
  | [] => exact .nil
  | item :: items =>
    obtain ⟨first, others⟩ := List.forall_mem_cons.mp finite
    exact .cons first.same_settle (same_settleItems others)

theorem same_settleMembers {members : Members} (finite : ∀ member ∈ members, Finite member.2) :
    List.Forall₂ Same (members.map Prod.snd) ((settleMembers members).map Prod.snd) := by
  match members with
  | [] => exact .nil
  | (name, value) :: members =>
    obtain ⟨first, others⟩ := List.forall_mem_cons.mp finite
    exact .cons first.same_settle (same_settleMembers others)

end

theorem Finite.get? {value part : Json} {name : String} (finite : Finite value)
    (found : value.get? name = some part) : Finite part := by
  cases finite with
  | obj finite => exact finite _ (Keyed.mem_of_get? found)
  | null | bool _ | num _ | text _ | arr _ => cases found

end Json

namespace Tracked

/-- The same ID and the same attributes. -/
structure Same (first second : Tracked) : Prop where
  id : first.id = second.id
  attributes : Option.Rel
    (fun first second : Attributes => Json.Same (.obj first.members) (.obj second.members))
    first.attributes second.attributes

def Finite (tracked : Tracked) : Prop :=
  ∀ attributes ∈ tracked.attributes, Json.Finite (.obj attributes.members)

theorem Finite.same_settled {tracked : Tracked} (finite : tracked.Finite) :
    tracked.Same tracked.settled := by
  refine ⟨rfl, ?_⟩
  obtain ⟨id, _ | attributes⟩ := tracked
  · exact .none
  · exact .some (finite attributes rfl).same_settle

end Tracked

theorem StateFile.finite_of_load {files : Files} {path : String} {tracked : Tracked}
    (loaded : load files path = .ok tracked)
    (finite : ∀ value, files.readJson path = .ok value → value.Finite) : tracked.Finite := by
  unfold load at loaded
  split at loaded
  next =>
    split at loaded
    next => cases loaded
    next value read =>
      unfold Tracked.ofJson at loaded
      split at loaded
      next =>
        cases loaded
        -- the attributes are a part of the value that was read
        intro attributes isAttributes
        obtain ⟨members, found, rfl⟩ := Option.map_eq_some_iff.mp isAttributes
        obtain ⟨part, stands, isObject⟩ := Option.bind_eq_some_iff.mp found
        have finite := (finite value read).get? stands
        cases part with
        | obj others =>
          cases isObject
          exact finite
        | null | bool _ | num _ | text _ | arr _ => cases isObject
      next => cases loaded
  next =>
    cases loaded
    nofun

/-! ## Changes -/

/-- A change that can be written: the ID is a text, and the attributes are accepted and have finite
numbers only. -/
def Change.Storable : Change → Prop
  | .setId id => id.Joined
  | .setAttributes attributes => Json.Regular (.obj attributes.members) ∧
    Attributes.schema.issues (some (.obj attributes.members)) = [] ∧
    Json.Finite (.obj attributes.members)
  | .clear => True

theorem Tracked.Storable.apply {tracked : Tracked} {change : Change} (storable : tracked.Storable)
    (made : change.Storable) : (tracked.apply change).Storable := by
  cases change with
  | setId id =>
    refine ⟨fun current isCurrent => ?_, storable.attributes⟩
    cases isCurrent
    exact made
  | setAttributes attributes =>
    obtain ⟨regular, accepted, -⟩ := made
    refine ⟨storable.id, fun current isCurrent => ?_⟩
    cases isCurrent
    exact Attributes.storable_of_issues regular accepted
  | clear => exact storable_empty

theorem Tracked.Finite.apply {tracked : Tracked} {change : Change} (finite : tracked.Finite)
    (made : change.Storable) : (tracked.apply change).Finite := by
  cases change with
  | setId id => exact finite
  | setAttributes attributes =>
    intro current isCurrent
    cases isCurrent
    exact made.2.2
  | clear => nofun

namespace StateFile

variable (files : Files) (path : String) (tracked : Tracked)

theorem files_save : (save files path tracked).2 = (files.save path (render tracked)).2 := by
  unfold save
  split
  next saved => rw [saved]
  next saved => rw [saved]

theorem save_refused (refused : ¬files.Accepts path) :
    ∃ fault, (save files path tracked).1 = .error (.file fault) := by
  unfold save
  split
  next saved =>
    have accepted := (Files.save_outcome files path "" (render tracked)).trans (by rw [saved])
    exact absurd accepted refused
  next fault _ saved => exact ⟨fault, rfl⟩

end StateFile

/-! ## A store in use -/

namespace Store

/-- A store and the files after some changes, each of which is written down at once. -/
def after (store : Store) (files : Files) : List Change → Store × Files
  | [] => (store, files)
  | change :: changes =>
    let (changed, _, written) := store.apply change files
    changed.after written changes

/-- A store that is written to the file at a path: what it holds can be stored, and nothing else
was written since the files were `origin`. -/
structure InUse (origin : Files) (path : String) (store : Store) (files : Files) : Prop where
  home : store.home = .file path
  storable : store.tracked.Storable
  finite : store.tracked.Finite
  others : origin.KeepsOthers files path
  accepts : files.Accepts path ↔ origin.Accepts path

variable {origin files : Files} {path : String} {store : Store} {change : Change}

theorem inUse_of_load (loaded : load files path = .ok store)
    (finite : ∀ value, files.readJson path = .ok value → value.Finite) :
    InUse files path store files := by
  unfold load at loaded
  cases found : StateFile.load files path with
  | error failure => simp [found, Except.map] at loaded
  | ok tracked =>
    rw [found] at loaded
    cases loaded
    exact {
      home := rfl
      storable := StateFile.storable_of_load found
      finite := StateFile.finite_of_load found finite
      others := fun _ _ _ => Iff.rfl
      accepts := Iff.rfl }

theorem InUse.apply (inUse : InUse origin path store files) (made : change.Storable) :
    InUse origin path (store.apply change files).1 (store.apply change files).2.2 := by
  have written : (store.apply change files).2.2 =
      (files.save path (StateFile.render (store.tracked.apply change))).2 := by
    rw [Store.apply, inUse.home]
    exact StateFile.files_save files path _
  rw [written]
  exact {
    home := inUse.home
    storable := inUse.storable.apply made
    finite := inUse.finite.apply made
    others := inUse.others.save _
    accepts := (Files.accepts_save files path _).trans inUse.accepts }

theorem InUse.after (inUse : InUse origin path store files) {changes : List Change}
    (made : ∀ change ∈ changes, change.Storable) :
    InUse origin path (store.after files changes).1 (store.after files changes).2 := by
  induction changes generalizing store files with
  | nil => exact inUse
  | cons change changes inductionHypothesis =>
    obtain ⟨first, others⟩ := List.forall_mem_cons.mp made
    exact inductionHypothesis (inUse.apply first) others

/-- Where the file can be saved, loading it after a change gives what the store holds. -/
theorem InUse.reloads (inUse : InUse origin path store files) (made : change.Storable)
    (accepted : origin.Accepts path) :
    (store.apply change files).2.1 = .ok () ∧
      ∃ again, load (store.apply change files).2.2 path = .ok again ∧
        (store.apply change files).1.tracked.Same again.tracked := by
  -- whether the file can be saved was decided when the store was loaded
  obtain ⟨written, kept, text, -⟩ :=
    StateFile.keep_of_accepts (inUse.accepts.mpr accepted) (store.tracked.apply change)
  have loaded := StateFile.load_of_text (inUse.storable.apply made) text
  rw [Store.apply, inUse.home, kept]
  refine ⟨rfl, { home := .file path, tracked := _ }, ?_, (inUse.finite.apply made).same_settled⟩
  rw [load, loaded]
  rfl

theorem InUse.refuses (inUse : InUse origin path store files) (refused : ¬origin.Accepts path)
    (change : Change) : ∃ fault, (store.apply change files).2.1 = .error (.file fault) := by
  rw [Store.apply, inUse.home]
  exact StateFile.save_refused files path _ fun accepted => refused (inUse.accepts.mp accepted)

end Store

/-- What a change writes, whatever changes came before it: where the state file can be saved,
loading it again gives the ID and the attributes that the store has. Where it cannot, which is so
only where it was missing, the change is refused. No other file has another text afterwards. -/
theorem write_through {files : Files} {path : String} {store : Store}
    (loaded : Store.load files path = .ok store)
    (finite : ∀ value, files.readJson path = .ok value → value.Finite)
    {changes : List Change} (made : ∀ change ∈ changes, change.Storable)
    {change : Change} (last : change.Storable) :
    let current := store.after files changes
    let (changed, outcome, written) := current.1.apply change current.2
    files.KeepsOthers written path ∧
      (files.Accepts path → outcome = .ok () ∧
        ∃ again, Store.load written path = .ok again ∧ changed.tracked.Same again.tracked) ∧
      (¬files.Accepts path → files.has path = false ∧ (∃ fault, outcome = .error (.file fault)) ∧
        ∀ place content,
          written.node? place = some (.text content) ↔ files.node? place = some (.text content)) := by
  have inUse := (Store.inUse_of_load loaded finite).after made
  have others := (inUse.apply last).others
  refine ⟨others, inUse.reloads last, fun refused => ⟨?_, ?_, ?_⟩⟩
  · cases present : files.has path with
    | false => rfl
    | true =>
      unfold Store.load at loaded
      cases found : StateFile.load files path with
      | error failure => simp [found, Except.map] at loaded
      | ok tracked => exact absurd (StateFile.accepts_of_load present found) refused
  · exact inUse.refuses refused change
  · -- the file has no place, so that no place is left out
    have refused := fun accepted => refused ((inUse.apply last).accepts.mp accepted)
    exact fun place => others place fun slot => refused slot.accepts

/-- A record set that was read, with a TTL of 60. -/
def readA : Remote where
  id := "i"
  address := { resourceGroup := "g", zoneName := "z", recordName := "a" }
  ttl := some 60
  etag := "e"
  records := ["h"]
  tags := []
  fqdn := .absent

theorem storable_readA : (Change.setAttributes (.ofRemote readA)).Storable := by
  refine ⟨Attributes.regular_ofRemote rfl .empty, by decide +kernel, .obj ?_⟩
  simp only [Attributes.ofRemote, List.forall_mem_cons]
  exact ⟨.text _, .text _, .text _, .num (by decide +kernel), .text _,
    .arr (List.forall_mem_singleton.mpr (.text _)), .obj (List.forall_mem_nil _),
    List.forall_mem_nil _⟩

/-- In an empty directory a store is set up, changed and loaded again. -/
theorem write_through_empty :
    let files : Files := {}
    let current := Store.after { home := .file "s" } files [.setId "i"]
    let (changed, outcome, written) := current.1.apply (.setAttributes (.ofRemote readA)) current.2
    files.Accepts "s" ∧ outcome = .ok () ∧
      ∃ again, Store.load written "s" = .ok again ∧ changed.tracked.Same again.tracked := by
  have loaded : Store.load {} "s" = .ok { home := .file "s" } := rfl
  have first : (Change.setId "i").Storable := WideText.joined_coe "i"
  have accepted : Files.Accepts {} "s" := rfl
  obtain ⟨-, reloads, -⟩ :=
    write_through loaded nofun (List.forall_mem_singleton.mpr first) storable_readA
  exact ⟨accepted, reloads accepted⟩

/-- A file `d` that is no directory. -/
def blocked : Files := { nodes := [(["d"], .text "x")] }

/-- Below a file no state file can be made: a change is refused, and is gone when the store is loaded
again. -/
theorem unwritten_below_file :
    let store : Store := { home := .file "d/s" }
    let (changed, outcome, written) := store.apply (.setId "i") blocked
    Store.load blocked "d/s" = .ok store ∧ blocked.has "d/s" = false ∧
      (Change.setId "i").Storable ∧
      outcome = .error (.file (.refused .alreadyThere (.making "d"))) ∧
      ∀ again, Store.load written "d/s" = .ok again → ¬changed.tracked.Same again.tracked := by
  refine ⟨rfl, rfl, WideText.joined_coe "i", rfl, fun again loaded same => ?_⟩
  cases loaded
  cases same.id

end ReverseDns
