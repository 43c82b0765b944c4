import ReverseDns.Record.Desired

/-!
# Host names as a set

Writing host names as entries and reading them back keeps the set and brings it into one order.

* `Text.mem_sortByUnits`, `Text.sortByUnits_increasing` -- sorting keeps the members of a list
  without repetitions and makes every one stand before the next
* `Hostnames.mem_ordered`, `Hostnames.ordered_increasing` -- the same of host names
* `Hostnames.flatten_of_named`, `Hostnames.flatten_entries` -- what is read from entries
-/

namespace ReverseDns

namespace Text

/-! ## Repetitions -/

section

variable {α : Type} [DecidableEq α]

@[simp] theorem mem_distinct {x : α} {xs : List α} : x ∈ distinct xs ↔ x ∈ xs := by
  induction xs with
  | nil => simp [distinct]
  | cons y rest inductionHypothesis =>
    simp only [distinct, List.mem_cons, List.mem_filter, inductionHypothesis, bne_iff_ne, ne_eq]
    by_cases equal : x = y <;> simp [equal]

theorem nodup_distinct (xs : List α) : (distinct xs).Nodup := by
  induction xs with
  | nil => simp [distinct]
  | cons y rest inductionHypothesis =>
    rw [distinct, List.nodup_cons]
    exact ⟨by simp, inductionHypothesis.filter _⟩

theorem distinct_of_nodup {xs : List α} (nodup : xs.Nodup) : distinct xs = xs := by
  induction xs with
  | nil => rfl
  | cons y rest inductionHypothesis =>
    obtain ⟨fresh, nodup⟩ := List.nodup_cons.mp nodup
    rw [distinct, inductionHypothesis nodup, List.filter_eq_self.mpr]
    intro x member
    simp only [bne_iff_ne, ne_eq]
    rintro rfl
    exact fresh member

end

/-! ## Sorting -/

section

variable {α : Type} {units : α → List UInt16}

@[simp] theorem mem_insertByUnits {x y : α} {sorted : List α} :
    x ∈ insertByUnits units y sorted ↔ x = y ∨ x ∈ sorted := by
  induction sorted with
  | nil => simp [insertByUnits]
  | cons first rest inductionHypothesis =>
    rw [insertByUnits]
    split
    · simp only [List.mem_cons, inductionHypothesis]
      exact or_left_comm
    · exact List.mem_cons

@[simp] theorem mem_sortByUnits {x : α} {xs : List α} :
    x ∈ sortByUnits units xs ↔ x ∈ xs := by
  induction xs with
  | nil => simp [sortByUnits]
  | cons y rest inductionHypothesis =>
    rw [sortByUnits, List.foldr_cons, mem_insertByUnits, List.mem_cons, ← inductionHypothesis,
      sortByUnits]

theorem insertByUnits_increasing (injective : Function.Injective units) {x : α} {sorted : List α}
    (increasing : sorted.Pairwise fun x y => units x < units y) (fresh : x ∉ sorted) :
    (insertByUnits units x sorted).Pairwise fun x y => units x < units y := by
  induction sorted with
  | nil => simp [insertByUnits]
  | cons y rest inductionHypothesis =>
    obtain ⟨first, increasing⟩ := List.pairwise_cons.mp increasing
    obtain ⟨different, fresh⟩ := not_or.mp (mt List.mem_cons.mpr fresh)
    rw [insertByUnits]
    split
    next before =>
      refine List.pairwise_cons.mpr ⟨fun z member => ?_, inductionHypothesis increasing fresh⟩
      rcases mem_insertByUnits.mp member with rfl | member
      · exact before
      · exact first z member
    next notBefore =>
      -- the new element stands before the first one, and so before all others
      have before : units x < units y := by
        rcases List.le_iff_lt_or_eq.mp (List.not_lt.mp notBefore) with before | equal
        · exact before
        · exact absurd (injective equal) different
      refine List.pairwise_cons.mpr ⟨fun z member => ?_, List.pairwise_cons.mpr ⟨first, increasing⟩⟩
      rcases List.mem_cons.mp member with rfl | member
      · exact before
      · exact List.lt_trans before (first z member)

theorem sortByUnits_increasing (injective : Function.Injective units) {xs : List α}
    (nodup : xs.Nodup) : (sortByUnits units xs).Pairwise fun x y => units x < units y := by
  induction xs with
  | nil => simp [sortByUnits]
  | cons y rest inductionHypothesis =>
    obtain ⟨fresh, nodup⟩ := List.nodup_cons.mp nodup
    have unsorted : y ∉ sortByUnits units rest := mt mem_sortByUnits.mp fresh
    exact insertByUnits_increasing injective (inductionHypothesis nodup) unsorted

end

end Text

/-! ## Host names -/

namespace Hostname

/-- A host name is known by its units. -/
theorem units_injective : Function.Injective units := by
  rintro ⟨first⟩ ⟨second⟩ rfl
  rfl

end Hostname

/-! ## Entries -/

namespace Hostnames

@[simp] theorem mem_ordered {name : Hostname} {names : List Hostname} :
    name ∈ ordered names ↔ name ∈ names :=
  Text.mem_sortByUnits.trans Text.mem_distinct

theorem ordered_increasing (names : List Hostname) : (ordered names).Pairwise (· < ·) :=
  Text.sortByUnits_increasing Hostname.units_injective (Text.nodup_distinct names)

/-- An entry with a host name that is not empty. -/
def IsNamed (entry : Entry) : Prop := ofEntry? entry ≠ none

instance (entry : Entry) : Decidable (IsNamed entry) :=
  inferInstanceAs (Decidable (¬ ofEntry? entry = none))

/-- Entries that all have host names can be read. -/
theorem flatten_of_named {items : List Entry} (named : ∀ item ∈ items, IsNamed item) :
    ∃ records, flatten items = .ok records := by
  have collected : ∃ names, items.mapM ofEntry? = some names := by
    induction items with
    | nil => exact ⟨[], rfl⟩
    | cons item rest inductionHypothesis =>
      obtain ⟨name, first⟩ := Option.ne_none_iff_exists'.mp (named item (List.mem_cons_self ..))
      obtain ⟨names, others⟩ := inductionHypothesis fun entry member =>
        named entry (List.mem_cons_of_mem _ member)
      exact ⟨name :: names, by simp [first, others]⟩
  obtain ⟨names, collected⟩ := collected
  exact ⟨ordered names, by simp only [flatten, collected]⟩

theorem ofEntry?_eq_some {entry : Entry} {name : Hostname} :
    ofEntry? entry = some name ↔ entry.hostname = .given name ∧ name ≠ "" := by
  unfold ofEntry?
  split
  next given equal =>
    by_cases empty : given = ""
    · simp +contextual [empty, equal, eq_comm]
    · simp only [empty, if_false, Option.some.injEq, equal, Part.given.injEq, ne_eq, iff_self_and]
      rintro rfl
      exact empty
  next equal => simp [equal]
  next equal => simp [equal]

/-- The names that are collected from entries are those of the entries, all of which have one. -/
theorem mem_of_mapM_ofEntry? {items : List Entry} {names : List Hostname}
    (collected : items.mapM ofEntry? = some names) (name : Hostname) :
    name ∈ names ↔ ∃ item ∈ items, item.hostname = .given name := by
  induction items generalizing names with
  | nil =>
    simp only [List.mapM_nil, Option.pure_def, Option.some.injEq] at collected
    simp [← collected]
  | cons item rest inductionHypothesis =>
    simp only [List.mapM_cons, Option.bind_eq_bind, Option.pure_def, Option.bind_eq_some_iff,
      Option.some.injEq] at collected
    obtain ⟨first, read, others, collected, rfl⟩ := collected
    obtain ⟨given, -⟩ := ofEntry?_eq_some.mp read
    simp [inductionHypothesis collected, or_and_right, exists_or, given, eq_comm]

/-- What is read from entries: their host names, without repetitions and in order. -/
theorem flatten_eq_ok {items : List Entry} {records : List Hostname}
    (read : flatten items = .ok records) :
    records.Pairwise (· < ·) ∧
      ∀ name, name ∈ records ↔ ∃ item ∈ items, item.hostname = .given name := by
  unfold flatten at read
  split at read
  next names collected =>
    cases read
    refine ⟨ordered_increasing names, fun name => ?_⟩
    rw [mem_ordered, mem_of_mapM_ofEntry? collected]
  next => cases read

theorem mapM_entries {names : List Hostname} (nonempty : ∀ name ∈ names, name ≠ "") :
    (entries names).mapM ofEntry? = some names := by
  induction names with
  | nil => rfl
  | cons name rest inductionHypothesis =>
    -- an entry is read as the name it was made from
    have first : ofEntry? { hostname := .given name } = some name := by
      simp [nonempty name, ofEntry?]
    have others := inductionHypothesis fun other member =>
      nonempty other (List.mem_cons_of_mem _ member)
    rw [entries] at others
    simp [entries, first, others]

/-- Host names are read back as the set that they are. -/
theorem flatten_entries {names : List Hostname} (nonempty : ∀ name ∈ names, name ≠ "") :
    flatten (entries (Text.distinct names)) = .ok (ordered names) := by
  have distinctNonempty : ∀ name ∈ Text.distinct names, name ≠ "" :=
    fun name member => nonempty name (Text.mem_distinct.mp member)
  have read := mapM_entries distinctNonempty
  simp only [flatten, read, ordered, Text.distinct_of_nodup (Text.nodup_distinct names)]

end Hostnames

/-! ## Accepted descriptions -/

namespace Desired

theorem ofJson_eq {description : Option Json} {desired : Desired}
    (accepted : ofJson description = .ok desired) :
    schema.issues description = [] ∧ desired = read (description.getD .null) := by
  unfold ofJson validate at accepted
  split at accepted
  next found valid =>
    split at valid
    · cases accepted
      exact ⟨by assumption, rfl⟩
    · cases valid
  next => cases accepted

theorem ofJson_of_issues {value : Json} (valid : schema.issues (some value) = []) :
    ofJson (some value) = .ok (read value) := by
  simp only [ofJson, validate, valid, Option.getD_some]

/-- The host names of a description that was read are not empty. -/
theorem records_nonempty {description : Option Json} {desired : Desired}
    (accepted : ofJson description = .ok desired) : ∀ name ∈ desired.records, name ≠ "" := by
  intro name member
  rw [(ofJson_eq accepted).2, read] at member
  obtain ⟨item, -, found⟩ := List.mem_filterMap.mp member
  unfold Hostnames.ofItem? at found
  split at found
  · split at found
    · cases found
    · cases found
      assumption
  · cases found

end Desired

end ReverseDns
