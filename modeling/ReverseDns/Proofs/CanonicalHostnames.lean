import Mathlib.Data.List.Sort
import ReverseDns.Proofs.HostnameSets
import ReverseDns.Proofs.WideTexts

/-!
# One list for each set of host names

Host names are a set, and a set of host names has one list: whatever the order and the repetitions
in which they were given, the host names that are read back from their entries are the same list. A
list with items that are no host names is refused, with one issue for each of them; entries are
refused as soon as one of them has no host name.

* `Hostnames.IsHostname`, `Hostnames.Misfits` -- the items that are host names, and where the others
  stand
* `Text.FirstsOf` -- a list without its repetitions, in the order of first occurrence
* `Hostnames.Lists`, `Hostnames.Lists.unique` -- the one list of a set
* `Hostnames.exists_misfits`, `Hostnames.expand_of_hostnames` -- what comes of a list of items
* `Hostnames.flatten_of_nameless`, `Hostnames.exists_lists_of_named` -- what comes of a list of
  entries
* `Hostnames.one_list_for_each_set` -- all of it, and that the list is read back as itself
-/

namespace ReverseDns

namespace Text

/-! ## First occurrences -/

section

variable {α : Type} [DecidableEq α]

/-- The distinct elements of a list, each once, in the order in which they first occur. -/
structure FirstsOf (xs firsts : List α) : Prop where
  inOrder : firsts.Pairwise fun x y => xs.idxOf x < xs.idxOf y
  exact : ∀ {x}, x ∈ firsts ↔ x ∈ xs

theorem firstsOf_distinct (xs : List α) : FirstsOf xs (distinct xs) where
  exact := mem_distinct
  inOrder := by
    induction xs with
    | nil => exact .nil
    | cons x rest inductionHypothesis =>
      have later {y : α} (other : y ≠ x) : (x :: rest).idxOf y = rest.idxOf y + 1 :=
        List.idxOf_cons_ne rest other.symm
      rw [distinct, List.pairwise_cons]
      -- the first element stands before all others, each of which is one further on than in the rest
      constructor
      · intro y member
        have other : y ≠ x := by simpa using (List.mem_filter.mp member).2
        rw [List.idxOf_cons_self, later other]
        exact Nat.succ_pos _
      · refine (inductionHypothesis.filter _).imp_of_mem fun {y z} first second before => ?_
        have firstOther : y ≠ x := by simpa using (List.mem_filter.mp first).2
        have secondOther : z ≠ x := by simpa using (List.mem_filter.mp second).2
        rw [later firstOther, later secondOther]
        exact Nat.succ_lt_succ before

end

end Text

namespace Hostnames

/-! ## Lists of a set -/

/-- A list of the host names in a set: the units of each stand before those of the next. -/
structure Lists (hostname : Hostname → Prop) (records : List Hostname) : Prop where
  increasing : records.Pairwise fun s t => s.units < t.units
  exact : ∀ {name}, name ∈ records ↔ hostname name

/-- A set has one list only. -/
theorem Lists.unique {hostname : Hostname → Prop} {first second : List Hostname}
    (one : Lists hostname first) (other : Lists hostname second) : first = second := by
  have irreflexive : Std.Irrefl fun s t : Hostname => s.units < t.units :=
    ⟨fun s => List.lt_irrefl s.units⟩
  have antisymmetric : Std.Antisymm fun s t : Hostname => s.units < t.units :=
    ⟨fun _ _ before after => absurd after (List.lt_asymm before)⟩
  exact one.increasing.eq_of_mem_iff other.increasing fun name => one.exact.trans other.exact.symm

theorem lists_ordered (names : List Hostname) : Lists (· ∈ names) (ordered names) where
  increasing := ordered_increasing names
  exact := mem_ordered

/-! ## Items -/

theorem ofText_ofUnits (name : Hostname) : Hostname.ofText (.ofUnits name.units) = name :=
  congrArg Hostname.mk (WideText.units_ofUnits name.units)

/-- A host name is read from the string that is written for it. -/
theorem ofJson?_toJson (name : Hostname) : Hostname.ofJson? name.toJson = some name :=
  congrArg some (ofText_ofUnits name)

/-- A host name, as an item of a list: a text that is not empty. -/
def IsHostname (item : Json) : Prop := ∃ text : WideText, item = .text text ∧ text ≠ ""

/-- A string that was read is written back as it was. -/
theorem toJson_ofText {text : WideText} (joined : text.Joined) :
    (Hostname.ofText text).toJson = .text text :=
  congrArg Json.text joined.ofUnits_units

theorem ofText_ne_empty {text : WideText} (nonempty : text ≠ "") :
    Hostname.ofText text ≠ "" :=
  fun empty => nonempty (WideText.units_eq_nil.mp (congrArg Hostname.units empty))

theorem ofItem?_text {text : WideText} (nonempty : text ≠ "") :
    ofItem? (.text text) = some (.ofText text) :=
  if_neg (ofText_ne_empty nonempty)

theorem ofItem?_eq_none_iff {item : Json} : ofItem? item = none ↔ ¬IsHostname item := by
  constructor
  · rintro nothing ⟨text, rfl, nonempty⟩
    rw [ofItem?_text nonempty] at nothing
    cases nothing
  · intro misfit
    cases item with
    | text text =>
      have empty : text = "" := by
        by_contra nonempty
        exact misfit ⟨text, rfl, nonempty⟩
      rw [empty]
      rfl
    | null | bool _ | num _ | arr _ | obj _ => rfl

/-- The indices of the items that are no host names, in ascending order. -/
structure Misfits (items : List Json) (indices : List Nat) : Prop where
  ascending : indices.Pairwise (· < ·)
  exact : ∀ {index}, index ∈ indices ↔ ∃ item, items[index]? = some item ∧ ¬IsHostname item

/-- The issue with the item at an index. -/
def complaint (index : Nat) : String := s!"/records/{index}: expected a non-empty hostname"

theorem Misfits.fits {item : Json} {rest : List Json} {indices : List Nat}
    (misfits : Misfits rest indices) (fits : IsHostname item) :
    Misfits (item :: rest) (indices.map (· + 1)) where
  ascending := List.pairwise_map.mpr (misfits.ascending.imp Nat.succ_lt_succ)
  exact := by
    intro index
    cases index with
    | zero => simp [fits]
    | succ index => simp [misfits.exact]

theorem Misfits.misfit {item : Json} {rest : List Json} {indices : List Nat}
    (misfits : Misfits rest indices) (misfit : ¬IsHostname item) :
    Misfits (item :: rest) (0 :: indices.map (· + 1)) where
  ascending := List.pairwise_cons.mpr
    ⟨by simp, List.pairwise_map.mpr (misfits.ascending.imp Nat.succ_lt_succ)⟩
  exact := by
    intro index
    cases index with
    | zero => simp [misfit]
    | succ index => simp [misfits.exact]

/-- There is one issue for each item that is no host name, in the order of the items. -/
theorem exists_misfits (items : List Json) (start : Nat) :
    ∃ indices, Misfits items indices ∧
      issuesFrom start items = indices.map fun index => complaint (start + index) := by
  induction items generalizing start with
  | nil => exact ⟨[], ⟨.nil, by simp⟩, rfl⟩
  | cons item rest inductionHypothesis =>
    obtain ⟨indices, misfits, issues⟩ := inductionHypothesis (start + 1)
    have shifted : issuesFrom (start + 1) rest =
        (indices.map (· + 1)).map fun index => complaint (start + index) := by
      rw [issues, List.map_map]
      exact List.map_congr_left fun index _ => congrArg complaint (by simp; omega)
    cases read : ofItem? item with
    | some name =>
      have fits : IsHostname item := by
        by_contra misfit
        rw [ofItem?_eq_none_iff.mpr misfit] at read
        cases read
      exact ⟨_, misfits.fits fits, by simp only [issuesFrom, read, shifted]⟩
    | none =>
      refine ⟨_, misfits.misfit (ofItem?_eq_none_iff.mp read), ?_⟩
      simp only [issuesFrom, read, shifted, List.map_cons, Nat.add_zero]
      rfl

theorem Misfits.eq_nil_iff {items : List Json} {indices : List Nat}
    (misfits : Misfits items indices) : indices = [] ↔ ∀ item ∈ items, IsHostname item := by
  rw [List.eq_nil_iff_forall_not_mem]
  constructor
  · intro none item member
    obtain ⟨index, stands⟩ := List.mem_iff_getElem?.mp member
    by_contra misfit
    exact none index (misfits.exact.mpr ⟨item, stands, misfit⟩)
  · intro fits index member
    obtain ⟨item, stands, misfit⟩ := misfits.exact.mp member
    exact misfit (fits item (List.mem_of_getElem? stands))

/-- The texts of a list of items, by their units: two that have the same units are one text. -/
def texts (items : List Json) : List Hostname := items.filterMap Hostname.ofJson?

theorem filterMap_ofItem? {items : List Json} (fits : ∀ item ∈ items, IsHostname item) :
    items.filterMap ofItem? = texts items := by
  refine List.filterMap_congr fun item member => ?_
  obtain ⟨text, rfl, nonempty⟩ := fits item member
  exact ofItem?_text nonempty

theorem texts_nonempty {items : List Json} (fits : ∀ item ∈ items, IsHostname item) :
    ∀ name ∈ texts items, name ≠ "" := by
  intro name member
  obtain ⟨item, inside, read⟩ := List.mem_filterMap.mp member
  obtain ⟨text, rfl, nonempty⟩ := fits item inside
  cases read
  exact ofText_ne_empty nonempty

/-- A list of host names is expanded into one entry for each of them. -/
theorem expand_of_hostnames {items : List Json} (fits : ∀ item ∈ items, IsHostname item) :
    expand items = .ok (entries (Text.distinct (texts items))) := by
  obtain ⟨indices, misfits, issues⟩ := exists_misfits items 0
  rw [misfits.eq_nil_iff.mpr fits] at issues
  simp only [expand, ofJson, issues, List.map_nil, filterMap_ofItem? fits]
  rfl

theorem expand_of_misfit {items : List Json} (misfit : ∃ item ∈ items, ¬IsHostname item) :
    ∃ indices, Misfits items indices ∧ indices ≠ [] ∧
      expand items = .error (.invalid .hostnames (indices.map complaint)) := by
  obtain ⟨indices, misfits, issues⟩ := exists_misfits items 0
  obtain ⟨item, member, misfit⟩ := misfit
  have some : indices ≠ [] := fun none => misfit (misfits.eq_nil_iff.mp none item member)
  simp only [Nat.zero_add] at issues
  refine ⟨indices, misfits, some, ?_⟩
  obtain ⟨first, others, rfl⟩ := List.exists_cons_of_ne_nil some
  simp only [expand, ofJson, issues, List.map_cons]
  rfl

/-- A list of items is refused if and only if one of them is no host name. -/
theorem expand_refuses_iff {items : List Json} :
    (∃ failure, expand items = .error failure) ↔ ∃ item ∈ items, ¬IsHostname item := by
  constructor
  · rintro ⟨failure, refused⟩
    by_contra fits
    rw [expand_of_hostnames (by simpa using fits)] at refused
    cases refused
  · intro misfit
    obtain ⟨_, -, -, refused⟩ := expand_of_misfit misfit
    exact ⟨_, refused⟩

theorem fits_of_expand {items : List Json} {expanded : List Entry}
    (accepted : expand items = .ok expanded) : ∀ item ∈ items, IsHostname item := by
  by_contra misfit
  obtain ⟨failure, refused⟩ := expand_refuses_iff.mpr (by simpa using misfit)
  cases accepted.symm.trans refused

/-- A set of host names that is expanded is read back as its list. -/
theorem exists_lists_of_hostnames {items : List Json} (fits : ∀ item ∈ items, IsHostname item) :
    ∃ records, Lists (· ∈ texts items) records ∧ (expand items).bind flatten = .ok records := by
  refine ⟨_, lists_ordered (texts items), ?_⟩
  rw [expand_of_hostnames fits]
  exact flatten_entries (texts_nonempty fits)

/-! ## Entries -/

theorem flatten_of_nameless {found : List Entry} (nameless : ∃ entry ∈ found, ¬IsNamed entry) :
    flatten found = .error (.badAnswer .entryWithoutHostname) := by
  obtain ⟨entry, member, nameless⟩ := nameless
  have none : found.mapM ofEntry? = none := by
    induction found with
    | nil => cases member
    | cons first rest inductionHypothesis =>
      rcases List.mem_cons.mp member with rfl | member
      · simp [not_not.mp nameless]
      · simp [inductionHypothesis member]
  simp only [flatten, none]

theorem isNamed_iff {entry : Entry} :
    IsNamed entry ↔ ∃ name, entry.hostname = .given name ∧ name ≠ "" := by
  rw [IsNamed, Option.ne_none_iff_exists']
  simp only [ofEntry?_eq_some]

/-- Entries are refused if and only if one of them has no host name. -/
theorem flatten_refuses_iff {found : List Entry} :
    (∃ failure, flatten found = .error failure) ↔ ∃ entry ∈ found, ¬IsNamed entry := by
  constructor
  · rintro ⟨failure, refused⟩
    by_contra nameless
    have named : ∀ entry ∈ found, IsNamed entry := by simpa using nameless
    obtain ⟨records, read⟩ := flatten_of_named named
    cases refused.symm.trans read
  · intro nameless
    exact ⟨_, flatten_of_nameless nameless⟩

/-- The list of the host names of entries is read from them, and is read back as itself. -/
theorem exists_lists_of_named {found : List Entry} (named : ∀ entry ∈ found, IsNamed entry) :
    ∃ records, flatten found = .ok records ∧
      Lists (fun name => ∃ entry ∈ found, entry.hostname = .given name) records ∧
      (expand (records.map Hostname.toJson)).bind flatten = .ok records := by
  obtain ⟨records, read⟩ := flatten_of_named named
  obtain ⟨increasing, exact⟩ := flatten_eq_ok read
  have lists : Lists (fun name => ∃ entry ∈ found, entry.hostname = .given name) records :=
    ⟨increasing, fun {name} => exact name⟩
  have fits : ∀ item ∈ records.map Hostname.toJson, IsHostname item := by
    intro item member
    obtain ⟨name, inside, rfl⟩ := List.mem_map.mp member
    obtain ⟨entry, within, given⟩ := lists.exact.mp inside
    obtain ⟨other, same, nonempty⟩ := isNamed_iff.mp (named entry within)
    cases given.symm.trans same
    exact ⟨_, rfl, fun empty => nonempty (ofText_ofUnits name ▸ congrArg Hostname.ofText empty)⟩
  have unchanged : texts (records.map Hostname.toJson) = records := by
    have readBack : Hostname.ofJson? ∘ Hostname.toJson = some := funext ofJson?_toJson
    rw [texts, List.filterMap_map, readBack, List.filterMap_some]
  obtain ⟨others, again, expanded⟩ := exists_lists_of_hostnames fits
  rw [unchanged] at again
  rw [again.unique ⟨lists.increasing, Iff.rfl⟩] at expanded
  exact ⟨records, read, lists, expanded⟩

/-! ## Sets of host names -/

/-- A list of items is refused if and only if one of them is no host name, and then with one issue
for each of these in ascending order; else it is expanded into the distinct host names as they first
occur, each kept just as it was read, from which the one list of their set is read, however else the
same texts are given. Entries are refused if and only if one has no host name; else the list of
their host names is read from them, and is expanded and read back as itself. -/
theorem one_list_for_each_set (items : List Json) (found : List Entry) :
    ((∃ failure, expand items = .error failure) ↔ ∃ item ∈ items, ¬IsHostname item) ∧
    (∀ failure, expand items = .error failure →
      ∃ indices, Misfits items indices ∧
        failure = .invalid .hostnames (indices.map complaint)) ∧
    (∀ expanded, expand items = .ok expanded →
      ∃ firsts records, Text.FirstsOf (texts items) firsts ∧ expanded = entries firsts ∧
        (∀ text : WideText, text.Joined → .text text ∈ items →
          ∃ name ∈ firsts, name.toJson = .text text) ∧
        flatten expanded = .ok records ∧ Lists (· ∈ texts items) records ∧
        (∀ other, Lists (· ∈ texts items) other → other = records) ∧
        ∀ others, (∀ item ∈ others, IsHostname item) →
          (∀ name, name ∈ texts others ↔ name ∈ texts items) →
            (expand others).bind flatten = .ok records) ∧
    ((∃ failure, flatten found = .error failure) ↔
      ∃ entry ∈ found, ¬∃ name, entry.hostname = .given name ∧ name ≠ "") ∧
    (∀ records, flatten found = .ok records →
      Lists (fun name => ∃ entry ∈ found, entry.hostname = .given name) records ∧
        (expand (records.map Hostname.toJson)).bind flatten = .ok records) := by
  simp only [← isNamed_iff]
  refine ⟨expand_refuses_iff, ?_, ?_, flatten_refuses_iff, ?_⟩
  · intro failure refused
    obtain ⟨indices, misfits, -, expanded⟩ :=
      expand_of_misfit (expand_refuses_iff.mp ⟨failure, refused⟩)
    exact ⟨indices, misfits, Except.error.inj (refused.symm.trans expanded)⟩
  · intro expanded accepted
    have fits := fits_of_expand accepted
    obtain rfl := Except.ok.inj (accepted.symm.trans (expand_of_hostnames fits))
    obtain ⟨records, lists, read⟩ := exists_lists_of_hostnames fits
    rw [accepted] at read
    refine ⟨_, records, Text.firstsOf_distinct _, rfl, ?_, read, lists,
      fun other again => again.unique lists, fun others otherFits same => ?_⟩
    · intro text joined member
      have named : Hostname.ofText text ∈ texts items := List.mem_filterMap.mpr ⟨_, member, rfl⟩
      exact ⟨_, Text.mem_distinct.mpr named, toJson_ofText joined⟩
    obtain ⟨records', lists', read'⟩ := exists_lists_of_hostnames otherFits
    rw [read', lists'.unique ⟨lists.increasing, lists.exact.trans (same _).symm⟩]
  · intro records read
    have named : ∀ entry ∈ found, IsNamed entry := by
      by_contra nameless
      obtain ⟨failure, refused⟩ := flatten_refuses_iff.mpr (by simpa using nameless)
      cases read.symm.trans refused
    obtain ⟨_, again, lists, expanded⟩ := exists_lists_of_named named
    obtain rfl := Except.ok.inj (read.symm.trans again)
    exact ⟨lists, expanded⟩

/-- A surrogate pair stands before the last units, although its code point is beyond them. -/
example :
    (expand [.str "\uFFFF", .str "b", .str "😀", .str "b"]).bind flatten =
      .ok ["b", "😀", "\uFFFF"] := rfl

/-- Lone halves of pairs are told apart, also from the character in whose place they are shown. -/
example :
    (expand [.str "\uFFFD", .text ⟨"", [(0xD801, "")]⟩, .text ⟨"", [(0xD800, "")]⟩]).bind flatten =
      .ok [⟨[0xD800]⟩, ⟨[0xD801]⟩, "\uFFFD"] := rfl

end Hostnames

end ReverseDns
