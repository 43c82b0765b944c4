import ReverseDns.Json.Basic
import Mathlib.Data.List.Pairwise
import Mathlib.Tactic.Common

/-!
# The order of members

An object lists the members whose names are list indices first, ascending, and then the others as
they came. Pairs in that order, with no name twice, make up an object that lists them as they are.

* `indexOf?_injective` -- an index has one name
* `Precedes`, `InOrder` -- the order of names
* `object_of_inOrder` -- pairs in order stay as they are
* `inOrder_object` -- the members of an object are in order
-/

namespace ReverseDns

/-! ## Tables of pairs -/

namespace Keyed

variable {κ α : Type} [DecidableEq κ]

theorem get?_eq_none_iff {entries : List (κ × α)} {key : κ} :
    get? entries key = none ↔ key ∉ keys entries := by
  induction entries with
  | nil => simp [keys]
  | cons entry rest inductionHypothesis =>
    obtain ⟨name, value⟩ := entry
    by_cases same : name = key
    · simp [same, keys]
    · simpa [same, keys, Ne.symm same] using inductionHypothesis

theorem insert_of_not_mem {entries : List (κ × α)} {key : κ} (value : α)
    (new : key ∉ keys entries) : insert entries key value = entries ++ [(key, value)] := by
  induction entries with
  | nil => rfl
  | cons entry entries inductionHypothesis =>
    obtain ⟨unequal, new⟩ := not_or.mp (mt List.mem_cons.mpr new)
    rw [insert, if_neg (Ne.symm unequal), inductionHypothesis new]
    rfl

theorem keys_insert_of_mem {entries : List (κ × α)} {key : κ} (value : α)
    (present : key ∈ keys entries) : keys (insert entries key value) = keys entries := by
  induction entries with
  | nil => cases present
  | cons entry entries inductionHypothesis =>
    rw [insert]
    split
    next => rfl
    next unequal =>
      have present := (List.mem_cons.mp present).resolve_left (Ne.symm unequal)
      exact congrArg (entry.1 :: ·) (inductionHypothesis present)

theorem nodup_keys_insert {entries : List (κ × α)} (distinct : (keys entries).Nodup) (key : κ)
    (value : α) : (keys (insert entries key value)).Nodup := by
  by_cases present : key ∈ keys entries
  · rw [keys_insert_of_mem value present]
    exact distinct
  · rw [insert_of_not_mem value present, keys, List.map_append]
    refine List.nodup_append.mpr ⟨distinct, List.pairwise_singleton _ key, ?_⟩
    rintro other inside last isLast rfl
    rw [List.mem_singleton.mp isLast] at inside
    exact present inside

theorem nodup_keys_erase {entries : List (κ × α)} (distinct : (keys entries).Nodup) (key : κ) :
    (keys (erase entries key)).Nodup :=
  distinct.sublist (List.filter_sublist.map _)

/-- No key comes twice. -/
theorem nodup_keys_ofPairs (pairs : List (κ × α)) : (keys (ofPairs pairs)).Nodup := by
  have carried : ∀ (rest entries : List (κ × α)), (keys entries).Nodup →
      (keys (rest.foldl (fun entries pair => insert entries pair.1 pair.2) entries)).Nodup := by
    intro rest
    induction rest with
    | nil => exact fun _ distinct => distinct
    | cons pair rest inductionHypothesis =>
      exact fun _ distinct => inductionHypothesis _ (nodup_keys_insert distinct _ _)
  exact carried pairs [] .nil

/-- Pairs of which no two have the same key are a table. -/
theorem ofPairs_of_nodup {pairs : List (κ × α)} (distinct : (keys pairs).Nodup) :
    ofPairs pairs = pairs := by
  have appended : ∀ rest entries : List (κ × α), (keys (entries ++ rest)).Nodup →
      rest.foldl (fun entries pair => insert entries pair.1 pair.2) entries = entries ++ rest := by
    intro rest
    induction rest with
    | nil => exact fun entries _ => (List.append_nil entries).symm
    | cons pair rest inductionHypothesis =>
      intro entries distinct
      have new : pair.1 ∉ keys entries := by
        rw [keys, List.map_append, List.map_cons, List.nodup_append] at distinct
        exact fun present => distinct.2.2 _ present _ (List.mem_cons_self ..) rfl
      have moved : entries ++ pair :: rest = (entries ++ [pair]) ++ rest := by simp
      rw [List.foldl_cons, insert_of_not_mem _ new, inductionHypothesis _ (moved ▸ distinct), moved]
  exact appended pairs [] distinct

end Keyed

namespace Json

/-! ## Indices -/

theorem digitChar_of_isDigit {c : Char} (digit : c.isDigit = true) :
    c.toNat - 48 < 10 ∧ Nat.digitChar (c.toNat - 48) = c := by
  have bounds : 48 ≤ c.toNat ∧ c.toNat ≤ 57 := Char.isDigit_iff_toNat.mp digit
  refine ⟨by omega, Char.toNat_inj.mp ?_⟩
  rw [Nat.toNat_digitChar_of_lt_ten (by omega)]
  omega

/-- Digits after those of a positive number are the last digits of what they make with it. -/
theorem toDigits_ofDigitChars {digits : List Char} (allDigits : ∀ c ∈ digits, c.isDigit = true)
    {n : Nat} (positive : 0 < n) :
    Nat.toDigits 10 (Nat.ofDigitChars 10 digits n) = Nat.toDigits 10 n ++ digits := by
  induction digits generalizing n with
  | nil => simp
  | cons c digits inductionHypothesis =>
    obtain ⟨small, same⟩ := digitChar_of_isDigit (allDigits c (List.mem_cons_self ..))
    have others := inductionHypothesis (fun c member => allDigits c (List.mem_cons_of_mem _ member))
      (n := 10 * n + (c.toNat - 48)) (by omega)
    have next := Nat.toDigits_append_toDigits (b := 10) (by decide) positive small
    rw [Nat.toDigits_of_lt_base small, same] at next
    rw [Nat.ofDigitChars_cons]
    refine others.trans ?_
    rw [← next, List.append_assoc]
    rfl

theorem toList_of_indexOf? {name : String} {n : Nat} (index : indexOf? name = some n) :
    name.toList = Nat.toDigits 10 n := by
  unfold indexOf? at index
  split at index
  next => cases index
  next c digits equal =>
    simp only [Bool.and_eq_true, Bool.or_eq_true, bne_iff_ne, List.isEmpty_iff] at index
    split at index
    next canonical =>
      obtain ⟨⟨allDigits, leading⟩, -⟩ := canonical
      have allDigits := List.all_eq_true.mp allDigits
      obtain ⟨small, same⟩ := digitChar_of_isDigit (allDigits c (List.mem_cons_self ..))
      split at index
      next =>
        obtain rfl := Option.some.inj index
        rw [equal]
        have first : Nat.toDigits 10 (c.toNat - 48) = [c] := by
          rw [Nat.toDigits_of_lt_base small, same]
        rcases leading with nonzero | alone
        · have positive : 0 < c.toNat - 48 := by
            by_contra zero
            have : c.toNat - 48 = 0 := by omega
            rw [this] at same
            exact nonzero same.symm
          have others := toDigits_ofDigitChars
            (fun c member => allDigits c (List.mem_cons_of_mem _ member)) positive
          rw [first] at others
          simpa [Nat.ofDigitChars_eq_foldl] using others.symm
        · subst alone
          simpa using first.symm
      next => cases index
    next => cases index

/-- What stands at the start of a text is shown, and so is a mark for each lone half. -/
theorem mem_shown {torn : List (Nat × String)} {start : String} {c : Char}
    (member : c ∈ start.toList ∨ torn ≠ [] ∧ c = '\uFFFD') :
    c ∈ (WideText.shown ⟨start, torn⟩).toList := by
  unfold WideText.shown
  induction torn generalizing start with
  | nil => simpa using member
  | cons piece torn inductionHypothesis =>
    refine inductionHypothesis (.inl ?_)
    rw [String.toList_append, String.toList_append, List.mem_append, List.mem_append]
    rcases member with member | ⟨-, rfl⟩
    · exact .inl (.inl member)
    · exact .inl (.inr (by decide))

/-- The name of an index has no lone halves. -/
theorem torn_of_indexOf? {name : WideText} {n : Nat} (index : indexOf? name.shown = some n) :
    name.torn = [] := by
  by_contra torn
  have mark : '\uFFFD' ∈ name.shown.toList := mem_shown (.inr ⟨torn, rfl⟩)
  rw [toList_of_indexOf? index] at mark
  have digit := Nat.isDigit_of_mem_toDigits (by decide) (by decide) mark
  revert digit
  decide

theorem indexOf?_injective {first second : WideText} {n : Nat}
    (firstIndex : indexOf? first.shown = some n) (secondIndex : indexOf? second.shown = some n) :
    first = second := by
  have texts : first.shown = second.shown :=
    String.toList_inj.mp ((toList_of_indexOf? firstIndex).trans (toList_of_indexOf? secondIndex).symm)
  obtain ⟨start, torn⟩ := first
  obtain ⟨otherStart, otherTorn⟩ := second
  obtain rfl : torn = [] := torn_of_indexOf? firstIndex
  obtain rfl : otherTorn = [] := torn_of_indexOf? secondIndex
  exact congrArg (WideText.mk · []) texts

/-! ## Names in order -/

/-- Whether a name may stand before another one: only an index stands before an index, and then a
smaller one. -/
def Precedes (first second : WideText) : Prop :=
  ∀ n ∈ indexOf? second.shown, ∃ m ∈ indexOf? first.shown, m < n

instance (first second : WideText) : Decidable (Precedes first second) :=
  inferInstanceAs (Decidable (∀ n ∈ indexOf? second.shown, ∃ m ∈ indexOf? first.shown, m < n))

/-- The names of the members of an object: each once, and in order. -/
structure InOrder (names : List WideText) : Prop where
  distinct : names.Nodup
  ascending : names.Pairwise Precedes

/-- The members whose names are indices, ascending, with the indices. -/
def indexed (members : Members) : List (Nat × (WideText × Json)) :=
  members.foldr (fun member sorted =>
    match indexOf? member.1.shown with
    | some n => insertIndexed n member sorted
    | none => sorted) []

theorem arrange_eq (members : Members) : arrange members =
    (indexed members).map Prod.snd ++
      members.filter fun member => (indexOf? member.1.shown).isNone := rfl

theorem indexed_cons_some {member : WideText × Json} {n : Nat} (members : Members)
    (index : indexOf? member.1.shown = some n) :
    indexed (member :: members) = insertIndexed n member (indexed members) := by
  simp [indexed, index]

theorem indexed_cons_none {member : WideText × Json} (members : Members)
    (plain : indexOf? member.1.shown = none) : indexed (member :: members) = indexed members := by
  simp [indexed, plain]

theorem insertIndexed_perm (n : Nat) (member : WideText × Json)
    (sorted : List (Nat × (WideText × Json))) :
    (insertIndexed n member sorted).Perm ((n, member) :: sorted) := by
  induction sorted with
  | nil => exact .refl _
  | cons first rest inductionHypothesis =>
    rw [insertIndexed]
    split
    · exact .refl _
    · exact (inductionHypothesis.cons first).trans (.swap ..)

theorem arrange_perm (members : Members) : (arrange members).Perm members := by
  induction members with
  | nil => exact .refl _
  | cons member members inductionHypothesis =>
    rw [arrange_eq] at inductionHypothesis ⊢
    cases index : indexOf? member.1.shown with
    | none =>
      rw [indexed_cons_none members index, List.filter_cons_of_pos (by simp [index])]
      exact List.perm_middle.trans (inductionHypothesis.cons member)
    | some n =>
      rw [indexed_cons_some members index, List.filter_cons_of_neg (by simp [index])]
      exact (((insertIndexed_perm n member _).map Prod.snd).append_right _).trans
        (inductionHypothesis.cons member)

theorem mem_indexed {members : Members} {entry : Nat × (WideText × Json)}
    (inside : entry ∈ indexed members) :
    indexOf? entry.2.1.shown = some entry.1 ∧ entry.2 ∈ members := by
  induction members with
  | nil => cases inside
  | cons member members inductionHypothesis =>
    cases index : indexOf? member.1.shown with
    | none =>
      rw [indexed_cons_none members index] at inside
      obtain ⟨found, within⟩ := inductionHypothesis inside
      exact ⟨found, List.mem_cons_of_mem _ within⟩
    | some n =>
      rw [indexed_cons_some members index, (insertIndexed_perm n member _).mem_iff] at inside
      rcases List.mem_cons.mp inside with rfl | inside
      · exact ⟨index, List.mem_cons_self ..⟩
      · obtain ⟨found, within⟩ := inductionHypothesis inside
        exact ⟨found, List.mem_cons_of_mem _ within⟩

/-- An index that is new is put in its place. -/
theorem pairwise_insertIndexed {n : Nat} {sorted : List (Nat × (WideText × Json))}
    (member : WideText × Json) (ascending : sorted.Pairwise (·.1 < ·.1))
    (new : ∀ entry ∈ sorted, entry.1 ≠ n) :
    (insertIndexed n member sorted).Pairwise (·.1 < ·.1) := by
  induction sorted with
  | nil => exact List.pairwise_singleton ..
  | cons first rest inductionHypothesis =>
    obtain ⟨least, ascending⟩ := List.pairwise_cons.mp ascending
    have unequal := new first (List.mem_cons_self ..)
    rw [insertIndexed]
    split
    next smaller =>
      refine List.pairwise_cons.mpr ⟨?_, List.pairwise_cons.mpr ⟨least, ascending⟩⟩
      intro entry inside
      rcases List.mem_cons.mp inside with rfl | inside
      · exact smaller
      · exact Nat.lt_trans smaller (least entry inside)
    next larger =>
      refine List.pairwise_cons.mpr ⟨?_, inductionHypothesis ascending fun entry inside =>
        new entry (List.mem_cons_of_mem _ inside)⟩
      intro entry inside
      rcases List.mem_cons.mp ((insertIndexed_perm n member rest).mem_iff.mp inside) with rfl | inside
      · change first.1 < n
        omega
      · exact least entry inside

theorem pairwise_indexed {members : Members} (distinct : (Keyed.keys members).Nodup) :
    (indexed members).Pairwise (·.1 < ·.1) := by
  induction members with
  | nil => exact .nil
  | cons member members inductionHypothesis =>
    obtain ⟨fresh, distinct⟩ := List.nodup_cons.mp distinct
    cases index : indexOf? member.1.shown with
    | none =>
      rw [indexed_cons_none members index]
      exact inductionHypothesis distinct
    | some n =>
      rw [indexed_cons_some members index]
      refine pairwise_insertIndexed member (inductionHypothesis distinct) ?_
      rintro entry inside rfl
      -- an index has one name, and that of the first member comes once
      obtain ⟨found, within⟩ := mem_indexed inside
      rw [indexOf?_injective index found] at fresh
      exact fresh (List.mem_map_of_mem within)

/-- Members are put in order. -/
theorem inOrder_arrange {members : Members} (distinct : (Keyed.keys members).Nodup) :
    InOrder (Keyed.keys (arrange members)) where
  distinct := ((arrange_perm members).map Prod.fst).nodup_iff.mpr distinct
  ascending := by
    rw [arrange_eq, Keyed.keys, List.pairwise_map, List.pairwise_append]
    refine ⟨?_, ?_, ?_⟩
    · rw [List.pairwise_map]
      refine (pairwise_indexed distinct).imp_of_mem ?_
      intro first second firstInside secondInside less n isIndex
      rw [(mem_indexed secondInside).1, Option.mem_some_iff] at isIndex
      exact ⟨first.1, (mem_indexed firstInside).1, isIndex ▸ less⟩
    · refine List.Pairwise.imp_of_mem ?_ (List.pairwise_of_forall fun _ _ => trivial)
      intro first second _ plain _ n isIndex
      have none := (List.mem_filter.mp plain).2
      rw [Option.isNone_iff_eq_none] at none
      rw [none] at isIndex
      cases isIndex
    · intro first _ second plain n isIndex
      have none := (List.mem_filter.mp plain).2
      rw [Option.isNone_iff_eq_none] at none
      rw [none] at isIndex
      cases isIndex

/-- Members that are in order stay as they are. -/
theorem arrange_of_ascending {members : Members}
    (ascending : (Keyed.keys members).Pairwise Precedes) : arrange members = members := by
  induction members with
  | nil => rfl
  | cons member members inductionHypothesis =>
    obtain ⟨first, ascending⟩ := List.pairwise_cons.mp ascending
    have others := inductionHypothesis ascending
    rw [arrange_eq] at others ⊢
    cases index : indexOf? member.1.shown with
    | none =>
      -- no index stands behind another name
      have empty : indexed members = [] := by
        refine List.eq_nil_iff_forall_not_mem.mpr fun entry inside => ?_
        obtain ⟨found, within⟩ := mem_indexed inside
        obtain ⟨m, isIndex, -⟩ := first _ (List.mem_map_of_mem within) _ found
        rw [index] at isIndex
        cases isIndex
      rw [empty] at others
      rw [indexed_cons_none members index, empty, List.filter_cons_of_pos (by simp [index])]
      simpa using others
    | some n =>
      have least : ∀ entry ∈ indexed members, n < entry.1 := by
        intro entry inside
        obtain ⟨found, within⟩ := mem_indexed inside
        obtain ⟨m, isIndex, less⟩ := first _ (List.mem_map_of_mem within) _ found
        rw [index, Option.mem_some_iff] at isIndex
        exact isIndex ▸ less
      have front : insertIndexed n member (indexed members) = (n, member) :: indexed members := by
        cases sorted : indexed members with
        | nil => rfl
        | cons entry rest =>
          rw [insertIndexed, if_pos (least entry (by rw [sorted]; exact List.mem_cons_self ..))]
      rw [indexed_cons_some members index, front, List.filter_cons_of_neg (by simp [index])]
      simpa using others

/-! ## Objects -/

/-- Pairs in order make up the object that lists them as they are. -/
theorem object_of_inOrder {pairs : Members} (inOrder : InOrder (Keyed.keys pairs)) :
    object pairs = .obj pairs := by
  rw [object, Keyed.ofPairs_of_nodup inOrder.distinct, arrange_of_ascending inOrder.ascending]

/-- An object lists its members in order. -/
theorem inOrder_object (pairs : Members) :
    InOrder (Keyed.keys (arrange (Keyed.ofPairs pairs))) :=
  inOrder_arrange (Keyed.nodup_keys_ofPairs pairs)

theorem mem_of_mem_object {pairs : Members} {member : WideText × Json}
    (inside : member ∈ arrange (Keyed.ofPairs pairs)) : member ∈ pairs :=
  Keyed.mem_of_mem_ofPairs ((arrange_perm _).mem_iff.mp inside)

end Json

end ReverseDns
