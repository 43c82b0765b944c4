import ReverseDns.Text.Blank
import ReverseDns.Text.Segments
import ReverseDns.Text.LowerCase

/-!
# Slashes in texts

Slashes divide paths and keys. What stands between them has none, joining and splitting undo each
other, and neither lower case nor trimming moves a slash.

* `Slashless` -- a text without slashes
* `split_join`, `slashless_of_mem_split` -- splitting finds the segments, which have no slashes
* `join_injective` -- a joined text tells its slashless segments apart
* `mem_lowerFrom_slash` -- lower case neither adds nor drops a slash
* `trim_join`, `bare_join` -- what trimming leaves of a path that starts with a slash
-/

namespace ReverseDns.Text

/-- A text without slashes. -/
def Slashless (s : String) : Prop := '/' ∉ s.toList

instance (s : String) : Decidable (Slashless s) :=
  inferInstanceAs (Decidable ('/' ∉ s.toList))

/-! ## Splitting and joining -/

theorem splitChars_eq_splitOn (cs : List Char) : splitChars cs = cs.splitOn '/' := by
  induction cs with
  | nil => rfl
  | cons c rest inductionHypothesis =>
    rw [List.splitOn_cons_eq_if_modifyHead, ← inductionHypothesis]
    by_cases slash : c = '/'
    · simp [splitChars, slash]
    · cases divided : splitChars rest with
      | nil => simp [inductionHypothesis] at divided
      | cons first others => simp [splitChars, slash, divided]

theorem slashless_of_mem_splitChars {cs segment : List Char} (member : segment ∈ splitChars cs) :
    '/' ∉ segment := by
  induction cs generalizing segment with
  | nil =>
    rw [splitChars, List.mem_singleton] at member
    simp [member]
  | cons c rest inductionHypothesis =>
    by_cases slash : c = '/'
    · simp only [splitChars, slash, if_true, List.mem_cons] at member
      rcases member with rfl | member
      · simp
      · exact inductionHypothesis member
    · cases divided : splitChars rest with
      | nil => simp [splitChars_eq_splitOn] at divided
      | cons first others =>
        rw [divided] at inductionHypothesis
        simp only [splitChars, slash, if_false, divided, List.mem_cons] at member
        rcases member with rfl | member
        · have plain := inductionHypothesis (List.mem_cons_self ..)
          simp [Ne.symm slash, plain]
        · exact inductionHypothesis (List.mem_cons_of_mem _ member)

theorem slashless_of_mem_split {path segment : String} (member : segment ∈ split path) :
    Slashless segment := by
  obtain ⟨chars, divided, rfl⟩ := List.mem_map.mp member
  simpa [Slashless] using slashless_of_mem_splitChars divided

/-- Splitting finds the segments that were joined. -/
theorem split_join {segments : List String} (nonempty : segments ≠ [])
    (plain : ∀ segment ∈ segments, Slashless segment) : split (join segments) = segments := by
  have divided : splitChars (join segments).toList = segments.map String.toList := by
    rw [splitChars_eq_splitOn, join, String.toList_intercalate]
    apply List.splitOn_intercalate
    · intro chars member
      obtain ⟨segment, inside, rfl⟩ := List.mem_map.mp member
      exact plain segment inside
    · simpa using nonempty
  simp [split, divided, Function.comp_def]

/-- A joined text tells its segments apart. -/
theorem join_injective {first second : List String} (firstNonempty : first ≠ [])
    (firstPlain : ∀ segment ∈ first, Slashless segment) (secondNonempty : second ≠ [])
    (secondPlain : ∀ segment ∈ second, Slashless segment) (equal : join first = join second) :
    first = second := by
  rw [← split_join firstNonempty firstPlain, equal, split_join secondNonempty secondPlain]

/-! ## Lower case -/

/-- No run of upper-case characters has a slash or an ASCII capital among its images. -/
theorem capital_lt_image : ∀ run ∈ lowerRuns, 0x5A < run.image := by decide +kernel

/-- A number that is no character stands for the one with the number zero. -/
theorem toNat_ofNat (n : Nat) : (Char.ofNat n).toNat = n ∨ (Char.ofNat n).toNat = 0 := by
  by_cases valid : n.isValidChar
  · rw [Char.ofNat, dif_pos valid]
    exact .inl rfl
  · rw [Char.ofNat, dif_neg valid]
    exact .inr rfl

theorem ofNat_ne_slash {n : Nat} (large : 0x2F < n) : Char.ofNat n ≠ '/' := by
  intro equal
  have number : (Char.ofNat n).toNat = 0x2F := congrArg Char.toNat equal
  have shown := toNat_ofNat n
  omega

theorem mem_lowerChar_slash (c : Char) : '/' ∈ lowerChar c ↔ c = '/' := by
  unfold lowerChar
  split
  next ascii =>
    split
    next upper =>
      simp only [Bool.and_eq_true, decide_eq_true_eq] at upper
      have image := ofNat_ne_slash (show 0x2F < c.toNat + 0x20 by omega)
      constructor
      · intro member
        exact absurd (List.mem_singleton.mp member).symm image
      · rintro rfl
        simp at upper
    next => simp [eq_comm]
  next beyond =>
    have other : c ≠ '/' := by
      rintro rfl
      simp at beyond
    split
    · simp [other]
    · split
      next run found =>
        have large := capital_lt_image run (List.mem_of_find?_eq_some found)
        have image := ofNat_ne_slash (show 0x2F < run.image + (c.toNat - run.first) by omega)
        simp [other, Ne.symm image]
      next => simp [eq_comm]

/-- Lower case neither adds nor drops a slash. -/
theorem mem_lowerFrom_slash (before cs : List Char) : '/' ∈ lowerFrom before cs ↔ '/' ∈ cs := by
  induction cs generalizing before with
  | nil => simp [lowerFrom]
  | cons c rest inductionHypothesis =>
    simp only [lowerFrom, List.mem_append, inductionHypothesis, List.mem_cons, eq_comm (a := '/')]
    split
    next sigma =>
      have other : c ≠ '/' := by
        rintro rfl
        simp at sigma
      split <;> simp [other]
    next => rw [mem_lowerChar_slash]

theorem slashless_lowerCase (s : String) : Slashless (lowerCase s) ↔ Slashless s := by
  simp [Slashless, lowerCase, mem_lowerFrom_slash]

/-! ## The ends of a path -/

/-- A last segment is joined by a slash. -/
theorem toList_join_append {front : List String} (nonempty : front ≠ []) (last : String) :
    (join (front ++ [last])).toList = (join front).toList ++ '/' :: last.toList := by
  have joined : join (front ++ [last]) = join front ++ "/" ++ last := by
    rw [join, String.intercalate_append_of_ne_nil nonempty (List.cons_ne_nil _ _),
      String.intercalate_singleton, join]
  simp [joined]

/-- A first segment that is empty leaves a slash at the start. -/
theorem toList_join_cons {segments : List String} (nonempty : segments ≠ []) :
    (join ("" :: segments)).toList = '/' :: (join segments).toList := by
  have joined : join ("" :: segments) = "/" ++ join segments := by
    rw [join, String.intercalate_cons_of_ne_nil nonempty, join]
    simp
  simp [joined]

/-- Blanks at the end are those behind the last slash. -/
theorem dropBlankEnd_append (front last : List Char) :
    dropBlankEnd (front ++ '/' :: last) = front ++ '/' :: dropBlankEnd last := by
  have reversed : (front ++ '/' :: last).reverse = last.reverse ++ '/' :: front.reverse := by simp
  rw [dropBlankEnd, reversed, List.dropWhile_append, dropBlankEnd]
  split
  next allBlank =>
    rw [List.isEmpty_iff] at allBlank
    simp [isBlank_slash, allBlank]
  next => simp

theorem slashless_trimEnd {s : String} (plain : Slashless s) : Slashless (trimEnd s) := by
  intro member
  rw [trimEnd, String.toList_ofList, dropBlankEnd, List.mem_reverse] at member
  exact plain (List.mem_reverse.mp ((List.dropWhile_sublist _).subset member))

/-- Trimming a path that starts with a slash trims the end of its last segment. -/
theorem trim_join {front : List String} (nonempty : front ≠ []) (last : String) :
    trim (join ("" :: (front ++ [last]))) = join ("" :: (front ++ [trimEnd last])) := by
  have rooted : ("" :: front : List String) ≠ [] := List.cons_ne_nil _ _
  apply String.toList_injective
  rw [trim, String.toList_ofList, ← List.cons_append, toList_join_append rooted,
    ← List.cons_append, toList_join_append rooted, toList_join_cons nonempty, trimEnd,
    String.toList_ofList, dropBlanks, List.cons_append, List.dropWhile_cons_of_neg]
  · rw [← List.cons_append, dropBlankEnd_append]
  · simp [isBlank_slash]

theorem bare_join {front : List String} (nonempty : front ≠ []) {last : String}
    (lastNonempty : last ≠ "") (plain : Slashless last) :
    bare (join ("" :: (front ++ [last]))) = join (front ++ [last]) := by
  apply String.toList_injective
  have someEnd : last.toList.reverse ≠ [] := by simpa using lastNonempty
  rw [bare, String.toList_ofList, toList_join_cons (by simp), dropLeadingSlash,
    toList_join_append nonempty, dropTrailingSlash]
  have reversed : ((join front).toList ++ '/' :: last.toList).reverse =
      last.toList.reverse ++ '/' :: (join front).toList.reverse := by simp
  rw [reversed]
  cases ending : last.toList.reverse with
  | nil => exact absurd ending someEnd
  | cons c others =>
    have other : c ≠ '/' := by
      rintro rfl
      have member : '/' ∈ last.toList.reverse := by simp [ending]
      exact plain (List.mem_reverse.mp member)
    have kept : dropLeadingSlash (c :: others ++ '/' :: (join front).toList.reverse) =
        c :: others ++ '/' :: (join front).toList.reverse := by
      rw [List.cons_append, dropLeadingSlash]
      simpa using other
    rw [kept, ← ending, ← reversed, List.reverse_reverse]

theorem bare_join_empty {front : List String} (nonempty : front ≠ []) :
    bare (join ("" :: (front ++ [""]))) = join front := by
  apply String.toList_injective
  rw [bare, String.toList_ofList, toList_join_cons (by simp), dropLeadingSlash,
    toList_join_append nonempty, dropTrailingSlash]
  simp [dropLeadingSlash]

end ReverseDns.Text
