import ReverseDns.Files.Path
import ReverseDns.Proofs.Slashes

/-!
# Directories of paths

The text of a path without its last step names the directory in which its last step stands.

* `Path.Shape`, `Path.shape` -- the forms of a path that names a file
* `Path.lookUpSteps_directory` -- the steps to the directory are those of the path but the last
* `Path.size_directory`, `Path.chars_directory` -- the directory asks nothing new of its text
-/

namespace ReverseDns.Path

/-! ## Steps -/

theorem steps_ofString (text : String) :
    (ofString text).steps =
      ((Text.splitChars text.toList).map String.ofList).filter (· ≠ "") := rfl

/-- What follows the last slash is the last step. -/
theorem steps_append {text : String} {front last : List Char}
    (parts : text.toList = front ++ '/' :: last) (plain : '/' ∉ last) (nonempty : last ≠ []) :
    (ofString text).steps = (ofString (String.ofList front)).steps ++ [String.ofList last] := by
  rw [steps_ofString, steps_ofString, parts, Text.splitChars_eq_splitOn,
    List.splitOn_append_cons_self, List.splitOn_eq_singleton plain, String.toList_ofList,
    Text.splitChars_eq_splitOn]
  simp [nonempty]

theorem steps_plain {text : String} (plain : '/' ∉ text.toList) (nonempty : text ≠ "") :
    (ofString text).steps = [text] := by
  rw [steps_ofString, Text.splitChars_eq_splitOn, List.splitOn_eq_singleton plain]
  simp [nonempty]

@[simp] theorem startsWithSlash_cons (c : Char) (rest : List Char) :
    startsWithSlash (c :: rest) = decide (c = '/') := by
  by_cases slash : c = '/'
  · simp [slash, startsWithSlash]
  · simp [slash, startsWithSlash]

/-! ## Forms of paths -/

/-- The forms of a path that names a file, with the text of its directory. -/
inductive Shape (text : String) : Prop where
  /-- The file stands in the working directory. -/
  | single (plain : '/' ∉ text.toList) (nonempty : text ≠ "") (directory : directory text = ".")
  /-- The file stands in the root. -/
  | rooted (last : List Char) (plain : '/' ∉ last) (nonempty : last ≠ [])
      (parts : text.toList = '/' :: last) (directory : directory text = "/")
  /-- The file stands in the root, which is written with two slashes. -/
  | twiceRooted (last : List Char) (plain : '/' ∉ last) (nonempty : last ≠ [])
      (parts : text.toList = '/' :: '/' :: last) (directory : directory text = "//")
  /-- The file stands in a directory that the path names. -/
  | nested (front last : List Char) (plain : '/' ∉ last) (nonempty : last ≠ [])
      (frontNonempty : front ≠ []) (parts : text.toList = front ++ '/' :: last)
      (directory : directory text = String.ofList front)

theorem beforeLastStep_append {front last : List Char} (plain : '/' ∉ last) (nonempty : last ≠ []) :
    beforeLastStep (front ++ '/' :: last).reverse = some front := by
  have reversed : (front ++ '/' :: last).reverse = last.reverse ++ '/' :: front.reverse := by simp
  have kept : (last.reverse ++ '/' :: front.reverse).dropWhile (· = '/') =
      last.reverse ++ '/' :: front.reverse := by
    cases ending : last.reverse with
    | nil => exact absurd (List.reverse_eq_nil_iff.mp ending) nonempty
    | cons c rest =>
      have other : c ≠ '/' := by
        rintro rfl
        exact plain (List.mem_reverse.mp (ending ▸ List.mem_cons_self ..))
      simp [other]
  have dropped : (last.reverse ++ '/' :: front.reverse).dropWhile (· ≠ '/') =
      '/' :: front.reverse := by
    rw [List.dropWhile_append_of_pos]
    · simp
    · intro c member
      have other : c ≠ '/' := fun equal => plain (equal ▸ List.mem_reverse.mp member)
      simpa using other
  simp only [beforeLastStep, reversed, kept, dropped, List.reverse_reverse]

theorem beforeLastStep_plain {cs : List Char} (plain : '/' ∉ cs) :
    beforeLastStep cs.reverse = none := by
  have dropped (rest : List Char) (plain : '/' ∉ rest) : rest.dropWhile (· ≠ '/') = [] := by
    have passed : ∀ c ∈ rest, decide (c ≠ '/') = true := by
      intro c member
      have other : c ≠ '/' := fun equal => plain (equal ▸ member)
      simpa using other
    rw [← List.append_nil rest, List.dropWhile_append_of_pos passed, List.dropWhile_nil]
  have sublist : ((cs.reverse).dropWhile (· = '/')).Sublist cs.reverse := List.dropWhile_sublist _
  rw [beforeLastStep, dropped]
  exact fun member => plain (List.mem_reverse.mp (sublist.subset member))

/-- A text that does not end in a slash is free of slashes, or it ends in one step behind a
slash. -/
theorem parts_of_unslashed {cs : List Char} (unslashed : startsWithSlash cs.reverse = false) :
    '/' ∉ cs ∨ ∃ front last, cs = front ++ '/' :: last ∧ '/' ∉ last ∧ last ≠ [] := by
  by_cases member : '/' ∈ cs
  · obtain ⟨back, rest, parts, plain⟩ := List.eq_append_cons_of_mem (List.mem_reverse.mpr member)
    refine .inr ⟨rest.reverse, back.reverse, ?_, by simpa using plain, ?_⟩
    · rw [← List.reverse_reverse cs, parts]
      simp
    · intro empty
      rw [List.reverse_eq_nil_iff] at empty
      rw [parts, empty] at unslashed
      cases unslashed
  · exact .inl member

theorem shape {text : String} (nonempty : text ≠ "") (unslashed : (ofString text).slashed = false) :
    Shape text := by
  have charsNonempty : text.toList ≠ [] := by simpa using nonempty
  cases chars : text.toList with
  | nil => exact absurd chars charsNonempty
  | cons first rest =>
    by_cases slash : first = '/'
    · subst slash
      have start : startsWithSlash text.toList = true := by rw [chars]; rfl
      have tail : text.toList.drop 1 = rest := by rw [chars]; rfl
      have restNonempty : rest ≠ [] := by
        rintro rfl
        simp [ofString, chars, startsWithSlash] at unslashed
      have restUnslashed : startsWithSlash rest.reverse = false := by
        cases ending : rest.reverse with
        | nil => rfl
        | cons c others =>
          simp only [ofString, chars, List.reverse_cons, ending] at unslashed
          rw [← unslashed, List.cons_append, startsWithSlash_cons, startsWithSlash_cons]
      rcases parts_of_unslashed restUnslashed with plain | ⟨front, last, rfl, plain, lastNonempty⟩
      · refine .rooted rest plain restNonempty chars ?_
        simp only [directory, start, if_true, tail, beforeLastStep_plain plain]
      · cases front with
        | nil =>
          refine .twiceRooted last plain lastNonempty chars ?_
          simp only [directory, start, if_true, tail, beforeLastStep_append plain lastNonempty]
        | cons c front =>
          refine .nested ('/' :: c :: front) last plain lastNonempty (List.cons_ne_nil _ _) chars ?_
          simp only [directory, start, if_true, tail, beforeLastStep_append plain lastNonempty]
    · have start : startsWithSlash text.toList = false := by
        simp [chars, slash]
      rcases parts_of_unslashed unslashed with plain | ⟨front, last, parts, plain, lastNonempty⟩
      · refine .single plain nonempty ?_
        simp only [directory, start, Bool.false_eq_true, if_false, beforeLastStep_plain plain]
      · refine .nested front last plain lastNonempty ?_ parts ?_
        · rintro rfl
          rw [chars] at parts
          exact slash (List.cons.inj parts).1
        · rw [directory, start, parts]
          simp only [Bool.false_eq_true, if_false, beforeLastStep_append plain lastNonempty]

/-! ## Directories -/

theorem dropLast_steps {text : String} {front last : List Char}
    (parts : text.toList = front ++ '/' :: last) (plain : '/' ∉ last) (nonempty : last ≠ []) :
    (ofString text).steps.dropLast = (ofString (String.ofList front)).steps := by
  rw [steps_append parts plain nonempty, List.dropLast_concat]

/-- The directory is found by the steps of the path but the last; a step to the directory itself
may follow them. -/
theorem lookUpSteps_directory {text : String} (shape : Shape text) :
    (ofString (directory text)).absolute = (ofString text).absolute ∧
      ∃ dots, (dots = [] ∨ dots = ["."]) ∧
        (ofString (directory text)).lookUpSteps = (ofString text).steps.dropLast ++ dots := by
  cases shape with
  | single plain nonempty directory =>
    refine ⟨?_, ["."], .inr rfl, ?_⟩
    · have relative : startsWithSlash text.toList = false := by
        cases chars : text.toList with
        | nil => rfl
        | cons c rest =>
          have other : c ≠ '/' := fun equal => plain (chars ▸ equal ▸ List.mem_cons_self ..)
          simp [other]
      rw [directory]
      exact relative.symm
    · rw [directory, steps_plain plain nonempty]
      change (ofString ".").lookUpSteps = ["."]
      decide
  | rooted last plain nonempty parts directory =>
    refine ⟨?_, ["."], .inr rfl, ?_⟩
    · rw [directory, ofString, ofString, parts]
      rfl
    · rw [directory, dropLast_steps (show text.toList = [] ++ '/' :: last from parts) plain nonempty]
      decide
  | twiceRooted last plain nonempty parts directory =>
    refine ⟨?_, ["."], .inr rfl, ?_⟩
    · rw [directory, ofString, ofString, parts]
      rfl
    · rw [directory, dropLast_steps (show text.toList = ['/'] ++ '/' :: last from parts) plain nonempty]
      decide
  | nested front last plain nonempty frontNonempty parts directory =>
    constructor
    · rw [directory, ofString, ofString, parts, String.toList_ofList]
      cases front with
      | nil => exact absurd rfl frontNonempty
      | cons c rest => simp
    · rw [directory, dropLast_steps parts plain nonempty, lookUpSteps]
      split
      · exact ⟨["."], .inr rfl, rfl⟩
      · exact ⟨[], .inl rfl, by simp⟩

theorem size_directory {text : String} (shape : Shape text) :
    (directory text).utf8ByteSize ≤ max 2 text.utf8ByteSize := by
  cases shape with
  | single _ _ directory | rooted _ _ _ _ directory | twiceRooted _ _ _ _ directory =>
    rw [directory]
    exact Nat.le_trans (by decide) (Nat.le_max_left 2 _)
  | nested front last _ _ _ parts directory =>
    have joined : text = String.ofList front ++ String.ofList ('/' :: last) := by
      apply String.toList_injective
      simp [parts]
    rw [directory, joined, String.utf8ByteSize_append]
    omega

theorem chars_directory {text : String} (shape : Shape text) {c : Char}
    (member : c ∈ (directory text).toList) : c ∈ text.toList ∨ c = '.' ∨ c = '/' := by
  cases shape with
  | single _ _ directory | rooted _ _ _ _ directory | twiceRooted _ _ _ _ directory =>
    rw [directory] at member
    simp at member
    simp [member]
  | nested front last _ _ _ parts directory =>
    rw [directory, String.toList_ofList] at member
    simp [parts, member]

end ReverseDns.Path
