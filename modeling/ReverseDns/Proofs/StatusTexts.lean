import ReverseDns.Failure

/-!
# Statuses in messages

Which HTTP status can be read in the message about a failed call: the one that stands alone or ahead
of the cause, or the one inside of what is said of the cause, if it is there at all.

* `Detail` -- the lines in which a status and a cause are put, with the status that they show
* `Detail.unique` -- a line shows one status at most
* `detail_remoteDetail` -- the status that is shown in fact
* `map_shownStatus_eq_iff` -- when that is the status of the failure
-/

namespace ReverseDns

/-! ## Lines -/

/-- What is said of a cause ahead of its status: its code, if it has one. -/
def Thrown.opening (thrown : Thrown) : String :=
  let code := ((thrown.field? "code").bind Json.str?).getD ""
  if code = "" then "" else "[" ++ code ++ "] "

/-- What is said of a cause after its status. -/
def Thrown.closing : Thrown → String
  | .value .null => "Unknown error"
  | .value (.text text) => text.shown
  | thrown => thrown.ownMessage?.getD thrown.text

/-- How a cause and a status are put into one line, and which status can be read in it: one that
stands alone, ahead of the cause, inside of what is said of the cause, or nowhere. -/
inductive Detail : Option Thrown → Option String → String → Prop where
  | nothing : Detail none none ""
  | alone (number : String) : Detail none (some number) ("HTTP " ++ number)
  | ahead (thrown : Thrown) (number : String) :
    Detail (some thrown) (some number)
      ("HTTP " ++ number ++ ": " ++ (thrown.opening ++ thrown.closing))
  | inside (thrown : Thrown) (number : String) :
    Detail (some thrown) (some number)
      (thrown.opening ++ ("(HTTP " ++ number ++ ") ") ++ thrown.closing)
  | nowhere (thrown : Thrown) : Detail (some thrown) none (thrown.opening ++ thrown.closing)

theorem Thrown.opening_cases (thrown : Thrown) :
    thrown.opening = "" ∨ ∃ rest, thrown.opening = "[" ++ rest := by
  unfold opening
  dsimp only
  split
  · exact .inl rfl
  · exact .inr ⟨_, String.append_assoc ..⟩

theorem ahead_ne_inside (thrown : Thrown) (first second : String) :
    "HTTP " ++ first ++ ": " ++ (thrown.opening ++ thrown.closing) ≠
      thrown.opening ++ ("(HTTP " ++ second ++ ") ") ++ thrown.closing := by
  intro same
  -- one line starts with a letter, the other with a bracket
  have letters := congrArg String.toList same
  rcases thrown.opening_cases with plain | ⟨rest, coded⟩
  · simp [plain] at letters
  · simp [coded] at letters

theorem nowhere_ne_ahead (thrown : Thrown) (number : String) :
    thrown.opening ++ thrown.closing ≠
      "HTTP " ++ number ++ ": " ++ (thrown.opening ++ thrown.closing) := by
  intro same
  -- one line is longer than the other
  have lengths := congrArg String.length same
  simp only [String.length_append] at lengths
  have positive : 0 < "HTTP ".length := by decide
  omega

theorem nowhere_ne_inside (thrown : Thrown) (number : String) :
    thrown.opening ++ thrown.closing ≠
      thrown.opening ++ ("(HTTP " ++ number ++ ") ") ++ thrown.closing := by
  intro same
  have lengths := congrArg String.length same
  simp only [String.length_append] at lengths
  have positive : 0 < "(HTTP ".length := by decide
  omega

theorem inside_injective (thrown : Thrown) {first second : String}
    (same : thrown.opening ++ ("(HTTP " ++ first ++ ") ") ++ thrown.closing =
      thrown.opening ++ ("(HTTP " ++ second ++ ") ") ++ thrown.closing) : first = second := by
  have letters := congrArg String.toList same
  exact String.toList_injective (by simpa using letters)

theorem ahead_injective (thrown : Thrown) {first second : String}
    (same : "HTTP " ++ first ++ ": " ++ (thrown.opening ++ thrown.closing) =
      "HTTP " ++ second ++ ": " ++ (thrown.opening ++ thrown.closing)) : first = second := by
  have letters := congrArg String.toList same
  exact String.toList_injective (by simpa using letters)

/-- A line shows one status at most. -/
theorem Detail.unique {cause : Option Thrown} {first second : Option String} {line : String}
    (one : Detail cause first line) (other : Detail cause second line) : first = second := by
  generalize same : line = again at other
  cases one with
  | nothing =>
    cases other with
    | nothing => rfl
    | alone number => exact absurd (String.append_eq_empty_iff.mp same.symm).1 (by decide)
  | alone number =>
    cases other with
    | nothing => exact absurd (String.append_eq_empty_iff.mp same).1 (by decide)
    | alone number => rw [String.append_right_inj] at same; rw [same]
  | ahead thrown number =>
    cases other with
    | ahead _ number => rw [ahead_injective thrown same]
    | inside _ number => exact absurd same (ahead_ne_inside thrown _ _)
    | nowhere => exact absurd same.symm (nowhere_ne_ahead thrown _)
  | inside thrown number =>
    cases other with
    | ahead _ number => exact absurd same.symm (ahead_ne_inside thrown _ _)
    | inside _ number => rw [inside_injective thrown same]
    | nowhere => exact absurd same.symm (nowhere_ne_inside thrown _)
  | nowhere thrown =>
    cases other with
    | ahead _ number => exact absurd same (nowhere_ne_ahead thrown _)
    | inside _ number => exact absurd same (nowhere_ne_inside thrown _)
    | nowhere => rfl

/-! ## The status that is shown -/

/-- The status that can be read in what is known about a failed call: the one that the cause
carries, unless that is zero or no number; where it carries none, the one that was reported. -/
def shownStatus (status : Option Float) (cause : Option Thrown) : Option Float :=
  match cause.bind Thrown.status? with
  | some carried => if isTruthy carried then some carried else none
  | none => status

theorem describe_some (thrown : Thrown) :
    describe (some thrown) = thrown.opening ++
      (match thrown.status? with
        | some carried => if isTruthy carried then "(HTTP " ++ Decimal.spell carried ++ ") " else ""
        | none => "") ++ thrown.closing := by
  cases thrown with
  | error fields => rfl
  | value json => cases json <;> rfl

/-- What is known about a failed call, in one line. -/
theorem detail_remoteDetail (status : Option Float) (cause : Option Thrown) :
    Detail cause ((shownStatus status cause).map Decimal.spell) (remoteDetail status cause) := by
  unfold remoteDetail shownStatus remoteStatus
  cases cause with
  | none =>
    cases status with
    | none => exact .nothing
    | some reported => exact .alone _
  | some thrown =>
    simp only [describe_some, Option.bind_some]
    cases thrown.status? with
    | none =>
      simp only [String.append_empty]
      cases status with
      | none => exact .nowhere thrown
      | some reported => exact .ahead thrown _
    | some carried =>
      dsimp only
      split
      next => cases status <;> exact .inside thrown _
      next =>
        simp only [String.append_empty]
        cases status <;> exact .nowhere thrown

/-- The status is shown unless the cause carries another one, or zero. -/
theorem map_shownStatus_eq_iff {status : Option Float} {cause : Option Thrown} :
    (shownStatus status cause).map Decimal.spell =
        (remoteStatus status cause).map Decimal.spell ↔
      ∀ carried, cause.bind Thrown.status? = some carried →
        isTruthy carried = true ∧
          some (Decimal.spell carried) = (remoteStatus status cause).map Decimal.spell := by
  unfold shownStatus
  cases carries : cause.bind Thrown.status? with
  | none => cases status <;> simp [remoteStatus, carries]
  | some carried =>
    cases truthy : isTruthy carried with
    | true => simp [truthy]
    | false => cases status <;> simp [remoteStatus, carries, truthy]

/-- A complaint with a line about what is known, if there is one. -/
def headed (complaint line : String) : String :=
  if line = "" then complaint else complaint ++ ": " ++ line

theorem remoteMessage_eq (complaint : String) (status : Option Float) (cause : Option Thrown) :
    remoteMessage complaint status cause = headed complaint (remoteDetail status cause) := rfl

end ReverseDns
