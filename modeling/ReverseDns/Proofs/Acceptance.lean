import ReverseDns.Proofs.HostnameSets
import ReverseDns.Proofs.WideTexts

/-!
# Accepted values

What it means that a schema finds nothing wrong with an object, and what an accepted description
of a record set therefore has.

* `Schema.issues_record_eq_nil` -- an object is accepted field by field
* `Desired.address_nonempty` -- no part of a desired address is empty
* `Desired.describing` -- descriptions for examples
-/

namespace ReverseDns

namespace Schema

/-- A field of an object is accepted: what stands there has its shape, and what is required is
there. -/
def FieldAccepted (path : String) (members : Members) (field : Field) : Prop :=
  match Keyed.get? members field.1 with
  | some value => issuesAt field.2.2.2 (path ++ step field.1) (some value) = []
  | none => field.2.1 = false

theorem fieldIssues_eq_nil {fields : List Field} {path : String} {members : Members}
    (accepted : fieldIssues fields path members = []) :
    ∀ field ∈ fields, ∀ value, Keyed.get? members field.1 = some value →
      issuesAt field.2.2.2 (path ++ step field.1) (some value) = [] := by
  induction fields with
  | nil => intro field member; cases member
  | cons first rest inductionHypothesis =>
    obtain ⟨name, required, remarks, schema⟩ := first
    rw [fieldIssues, List.append_eq_nil_iff] at accepted
    intro field member value found
    rcases List.mem_cons.mp member with rfl | member
    · have own := accepted.1
      rw [found] at own
      exact own
    · exact inductionHypothesis accepted.2 field member value found

theorem fieldIssues_of_accepted {fields : List Field} {path : String} {members : Members}
    (accepted : ∀ field ∈ fields, FieldAccepted path members field) :
    fieldIssues fields path members = [] := by
  induction fields with
  | nil => rw [fieldIssues]
  | cons first rest inductionHypothesis =>
    obtain ⟨name, required, remarks, schema⟩ := first
    have own := accepted _ (List.mem_cons_self ..)
    have others := inductionHypothesis fun field member =>
      accepted field (List.mem_cons_of_mem _ member)
    rw [fieldIssues, others, List.append_nil]
    unfold FieldAccepted at own
    split
    next value found => simpa [found] using own
    next missing =>
      simp only [missing] at own
      simp [own]

theorem missingIssues_eq_nil {fields : List Field} {path : String} {members : Members} :
    missingIssues path members fields = [] ↔
      ∀ field ∈ fields, field.2.1 = true → (Keyed.get? members field.1).isSome := by
  simp only [missingIssues, List.map_eq_nil_iff, List.filter_eq_nil_iff, Bool.and_eq_true,
    Option.isNone_iff_eq_none, not_and, Option.isSome_iff_ne_none, ne_eq]

theorem issuesAt_record_eq_nil {fields : List Field} {path : String} {members : Members} :
    issuesAt (record fields) path (some (.obj members)) = [] ↔
      ∀ field ∈ fields, FieldAccepted path members field := by
  rw [issuesAt, List.append_eq_nil_iff, missingIssues_eq_nil]
  constructor
  · rintro ⟨present, shaped⟩ field member
    unfold FieldAccepted
    split
    next value found => exact fieldIssues_eq_nil shaped field member value found
    next missing =>
      have absent := present field member
      rw [missing] at absent
      simpa using absent
  · intro accepted
    refine ⟨fun field member required => ?_, fieldIssues_of_accepted accepted⟩
    have own := accepted field member
    unfold FieldAccepted at own
    split at own
    next value found => simp [found]
    next missing => simp [required] at own

/-- An object is accepted if all its fields are. -/
theorem issues_record_eq_nil {fields : List Field} {members : Members} :
    (record fields).issues (some (.obj members)) = [] ↔
      ∀ field ∈ fields, FieldAccepted "" members field := by
  rw [issues, List.map_eq_nil_iff, issuesAt_record_eq_nil]

theorem fieldAccepted_optional {path : String} {members : Members} {name : String}
    {remarks : Remarks} {schema : Schema}
    (accepted : ∀ value, Keyed.get? members name = some value →
      issuesAt schema (path ++ step name) (some value) = []) :
    FieldAccepted path members (Field.optional name remarks schema) := by
  unfold FieldAccepted
  split
  next value found => exact accepted value found
  next => rfl

theorem get?_optional (name key : String) (value : Option Json) :
    Keyed.get? (Json.optional name value) key = if name = key then value else none := by
  cases value with
  | none => simp [Json.optional]
  | some value => simp [Json.optional]

/-- A record is an object. -/
theorem obj_of_issues_record {fields : List Field} {value : Option Json}
    (accepted : (record fields).issues value = []) : ∃ members, value = some (.obj members) := by
  cases value with
  | none => simp [issues, issuesAt] at accepted
  | some found =>
    cases found with
    | obj members => exact ⟨members, rfl⟩
    | null | bool _ | num _ | text _ | arr _ => simp [issues, issuesAt] at accepted

/-- A text that is not empty has at least one unit. -/
theorem textIssues_of_ne_empty {text : WideText} (nonempty : text ≠ "") (path : String) :
    textIssues (some 1) path (some (.text text)) = [] := by
  have units : ¬text.units.length < 1 := fun short =>
    nonempty (WideText.units_eq_nil.mp (List.length_eq_zero_iff.mp (Nat.lt_one_iff.mp short)))
  exact if_neg units

/-- What is accepted as a text of at least one unit is a text that is not empty. -/
theorem text_of_textIssues {path : String} {value : Option Json}
    (accepted : textIssues (some 1) path value = []) :
    ∃ text : WideText, value = some (.text text) ∧ text ≠ "" := by
  unfold textIssues at accepted
  split at accepted
  next text =>
    refine ⟨text, rfl, fun empty => ?_⟩
    rw [empty] at accepted
    cases accepted
  next => cases accepted

end Schema

/-! ## Descriptions of record sets -/

namespace Desired

/-- A text that has to have at least one unit is not empty. -/
theorem textField_ne_empty {fields : List Field} {members : Members} {name : String}
    {remarks : Remarks} (accepted : ∀ field ∈ fields, Schema.FieldAccepted "" members field)
    (member : Field.required name remarks (.text (some 1)) ∈ fields) :
    textField (.obj members) name ≠ "" := by
  have own := accepted _ member
  unfold Schema.FieldAccepted at own
  split at own
  next value found =>
    rw [Field.required, Schema.issuesAt] at own
    obtain ⟨text, equal, nonempty⟩ := Schema.text_of_textIssues own
    cases equal
    have read : textField (.obj members) name = text.shown := by
      simp only [Field.required] at found
      simp [textField, Json.get?, found, Json.str?]
    rw [read]
    exact mt WideText.shown_eq_empty.mp nonempty
  next => cases own

/-- The parts of a desired address are not empty. -/
theorem address_nonempty {description : Option Json} {desired : Desired}
    (accepted : ofJson description = .ok desired) :
    desired.resourceGroupName ≠ "" ∧ desired.zoneName ≠ "" ∧ desired.name ≠ "" := by
  obtain ⟨valid, rfl⟩ := ofJson_eq accepted
  obtain ⟨members, rfl⟩ := Schema.obj_of_issues_record valid
  have fields := Schema.issues_record_eq_nil.mp valid
  exact ⟨textField_ne_empty fields (.tail _ (.head _)),
    textField_ne_empty fields (.tail _ (.tail _ (.head _))), textField_ne_empty fields (.head _)⟩

/-- A description of the record set with a name in one zone. -/
def describing (name : String) : Json :=
  .obj [("name", .str name), ("resourceGroupName", .str "g"), ("zoneName", .str "z"),
    ("records", .arr []), ("ttl", .num 60)]

end Desired

end ReverseDns
