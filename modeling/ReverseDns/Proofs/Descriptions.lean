import ReverseDns.Proofs.CanonicalHostnames
import ReverseDns.Proofs.DoubleOrder
import ReverseDns.Proofs.Snapshots

/-!
# Descriptions of record sets

Which descriptions of a record set are accepted, and where the issues with the others are.

* `Schema.extends_of_mem_issuesAt` -- every issue is at the path of the value or below it
* `Schema.paths_itemIssues` -- the issues of a list of host names are at its misfits
* `Schema.count_issuesAt_record` -- the issues below one field are those of its value
* `Desired.Described`, `Desired.validate_eq_ok_iff` -- what an accepted description has
* `Desired.count_misfits` -- one issue for each item that is no host name
* `Desired.validate_described` -- all of it
-/

namespace ReverseDns

open Hostnames (IsHostname Misfits)

namespace Schema

/-! ## Shapes -/

theorem textIssues_of_isHostname {item : Json} (fits : IsHostname item) (path : String) :
    textIssues (some 1) path (some item) = [] := by
  obtain ⟨text, rfl, nonempty⟩ := fits
  exact textIssues_of_ne_empty nonempty path

/-- There is one issue with an item that is no host name. -/
theorem textIssues_of_misfit {item : Json} (misfit : ¬IsHostname item) (path : String) :
    ∃ message, textIssues (some 1) path (some item) = [⟨path, message⟩] := by
  cases item with
  | text text =>
    have empty : text = "" := by
      by_contra nonempty
      exact misfit ⟨text, rfl, nonempty⟩
    rw [empty]
    exact ⟨_, rfl⟩
  | null | bool _ | num _ | arr _ | obj _ => exact ⟨_, rfl⟩

theorem textIssues_one_eq_nil {path : String} {value : Json} :
    textIssues (some 1) path (some value) = [] ↔ IsHostname value := by
  constructor
  · intro accepted
    by_contra misfit
    obtain ⟨message, refused⟩ := textIssues_of_misfit misfit path
    cases accepted.symm.trans refused
  · exact fun fits => textIssues_of_isHostname fits path

theorem exact_zero : Decimal.exact (Float.ofInt 0) = 0 := by
  have zero : (Decimal.Binary.ofFloat (Float.ofInt 0)).significand = 0 := by decide +kernel
  simp [Decimal.exact, Decimal.Binary.value, zero]

/-- A whole number from zero on. -/
def IsNatural (value : Json) : Prop :=
  ∃ x, value = .num x ∧ Decimal.isFinite x = true ∧ ∃ n : ℕ, Decimal.exact x = n

theorem isNatural_num {x : Float} :
    IsNatural (.num x) ↔ Decimal.isIntegral x = true ∧ Float.ofInt 0 ≤ x := by
  have zero : Decimal.isFinite (Float.ofInt 0) = true := by decide +kernel
  constructor
  · rintro ⟨_, same, finite, n, equal⟩
    cases same
    rw [Decimal.le_iff_exact zero finite, exact_zero, equal]
    exact ⟨Decimal.isIntegral_iff.mpr ⟨finite, n, by rw [equal, Int.cast_natCast]⟩, n.cast_nonneg⟩
  · rintro ⟨integral, atLeast⟩
    obtain ⟨finite, n, equal⟩ := Decimal.isIntegral_iff.mp integral
    rw [Decimal.le_iff_exact zero finite, exact_zero, equal, Int.cast_nonneg_iff] at atLeast
    obtain ⟨m, rfl⟩ := Int.eq_ofNat_of_zero_le atLeast
    exact ⟨x, rfl, finite, m, by rw [equal, Int.cast_natCast]⟩

theorem integerIssues_zero_eq_nil {path : String} {value : Json} :
    integerIssues (some 0) path (some value) = [] ↔ IsNatural value := by
  cases value with
  | num x =>
    rw [isNatural_num, integerIssues]
    split
    next integral =>
      split
      next atLeast => exact iff_of_true rfl ⟨integral, atLeast⟩
      next below => exact iff_of_false (by simp) fun both => below both.2
    next broken => exact iff_of_false (by simp) fun both => broken both.1
  | null | bool _ | text _ | arr _ | obj _ =>
    exact iff_of_false (by simp [integerIssues]) (by rintro ⟨x, same, -⟩; cases same)

/-! ## Paths -/

/-- One path goes on where another ends. -/
def Extends (path longer : String) : Prop := path.toList <+: longer.toList

theorem extends_refl (path : String) : Extends path path := List.prefix_refl _

theorem extends_append (path rest : String) : Extends path (path ++ rest) := by
  rw [Extends, String.toList_append]
  exact List.prefix_append _ _

theorem Extends.trans {path longer longest : String} (first : Extends path longer)
    (second : Extends longer longest) : Extends path longest := List.IsPrefix.trans first second

theorem path_of_mem_textIssues {minLength : Option Nat} {path : String} {value : Option Json}
    {issue : Issue} (found : issue ∈ textIssues minLength path value) : issue.path = path := by
  unfold textIssues at found
  grind

theorem extends_of_mem_itemIssues {issuesAt : String → Option Json → List Issue}
    (own : ∀ path value, ∀ issue ∈ issuesAt path value, Extends path issue.path) {path : String}
    {index : Nat} {items : List Json} {issue : Issue}
    (found : issue ∈ itemIssues issuesAt path index items) : Extends path issue.path := by
  induction items generalizing index with
  | nil => cases found
  | cons item items inductionHypothesis =>
    rw [itemIssues, List.mem_append] at found
    rcases found with found | found
    · refine .trans ?_ (own _ _ _ found)
      rw [String.append_assoc]
      exact extends_append _ _
    · exact inductionHypothesis found

mutual

/-- Every issue with a value is at the path of the value or below it. -/
theorem extends_of_mem_issuesAt (schema : Schema) (path : String) (value : Option Json)
    (issue : Issue) (found : issue ∈ issuesAt schema path value) : Extends path issue.path := by
  match schema with
  | .text minLength =>
    rw [issuesAt] at found
    rw [path_of_mem_textIssues found]
    exact extends_refl path
  | .integer minimum =>
    unfold issuesAt integerIssues at found
    have := extends_refl path
    grind
  | .boolean =>
    unfold issuesAt booleanIssues at found
    have := extends_refl path
    grind
  | .choice options =>
    unfold issuesAt choiceIssues at found
    have := extends_refl path
    grind
  | .list items =>
    unfold issuesAt at found
    split at found
    · exact extends_of_mem_itemIssues (extends_of_mem_issuesAt items) found
    · obtain rfl := List.mem_singleton.mp found
      exact extends_refl path
  | .table =>
    unfold issuesAt tableIssues at found
    split at found
    · obtain ⟨member, -, own⟩ := List.mem_flatMap.mp found
      rw [path_of_mem_textIssues own]
      exact extends_append _ _
    · obtain rfl := List.mem_singleton.mp found
      exact extends_refl path
  | .record fields =>
    unfold issuesAt at found
    split at found
    · rcases List.mem_append.mp found with missing | own
      · obtain ⟨field, -, rfl⟩ := List.mem_map.mp missing
        exact extends_append _ _
      · obtain ⟨field, -, within⟩ := extends_of_mem_fieldIssues fields path _ issue own
        exact (extends_append _ _).trans within
    · obtain rfl := List.mem_singleton.mp found
      exact extends_refl path

theorem extends_of_mem_fieldIssues (fields : List Field) (path : String) (members : Members)
    (issue : Issue) (found : issue ∈ fieldIssues fields path members) :
    ∃ field ∈ fields, Extends (path ++ step field.1) issue.path := by
  match fields with
  | [] =>
    rw [fieldIssues] at found
    cases found
  | (name, required, remarks, schema) :: rest =>
    rw [fieldIssues] at found
    rcases List.mem_append.mp found with own | others
    · refine ⟨_, List.mem_cons_self .., ?_⟩
      split at own
      · exact extends_of_mem_issuesAt schema _ _ issue own
      · split at own
        · exact extends_of_mem_issuesAt schema _ _ issue own
        · cases own
    · obtain ⟨field, member, within⟩ := extends_of_mem_fieldIssues rest path members issue others
      exact ⟨field, List.mem_cons_of_mem _ member, within⟩

end

/-! ## Counting issues -/

def paths (issues : List Issue) : List String := issues.map Issue.path

theorem paths_append (first second : List Issue) :
    paths (first ++ second) = paths first ++ paths second := List.map_append ..

/-- The path of an item of a list. -/
def itemPath (path : String) (index : Nat) : String := path ++ "/" ++ Nat.repr index

theorem itemPath_injective (path : String) : Function.Injective (itemPath path) := by
  intro first second equal
  simp only [itemPath, String.ext_iff, String.toList_append, List.append_cancel_left_eq] at equal
  exact Nat.repr_inj.mp (String.ext equal)

/-- The issues of a list of host names are at the items that are none, in their order. -/
theorem paths_itemIssues (path : String) (start : Nat) (items : List Json) :
    ∃ indices, Misfits items indices ∧
      paths (itemIssues (issuesAt (.text (some 1))) path start items) =
        indices.map fun index => itemPath path (start + index) := by
  induction items generalizing start with
  | nil => exact ⟨[], ⟨.nil, by simp⟩, rfl⟩
  | cons item items inductionHypothesis =>
    -- what stands at an index of the rest stands one further on
    obtain ⟨indices, misfits, same⟩ := inductionHypothesis (start + 1)
    have shifted : paths (itemIssues (issuesAt (.text (some 1))) path (start + 1) items) =
        (indices.map (· + 1)).map fun index => itemPath path (start + index) := by
      rw [same, List.map_map]
      exact List.map_congr_left fun index _ => congrArg (itemPath path) (by simp; omega)
    rw [itemIssues, paths_append, shifted, issuesAt]
    by_cases fits : IsHostname item
    · exact ⟨_, misfits.fits fits, by rw [textIssues_of_isHostname fits]; rfl⟩
    · obtain ⟨message, refused⟩ := textIssues_of_misfit fits (path ++ "/" ++ Nat.repr start)
      exact ⟨_, misfits.misfit fits, by rw [refused]; rfl⟩

theorem paths_issuesAt_hostnames (path : String) (items : List Json) :
    ∃ indices, Misfits items indices ∧
      paths (issuesAt (.list (.text (some 1))) path (some (.arr items))) =
        indices.map (itemPath path) := by
  obtain ⟨indices, misfits, same⟩ := paths_itemIssues path 0 items
  simp only [zero_add] at same
  rw [issuesAt]
  exact ⟨indices, misfits, same⟩

theorem fieldIssues_append (before after : List Field) (path : String) (members : Members) :
    fieldIssues (before ++ after) path members =
      fieldIssues before path members ++ fieldIssues after path members := by
  induction before with
  | nil =>
    rw [List.nil_append, fieldIssues, List.nil_append]
  | cons field before inductionHypothesis =>
    obtain ⟨name, required, remarks, schema⟩ := field
    rw [List.cons_append, fieldIssues, fieldIssues, inductionHypothesis, List.append_assoc]

/-- Neither of two paths goes on where the other ends. -/
def Parted (first second : String) : Prop := ¬Extends first second ∧ ¬Extends second first

instance (first second : String) : Decidable (Parted first second) :=
  inferInstanceAs (Decidable (¬first.toList <+: second.toList ∧ ¬second.toList <+: first.toList))

theorem Parted.not_extends {first second target : String} (parted : Parted first second)
    (within : Extends second target) : ¬Extends first target := fun other =>
  (List.prefix_or_prefix_of_prefix other within).elim parted.1 parted.2

theorem Parted.symm {first second : String} (parted : Parted first second) :
    Parted second first := And.symm parted

/-- The fields of a record. -/
def fieldsOf : Schema → List Field
  | .record fields => fields
  | _ => []

section Counting

variable {fields : List Field} {field : Field} {path target : String} {members : Members}

theorem count_fieldIssues_elsewhere
    (elsewhere : ∀ field ∈ fields, ¬Extends (path ++ step field.1) target) :
    (paths (fieldIssues fields path members)).count target = 0 := by
  rw [List.count_eq_zero]
  intro found
  obtain ⟨issue, member, rfl⟩ := List.mem_map.mp found
  obtain ⟨field, inside, within⟩ := extends_of_mem_fieldIssues fields path members issue member
  exact elsewhere field inside within

theorem count_missingIssues_elsewhere
    (elsewhere : ∀ field ∈ fields, Keyed.get? members field.1 = none →
      ¬Extends (path ++ step field.1) target) :
    (paths (missingIssues path members fields)).count target = 0 := by
  rw [List.count_eq_zero]
  intro found
  obtain ⟨issue, missing, same⟩ := List.mem_map.mp found
  obtain ⟨field, filtered, rfl⟩ := List.mem_map.mp missing
  obtain ⟨member, absent⟩ := List.mem_filter.mp filtered
  rw [Bool.and_eq_true, Option.isNone_iff_eq_none] at absent
  exact elsewhere field member absent.2 (by rw [← same]; exact extends_refl _)

/-- The issues with a record that are at or below one of its fields are those with its value, if the
paths of its fields part. -/
theorem count_issuesAt_record {value : Json}
    (parted : fields.Pairwise fun first second =>
      Parted (path ++ step first.1) (path ++ step second.1))
    (member : field ∈ fields) (found : Keyed.get? members field.1 = some value)
    (within : Extends (path ++ step field.1) target) :
    (paths (issuesAt (.record fields) path (some (.obj members)))).count target =
      (paths (issuesAt field.2.2.2 (path ++ step field.1) (some value))).count target := by
  -- the issues with the fields before and after it are elsewhere, as paths only go on
  obtain ⟨before, after, rfl⟩ := List.append_of_mem member
  obtain ⟨-, later, earlier⟩ := List.pairwise_append.mp parted
  have first : ∀ other ∈ before, ¬Extends (path ++ step other.1) target := fun other inside =>
    (earlier other inside field (List.mem_cons_self ..)).not_extends within
  have last : ∀ other ∈ after, ¬Extends (path ++ step other.1) target := fun other inside =>
    ((List.pairwise_cons.mp later).1 other inside).symm.not_extends within
  have missing :
      (paths (missingIssues path members (before ++ field :: after))).count target = 0 := by
    refine count_missingIssues_elsewhere fun other inside absent => ?_
    rcases List.mem_append.mp inside with inside | inside
    · exact first other inside
    · rcases List.mem_cons.mp inside with rfl | inside
      · cases absent.symm.trans found
      · exact last other inside
  have own : fieldIssues (field :: after) path members =
      issuesAt field.2.2.2 (path ++ step field.1) (some value) ++
        fieldIssues after path members := by
    obtain ⟨name, required, remarks, schema⟩ := field
    rw [fieldIssues]
    simp only at found
    rw [found]
  rw [issuesAt, fieldIssues_append, own]
  simp only [paths_append, List.count_append, missing, count_fieldIssues_elsewhere first,
    count_fieldIssues_elsewhere last, zero_add, add_zero]

end Counting

/-! ## Fields -/

/-- A text that is not empty, as a host name is and each part of an address. -/
abbrev IsFilled (value : Json) : Prop := IsHostname value

theorem fieldAccepted_required_iff {path : String} {members : Members} {name : String}
    {remarks : Remarks} {schema : Schema} :
    FieldAccepted path members (Field.required name remarks schema) ↔
      ∃ value, Keyed.get? members name = some value ∧
        issuesAt schema (path ++ step name) (some value) = [] := by
  unfold FieldAccepted Field.required
  cases found : Keyed.get? members name with
  | none => simp
  | some value => simp

theorem fieldAccepted_optional_iff {path : String} {members : Members} {name : String}
    {remarks : Remarks} {schema : Schema} :
    FieldAccepted path members (Field.optional name remarks schema) ↔
      ∀ value, Keyed.get? members name = some value →
        issuesAt schema (path ++ step name) (some value) = [] := by
  unfold FieldAccepted Field.optional
  cases found : Keyed.get? members name with
  | none => simp
  | some value => simp

/-- A list of host names. -/
def IsHostnames (value : Json) : Prop :=
  ∃ items, value = .arr items ∧ ∀ item ∈ items, IsHostname item

/-- A table of texts, as far as it is looked at. -/
def IsTable (value : Json) : Prop :=
  ∃ members, value = .obj members ∧
    ∀ member ∈ members, isPlainName member.1.shown = true → ∃ text, member.2 = .text text

theorem issuesAt_hostnames_eq_nil {path : String} {value : Json} :
    issuesAt (.list (.text (some 1))) path (some value) = [] ↔ IsHostnames value := by
  cases value with
  | arr items =>
    obtain ⟨indices, misfits, same⟩ := paths_issuesAt_hostnames path items
    rw [← List.map_eq_nil_iff (f := Issue.path)]
    rw [paths] at same
    rw [same, List.map_eq_nil_iff, misfits.eq_nil_iff]
    constructor
    · exact fun fits => ⟨items, rfl, fits⟩
    · rintro ⟨_, same, fits⟩
      cases same
      exact fits
  | null | bool _ | num _ | text _ | obj _ =>
    exact iff_of_false (by simp [issuesAt]) (by rintro ⟨items, same, -⟩; cases same)

theorem tableIssues_eq_nil_iff {path : String} {value : Json} :
    tableIssues path (some value) = [] ↔ IsTable value := by
  cases value with
  | obj members =>
    rw [tableIssues_eq_nil]
    constructor
    · exact fun texts => ⟨members, rfl, texts⟩
    · rintro ⟨_, same, texts⟩
      cases same
      exact texts
  | null | bool _ | num _ | text _ | arr _ =>
    exact iff_of_false (by simp [tableIssues]) (by rintro ⟨items, same, -⟩; cases same)

end Schema

namespace Desired

open Schema (IsFilled IsHostnames IsNatural IsTable itemPath paths)

/-! ## Descriptions -/

/-- What the members of an accepted description are: filled texts for the parts of the address, host
names, a whole number from zero on, and, if they are there, tags and a text as the etag. -/
structure Described (members : Members) : Prop where
  name : ∃ value, Keyed.get? members "name" = some value ∧ IsFilled value
  resourceGroupName : ∃ value, Keyed.get? members "resourceGroupName" = some value ∧ IsFilled value
  zoneName : ∃ value, Keyed.get? members "zoneName" = some value ∧ IsFilled value
  records : ∃ value, Keyed.get? members "records" = some value ∧ IsHostnames value
  ttl : ∃ value, Keyed.get? members "ttl" = some value ∧ IsNatural value
  tags : ∀ value, Keyed.get? members "tags" = some value → IsTable value
  etag : ∀ value, Keyed.get? members "etag" = some value → ∃ text, value = .text text

theorem issues_eq_nil_iff_described {members : Members} :
    schema.issues (some (.obj members)) = [] ↔ Described members := by
  rw [schema, Schema.issues_record_eq_nil]
  simp only [List.forall_mem_cons, List.not_mem_nil, false_imp_iff, implies_true, and_true,
    Schema.fieldAccepted_required_iff, Schema.fieldAccepted_optional_iff,
    Schema.issuesAt_hostnames_eq_nil]
  simp only [Schema.issuesAt, Schema.textIssues_one_eq_nil, Schema.integerIssues_zero_eq_nil,
    Schema.tableIssues_eq_nil_iff, Schema.textIssues_eq_nil, Option.some.injEq]
  constructor
  · rintro ⟨name, resourceGroupName, zoneName, records, ttl, tags, etag⟩
    exact { name, resourceGroupName, zoneName, records, ttl, tags, etag }
  · intro described
    exact ⟨described.name, described.resourceGroupName, described.zoneName, described.records,
      described.ttl, described.tags, described.etag⟩

theorem issues_eq_nil_iff {value : Option Json} :
    schema.issues value = [] ↔ ∃ members, value = some (.obj members) ∧ Described members := by
  constructor
  · intro accepted
    obtain ⟨members, rfl⟩ := Schema.obj_of_issues_record accepted
    exact ⟨members, rfl, issues_eq_nil_iff_described.mp accepted⟩
  · rintro ⟨members, rfl, described⟩
    exact issues_eq_nil_iff_described.mpr described

theorem validate_eq_ok_iff {value : Option Json} :
    validate value = .ok () ↔ schema.issues value = [] := by
  unfold validate
  split
  next none => exact iff_of_true rfl none
  next some => exact iff_of_false nofun some

theorem validate_eq_error {value : Option Json} {failure : Failure}
    (refused : validate value = .error failure) :
    schema.issues value ≠ [] ∧ failure = .invalid .desired (schema.issues value) := by
  unfold validate at refused
  split at refused
  · cases refused
  next some => exact ⟨some, (Except.error.inj refused).symm⟩

theorem parted_fields : (Schema.fieldsOf schema).Pairwise fun first second =>
    Schema.Parted ("" ++ Schema.step first.1) ("" ++ Schema.step second.1) := by
  decide +kernel

/-- There is one issue at the path of each item that is no host name, and none at the others. -/
theorem count_misfits {members : Members} {items : List Json}
    (records : Keyed.get? members "records" = some (.arr items)) :
    ∃ indices, Misfits items indices ∧ ∀ index,
      (paths (Schema.issuesAt schema "" (some (.obj members)))).count (itemPath "/records" index) =
        if index ∈ indices then 1 else 0 := by
  have step : "" ++ Schema.step "records" = "/records" := by decide +kernel
  obtain ⟨indices, misfits, same⟩ := Schema.paths_issuesAt_hostnames "/records" items
  refine ⟨indices, misfits, fun index => ?_⟩
  have nodup : indices.Nodup := misfits.ascending.imp Nat.ne_of_lt
  have within : Schema.Extends ("" ++ Schema.step "records") (itemPath "/records" index) := by
    rw [step, itemPath, String.append_assoc]
    exact Schema.extends_append _ _
  have member : Field.required "records" { description := some "Target hostnames (set semantics)" }
      (.list (.text (some 1))) ∈ Schema.fieldsOf schema := .tail _ (.tail _ (.tail _ (.head _)))
  have own := Schema.count_issuesAt_record parted_fields member records within
  simp only [Field.required, step, same] at own
  rw [List.count_map_of_injective _ _ (Schema.itemPath_injective _), nodup.count] at own
  exact own

/-- A description is accepted if and only if it is an object with the members that are described.
Else it is refused with all issues, of which there is at least one; and where it has a list as its
records, there is one issue at the path of each item that is no host name, and none at the others.
Records that are accepted are expanded. -/
theorem validate_described (value : Option Json) :
    (validate value = .ok () ↔ ∃ members, value = some (.obj members) ∧ Described members) ∧
    (∀ failure, validate value = .error failure →
      Schema.issuesAt schema "" value ≠ [] ∧
        failure = .invalid .desired ((Schema.issuesAt schema "" value).map Schema.Issue.line)) ∧
    ∀ members items, value = some (.obj members) →
      Keyed.get? members "records" = some (.arr items) →
      (∃ indices, Misfits items indices ∧ ∀ index,
        (paths (Schema.issuesAt schema "" value)).count (itemPath "/records" index) =
          if index ∈ indices then 1 else 0) ∧
      (validate value = .ok () → ∃ expanded, Hostnames.expand items = .ok expanded) := by
  refine ⟨validate_eq_ok_iff.trans issues_eq_nil_iff, ?_, ?_⟩
  · intro failure refused
    obtain ⟨some, same⟩ := validate_eq_error refused
    exact ⟨fun none => some (congrArg (List.map Schema.Issue.line) none), same⟩
  · rintro members items rfl records
    refine ⟨count_misfits records, fun accepted => ?_⟩
    have described := issues_eq_nil_iff_described.mp (validate_eq_ok_iff.mp accepted)
    obtain ⟨_, found, _, rfl, fits⟩ := described.records
    cases records.symm.trans found
    exact ⟨_, Hostnames.expand_of_hostnames fits⟩

/-- A tag that is no text is let through if its name has a line break. -/
example :
    schema.issues (some (.obj [("name", .str "a"), ("resourceGroupName", .str "g"),
      ("zoneName", .str "z"), ("records", .arr [.str "h"]), ("ttl", .num 300),
      ("tags", .obj [("a\nb", .num 5)])])) = [] := by
  decide +kernel

end Desired

end ReverseDns
