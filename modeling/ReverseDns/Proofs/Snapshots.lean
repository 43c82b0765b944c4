import ReverseDns.Proofs.Acceptance
import ReverseDns.Proofs.JsonTexts
import ReverseDns.Proofs.RecordSets
import ReverseDns.Proofs.Saving

/-!
# State files are read as they were written

A snapshot that is accepted is accepted again when it was written and read. So a state file that
was written is loaded, if what it remembers can be stored: the attributes have to be accepted.

* `Schema.Lasting` -- what the shape accepts it accepts again after writing and reading
* `Schema.issuesAt_elsewhere` -- what is accepted at one path is accepted at every other
* `Tracked.Storable` -- what can be stored
* `load_of_text` -- a state file that was written, loaded
* `storable_of_load`, `Stored.Storable` -- what was loaded can be stored, and what is read from the
  memory where its TTL is a whole number and its metadata are texts
-/

namespace ReverseDns

namespace Json

theorem get?_settleMembers (members : Members) (name : WideText) :
    Keyed.get? (settleMembers members) name = (Keyed.get? members name).map settle := by
  induction members with
  | nil => rfl
  | cons member members inductionHypothesis =>
    rw [settleMembers, Keyed.get?_cons, Keyed.get?_cons, inductionHypothesis]
    split <;> rfl

theorem mem_settleMembers {members : Members} {member : WideText × Json}
    (inside : member ∈ settleMembers members) :
    ∃ value, (member.1, value) ∈ members ∧ member.2 = settle value := by
  induction members with
  | nil => cases inside
  | cons first members inductionHypothesis =>
    rcases List.mem_cons.mp inside with rfl | inside
    · exact ⟨first.2, List.mem_cons_self .., rfl⟩
    · obtain ⟨value, within, equal⟩ := inductionHypothesis inside
      exact ⟨value, List.mem_cons_of_mem _ within, equal⟩

theorem mem_optional {name : String} {value : Option Json} {member : WideText × Json}
    (inside : member ∈ optional name value) : ∃ found, value = some found ∧ member = (↑name, found) := by
  cases value with
  | none => cases inside
  | some found => exact ⟨found, rfl, List.mem_singleton.mp inside⟩

end Json

namespace Schema

open Json (settle settleItems settleMembers)

/-! ## Shapes -/

/-- What has a shape has it again when it was written and read. -/
def Lasting (schema : Schema) : Prop :=
  ∀ path value, issuesAt schema path (some value) = [] →
    issuesAt schema path (some (settle value)) = []

theorem textIssues_eq_nil {path : String} {value : Option Json} :
    textIssues none path value = [] ↔ ∃ text, value = some (.text text) := by
  unfold textIssues
  split
  · simp
  next other =>
    constructor
    · exact fun empty => nomatch empty
    · rintro ⟨text, rfl⟩
      exact absurd rfl (other text)

theorem lasting_text : Lasting (.text none) := by
  intro path value accepted
  rw [issuesAt] at accepted ⊢
  obtain ⟨text, equal⟩ := textIssues_eq_nil.mp accepted
  cases equal
  exact accepted

theorem integerIssues_eq_nil {path : String} {value : Option Json} :
    integerIssues none path value = [] ↔
      ∃ x, value = some (.num x) ∧ Decimal.isIntegral x = true := by
  unfold integerIssues
  split
  next x =>
    split <;> simp_all
  next other =>
    constructor
    · exact fun empty => nomatch empty
    · rintro ⟨x, rfl, -⟩
      exact absurd rfl (other x)

theorem isIntegral_unsignedZero {x : Float} (integral : Decimal.isIntegral x = true) :
    Decimal.isIntegral (Decimal.unsignedZero x) = true := by
  unfold Decimal.unsignedZero
  split
  · decide +kernel
  · exact integral

theorem lasting_integer : Lasting (.integer none) := by
  intro path value accepted
  rw [issuesAt] at accepted ⊢
  obtain ⟨x, equal, integral⟩ := integerIssues_eq_nil.mp accepted
  cases equal
  have finite : Decimal.isFinite x = true := by
    rw [Decimal.isIntegral, Bool.and_eq_true] at integral
    exact integral.1
  rw [settle, if_pos finite]
  exact integerIssues_eq_nil.mpr ⟨_, rfl, isIntegral_unsignedZero integral⟩

theorem lasting_list {items : Schema} (lasting : Lasting items) : Lasting (.list items) := by
  have each : ∀ (found : List Json) path index,
      itemIssues (issuesAt items) path index found = [] →
        itemIssues (issuesAt items) path index (settleItems found) = [] := by
    intro found
    induction found with
    | nil => exact fun _ _ _ => rfl
    | cons item found inductionHypothesis =>
      intro path index accepted
      rw [itemIssues, List.append_eq_nil_iff] at accepted
      rw [settleItems, itemIssues, lasting _ _ accepted.1, inductionHypothesis _ _ accepted.2]
      rfl
  intro path value accepted
  cases value with
  | arr found =>
    simp only [settle, issuesAt] at accepted ⊢
    exact each found path 0 accepted
  | null | bool _ | num _ | text _ | obj _ => simp [issuesAt] at accepted

/-- A table has texts under all names that are looked at. -/
theorem tableIssues_eq_nil {path : String} {members : Members} :
    tableIssues path (some (.obj members)) = [] ↔
      ∀ member ∈ members, isPlainName member.1.shown = true → ∃ text, member.2 = .text text := by
  simp only [tableIssues, List.flatMap_eq_nil_iff, List.mem_filter, textIssues_eq_nil,
    Option.some.injEq, and_imp]

theorem lasting_table : Lasting .table := by
  intro path value accepted
  cases value with
  | obj members =>
    rw [issuesAt] at accepted ⊢
    rw [settle, tableIssues_eq_nil]
    intro member inside looked
    obtain ⟨value, within, equal⟩ := Json.mem_settleMembers inside
    obtain ⟨text, isText⟩ := tableIssues_eq_nil.mp accepted _ within looked
    rw [equal]
    cases isText
    exact ⟨text, rfl⟩
  | null | bool _ | num _ | text _ | arr _ => simp [issuesAt, tableIssues] at accepted

theorem obj_of_record {fields : List Field} {path : String} {value : Json}
    (accepted : issuesAt (.record fields) path (some value) = []) :
    ∃ members, value = .obj members := by
  cases value with
  | obj members => exact ⟨members, rfl⟩
  | null | bool _ | num _ | text _ | arr _ => simp [issuesAt] at accepted

theorem lasting_record {fields : List Field}
    (lasting : ∀ field ∈ fields, Lasting field.2.2.2) : Lasting (.record fields) := by
  intro path value accepted
  obtain ⟨members, rfl⟩ := obj_of_record accepted
  rw [issuesAt_record_eq_nil] at accepted
  rw [settle, issuesAt_record_eq_nil]
  intro field member
  have own := accepted field member
  unfold FieldAccepted at own ⊢
  rw [Json.get?_settleMembers]
  cases found : Keyed.get? members field.1 with
  | none =>
    rw [found] at own
    exact own
  | some value =>
    rw [found] at own
    exact lasting field member _ _ own

/-! ## Paths -/

theorem itemIssues_elsewhere {issuesAt : String → Option Json → List Issue}
    (elsewhere : ∀ path other value, issuesAt path value = [] → issuesAt other value = [])
    (path other : String) (index : Nat) (items : List Json)
    (accepted : itemIssues issuesAt path index items = []) :
    itemIssues issuesAt other index items = [] := by
  induction items generalizing index with
  | nil => rfl
  | cons item items inductionHypothesis =>
    rw [itemIssues, List.append_eq_nil_iff] at accepted ⊢
    exact ⟨elsewhere _ _ _ accepted.1, inductionHypothesis _ accepted.2⟩

mutual

/-- What is accepted at one path is accepted at every other. -/
theorem issuesAt_elsewhere (schema : Schema) (path other : String) (value : Option Json)
    (accepted : issuesAt schema path value = []) : issuesAt schema other value = [] := by
  match schema with
  | .text minLength =>
    unfold issuesAt textIssues at *
    grind
  | .integer minimum =>
    unfold issuesAt integerIssues at *
    split
    next x =>
      split
      next integral =>
        cases minimum with
        | none => rfl
        | some n => simp_all
      next fractional => simp [fractional] at accepted
    next => simp_all
  | .boolean =>
    unfold issuesAt booleanIssues at *
    grind
  | .choice options =>
    unfold issuesAt choiceIssues at *
    grind
  | .list items =>
    unfold issuesAt at *
    split at accepted
    next found =>
      exact itemIssues_elsewhere (issuesAt_elsewhere items) path other 0 found accepted
    next => cases accepted
  | .table =>
    unfold issuesAt tableIssues at *
    split at accepted
    next members =>
      simp only [List.flatMap_eq_nil_iff, textIssues_eq_nil] at accepted ⊢
      exact accepted
    next => cases accepted
  | .record fields =>
    unfold issuesAt at *
    split at accepted
    next members =>
      rw [List.append_eq_nil_iff, missingIssues_eq_nil] at accepted ⊢
      exact ⟨accepted.1, fieldIssues_elsewhere fields path other members accepted.2⟩
    next => cases accepted

theorem fieldIssues_elsewhere (fields : List Field) (path other : String) (members : Members)
    (accepted : fieldIssues fields path members = []) : fieldIssues fields other members = [] := by
  match fields with
  | [] => rw [fieldIssues]
  | (name, required, remarks, schema) :: rest =>
    rw [fieldIssues, List.append_eq_nil_iff] at accepted ⊢
    refine ⟨?_, fieldIssues_elsewhere rest path other members accepted.2⟩
    have own := accepted.1
    split
    next value found =>
      rw [found] at own
      exact issuesAt_elsewhere schema _ _ _ own
    next missing =>
      rw [missing] at own
      split
      next required =>
        rw [if_pos required] at own
        exact issuesAt_elsewhere schema _ _ _ own
      next => rfl

end

end Schema

theorem Attributes.lasting_schema : Attributes.schema.Lasting := by
  refine Schema.lasting_record fun field member => ?_
  fin_cases member
  · exact Schema.lasting_text
  · exact Schema.lasting_text
  · exact Schema.lasting_text
  · exact Schema.lasting_integer
  · exact Schema.lasting_text
  · exact Schema.lasting_list Schema.lasting_text
  · exact Schema.lasting_table

theorem Tracked.lasting_schema : Tracked.schema.Lasting := by
  refine Schema.lasting_record fun field member => ?_
  fin_cases member
  · exact Schema.lasting_text
  · exact Attributes.lasting_schema

/-! ## What can be stored -/

open Json (settle settleMembers Regular InOrder)

/-- Attributes that can be stored: they have a text, and a snapshot with them is accepted. -/
structure Attributes.Storable (attributes : Attributes) : Prop where
  regular : Regular (.obj attributes.members)
  accepted : Schema.issuesAt Attributes.schema ("" ++ Schema.step "attributes")
    (some (.obj attributes.members)) = []

theorem Attributes.storable_of_issues {attributes : Attributes}
    (regular : Regular (.obj attributes.members))
    (accepted : Attributes.schema.issues (some (.obj attributes.members)) = []) :
    attributes.Storable :=
  ⟨regular, Schema.issuesAt_elsewhere _ _ _ _ (List.map_eq_nil_iff.mp accepted)⟩

namespace Tracked

variable {tracked : Tracked}

structure Storable (tracked : Tracked) : Prop where
  id : ∀ id ∈ tracked.id, id.Joined
  attributes : ∀ attributes ∈ tracked.attributes, attributes.Storable

theorem storable_empty : Storable .empty := ⟨nofun, nofun⟩

theorem get?_toJson_id (tracked : Tracked) :
    tracked.toJson.get? "id" = tracked.id.map .text := by
  simp [toJson, Json.get?, Keyed.get?_append, Schema.get?_optional]

theorem get?_toJson_attributes (tracked : Tracked) :
    tracked.toJson.get? "attributes" =
      tracked.attributes.map fun attributes => .obj attributes.members := by
  simp [toJson, Json.get?, Keyed.get?_append, Schema.get?_optional]

/-- A snapshot of what can be stored is accepted. -/
theorem Storable.accepted (storable : tracked.Storable) :
    schema.issues (some tracked.toJson) = [] := by
  have id := get?_toJson_id tracked
  have attributes := get?_toJson_attributes tracked
  rw [toJson] at id attributes ⊢
  rw [schema, Schema.issues_record_eq_nil]
  intro field member
  fin_cases member
  · refine Schema.fieldAccepted_optional fun value found => ?_
    rw [Json.get?, found] at id
    obtain ⟨text, -, rfl⟩ := Option.map_eq_some_iff.mp id.symm
    rfl
  · refine Schema.fieldAccepted_optional fun value found => ?_
    rw [Json.get?, found] at attributes
    obtain ⟨stored, isStored, rfl⟩ := Option.map_eq_some_iff.mp attributes.symm
    exact (storable.attributes stored isStored).accepted

/-- The names in a snapshot are in order. -/
theorem inOrder_names : InOrder [("id" : WideText), ("attributes" : WideText)] :=
  ⟨by decide, by decide⟩

/-- A snapshot has a text if its parts have one. -/
theorem regular_toJson (id : ∀ id ∈ tracked.id, id.Joined)
    (attributes : ∀ attributes ∈ tracked.attributes, Regular (.obj attributes.members)) :
    Regular tracked.toJson := by
  have inside : ∀ member ∈ Json.optional "id" (tracked.id.map .text) ++ Json.optional "attributes"
      (tracked.attributes.map fun attributes => .obj attributes.members),
      member.1.Joined ∧ Regular member.2 := by
    intro member found
    rcases List.mem_append.mp found with found | found
    · obtain ⟨value, some, rfl⟩ := Json.mem_optional found
      obtain ⟨text, isText, rfl⟩ := Option.map_eq_some_iff.mp some
      exact ⟨WideText.joined_coe _, .text (id text isText)⟩
    · obtain ⟨value, some, rfl⟩ := Json.mem_optional found
      obtain ⟨stored, isStored, rfl⟩ := Option.map_eq_some_iff.mp some
      exact ⟨WideText.joined_coe _, attributes stored isStored⟩
  have names : (Keyed.keys (Json.optional "id" (tracked.id.map .text) ++ Json.optional "attributes"
      (tracked.attributes.map fun attributes => .obj attributes.members))).Sublist
        [("id" : WideText), ("attributes" : WideText)] := by
    cases tracked.id <;> cases tracked.attributes <;> simp [Json.optional, Keyed.keys]
  exact .obj ⟨inOrder_names.distinct.sublist names, inOrder_names.ascending.sublist names⟩
    (fun member found => (inside member found).1) fun member found => (inside member found).2

theorem Storable.regular (storable : tracked.Storable) : Regular tracked.toJson :=
  regular_toJson storable.id fun attributes stored => (storable.attributes attributes stored).regular

/-- What is remembered once it was written and read. -/
def settled (tracked : Tracked) : Tracked where
  id := tracked.id
  attributes := tracked.attributes.map fun attributes => { members := settleMembers attributes.members }

@[simp] theorem idText_settled (tracked : Tracked) : tracked.settled.idText = tracked.idText := rfl

/-- A snapshot that was written is read as what was remembered. -/
theorem Storable.ofJson_settle (storable : tracked.Storable) :
    ofJson (settle tracked.toJson) = .ok tracked.settled := by
  have accepted : schema.issues (some (settle tracked.toJson)) = [] := by
    have before := storable.accepted
    rw [Schema.issues, List.map_eq_nil_iff] at before ⊢
    exact lasting_schema _ _ before
  have valid : validate (some (settle tracked.toJson)) = .ok () := by
    rw [validate, accepted]
  have found (name : String) : (settle tracked.toJson).get? name =
      (tracked.toJson.get? name).map settle := by
    rw [toJson, settle]
    exact Json.get?_settleMembers _ _
  rw [ofJson, valid]
  simp only [read, found, get?_toJson_id, get?_toJson_attributes, settled]
  obtain ⟨id, attributes⟩ := tracked
  cases id <;> cases attributes <;> rfl

end Tracked

/-! ## State files -/

variable {files : Files} {path : String} {tracked : Tracked}

theorem Files.has_of_read {content : String} (found : files.read path = .ok content) :
    files.has path = true := by
  unfold Files.read at found
  unfold Files.has
  split at found
  next => cases found
  next clean =>
    split at found
    next => cases found
    next => cases found
    next reached => simp [clean, reached]

/-- A state file that was written is loaded. -/
theorem StateFile.load_of_text (storable : tracked.Storable)
    (text : files.text? path = some (render tracked)) : load files path = .ok tracked.settled := by
  have found := Files.text?_eq_some.mp text
  have parsed : Json.parse (render tracked) = some (settle tracked.toJson) :=
    Json.parse_pretty storable.regular (by decide) (Json.Reader.endsNumber_cons (by decide))
  rw [load, if_pos (Files.has_of_read found), Files.readJson, found]
  simp only [parsed]
  exact storable.ofJson_settle

/-- What was read from a text can be stored. -/
theorem Tracked.storable_of_ofJson {value : Json} (regular : Regular value)
    (read : ofJson value = .ok tracked) : tracked.Storable := by
  have valid : schema.issues (some value) = [] := by
    unfold ofJson validate at read
    split at read
    next valid =>
      split at valid
      · assumption
      · cases valid
    next => cases read
  obtain ⟨members, equal⟩ := Schema.obj_of_issues_record valid
  obtain rfl := Option.some.inj equal
  have fields := Schema.issues_record_eq_nil.mp valid
  have isRead : tracked = Tracked.read (.obj members) := by
    unfold ofJson at read
    split at read
    · exact (Except.ok.inj read).symm
    · cases read
  subst isRead
  have parts (name : String) (part : Json) (found : Keyed.get? members name = some part) :
      Regular part := by
    cases regular with
    | obj _ _ regular => exact regular _ (Keyed.mem_of_get? found)
  constructor
  · intro id isId
    obtain ⟨part, found, isText⟩ := Option.bind_eq_some_iff.mp isId
    have regular := parts "id" part found
    cases regular with
    | text joined =>
      cases isText
      exact joined
    | null | bool _ | num _ | arr _ | obj _ _ _ => cases isText
  · intro attributes isAttributes
    obtain ⟨found, isObject, rfl⟩ := Option.map_eq_some_iff.mp isAttributes
    obtain ⟨part, stands, isMembers⟩ := Option.bind_eq_some_iff.mp isObject
    have regular := parts "attributes" part stands
    cases part with
    | obj others =>
      cases isMembers
      refine ⟨regular, ?_⟩
      have own := fields (Field.optional "attributes" {} Attributes.schema) (.tail _ (.head _))
      unfold Schema.FieldAccepted at own
      rw [Field.optional] at own
      rw [Json.get?] at stands
      simp only [stands] at own
      exact own
    | null | bool _ | num _ | text _ | arr _ => cases isMembers

theorem Files.regular_of_readJson {value : Json} (read : files.readJson path = .ok value) :
    Regular value := by
  unfold readJson at read
  split at read
  next => cases read
  next =>
    split at read
    next => cases read
    next parsed =>
      cases read
      exact Json.regular_of_parse parsed

theorem StateFile.storable_of_load (loaded : load files path = .ok tracked) : tracked.Storable := by
  unfold load at loaded
  split at loaded
  next =>
    split at loaded
    next => cases loaded
    next value read => exact Tracked.storable_of_ofJson (Files.regular_of_readJson read) loaded
  next =>
    cases loaded
    exact Tracked.storable_empty

/-! ## What is read from a service -/

/-- Attributes read from a service can be stored: the TTL is a whole number and the tags are texts. -/
structure Remote.Storable (remote : Remote) : Prop where
  ttl : ∃ x, remote.ttl = some x ∧ Decimal.isIntegral x = true
  regular : Regular (.obj remote.tags)
  texts : ∀ member ∈ remote.tags, Schema.isPlainName member.1.shown = true →
    ∃ text, member.2 = .text text

theorem Attributes.inOrder_names : InOrder (["name", "resourceGroupName", "zoneName", "ttl", "etag",
    "records", "tags"].map fun name => { start := name }) :=
  ⟨by decide, by decide⟩

theorem Attributes.regular_ofRemote {remote : Remote} {x : Float} (ttl : remote.ttl = some x)
    (regular : Regular (.obj remote.tags)) : Regular (.obj (ofRemote remote).members) := by
  have joined (text : String) : Regular (.str text) := .text (WideText.joined_coe text)
  have named (name : String) : WideText.Joined name := WideText.joined_coe name
  have ttlShape : (remote.ttl.map Json.num).getD .null = .num x := by rw [ttl]; rfl
  have parts : ∀ member ∈ (ofRemote remote).members, member.1.Joined ∧ Regular member.2 := by
    have records : Regular (.arr (remote.records.map Hostname.toJson)) := .arr fun item isItem => by
      obtain ⟨name, -, rfl⟩ := List.mem_map.mp isItem
      exact .text (WideText.joined_ofPoints _)
    simp only [ofRemote, ttlShape, List.forall_mem_cons]
    exact ⟨⟨named _, joined _⟩, ⟨named _, joined _⟩, ⟨named _, joined _⟩, ⟨named _, .num x⟩,
      ⟨named _, joined _⟩, ⟨named _, records⟩, ⟨named _, regular⟩, nofun⟩
  exact .obj inOrder_names (fun member inside => (parts member inside).1)
    fun member inside => (parts member inside).2

/-- A list of host names is accepted as a list of texts. -/
theorem Schema.itemIssues_hostnames (path : String) (index : Nat) (names : List Hostname) :
    itemIssues (issuesAt (.text none)) path index (names.map Hostname.toJson) = [] := by
  induction names generalizing index with
  | nil => rfl
  | cons name names inductionHypothesis =>
    rw [List.map_cons, itemIssues, inductionHypothesis]
    rfl

theorem Attributes.storable_ofRemote {remote : Remote} (storable : remote.Storable) :
    (ofRemote remote).Storable := by
  obtain ⟨⟨x, ttl, integral⟩, regular, texts⟩ := storable
  have ttlShape : (remote.ttl.map Json.num).getD .null = .num x := by rw [ttl]; rfl
  refine ⟨regular_ofRemote ttl regular, ?_⟩
  rw [schema, Schema.issuesAt_record_eq_nil]
  simp only [ofRemote, ttlShape, List.forall_mem_cons]
  refine ⟨rfl, rfl, rfl, ?_, rfl, Schema.itemIssues_hostnames _ _ _, ?_, nofun⟩
  · exact Schema.integerIssues_eq_nil.mpr ⟨x, rfl, integral⟩
  · exact Schema.tableIssues_eq_nil.mpr texts

/-! ## What is read from the memory -/

/-- A stored record set whose attributes can be stored. -/
structure Stored.Storable (stored : Stored) : Prop where
  ttl : Decimal.isIntegral stored.ttl = true
  regular : Regular (.obj stored.metadata)
  texts : ∀ member ∈ stored.metadata, Schema.isPlainName member.1.shown = true →
    ∃ text, member.2 = .text text

theorem Stored.Storable.remote {stored : Stored} (storable : stored.Storable) (address : Address)
    (records : List Hostname) : (stored.remote address records).Storable where
  ttl := ⟨stored.ttl, rfl, storable.ttl⟩
  regular := storable.regular
  texts := storable.texts

theorem Schema.integral_of_integerIssues {minimum : Option Int} {path : String}
    {value : Option Json} (accepted : integerIssues minimum path value = []) :
    ∃ x, value = some (.num x) ∧ Decimal.isIntegral x = true := by
  unfold integerIssues at accepted
  split at accepted
  next x =>
    split at accepted
    next integral => exact ⟨x, rfl, integral⟩
    next => cases accepted
  next => cases accepted

theorem Desired.integral_ttl {description : Option Json} {desired : Desired}
    (accepted : ofJson description = .ok desired) : Decimal.isIntegral desired.ttl = true := by
  obtain ⟨valid, rfl⟩ := ofJson_eq accepted
  obtain ⟨members, rfl⟩ := Schema.obj_of_issues_record valid
  have own := Schema.issues_record_eq_nil.mp valid
    (Field.required "ttl" { description := some "Time to live in seconds" } (.integer (some 0)))
    (.tail _ (.tail _ (.tail _ (.tail _ (.head _)))))
  unfold Schema.FieldAccepted at own
  split at own
  next value found =>
    rw [Field.required, Schema.issuesAt] at own
    obtain ⟨x, equal, integral⟩ := Schema.integral_of_integerIssues own
    cases equal
    have ttl : (read (.obj members)).ttl = x := by
      simp only [Field.required] at found
      simp [read, Json.get?, found, Json.num?]
    simpa [ttl] using integral
  next => cases own

/-- The tags of an accepted description are texts. -/
theorem Desired.tags_texts {description : Option Json} {desired : Desired} {tags : Members}
    (accepted : ofJson description = .ok desired) (given : desired.tags = some tags) :
    description.bind (Json.get? · "tags") = some (.obj tags) ∧
      ∀ member ∈ tags, Schema.isPlainName member.1.shown = true → ∃ text, member.2 = .text text := by
  obtain ⟨valid, rfl⟩ := ofJson_eq accepted
  obtain ⟨members, rfl⟩ := Schema.obj_of_issues_record valid
  have own := Schema.issues_record_eq_nil.mp valid (Field.optional "tags" {} .table)
    (.tail _ (.tail _ (.tail _ (.tail _ (.tail _ (.head _))))))
  obtain ⟨part, found, isObject⟩ := Option.bind_eq_some_iff.mp given
  cases part with
  | obj others =>
    cases isObject
    refine ⟨found, ?_⟩
    unfold Schema.FieldAccepted at own
    rw [Option.getD_some, Json.get?] at found
    rw [Field.optional] at own
    simp only [found] at own
    exact Schema.tableIssues_eq_nil.mp own
  | null | bool _ | num _ | text _ | arr _ => cases isObject

/-- A record set that is written from an accepted description can be stored. -/
theorem Memory.storable_storedOf (memory : Memory) (key : RecordKey) {description : Json}
    {desired : Desired} (regular : Regular description)
    (accepted : Desired.ofJson (some description) = .ok desired) :
    (memory.storedOf key desired.properties).Storable := by
  have ttl := Desired.integral_ttl accepted
  cases given : desired.tags with
  | none =>
    have none : (memory.storedOf key desired.properties).metadata = [] := by
      simp [storedOf, storedUnder, Desired.properties, given, Part.get?]
    exact ⟨ttl, none ▸ .empty, by simp [none]⟩
  | some tags =>
    have some : (memory.storedOf key desired.properties).metadata = tags := by
      simp [storedOf, storedUnder, Desired.properties, given, Part.get?]
    obtain ⟨found, texts⟩ := Desired.tags_texts accepted given
    refine ⟨ttl, some ▸ ?_, some ▸ texts⟩
    cases regular with
    | obj _ _ regular => exact regular _ (Keyed.mem_of_get? found)
    | null | bool _ | num _ | text _ | arr _ => cases found

end ReverseDns
