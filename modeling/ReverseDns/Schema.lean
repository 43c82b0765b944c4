import ReverseDns.Json.Basic
import ReverseDns.Text.Units

/-!
# Schemas

Descriptions of JSON values against which input is checked.

* `Schema` -- the shapes; the fields of a record carry remarks for tools
* `Schema.issues` -- all that is wrong with a value, with the path to it
* `Schema.document` -- the schema as a JSON Schema document
-/

namespace ReverseDns

/-- What is said about a field beside its shape. -/
structure Remarks where
  description : Option String := none
  /-- A change of the field replaces the resource. -/
  forceNew : Bool := false
  /-- The field is filled in by the service. -/
  computed : Bool := false

/-- The shape of a value. -/
inductive Schema where
  | text (minLength : Option Nat)
  | integer (minimum : Option Int)
  | boolean
  | choice (options : List String)
  | list (items : Schema)
  /-- An object whose values are texts. A name with a line break is not looked at. -/
  | table
  /-- An object with known fields: name, whether it is required, remarks, shape. -/
  | record (fields : List (String × Bool × Remarks × Schema))

/-- A field of a record: its name, whether it is required, remarks, shape. -/
abbrev Field := String × Bool × Remarks × Schema

def Field.required (name : String) (remarks : Remarks) (schema : Schema) : Field :=
  (name, true, remarks, schema)

def Field.optional (name : String) (remarks : Remarks) (schema : Schema) : Field :=
  (name, false, remarks, schema)

namespace Schema

/-! ## Issues -/

/-- One thing wrong with a value: where, and what. -/
structure Issue where
  path : String
  message : String
deriving Repr, DecidableEq

/-- The line for an issue; the value as a whole is at `/`. -/
def Issue.line (issue : Issue) : String :=
  (if issue.path = "" then "/" else issue.path) ++ ": " ++ issue.message

/-- One name of a path, with the escapes of JSON pointers. -/
def step (name : String) : String :=
  "/" ++ String.ofList (name.toList.flatMap fun c =>
    if c = '~' then ['~', '0'] else if c = '/' then ['~', '1'] else [c])

/-- Whether a name of a table is looked at: it has no line break. -/
def isPlainName (name : String) : Bool :=
  name.toList.all fun c => c != '\n' && c != '\r' && c.toNat != 0x2028 && c.toNat != 0x2029

def textIssues (minLength : Option Nat) (path : String) (value : Option Json) : List Issue :=
  match value with
  | some (.text s) =>
    match minLength with
    | some n =>
      if s.units.length < n then
        [⟨path, s!"Expected string length greater or equal to {n}"⟩]
      else []
    | none => []
  | _ => [⟨path, "Expected string"⟩]

def integerIssues (minimum : Option Int) (path : String) (value : Option Json) : List Issue :=
  match value with
  | some (.num x) =>
    if Decimal.isIntegral x then
      match minimum with
      | some n =>
        if Float.ofInt n ≤ x then []
        else [⟨path, s!"Expected integer to be greater or equal to {n}"⟩]
      | none => []
    else [⟨path, "Expected integer"⟩]
  | _ => [⟨path, "Expected integer"⟩]

def booleanIssues (path : String) (value : Option Json) : List Issue :=
  match value with
  | some (.bool _) => []
  | _ => [⟨path, "Expected boolean"⟩]

def choiceIssues (options : List String) (path : String) (value : Option Json) : List Issue :=
  match value with
  | some (.str s) => if options.contains s then [] else [⟨path, "Expected union value"⟩]
  | _ => [⟨path, "Expected union value"⟩]

def tableIssues (path : String) (value : Option Json) : List Issue :=
  match value with
  | some (.obj members) =>
    (members.filter fun member => isPlainName member.1.shown).flatMap fun member =>
      textIssues none (path ++ step member.1.shown) (some member.2)
  | _ => [⟨path, "Expected object"⟩]

/-- The issues of the items of a list, the first of which stands at `index`. -/
def itemIssues (issuesAt : String → Option Json → List Issue) (path : String) (index : Nat) :
    List Json → List Issue
  | [] => []
  | item :: rest =>
    issuesAt (path ++ "/" ++ Nat.repr index) (some item) ++
      itemIssues issuesAt path (index + 1) rest

def missingIssues (path : String) (members : Members)
    (fields : List Field) : List Issue :=
  (fields.filter fun field => field.2.1 && (Keyed.get? members field.1).isNone).map fun field =>
    ⟨path ++ step field.1, "Expected required property"⟩

mutual

/-- All that is wrong with a value, or with its absence. A missing field that is required is
reported twice: as missing, and as not of its shape. -/
def issuesAt (schema : Schema) (path : String) (value : Option Json) : List Issue :=
  match schema with
  | .text minLength => textIssues minLength path value
  | .integer minimum => integerIssues minimum path value
  | .boolean => booleanIssues path value
  | .choice options => choiceIssues options path value
  | .list items =>
    match value with
    | some (.arr found) => itemIssues (issuesAt items) path 0 found
    | _ => [⟨path, "Expected array"⟩]
  | .table => tableIssues path value
  | .record fields =>
    match value with
    | some (.obj members) => missingIssues path members fields ++ fieldIssues fields path members
    | _ => [⟨path, "Expected object"⟩]

/-- The issues of the fields of a record. An optional field that is absent has none. -/
def fieldIssues (fields : List (String × Bool × Remarks × Schema)) (path : String)
    (members : Members) : List Issue :=
  match fields with
  | [] => []
  | (name, required, _, schema) :: rest =>
    (match Keyed.get? members name with
      | some value => issuesAt schema (path ++ step name) (some value)
      | none => if required then issuesAt schema (path ++ step name) none else []) ++
    fieldIssues rest path members

end

/-- All that is wrong with a value, in lines. -/
def issues (schema : Schema) (value : Option Json) : List String :=
  (issuesAt schema "" value).map Issue.line

/-! ## Documents -/

def remarkMembers (remarks : Remarks) : Members :=
  Json.optional "description" (remarks.description.map .str) ++
  Json.optional "forceNew" (if remarks.forceNew then some (.bool true) else none) ++
  Json.optional "computed" (if remarks.computed then some (.bool true) else none)

/-- The members of the document for one option of a choice. -/
def optionDocument (option : String) : Json :=
  .obj [("const", .str option), ("type", .str "string")]

mutual

def documentMembers (schema : Schema) : Members :=
  match schema with
  | .text minLength =>
    Json.optional "minLength" (minLength.map fun n => .num (Float.ofNat n)) ++
      Json.optional "type" (some (.str "string"))
  | .integer minimum =>
    Json.optional "minimum" (minimum.map fun n => .num (Float.ofInt n)) ++
      Json.optional "type" (some (.str "integer"))
  | .boolean => [("type", .str "boolean")]
  | .choice options => [("anyOf", .arr (options.map optionDocument))]
  | .list items => [("type", .str "array"), ("items", .obj (documentMembers items))]
  | .table =>
    [("type", .str "object"),
     ("patternProperties", .obj [("^(.*)$", .obj [("type", .str "string")])])]
  | .record fields =>
    let required := (fields.filter fun field => field.2.1).map fun field => Json.str field.1
    ("type", .str "object") :: ("properties", .obj (fieldDocuments fields)) ::
      Json.optional "required" (if required.isEmpty then none else some (.arr required))

def fieldDocuments (fields : List (String × Bool × Remarks × Schema)) : Members :=
  match fields with
  | [] => []
  | (name, _, remarks, schema) :: rest =>
    (name, .obj (remarkMembers remarks ++ documentMembers schema)) :: fieldDocuments rest

end

/-- The schema as a JSON Schema document. -/
def document (schema : Schema) : Json := .obj (documentMembers schema)

/-- The names of the fields of a record whose remarks pass `test`. -/
def fieldsWith (test : Remarks → Bool) : Schema → List String
  | .record fields => (fields.filter fun field => test field.2.2.1).map Prod.fst
  | _ => []

end Schema

end ReverseDns
