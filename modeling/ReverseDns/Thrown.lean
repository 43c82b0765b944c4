import ReverseDns.Json.Basic

/-!
# Thrown values

What a service may throw or report beside a status: an error object with any fields, or any other
value.

* `Thrown` -- the two kinds
* `Thrown.status?` -- the HTTP status that a thrown value carries
* `describe` -- one line about a thrown value: its code, its status and its message
* `Thrown.isDescribable` -- whether there is such a line
-/

namespace ReverseDns

/-- Something thrown. The fields of an error object include its name and its message, where it
has them. -/
inductive Thrown where
  | value (json : Json)
  | error (fields : Members)
deriving Inhabited

namespace Thrown

def ofMessage (message : String) : Thrown := .error [("message", .str message)]

def field? : Thrown → String → Option Json
  | .value json, name => json.get? name
  | .error fields, name => Keyed.get? fields name

def given? (thrown : Thrown) (name : String) : Option Json :=
  match thrown.field? name with
  | some .null => none
  | other => other

def name (fields : Members) : Json := (Keyed.get? fields "name").getD (.str "Error")

def message (fields : Members) : Json := (Keyed.get? fields "message").getD (.str "")

/-- The HTTP status that a thrown value carries: its `statusCode`, or its `status` when it has no
such field, if that is a number. -/
def status? (thrown : Thrown) : Option Float :=
  match thrown.given? "statusCode" with
  | some code => code.num?
  | none => (thrown.given? "status").bind Json.num?

/-- Whether a thrown value has a text as a whole. An error object has none if a field answers for
its text, or if its name or its message has none. -/
def hasText : Thrown → Bool
  | .value json => json.hasText
  | .error fields =>
    (Keyed.get? fields "toString").isNone && (name fields).hasText && (message fields).hasText

/-- The text of a thrown value as a whole: name and message of an error object, whichever are not
empty. -/
def text : Thrown → String
  | .value json => json.plainText
  | .error fields =>
    let name := (name fields).plainText
    let message := (message fields).plainText
    if name = "" then message
    else if message = "" then name
    else name ++ ": " ++ message

/-- The message that a thrown value shows: a text that is not empty. -/
def ownMessage? (thrown : Thrown) : Option String :=
  ((thrown.field? "message").bind Json.str?).filter (· ≠ "")

end Thrown

/-- Whether a number counts as given where zero stands for none. -/
def isTruthy (x : Float) : Bool := x < 0 || 0 < x

/-- One line from a code, a status and a text; a code that is empty and a status of zero are left
out. -/
def summary (code : String) (status : Option Float) (text : String) : String :=
  (if code = "" then "" else "[" ++ code ++ "] ") ++
  (match status with
    | some s => if isTruthy s then "(HTTP " ++ Decimal.spell s ++ ") " else ""
    | none => "") ++ text

/-- One line about what was thrown. A text stands for itself; an absent value and `null` are
unknown; all else shows its code, its status and its message. -/
def describe : Option Thrown → String
  | none | some (.value .null) => "Unknown error"
  | some (.value (.text s)) => s.shown
  | some thrown =>
    summary (((thrown.field? "code").bind Json.str?).getD "") thrown.status?
      (thrown.ownMessage?.getD thrown.text)

/-- Whether `describe` has a line for what was thrown: it has a message of its own, or else a text
as a whole. -/
def Thrown.isDescribable (thrown : Thrown) : Bool := thrown.ownMessage?.isSome || thrown.hasText

def Thrown.textComplaint : String := "Cannot convert object to primitive value"

/-- What is thrown where a value without a text is to be described. -/
def Thrown.withoutText : Thrown :=
  .error [("name", .str "TypeError"), ("message", .str Thrown.textComplaint)]

def isSuccess (status : Float) : Bool := 200 ≤ status && status < 300

end ReverseDns
