import ReverseDns.Json.Basic

/-!
# Parts of an object

A part of what another system sends may be missing, or it may be there as `null`. The two mean the
same to most readers, but `null` is handed on as `null`.

* `Part` -- the three cases
* `Part.get?` -- the value, for a reader to whom `null` is no value
* `Part.json?` -- the part as the value of a member, if there is one
-/

namespace ReverseDns

/-- A part of an object with values in `α`. -/
inductive Part (α : Type) where
  | absent
  | null
  | given (value : α)
deriving Repr, DecidableEq, Inhabited

namespace Part

variable {α β : Type}

def get? : Part α → Option α
  | .given value => some value
  | .absent | .null => none

def map (f : α → β) : Part α → Part β
  | .absent => .absent
  | .null => .null
  | .given value => .given (f value)

def ofOption : Option α → Part α
  | some value => .given value
  | none => .absent

/-- The part that a member of an object is, where `read` reads its value. What is neither `null`
nor can be read is left out. -/
def ofMember (read : Json → Option α) : Option Json → Part α
  | none => .absent
  | some .null => .null
  | some value => ofOption (read value)

def json? (write : α → Json) : Part α → Option Json
  | .absent => none
  | .null => some .null
  | .given value => some (write value)

/-- Where `null` is handed on as an absent part. -/
def withoutNull (part : Part α) : Part α := ofOption part.get?

end Part

end ReverseDns
