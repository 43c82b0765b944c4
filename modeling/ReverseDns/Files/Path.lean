import ReverseDns.Text.Segments

/-!
# Paths

A path is a list of steps from the working directory, or from the root if it starts with a slash.
Repeated slashes count as one. A slash at the end asks for a directory.

* `Path.ofString` -- the steps of a path
* `Path.directory` -- the text of a path without its last step
-/

namespace ReverseDns

/-- A path that is taken apart. -/
structure Path where
  /-- Whether the path starts at the root. -/
  absolute : Bool
  /-- The steps, none of them empty. -/
  steps : List String
  /-- Whether a slash follows the last step. -/
  slashed : Bool
deriving Repr, DecidableEq

namespace Path

/-- Whether the first of these characters is a slash. -/
def startsWithSlash : List Char → Bool
  | '/' :: _ => true
  | _ => false

/-- The path with a text. -/
def ofString (text : String) : Path where
  absolute := startsWithSlash text.toList
  steps := (Text.split text).filter (· ≠ "")
  slashed := startsWithSlash text.toList.reverse

/-- The steps by which something that exists is found: a slash at the end is one more step, to the
directory itself. -/
def lookUpSteps (path : Path) : List String :=
  if path.slashed then path.steps ++ ["."] else path.steps

/-- What stands before the slash in front of the last step, where `reversed` is a path from its
end; nothing if it has one step only. -/
def beforeLastStep (reversed : List Char) : Option (List Char) :=
  match (reversed.dropWhile (· = '/')).dropWhile (· ≠ '/') with
  | _ :: rest => some rest.reverse
  | [] => none

/-- The text of a path without its last step and the slash in front of it. A single step leaves
the working directory, or the root. -/
def directory (text : String) : String :=
  let cs := text.toList
  if startsWithSlash cs then
    match beforeLastStep (cs.drop 1).reverse with
    | some [] => "//"
    | some rest => String.ofList ('/' :: rest)
    | none => "/"
  else match beforeLastStep cs.reverse with
    | some rest => String.ofList rest
    | none => "."

example : directory "a/b.json" = "a" ∧ directory "a//b/" = "a/" ∧ directory "" = "." ∧
    directory "/a" = "/" ∧ directory "//a" = "//" ∧ directory "/a/b" = "/a" := by decide

end Path

end ReverseDns
