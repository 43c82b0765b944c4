/-!
# Segments

A path is its segments with slashes between.

* `split` -- the segments of a path; the empty path is one empty segment
* `join` -- a path from its segments
* `bare` -- a path without a slash at its start and a slash at its end
-/

namespace ReverseDns.Text

def splitChars : List Char → List (List Char)
  | [] => [[]]
  | c :: rest =>
    if c = '/' then [] :: splitChars rest
    else match splitChars rest with
      | [] => [[c]]
      | first :: others => (c :: first) :: others

def split (path : String) : List String := (splitChars path.toList).map String.ofList

/-- The path with the given segments. -/
def join (segments : List String) : String := "/".intercalate segments

def dropLeadingSlash : List Char → List Char
  | '/' :: rest => rest
  | cs => cs

def dropTrailingSlash (cs : List Char) : List Char := (dropLeadingSlash cs.reverse).reverse

/-- A path without one slash at its start and then one at its end. -/
def bare (path : String) : String :=
  String.ofList (dropTrailingSlash (dropLeadingSlash path.toList))

end ReverseDns.Text
