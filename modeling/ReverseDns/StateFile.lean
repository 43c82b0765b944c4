import ReverseDns.Files
import ReverseDns.Json.Parser
import ReverseDns.Json.Printer
import ReverseDns.Record.Tracked

/-!
# State files

What is remembered about a record set, in a JSON file that is written anew at every change.

* `StateFile.load` -- read a state file; a missing file remembers nothing
* `StateFile.render`, `StateFile.save` -- the text of a state file, and the writing of one
* `Change`, `Tracked.apply` -- the changes of what is remembered
* `Home` -- where something is remembered: in memory, or in the file at a path
* `Store` -- what is remembered, with its home
-/

namespace ReverseDns

/-- Read a JSON file. -/
def Files.readJson (files : Files) (path : String) : Except Failure Json :=
  match files.read path with
  | .error fault => .error (.file fault)
  | .ok text =>
    match Json.parse text with
    | none => .error .notJson
    | some value => .ok value

namespace StateFile

/-- Read a state file. Where there is nothing at the path, nothing is remembered. -/
def load (files : Files) (path : String) : Except Failure Tracked :=
  if files.has path then
    match files.readJson path with
    | .error failure => .error failure
    | .ok value => Tracked.ofJson value
  else .ok .empty

def render (tracked : Tracked) : String := tracked.toJson.pretty ++ "\n"

def save (files : Files) (path : String) (tracked : Tracked) : Except Failure Unit × Files :=
  match files.save path (render tracked) with
  | (.ok _, files) => (.ok (), files)
  | (.error fault, files) => (.error (.file fault), files)

end StateFile

/-! ## Changes -/

/-- A change of what is remembered. -/
inductive Change where
  | setId (id : WideText)
  | setAttributes (attributes : Attributes)
  /-- Forget everything. -/
  | clear

def Tracked.apply (tracked : Tracked) : Change → Tracked
  | .setId id => { tracked with id := some id }
  | .setAttributes attributes => { tracked with attributes := some attributes }
  | .clear => .empty

/-- Where something is remembered. -/
inductive Home where
  | memory
  | file (path : String)
deriving Repr, DecidableEq

/-- Write down what is remembered. In memory nothing has to be written. -/
def Home.keep (home : Home) (tracked : Tracked) (files : Files) : Except Failure Unit × Files :=
  match home with
  | .memory => (.ok (), files)
  | .file path => StateFile.save files path tracked

/-- What is remembered, with its home. -/
structure Store where
  home : Home := .memory
  tracked : Tracked := .empty

namespace Store

def load (files : Files) (path : String) : Except Failure Store :=
  (StateFile.load files path).map fun tracked => { home := .file path, tracked }

/-- Make a change and write it down at once. The change stands also where it cannot be written. -/
def apply (store : Store) (change : Change) (files : Files) :
    Store × Except Failure Unit × Files :=
  let store := { store with tracked := store.tracked.apply change }
  (store, store.home.keep store.tracked files)

end Store

end ReverseDns
