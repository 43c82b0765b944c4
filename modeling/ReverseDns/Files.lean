import ReverseDns.Keyed
import ReverseDns.Files.Path
import ReverseDns.Files.Fault

/-!
# Files

Directories and text files below a working directory. A path is followed step by step: every step
but the last has to lead to a directory that is there, also where a later step leads back. There are
no permissions and no limits of space: what is refused is refused for what is at a path.

* `Files` -- the directories and files
* `Files.find` -- follow a path
* `Files.read`, `Files.has` -- the text of a file, and whether there is anything at a path
* `Files.save` -- write a file, in directories that are made where they are missing
* `Files.remove`, `Files.texts` -- take a file away, and list all files
-/

namespace ReverseDns

/-- A place: the steps to it from the working directory, the last step first. A step `..` leads out
of the working directory, and `/` is the root. -/
abbrev Place := List String

namespace Place

/-- Whether a place is the working directory, a directory around it, or the root. -/
def isAround (place : Place) : Bool := place.all fun step => step = ".." || step = "/"

def parent : Place → Place
  | [] => [".."]
  | step :: rest =>
    if step = ".." then ".." :: step :: rest else if step = "/" then step :: rest else rest

def next (place : Place) (step : String) : Place :=
  if step = "." then place else if step = ".." then place.parent else step :: place

/-- Whether a place is inside the working directory. -/
def isInside (place : Place) : Bool := place.all fun step => step ≠ ".." && step ≠ "/"

def path (place : Place) : String := Text.join place.reverse

end Place

/-- What may be at a place. -/
inductive Node where
  | text (content : String)
  | directory
deriving Repr, DecidableEq

/-- The directories and files that are there, by place. -/
structure Files where
  nodes : List (Place × Node) := []
deriving Repr, DecidableEq

namespace Files

/-- What is at a place. The directories around the working directory are always there. -/
def node? (files : Files) (place : Place) : Option Node :=
  if place.isAround then some .directory else Keyed.get? files.nodes place

def put (files : Files) (place : Place) (node : Node) : Files :=
  { files with nodes := Keyed.insert files.nodes place node }

/-! ## Following a path -/

/-- The most bytes that one step may have. -/
def stepLimit : Nat := 255

/-- The most bytes that a path may have. -/
def pathLimit : Nat := 4095

/-- Whether a path has a null character, so that it is no path. -/
def hasNull (path : String) : Bool := path.toList.contains '\x00'

def enter (files : Files) (here : Place) (step : String) : Except Refusal (Place × Node) :=
  if stepLimit < step.utf8ByteSize then .error .nameTooLong
  else match files.node? (here.next step) with
    | none => .error .noEntry
    | some node => .ok (here.next step, node)

def follow (files : Files) (found : Place × Node) : List String → Except Refusal (Place × Node)
  | [] => .ok found
  | step :: rest =>
    match found.2 with
    | .text _ => .error .notDirectory
    | .directory =>
      match files.enter found.1 step with
      | .error refusal => .error refusal
      | .ok found => files.follow found rest

def start (path : Path) : Place × Node := (if path.absolute then ["/"] else [], .directory)

def find (files : Files) (path : String) : Except Refusal (Place × Node) :=
  if path = "" then .error .noEntry
  else if pathLimit < path.utf8ByteSize then .error .nameTooLong
  else
    let parts := Path.ofString path
    files.follow (start parts) parts.lookUpSteps

/-! ## Reading -/

def has (files : Files) (path : String) : Bool :=
  !hasNull path && match files.find path with
    | .ok _ => true
    | .error _ => false

/-- The text of a file. A directory can be opened, but not read. -/
def read (files : Files) (path : String) : Except FileFault String :=
  if hasNull path then .error (.nullInPath path)
  else match files.find path with
    | .error refusal => .error (.refused refusal (.opening path))
    | .ok (_, .directory) => .error (.refused .isDirectory .reading)
    | .ok (_, .text content) => .ok content

/-! ## Writing -/

/-- Where the file at a path is, or will be: its directory is there, and no directory stands in its
place. A path with a slash at the end names no file. -/
def target (files : Files) (path : String) : Except Refusal Place :=
  if path = "" then .error .noEntry
  else if pathLimit < path.utf8ByteSize then .error .nameTooLong
  else
    let parts := Path.ofString path
    match files.follow (start parts) parts.steps.dropLast, parts.steps.getLast? with
    | .error refusal, _ => .error refusal
    | .ok (_, .text _), _ => .error .notDirectory
    | .ok (_, .directory), none => .error .isDirectory
    | .ok (here, .directory), some step =>
      if parts.slashed || step = "." || step = ".." then .error .isDirectory
      else match files.enter here step with
        | .ok (_, .directory) => .error .isDirectory
        | .ok (place, .text _) => .ok place
        | .error .noEntry => .ok (here.next step)
        | .error refusal => .error refusal

def write (files : Files) (path content : String) : Except FileFault Unit × Files :=
  if hasNull path then (.error (.nullInPath path), files)
  else match files.target path with
    | .error refusal => (.error (.refused refusal (.opening path)), files)
    | .ok place => (.ok (), files.put place (.text content))

/-- Take steps from a directory, and make the directories that are missing. What was made stays
where a later step is refused. -/
def makeSteps (files : Files) (here : Place) : List String → Except Refusal Unit × Files
  | [] => (.ok (), files)
  | step :: rest =>
    match files.enter here step with
    | .ok (place, .directory) => files.makeSteps place rest
    | .ok (_, .text _) => (.error (if rest.isEmpty then .alreadyThere else .notDirectory), files)
    | .error .noEntry => (files.put (here.next step) .directory).makeSteps (here.next step) rest
    | .error refusal => (.error refusal, files)

def makeDirectories (files : Files) (path : String) : Except FileFault Unit × Files :=
  if hasNull path then (.error (.nullInPath path), files)
  else if pathLimit < path.utf8ByteSize then (.error (.refused .nameTooLong (.making path)), files)
  else
    let parts := Path.ofString path
    match files.makeSteps (start parts).1 parts.lookUpSteps with
    | (.ok _, files) => (.ok (), files)
    | (.error refusal, files) => (.error (.refused refusal (.making path)), files)

/-- Write a file, in directories that are made where they are missing. -/
def save (files : Files) (path content : String) : Except FileFault Unit × Files :=
  match files.makeDirectories (Path.directory path) with
  | (.error fault, files) => (.error fault, files)
  | (.ok _, files) => files.write path content

def ofTexts (texts : List (String × String)) : Files :=
  texts.foldl (fun files entry => (files.save entry.1 entry.2).2) {}

/-- Take a file away. Its directory stays. -/
def remove (files : Files) (path : String) : Files :=
  match files.find path with
  | .ok (place, .text _) => { files with nodes := Keyed.erase files.nodes place }
  | _ => files

/-- The files inside the working directory with their texts. -/
def texts (files : Files) : List (String × String) :=
  files.nodes.filterMap fun entry =>
    match entry.2 with
    | .text content => if entry.1.isInside then some (entry.1.path, content) else none
    | .directory => none

end Files

end ReverseDns
