import ReverseDns.Text.Quoted

/-!
# Faults of file operations

Why the file system refuses an operation, with the codes and the words of the system.

* `Refusal` -- the reasons
* `FileCall` -- what was asked of the file system
* `FileFault` -- a refusal of a call, or a path that is none
* `FileFault.message`, `FileFault.code` -- the words
-/

namespace ReverseDns

/-- Why the file system refuses a call. -/
inductive Refusal where
  | noEntry
  | alreadyThere
  | notDirectory
  | isDirectory
  | nameTooLong
deriving Repr, DecidableEq

namespace Refusal

def code : Refusal → String
  | .noEntry => "ENOENT"
  | .alreadyThere => "EEXIST"
  | .notDirectory => "ENOTDIR"
  | .isDirectory => "EISDIR"
  | .nameTooLong => "ENAMETOOLONG"

def number : Refusal → Int
  | .noEntry => -2
  | .alreadyThere => -17
  | .notDirectory => -20
  | .isDirectory => -21
  | .nameTooLong => -36

def words : Refusal → String
  | .noEntry => "no such file or directory"
  | .alreadyThere => "file already exists"
  | .notDirectory => "not a directory"
  | .isDirectory => "illegal operation on a directory"
  | .nameTooLong => "name too long"

end Refusal

/-- What is asked of the file system. -/
inductive FileCall where
  /-- Open the file at a path. -/
  | opening (path : String)
  /-- Read from what was opened. -/
  | reading
  /-- Make the directories of a path. -/
  | making (path : String)
deriving Repr, DecidableEq

namespace FileCall

def name : FileCall → String
  | .opening _ => "open"
  | .reading => "read"
  | .making _ => "mkdir"

def path? : FileCall → Option String
  | .opening path | .making path => some path
  | .reading => none

end FileCall

/-- Why an operation on a file fails. -/
inductive FileFault where
  | refused (refusal : Refusal) (call : FileCall)
  /-- A null character cannot be part of a path. -/
  | nullInPath (path : String)
deriving Repr, DecidableEq

namespace FileFault

def code : FileFault → String
  | .refused refusal _ => refusal.code
  | .nullInPath _ => "ERR_INVALID_ARG_VALUE"

/-- The message of a fault. A refusal names the path as it was given. -/
def message : FileFault → String
  | .refused refusal call =>
    s!"{refusal.code}: {refusal.words}, {call.name}" ++
      match call.path? with
      | some path => s!" '{path}'"
      | none => ""
  | .nullInPath path =>
    "The argument 'path' must be a string, Uint8Array, or URL without null bytes. Received " ++
      Text.excerpt path

end FileFault

end ReverseDns
