import ConsoleSession.Redirect.Intent

/-!
A folder that keeps one intent in a file of its own, and all the states its place on a disk can be
in. Taking deletes the file before it looks at what it read, so a file that no intent can be read
from is gone as well.
-/

namespace ConsoleSession

inductive Folder
  | absent
  | plainFile
  | empty
  | holding (octets : Utf8.Octets)
  | occupied
  deriving DecidableEq, Repr

inductive StorageError
  | exists
  | notDirectory
  | isDirectory
  deriving DecidableEq, Repr

def StorageError.message (e : StorageError) : String :=
  "redirect storage I/O failed: " ++
    match e with
    | .exists => "File exists (os error 17)"
    | .notDirectory => "Not a directory (os error 20)"
    | .isDirectory => "Is a directory (os error 21)"

namespace Folder

def fileName : String := "redirect_intent.json"

def save (i : Intent) : Folder → Except StorageError Unit × Folder
  | .plainFile => (.error .exists, .plainFile)
  | .occupied => (.error .isDirectory, .occupied)
  | _ => (.ok (), .holding i.encode)

def read (octets : Utf8.Octets) (ttl : Option UInt64) (now : UInt64) : Option String :=
  match Intent.decode octets with
  | .ok i => i.fresh ttl now
  | .error _ => none

def take (ttl : Option UInt64) (now : UInt64) :
    Folder → Except StorageError (Option String) × Folder
  | .absent => (.ok none, .absent)
  | .plainFile => (.error .notDirectory, .plainFile)
  | .empty => (.ok none, .empty)
  | .occupied => (.error .isDirectory, .occupied)
  | .holding octets => (.ok (read octets ttl now), .empty)

def overwrite (octets : Utf8.Octets) : Folder → Folder
  | .plainFile => .plainFile
  | .occupied => .occupied
  | _ => .holding octets

def occupy : Folder → Folder
  | .plainFile => .plainFile
  | .holding octets => .holding octets
  | _ => .occupied

def obstruct : Folder → Folder
  | .absent => .plainFile
  | f => f

end Folder

end ConsoleSession
