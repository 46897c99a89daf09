import ConsoleSession.Redirect.Folder

/-!
Keeping one redirect intent, in memory or in a folder. Saving replaces what is kept; taking empties
the store and answers the path only if it is fresh.
-/

namespace ConsoleSession

inductive RedirectStore
  | memory (slot : Option Intent)
  | file (folder : Folder)
  deriving DecidableEq, Repr

namespace RedirectStore

def save (i : Intent) : RedirectStore → Except StorageError Unit × RedirectStore
  | .memory _ => (.ok (), .memory (some i))
  | .file f =>
    let (r, f) := f.save i
    (r, .file f)

def take (ttl : Option UInt64) (now : UInt64) :
    RedirectStore → Except StorageError (Option String) × RedirectStore
  | .memory slot => (.ok (slot.bind (·.fresh ttl now)), .memory none)
  | .file f =>
    let (r, f) := f.take ttl now
    (r, .file f)

end RedirectStore

end ConsoleSession
