import ConsoleSession.Redirect.Folder
import ConsoleSession.Redirect.FolderPath

/-!
A working folder that is empty but for one state folder, and what a path finds in it. Reading comes
to the state folder only through folders that are there; saving makes those that are missing.
-/

namespace ConsoleSession

structure WorkFolder where
  home : String
  folder : Folder
  deriving DecidableEq, Repr

namespace WorkFolder

def leadsHome (w : WorkFolder) (path : String) : Bool :=
  match FolderPath.trail path, FolderPath.trail w.home with
  | some t, some h => t.getLast? == h.getLast?
  | _, _ => false

def isOpen (w : WorkFolder) (path : String) : Bool :=
  match FolderPath.trail path, FolderPath.trail w.home with
  | some t, some h => t.dropLast.all fun f => f == [] || some f == h.getLast?
  | _, _ => false

def find (w : WorkFolder) (path : String) : Folder :=
  if w.leadsHome path && w.isOpen path then w.folder else .absent

def store (w : WorkFolder) (path : String) (after : Folder) : WorkFolder :=
  if w.leadsHome path && (w.isOpen path || after != .absent) then { w with folder := after } else w

end WorkFolder

end ConsoleSession
