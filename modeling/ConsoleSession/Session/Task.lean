import ConsoleSession.Guard
import ConsoleSession.Session.Refresher

/-!
Tasks of a console: what each one is after, and the points between which its code runs without a
break.
-/

namespace ConsoleSession

inductive Body
  | absent
  | json (v : Json)
  | unwritable (why : Json.Fault)
  deriving Repr

structure Call where
  method : Method
  path : String
  body : Body
  deriving Repr

inductive Goal
  | refresh
  | resolve
  | mount
  | visit (path : String)
  | logout
  | call (c : Call)
  deriving Repr

inductive After
  | report
  | project (now : UInt64)
  | retry (refused : ApiError)
  deriving DecidableEq, Repr

/-- What a task comes to, where the call of a resource gives a `T`; a deletion gives none. -/
inductive Result (T : Type := Json)
  | refreshed (r : RefreshOutcome)
  | state (s : AuthState)
  | decided (d : Decision)
  | loggedOut
  | answered (r : Except ApiError (Option T))
  | crashed
  deriving Repr

/-- A result whose body, if it did not break off, is still to be read as what the caller wants. -/
abbrev Ending := Result (Option Utf8.Octets)

def Result.read {T : Type} (read : Utf8.Octets → Option T) : Ending → Result T
  | .refreshed r => .refreshed r
  | .state s => .state s
  | .decided d => .decided d
  | .loggedOut => .loggedOut
  | .answered (.ok (some body)) => .answered ((jsonBody read body).map some)
  | .answered (.ok none) => .answered (.ok none)
  | .answered (.error e) => .answered (.error e)
  | .crashed => .crashed

inductive Stage
  | fresh
  | joined (operation : Nat) (after : After)
  | queued
  | leaving
  | sending
  | ended (r : Ending)
  | dropped
  deriving Repr

def Stage.returned {T : Type} (read : Utf8.Octets → Option T) : Stage → Option (Result T)
  | .ended r => some (r.read read)
  | _ => none

structure Task where
  goal : Goal
  stage : Stage := .fresh
  sent : List Attempt := []
  deriving Repr

inductive Strand
  | task (t : Nat)
  | operation (k : Nat)
  deriving DecidableEq, Repr

end ConsoleSession
