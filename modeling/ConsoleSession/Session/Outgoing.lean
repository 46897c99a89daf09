import ConsoleSession.Http.Auth
import ConsoleSession.Session.Console

/-!
The calls that a console has made and that nobody has answered yet.
-/

namespace ConsoleSession

inductive Outgoing
  | refresh (k : Nat)
  | logout (t : Nat)
  | call (t : Nat) (a : Attempt)
  deriving Repr

def Console.outgoing (c : Console) : Strand → Option Outgoing
  | .operation k => if c.refresher.phase? k = some .calling then some (.refresh k) else none
  | .task t =>
    match c.tasks[t]? with
    | some { stage := .sending, sent, .. } => sent.getLast?.map (.call t)
    | some { stage := .leaving, .. } => some (.logout t)
    | _ => none

namespace Outgoing

def attempt (base : String) : Outgoing → Attempt
  | .refresh _ => AuthApi.refresh base
  | .logout _ => AuthApi.logout base
  | .call _ a => a

def event (e : Exchange) : Outgoing → Event
  | .refresh k => .refreshed k (AuthApi.answer e)
  | .logout t => .loggedOut t false
  | .call t _ => .replied t e

end Outgoing

end ConsoleSession
