import ConsoleSession.Http.Network
import ConsoleSession.Session.Outgoing

/-!
A console played against a backend whose answers are laid down beforehand. A call is answered the
moment it is made, or held back until it is released; strands that are ready run first come, first
served, until none is.
-/

namespace ConsoleSession

structure RefreshScript where
  answer : RefreshAnswer
  held : Bool := false
  deriving DecidableEq, Repr

inductive AuthScript
  | listed (refreshes : List RefreshScript) (logouts : List Bool)
  | overNetwork
  deriving DecidableEq, Repr

structure Rehearsal where
  console : Console
  network : Network
  auth : AuthScript
  held : List (Nat × RefreshAnswer) := []
  refreshCalls : Nat := 0
  logoutCalls : Nat := 0
  seen : Nat := 0
  kept : List (String × Nat) := []
  deriving Repr

namespace Rehearsal

def apply (r : Rehearsal) (e : Event) : Rehearsal :=
  { r with console := r.console.apply e }

def refused : RefreshAnswer := .error (.status 401 "")

def answerOver (r : Rehearsal) (o : Outgoing) : Rehearsal :=
  let (e, network) := r.network.send r.console.now.toNat (o.attempt r.console.base)
  { r with network := network }.apply (o.event e)

def answerFrom (r : Rehearsal) (refreshes : List RefreshScript) (logouts : List Bool) :
    Outgoing → Rehearsal
  | .refresh k =>
    let r := { r with
      auth := .listed (refreshes.drop 1) logouts
      refreshCalls := r.refreshCalls + 1 }
    match refreshes.headD ⟨refused, false⟩ with
    | ⟨a, true⟩ => { r with held := r.held ++ [(k, a)] }
    | ⟨a, false⟩ => r.apply (.refreshed k a)
  | .logout t =>
    let r := { r with
      auth := .listed refreshes (logouts.drop 1)
      logoutCalls := r.logoutCalls + 1 }
    r.apply (.loggedOut t (logouts.headD false))
  | o => r.answerOver o

def answer (r : Rehearsal) (o : Outgoing) : Rehearsal :=
  match r.auth with
  | .listed refreshes logouts => r.answerFrom refreshes logouts o
  | .overNetwork => r.answerOver o

def serve (r : Rehearsal) (s : Strand) : Rehearsal :=
  match r.console.outgoing s with
  | none => r
  | some o =>
    let r := r.answer o
    match o, r.console.outgoing s with
    | .call .., some again => r.answer again
    | _, _ => r

def settleWithin : Nat → Rehearsal → Rehearsal
  | 0, r => r
  | fuel + 1, r =>
    match r.console.ready with
    | [] => r
    | s :: _ => settleWithin fuel ((r.apply (.turn s)).serve s)

/-- No strand runs more than a few times without being started anew. -/
def settle (r : Rehearsal) : Rehearsal :=
  settleWithin (16 * (r.console.tasks.length + r.console.refresher.operations.length + 1)) r

def result? (r : Rehearsal) (t : Nat) : Option Result :=
  r.console.tasks[t]?.bind (·.stage.returned Json.parse?)

def start (r : Rehearsal) (goal : Goal) (id : Option String) : Option Result × Rehearsal :=
  let t := r.console.tasks.length
  let r := (r.apply (.spawn goal)).settle
  match r.result? t, id with
  | some result, _ => (some result, r)
  | none, some id => (none, { r with kept := (id, t) :: r.kept.filter (·.1 != id) })
  | none, none => (none, r)

def release (r : Rehearsal) : Bool × Rehearsal :=
  match r.held with
  | [] => (false, r)
  | (k, a) :: held => (true, (({ r with held := held }).apply (.refreshed k a)).settle)

inductive Polled
  | unknown
  | waiting
  | ended (result : Result)

def poll (r : Rehearsal) (id : String) : Polled × Rehearsal :=
  match r.kept.find? (·.1 == id) with
  | none => (.unknown, r)
  | some (_, t) =>
    match r.result? t with
    | some result => (.ended result, { r with kept := r.kept.filter (·.1 != id) })
    | none => (.waiting, r)

def abandon (r : Rehearsal) (id : String) : Bool × Rehearsal :=
  match r.kept.find? (·.1 == id) with
  | none => (false, r)
  | some (_, t) =>
    (true, (({ r with kept := r.kept.filter (·.1 != id) }).apply (.drop t)).settle)

def watch (r : Rehearsal) : Bool × Rehearsal :=
  (r.seen != r.console.provider.published, { r with seen := r.console.provider.published })

def afresh (r : Rehearsal) : Rehearsal :=
  { r with
    console := { r.console with navigations := [] }
    network := { r.network with received := [] } }

end Rehearsal

end ConsoleSession
