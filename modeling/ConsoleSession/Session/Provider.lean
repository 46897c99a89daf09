import ConsoleSession.User

/-!
The session's published state, and the one resolution that mounting runs. The first to mount runs
it, others queue; if it is abandoned the next in the queue runs it anew.
-/

namespace ConsoleSession

inductive Mounting
  | idle
  | running (holder : Nat) (queue : List Nat)
  | done
  deriving DecidableEq, Repr

structure Provider where
  state : AuthState := .loading none
  published : Nat := 0
  mounting : Mounting := .idle
  deriving DecidableEq, Repr

namespace Provider

def publish (p : Provider) (s : AuthState) : Provider :=
  { p with state := s, published := p.published + 1 }

def queue (p : Provider) : List Nat :=
  match p.mounting with
  | .running _ queue => queue
  | _ => []

def mounted (p : Provider) (s : AuthState) : Provider :=
  { p.publish s with mounting := .done }

def enter (p : Provider) (t : Nat) : Provider :=
  match p.mounting with
  | .idle => { p with mounting := .running t [] }
  | .running holder queue =>
    if holder = t ∨ t ∈ queue then p else { p with mounting := .running holder (queue ++ [t]) }
  | .done => p

/-- Task `t` is abandoned; who runs the resolution in its place, if it ran it. -/
def leave (p : Provider) (t : Nat) : Option Nat × Provider :=
  match p.mounting with
  | .running holder queue =>
    if holder = t then
      match queue with
      | [] => (none, { p with mounting := .idle })
      | next :: rest => (some next, { p with mounting := .running next rest })
    else (none, { p with mounting := .running holder (queue.erase t) })
  | _ => (none, p)

end Provider

end ConsoleSession
