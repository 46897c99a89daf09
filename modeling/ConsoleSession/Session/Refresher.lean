import ConsoleSession.Http.Message
import ConsoleSession.Token.Store

/-!
Single-flight refresh. At most one operation is pending; whoever wants a new token while it is waits
for that one. An operation is bound to the epoch of the token store it was started in. It settles
when the backend has answered; one that crashed instead is settled by the first waiter that looks.
-/

namespace ConsoleSession

inductive RefreshError
  | api (cause : ApiError)
  | superseded
  | aborted
  deriving DecidableEq, Repr

inductive RefreshAnswer
  | token (t : String)
  | error (cause : ApiError)
  | crash
  deriving DecidableEq, Repr

abbrev RefreshOutcome := Except RefreshError String

instance : DecidableEq RefreshOutcome := fun a b =>
  match a, b with
  | .ok s, .ok t => if h : s = t then isTrue (by rw [h]) else isFalse (by simp [h])
  | .error s, .error t => if h : s = t then isTrue (by rw [h]) else isFalse (by simp [h])
  | .ok _, .error _ => isFalse (by simp)
  | .error _, .ok _ => isFalse (by simp)

/-- Those who wait, each in a seat. A seat that was left is taken by the next to come, the one left
last first. -/
structure Line where
  seats : List (Option Nat) := []
  free : List Nat := []
  deriving DecidableEq, Repr

namespace Line

def join (l : Line) (t : Nat) : Line :=
  match l.free with
  | [] => { l with seats := l.seats ++ [some t] }
  | s :: free => ⟨l.seats.set s (some t), free⟩

def leave (l : Line) (t : Nat) : Line :=
  match l.seats.findIdx? (· == some t) with
  | none => l
  | some s => ⟨l.seats.set s none, s :: l.free⟩

def members (l : Line) : List Nat := l.seats.filterMap id

end Line

inductive Phase
  | spawned
  | calling
  | settled (outcome : RefreshOutcome)
  | crashed
  deriving DecidableEq, Repr

def Phase.isLive : Phase → Bool
  | .spawned | .calling => true
  | _ => false

structure Operation where
  epoch : UInt64
  phase : Phase := .spawned
  line : Line := {}
  deriving DecidableEq, Repr

structure Refresher where
  operations : List Operation := []
  pending : Option Nat := none
  deriving DecidableEq, Repr

namespace Refresher

def isPending (r : Refresher) : Bool := r.pending.isSome

def modify (r : Refresher) (k : Nat) (f : Operation → Operation) : Refresher :=
  { r with operations := r.operations.modify k f }

def phase? (r : Refresher) (k : Nat) : Option Phase :=
  r.operations[k]?.map (·.phase)

def start (r : Refresher) (epoch : UInt64) : Refresher :=
  ⟨r.operations ++ [{ epoch := epoch }], some r.operations.length⟩

def enter (r : Refresher) (epoch : UInt64) : Nat × Refresher :=
  match r.pending with
  | some k => (k, r)
  | none => (r.operations.length, r.start epoch)

def wait (r : Refresher) (k t : Nat) : Refresher :=
  r.modify k fun o => { o with line := o.line.join t }

def leave (r : Refresher) (k t : Nat) : Refresher :=
  r.modify k fun o => { o with line := o.line.leave t }

def waiting (r : Refresher) (k : Nat) : List Nat :=
  (r.operations[k]?.map (·.line.members)).getD []

def call (r : Refresher) (k : Nat) : Refresher :=
  r.modify k fun o => if o.phase = .spawned then { o with phase := .calling } else o

def release (r : Refresher) (k : Nat) : Refresher :=
  if r.pending = some k then { r with pending := none } else r

def judge (tokens : TokenStore) (epoch : UInt64) : RefreshAnswer → Phase × TokenStore
  | .token t =>
    match tokens.setIfEpoch t epoch with
    | (true, tokens) => (.settled (.ok t), tokens)
    | (false, tokens) => (.settled (.error .superseded), tokens)
  | .error e => (.settled (.error (.api e)), tokens)
  | .crash => (.crashed, tokens)

def answer (r : Refresher) (k : Nat) (a : RefreshAnswer) (tokens : TokenStore) :
    Refresher × TokenStore :=
  match r.operations[k]? with
  | none => (r, tokens)
  | some o =>
    if o.phase = .calling then
      let (phase, tokens) := judge tokens o.epoch a
      let r := r.modify k fun o => { o with phase := phase }
      (if phase = .crashed then r else r.release k, tokens)
    else (r, tokens)

/-- What a waiter of operation `k` finds when it looks; nothing while the operation is live. -/
def collect (r : Refresher) (k : Nat) : Option RefreshOutcome × Refresher :=
  match r.phase? k with
  | some (.settled outcome) => (some outcome, r)
  | some .crashed => (some (.error .aborted), r.release k)
  | _ => (none, r)

end Refresher

end ConsoleSession
