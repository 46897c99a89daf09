import ConsoleSession.Proofs.Coalescing
import ConsoleSession.Proofs.Fitting
import ConsoleSession.Proofs.Mounting

/-!
# What a step does to a call

The task of a call hears what becomes of the attempt that it waits for, asks for a refresh, and is
told what that came to. `callStep_apply` says once what it does with each: only the first of its
attempts that is refused makes it ask, and only a new token makes it send again.
-/

namespace ConsoleSession

def Exchange.Refused (x : Exchange) : Prop := ∃ body whole, x = .answered 401 body whole

def Body.value? : Body → Option Json
  | .json v => some v
  | _ => none

def Call.Writable (call : Call) : Prop := ∀ why, call.body ≠ .unwritable why

namespace Console

variable {c c' c₀ : Console} {t u k : Nat} {e : Event} {call : Call} {task : Task}

/-- What becomes of the attempt that the task waits for. -/
def heardBy (t : Nat) (c : Console) (e : Event) : Option Exchange :=
  match e, c.stage? t with
  | .replied u x, some .sending => if u = t then some x else none
  | _, _ => none

def askedBy (t : Nat) (c : Console) (e : Event) : Option Unit :=
  if c.asks e = some t then some () else none

/-- What came of the refresh that the task called for. -/
def toldTo (t : Nat) (c : Console) (e : Event) : Option RefreshOutcome :=
  (c.replyOf e).bind fun r => if r.task = t then some r.outcome else none

structure Silent (t : Nat) (c : Console) (e : Event) : Prop where
  heard : heardBy t c e = none
  asked : askedBy t c e = none
  told : toldTo t c e = none

/-- What a step does to the task of a call, with what the task hears, asks and is told in it. -/
inductive CallStep (c c' : Console) (t : Nat) (call : Call) (task : Task) :
    Option Exchange → Option Unit → Option RefreshOutcome → Task → Prop
  | stays : CallStep c c' t call task none none none task
  | drops (hs : task.stage.isOver = false) :
      CallStep c c' t call task none none none { task with stage := .dropped }
  | unwritable {why : Json.Fault} (hs : task.stage = .fresh) (hb : call.body = .unwritable why) :
      CallStep c c' t call task none none none
        { task with stage := .ended (.answered (.error (.parse why.message))) }
  | sends (hs : task.stage = .fresh) (hw : call.Writable) (hk : c'.tokens = c.tokens) :
      CallStep c c' t call task none none none
        { task with stage := .sending, sent := task.sent ++ [c.attempt call] }
  | ends {x : Exchange} (hs : task.stage = .sending) (hx : x.Refused → task.sent.length ≠ 1) :
      CallStep c c' t call task (some x) none none
        { task with stage := .ended (answered (.call call) x.accept) }
  | asks {x : Exchange} {why : ApiError} (k : Nat) (hs : task.stage = .sending) (hx : x.Refused)
      (hr : x.accept = .error why) (hl : task.sent.length = 1) :
      CallStep c c' t call task (some x) (some ()) none
        { task with stage := .joined k (.retry why) }
  | aborts {x : Exchange} {why : ApiError} (hs : task.stage = .sending) (hx : x.Refused)
      (hr : x.accept = .error why) (hl : task.sent.length = 1) :
      CallStep c c' t call task (some x) (some ()) (some (.error .aborted))
        { task with stage := .ended (.answered (.error why)) }
  | resends {k : Nat} {why : ApiError} {tok : String} (hs : task.stage = .joined k (.retry why))
      (hk : c'.tokens = c.tokens) :
      CallStep c c' t call task none none (some (.ok tok))
        { task with stage := .sending, sent := task.sent ++ [c.attempt call] }
  | fails {k : Nat} {why : ApiError} {o : RefreshError} (hs : task.stage = .joined k (.retry why)) :
      CallStep c c' t call task none none (some (.error o))
        { task with stage := .ended (.answered (.error why)) }

def Steps (c : Console) (e : Event) (t : Nat) (call : Call) (task task' : Task) : Prop :=
  (c.apply e).tasks[t]? = some task' ∧
    CallStep c (c.apply e) t call task (heardBy t c e) (askedBy t c e) (toldTo t c e) task'

theorem Silent.callStep (hq : Silent t c e) {task' : Task}
    (h : CallStep c (c.apply e) t call task none none none task') :
    CallStep c (c.apply e) t call task (heardBy t c e) (askedBy t c e) (toldTo t c e) task' := by
  rwa [hq.heard, hq.asked, hq.told]

theorem Silent.stays (hq : Silent t c e) (ht : (c.apply e).tasks[t]? = some task) :
    Steps c e t call task task :=
  ⟨ht, hq.callStep .stays⟩

end Console

end ConsoleSession
