import ConsoleSession.Proofs.CallSteps

/-!
# Calls that are sent once more

A call is sent once, or a second time if it was refused for its credentials and a refresh has brought
a new token. `Course` lists how far a call can have come and what was heard, asked and told on the
way. The call returns what became of the last attempt; a body that has no JSON is never sent.
-/

namespace ConsoleSession

/-- How far a call has come: its stage, the number of attempts, what was heard of them, how often a
refresh was asked for and what came of it. -/
inductive Course (call : Call) :
    Stage → Nat → List Exchange → Nat → List RefreshOutcome → Prop
  | fresh : Course call .fresh 0 [] 0 []
  | unwritable {why : Json.Fault} (hb : call.body = .unwritable why) :
      Course call (.ended (.answered (.error (.parse why.message)))) 0 [] 0 []
  | first (hw : call.Writable) : Course call .sending 1 [] 0 []
  | once {x : Exchange} (hw : call.Writable) (hx : ¬ x.Refused) :
      Course call (.ended (Console.answered (.call call) x.accept)) 1 [x] 0 []
  | waiting {x : Exchange} {why : ApiError} (k : Nat) (hw : call.Writable) (hx : x.Refused)
      (hr : x.accept = .error why) : Course call (.joined k (.retry why)) 1 [x] 1 []
  | unrenewed {x : Exchange} {o : RefreshError} (hw : call.Writable) (hx : x.Refused) :
      Course call (.ended (Console.answered (.call call) x.accept)) 1 [x] 1 [.error o]
  | second {x : Exchange} {tok : String} (hw : call.Writable) (hx : x.Refused) :
      Course call .sending 2 [x] 1 [.ok tok]
  | twice {x y : Exchange} {tok : String} (hw : call.Writable) (hx : x.Refused) :
      Course call (.ended (Console.answered (.call call) y.accept)) 2 [x, y] 1 [.ok tok]
  | dropped {s : Stage} {n a : Nat} {xs : List Exchange} {os : List RefreshOutcome}
      (h : Course call s n xs a os) (hs : s.isOver = false) : Course call .dropped n xs a os

namespace Course

variable {call : Call} {s : Stage} {n a : Nat} {xs : List Exchange} {os : List RefreshOutcome}

theorem outcome {r : Ending} (h : Course call (.ended r) n xs a os) (hw : call.Writable) :
    1 ≤ n ∧ xs.length = n ∧ ∃ x, xs.getLast? = some x ∧ r = Console.answered (.call call) x.accept := by
  cases h with
  | unwritable hb => exact absurd hb (hw _)
  | once => exact ⟨by decide, rfl, _, rfl, rfl⟩
  | unrenewed => exact ⟨by decide, rfl, _, rfl, rfl⟩
  | twice => exact ⟨by decide, rfl, _, rfl, rfl⟩

theorem unsent (h : Course call s n xs a os) {why : Json.Fault} (hb : call.body = .unwritable why) :
    n = 0 ∧ a = 0 ∧ ∀ r, s = .ended r → r = .answered (.error (.parse why.message)) := by
  induction h with
  | fresh => exact ⟨rfl, rfl, nofun⟩
  | unwritable hb' =>
    cases hb.symm.trans hb'
    exact ⟨rfl, rfl, fun r hr => (Stage.ended.inj hr).symm⟩
  | dropped _ _ ih => exact ⟨ih.1, ih.2.1, nofun⟩
  | first hw | once hw | waiting _ hw | unrenewed hw | second hw | twice hw => exact absurd hb (hw _)

theorem stage (h : Course call s n xs a os) :
    s = .fresh ∨ s = .sending ∨ (∃ k why, s = .joined k (.retry why)) ∨ s.isOver = true := by
  cases h with
  | fresh => exact .inl rfl
  | first | second => exact .inr (.inl rfl)
  | waiting => exact .inr (.inr (.inl ⟨_, _, rfl⟩))
  | _ => exact .inr (.inr (.inr rfl))

end Course

namespace Console

variable {c c' c₀ : Console} {t : Nat} {call : Call} {task task' : Task}

def heard (t : Nat) (c : Console) (es : List Event) : List Exchange := gathered (heardBy t) c es

def asked (t : Nat) (c : Console) (es : List Event) : Nat := (gathered (askedBy t) c es).length

def told (t : Nat) (c : Console) (es : List Event) : List RefreshOutcome := gathered (toldTo t) c es

theorem CallStep.sent {x : Option Exchange} {q : Option Unit} {o : Option RefreshOutcome}
    (h : CallStep c c' t call task x q o task') : task'.sent = task.sent ∨
      task'.sent = task.sent ++ [c.attempt call] ∧ c'.tokens = c.tokens := by
  cases h with
  | sends _ _ hk => exact .inr ⟨rfl, hk⟩
  | resends _ hk => exact .inr ⟨rfl, hk⟩
  | _ => exact .inl rfl

theorem CallStep.fresh {x : Option Exchange} {q : Option Unit} {o : Option RefreshOutcome}
    (h : CallStep c c' t call task x q o task') (hs : task'.stage = .fresh) :
    task.stage = .fresh := by
  cases h with
  | stays => exact hs
  | _ => cases hs

def sent (c : Console) (t : Nat) : List Attempt := c.tasks[t]?.elim [] (·.sent)

end Console

end ConsoleSession
