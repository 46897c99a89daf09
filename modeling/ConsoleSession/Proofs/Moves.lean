import ConsoleSession.Proofs.Steps

/-!
# Events as moves

`apply_move` sorts the events of a console by what they do to its tasks and its refresher. Most do
nothing to either; the others start a task, run the code of one, drop one, or carry a call on.
-/

namespace ConsoleSession

def Event.task? : Event → Option Nat
  | .turn (.task t) | .drop t | .loggedOut t _ | .replied t _ => some t
  | _ => none

namespace Console

def taking (c : Console) (s : Strand) : Console :=
  { c with ready := c.ready.erase s }

structure Dropped (t : Nat) (task : Task) (c c' : Console) : Prop where
  refresher : c'.refresher = c.refresher ∧ task.stage.operation? = none ∨
    ∃ k, task.stage.operation? = some k ∧ c'.refresher = c.refresher.leave k t
  ready : ∃ ts : List Nat, c'.ready = c.ready.erase (.task t) ++ ts.map .task
  tasks : c'.tasks = c.tasks.modify t fun k => { k with stage := .dropped }

/-- What an event does to the tasks and the refresher of a console. -/
inductive Move (c : Console) : Event → Console → Prop
  | calm {e : Event} {c' : Console} (hr : c'.refresher = c.refresher) (ht : c'.tasks = c.tasks)
      (hd : c'.ready = c.ready) (ha : c.asks e = none) : Move c e c'
  | spawn (goal : Goal) : Move c (.spawn goal) (c.spawn goal)
  | call (k : Nat) (h : .operation k ∈ c.ready) :
      Move c (.turn (.operation k))
        { c.taking (.operation k) with refresher := c.refresher.call k }
  | run {t : Nat} {task : Task} {c' : Console} (h : .task t ∈ c.ready)
      (ht : c.tasks[t]? = some task) (hs : TaskStep (c.taking (.task t)) t task c') :
      Move c (.turn (.task t)) c'
  | vain {t : Nat} (h : .task t ∈ c.ready) (ht : c.tasks[t]? = none) :
      Move c (.turn (.task t)) (c.taking (.task t))
  | drop {t : Nat} {task : Task} {c' : Console} (ht : c.tasks[t]? = some task)
      (hs : ∀ r, task.stage ≠ .ended r) (hd : Dropped t task c c') : Move c (.drop t) c'
  | answer (k : Nat) (a : RefreshAnswer) (h : c.refresher.phase? k = some .calling) :
      Move c (.refreshed k a) (c.refreshed k a)
  | onward {e : Event} {t : Nat} {task : Task} {c' : Console} (he : e.task? = some t)
      (ht : c.tasks[t]? = some task)
      (hs : task.stage = .leaving ∨ task.stage = .sending) (ho : Onward t c c')
      (ha : c.asks e = none) : Move c e c'
  | retry {t : Nat} {e : Exchange} {task : Task} {why : ApiError} (ht : c.tasks[t]? = some task)
      (hs : task.stage = .sending) (ha : c.asks (.replied t e) = some t) :
      Move c (.replied t e) (c.join t task.goal (.retry why))

variable {c : Console} {t : Nat}

theorem drop_move (c : Console) (t : Nat) : Move c (.drop t) (c.drop t) := by
  unfold drop
  rcases ht : c.tasks[t]? with _ | task
  · exact .calm rfl rfl rfl rfl
  · dsimp only
    split
    next => exact .calm rfl rfl rfl rfl
    next => exact .calm rfl rfl rfl rfl
    next hend hdrop =>
      refine .drop ht hend ⟨?_, ⟨(c.provider.leave t).1.toList, rfl⟩, rfl⟩
      cases hs : task.stage with
      | joined k after => exact .inr ⟨k, rfl, rfl⟩
      | _ => exact .inl ⟨rfl, rfl⟩

theorem apply_turn_idle {s : Strand} (hr : s ∉ c.ready) : c.apply (.turn s) = c :=
  if_neg hr

theorem apply_turn_task {task : Task} (hr : .task t ∈ c.ready) (ht : c.tasks[t]? = some task) :
    c.apply (.turn (.task t)) = (c.taking (.task t)).resume t task := by
  simp [apply, turn, hr, ht, taking]

theorem turn_cases (c : Console) (s : Strand) :
    (s ∉ c.ready ∧ c.turn s = c) ∨
    (∃ k, s = .operation k ∧ s ∈ c.ready ∧
      c.turn s = { c.taking s with refresher := c.refresher.call k }) ∨
    (∃ t, s = .task t ∧ s ∈ c.ready ∧ c.tasks[t]? = none ∧ c.turn s = c.taking s) ∨
    (∃ t task, s = .task t ∧ s ∈ c.ready ∧ c.tasks[t]? = some task ∧
      TaskStep (c.taking s) t task (c.turn s)) := by
  unfold turn
  by_cases h : s ∈ c.ready
  · right
    rw [if_pos h]
    cases s with
    | operation k => exact .inl ⟨k, rfl, h, rfl⟩
    | task t =>
      right
      rcases ht : c.tasks[t]? with _ | task
      · exact .inl ⟨t, rfl, h, ht, by simp [ht, taking]⟩
      · refine .inr ⟨t, task, rfl, h, ht, ?_⟩
        simpa [ht, taking] using resume_step (c.taking (.task t)) t task
  · exact .inl ⟨h, if_neg h⟩

theorem turn_move (c : Console) (s : Strand) : Move c (.turn s) (c.turn s) := by
  obtain ⟨h, he⟩ | ⟨k, rfl, h, he⟩ | ⟨t, rfl, h, ht, he⟩ | ⟨t, task, rfl, h, ht, hs⟩ := turn_cases c s
  · rw [he]
    refine .calm rfl rfl rfl ?_
    cases s with
    | operation k => rfl
    | task t => rcases ht : c.tasks[t]? with _ | task <;> simp [asks, ht, h]
  · exact he ▸ .call k h
  · exact he ▸ .vain h ht
  · exact .run h ht hs

theorem replied_move (c : Console) (t : Nat) (e : Exchange) :
    Move c (.replied t e) (c.replied t e) := by
  unfold replied
  split
  next goal sent ht =>
    rcases he : e.accept with why | body
    · dsimp only
      by_cases hw : why.isUnauthorized = true ∧ sent.length = 1
      · rw [if_pos hw]
        exact .retry ht rfl (by simp [asks, ht, he, hw])
      · rw [if_neg hw]
        exact .onward rfl ht (.inr rfl) (finish_onward _) (by simp [asks, ht, he, hw])
    · exact .onward rfl ht (.inr rfl) (finish_onward _) (by simp [asks, ht, he])
  next hno =>
    refine .calm rfl rfl rfl ?_
    unfold asks
    dsimp only
    split
    next goal sent why ht _ => exact absurd ht (hno goal sent)
    next => rfl

theorem loggedOut_move (c : Console) (t : Nat) (crashed : Bool) :
    Move c (.loggedOut t crashed) (c.loggedOut t crashed) := by
  unfold loggedOut
  split
  next goal sent ht =>
    cases crashed with
    | true => exact .onward rfl ht (.inl rfl) (finish_onward _) rfl
    | false =>
      obtain ⟨hr, hn, hg, hts, htk⟩ := finish_onward (c := { c with
        tokens := c.tokens.clear
        provider := c.provider.publish .unauthenticated }) (t := t) .loggedOut
      exact .onward rfl ht (.inl rfl) ⟨hr, hn, hg, hts, htk⟩ rfl
  next => exact .calm rfl rfl rfl rfl

theorem apply_move (c : Console) (e : Event) : Move c e (c.apply e) := by
  cases e with
  | spawn goal => exact .spawn goal
  | turn s => exact turn_move c s
  | drop t => exact drop_move c t
  | refreshed k a =>
    by_cases h : c.refresher.phase? k = some .calling
    · exact .answer k a h
    · have hc : c.apply (.refreshed k a) = c := by simp [apply, refreshed, h]
      rw [hc]
      exact .calm rfl rfl rfl rfl
  | loggedOut t crashed => exact loggedOut_move c t crashed
  | replied t e => exact replied_move c t e
  | _ => exact .calm rfl rfl rfl rfl

end Console

end ConsoleSession
