import ConsoleSession.Proofs.Judgements
import ConsoleSession.Proofs.Operations
import ConsoleSession.Session.Console

/-!
# What a step of a console can do

`resume_step` says once what the code of a task does between two awaits: it rests, goes on without
waiting for an operation, judges the held token, wants a refresh, or takes the outcome of the
operation it waited for. `join_cases` says what wanting a refresh comes to.
-/

namespace ConsoleSession

def Stage.operation? : Stage → Option Nat
  | .joined k _ => some k
  | _ => none

def Provider.isHeldBy (p : Provider) (t : Nat) : Bool :=
  match p.mounting with
  | .running holder _ => holder = t
  | _ => false

namespace Console

def stage? (c : Console) (t : Nat) : Option Stage := c.tasks[t]?.map (·.stage)

def awaited? (c : Console) (t : Nat) : Option Nat := (c.stage? t).bind Stage.operation?

/-- Task `t` has gone on from `c` to `c'` and waits for no operation. -/
structure Onward (t : Nat) (c c' : Console) : Prop where
  refresher : c'.refresher = c.refresher
  now : c'.now = c.now
  guard : c'.guard = c.guard
  ready : ∃ ts : List Nat, c'.ready = c.ready ++ ts.map .task
  tasks : ∃ s sent, s.operation? = none ∧ s ≠ .fresh ∧
    c'.tasks = c.tasks.modify t fun k => { k with stage := s, sent := k.sent ++ sent }

variable {c c' : Console} {t u : Nat}

theorem stage?_modify (f : Task → Task) (hc : c'.tasks = c.tasks.modify t f) :
    c'.stage? u = if t = u then c.tasks[u]?.map fun k => (f k).stage else c.stage? u := by
  by_cases h : t = u <;> simp [stage?, hc, h, Function.comp_def]

@[simp] theorem stage?_setStage (s : Stage) :
    (c.setStage t s).stage? u = if t = u then (c.stage? u).map fun _ => s else c.stage? u := by
  rw [stage?_modify _ (show (c.setStage t s).tasks = _ from rfl)]
  simp [stage?, Function.comp_def]

theorem awaited?_eq_some {k : Nat} :
    c.awaited? t = some k ↔ ∃ after, c.stage? t = some (.joined k after) := by
  unfold awaited?
  rcases c.stage? t with _ | s
  · simp
  · cases s <;> simp [Stage.operation?]

namespace Onward

theorem stage?_of_ne (h : Onward t c c') (hne : u ≠ t) : c'.stage? u = c.stage? u := by
  obtain ⟨s, sent, -, -, ht⟩ := h.tasks
  rw [stage?_modify _ ht, if_neg fun e => hne e.symm]

theorem awaited? (h : Onward t c c') : c'.awaited? u = if u = t then none else c.awaited? u := by
  by_cases hu : u = t
  · obtain ⟨s, sent, hs, -, ht⟩ := h.tasks
    rw [Console.awaited?, stage?_modify _ ht, if_pos hu.symm, if_pos hu]
    rcases c.tasks[u]? with _ | task
    · rfl
    · exact hs
  · rw [if_neg hu, Console.awaited?, h.stage?_of_ne hu, Console.awaited?]

theorem joined (h : Onward t c c') {k : Nat} {after : After}
    (hu : c'.stage? u = some (.joined k after)) : c.stage? u = some (.joined k after) := by
  have hw : c'.awaited? u = some k := awaited?_eq_some.2 ⟨after, hu⟩
  rw [h.awaited?] at hw
  split at hw
  next => cases hw
  next hne => rwa [h.stage?_of_ne hne] at hu

end Onward

theorem setStage_onward {s : Stage} (hs : s.operation? = none) (hf : s ≠ .fresh) :
    Onward t c (c.setStage t s) :=
  ⟨rfl, rfl, rfl, ⟨[], by simp [setStage]⟩, s, [], hs, hf, by simp [setStage]⟩

theorem finish_onward (r : Ending) : Onward t c (c.finish t r) :=
  setStage_onward rfl (by simp)

theorem send_onward (call : Call) : Onward t c (c.send t call) :=
  ⟨rfl, rfl, rfl, ⟨[], by simp [send]⟩, .sending, [c.attempt call], rfl, by simp, rfl⟩

theorem arrive_onward (goal : Goal) : Onward t c (c.arrive t goal) := by
  cases goal with
  | visit path =>
    let d := (c.guard.decide c.provider.state path c.now c.redirects).1
    exact ⟨rfl, rfl, rfl, ⟨[], by simp [arrive, navigate, finish, setStage]⟩,
      .ended (.decided d), [], rfl, by simp, by simp [arrive, navigate, finish, setStage, d]⟩
  | _ => exact finish_onward _

theorem conclude_onward (goal : Goal) (s : AuthState) : Onward t c (c.conclude t goal s) := by
  have h : ∀ p, Onward t c ((({ c with provider := p } : Console).wake
      (c.provider.queue.map .task)).arrive t goal) := by
    intro p
    obtain ⟨hr, hn, hg, ⟨ts, hts⟩, ht⟩ := arrive_onward (t := t)
      (c := ({ c with provider := p } : Console).wake (c.provider.queue.map .task)) goal
    refine ⟨hr, hn, hg, ⟨c.provider.queue ++ ts, ?_⟩, ht⟩
    rw [hts]
    simp [wake]
  cases goal with
  | resolve => exact finish_onward _
  | _ => exact h _

theorem project_onward (goal : Goal) (now : UInt64) : Onward t c (c.project t goal now) := by
  obtain ⟨hr, hn, hg, hts, ht⟩ := conclude_onward (t := t)
    (c := { c with tokens := (Gate.project c.tokens now).2 }) goal (Gate.project c.tokens now).1
  exact ⟨hr, hn, hg, hts, ht⟩

theorem proceed_onward (goal : Goal) (o : RefreshOutcome) (after : After) :
    Onward t c (c.proceed t goal o after) := by
  cases after with
  | report => exact finish_onward _
  | project now => exact project_onward goal now
  | retry refused =>
    unfold proceed
    dsimp only
    split
    · exact send_onward _
    · exact finish_onward _

theorem stage?_finish (r : Ending) {task : Task} (ht : c.tasks[t]? = some task) :
    (c.finish t r).stage? t = some (.ended r) := by
  rw [finish, stage?_setStage, if_pos rfl]
  simp [stage?, ht]

def concluded (c : Console) (goal : Goal) (s : AuthState) : Ending :=
  match goal with
  | .visit path => .decided (c.guard.decide s path c.now c.redirects).1
  | _ => .state s

theorem stage?_conclude (goal : Goal) (s : AuthState) {task : Task} (ht : c.tasks[t]? = some task) :
    (c.conclude t goal s).stage? t = some (.ended (c.concluded goal s)) := by
  cases goal with
  | resolve => exact stage?_finish _ ht
  | visit path =>
    let c' := ({ c with provider := c.provider.mounted s } : Console).wake
      (c.provider.queue.map .task)
    exact stage?_finish (c := (c'.navigate path).2) _ ht
  | _ =>
    exact stage?_finish (c := ({ c with provider := c.provider.mounted s } : Console).wake
      (c.provider.queue.map .task)) _ ht

theorem stage?_project (goal : Goal) (now : UInt64) {task : Task} (ht : c.tasks[t]? = some task) :
    (c.project t goal now).stage? t =
      some (.ended (c.concluded goal (Gate.project c.tokens now).1)) :=
  stage?_conclude (c := { c with tokens := (Gate.project c.tokens now).2 }) goal _ ht

def failed (c : Console) (goal : Goal) (why : RefreshError) : After → Ending
  | .report => .refreshed (.error why)
  | .project now => c.concluded goal (Gate.project c.tokens now).1
  | .retry refused => .answered (.error refused)

theorem stage?_proceed_error (goal : Goal) (why : RefreshError) (after : After) {task : Task}
    (ht : c.tasks[t]? = some task) :
    (c.proceed t goal (.error why) after).stage? t = some (.ended (c.failed goal why after)) := by
  cases after with
  | report => exact stage?_finish _ ht
  | project now => exact stage?_project goal now ht
  | retry refused => cases goal <;> exact stage?_finish _ ht

def waitFor (c : Console) (t k : Nat) (after : After) : Console :=
  ({ c with refresher := c.refresher.wait k t } : Console).setStage t (.joined k after)

def startFor (c : Console) (t : Nat) (after : After) : Console :=
  ({ c with
    refresher := c.refresher.start c.tokens.epoch
    ready := c.ready ++ [.operation c.refresher.operations.length] } : Console).waitFor t
      c.refresher.operations.length after

/-- Who wants a refresh starts an operation if none is pending, else waits for the pending one; if
that one has crashed it is done with at once. -/
theorem join_cases (h : c.refresher.Sound) (t : Nat) (goal : Goal) (after : After) :
    (c.refresher.pending = none ∧ c.join t goal after = c.startFor t after) ∨
    (∃ k, c.refresher.pending = some k ∧ c.refresher.isLive k = true ∧
      c.join t goal after = c.waitFor t k after) ∨
    (∃ k, c.refresher.pending = some k ∧ c.refresher.phase? k = some .crashed ∧
      c.join t goal after =
        ({ c with refresher := c.refresher.release k } : Console).proceed t goal (.error .aborted)
          after) := by
  rcases hp : c.refresher.pending with _ | k
  · left
    have hs : (c.refresher.start c.tokens.epoch).phase? c.refresher.operations.length =
        some .spawned := by simp [Refresher.phase?_start]
    simp [join, Refresher.enter, hp, wake, look, Refresher.collect, hs, startFor, waitFor]
  · right
    rcases h.pending_cases hp with hl | hc
    · left
      have hcol : c.refresher.collect k = (none, c.refresher) := by
        rcases (c.refresher.isLive_iff k).1 hl with hk | hk <;> simp [Refresher.collect, hk]
      exact ⟨k, rfl, hl, by simp [join, Refresher.enter, hp, look, hcol, waitFor]⟩
    · right
      exact ⟨k, rfl, hc, by simp [join, Refresher.enter, hp, look, Refresher.collect, hc]⟩

def gates (c : Console) (t : Nat) (task : Task) : Bool :=
  match task.stage, task.goal with
  | .fresh, .resolve => true
  | .fresh, .mount | .fresh, .visit _ | .queued, _ => (c.provider.enter t).isHeldBy t
  | _, _ => false

def wants (c : Console) (t : Nat) (task : Task) : Bool :=
  match task.stage, task.goal with
  | .fresh, .refresh => true
  | _, _ => c.gates t task && (Gate.inspect c.tokens c.now).1

/-- The task that calls for a refresh in the step. -/
def asks (c : Console) : Event → Option Nat
  | .turn (.task t) =>
    match c.tasks[t]? with
    | some task => if .task t ∈ c.ready ∧ c.wants t task = true then some t else none
    | none => none
  | .replied t e =>
    match c.tasks[t]?, e.accept with
    | some { stage := .sending, sent, .. }, .error why =>
      if why.isUnauthorized = true ∧ sent.length = 1 then some t else none
    | _, _ => none
  | _ => none

def clock? (c : Console) : Event → Option UInt64
  | .turn (.task t) =>
    match c.tasks[t]? with
    | some task => if .task t ∈ c.ready ∧ c.gates t task = true then some c.now else none
    | none => none
  | _ => none

/-- What the code of task `t` does before it waits again or ends. -/
inductive TaskStep (c : Console) (t : Nat) (task : Task) : Console → Prop
  | rest (hw : c.wants t task = false) (hg : c.gates t task = false)
      (h : ∀ k, task.stage.operation? = some k → (c.refresher.collect k).1 = none) :
      TaskStep c t task c
  | pass {c' : Console} (hw : c.wants t task = false) (hg : c.gates t task = false)
      (hs : task.stage = .fresh ∨ task.stage = .queued) (ho : Onward t c c') (ht : c'.tokens = c.tokens)
      (hp : c'.provider.state = c.provider.state) : TaskStep c t task c'
  | judge (p : Provider) (hw : c.wants t task = false) (hg : c.gates t task = true)
      (hs : task.stage = .fresh ∨ task.stage = .queued) (hp : p.state = c.provider.state)
      (hd : Gate.inspect c.tokens c.now = (false, c.tokens)) :
      TaskStep c t task (({ c with provider := p } : Console).project t task.goal c.now)
  | gate (p : Provider) (tokens : TokenStore) (hw : c.wants t task = true)
      (hg : c.gates t task = true) (hs : task.stage = .fresh ∨ task.stage = .queued)
      (hp : p.state = c.provider.state) (hd : Gate.inspect c.tokens c.now = (true, tokens)) :
      TaskStep c t task
        (({ c with provider := p, tokens := tokens } : Console).join t task.goal (.project c.now))
  | ask (hw : c.wants t task = true) (hg : c.gates t task = false)
      (hs : task.stage = .fresh ∨ task.stage = .queued) (hr : task.goal = .refresh) :
      TaskStep c t task (c.join t task.goal .report)
  | collect (k : Nat) (after : After) (o : RefreshOutcome) (r : Refresher)
      (hw : c.wants t task = false) (hg : c.gates t task = false)
      (hs : task.stage = .joined k after) (hc : c.refresher.collect k = (some o, r)) :
      TaskStep c t task (({ c with refresher := r } : Console).proceed t task.goal o after)

theorem gates_of_stage {task : Task} (hf : task.stage ≠ .fresh) (hq : task.stage ≠ .queued) :
    c.gates t task = false := by
  unfold gates
  split
  next h _ => exact absurd h hf
  next h _ => exact absurd h hf
  next h _ => exact absurd h hf
  next h => exact absurd h hq
  next => rfl

theorem wants_of_not_gates {task : Task} (hg : c.gates t task = false)
    (hr : task.stage = .fresh → task.goal ≠ .refresh) : c.wants t task = false := by
  unfold wants
  split
  next hs h => exact absurd h (hr hs)
  next => simp [hg]

theorem wants_of_gates {task : Task} (hg : c.gates t task = true) :
    c.wants t task = (Gate.inspect c.tokens c.now).1 := by
  unfold wants
  split
  next hs h => simp [gates, hs, h] at hg
  next => simp [hg]

theorem resolve_step {task : Task} (p : Provider) (hs : task.stage = .fresh ∨ task.stage = .queued)
    (hp : p.state = c.provider.state) (hg : c.gates t task = true) :
    TaskStep c t task (({ c with provider := p } : Console).resolve t task.goal) := by
  have hcases := Gate.inspect_cases c.tokens c.now
  rcases hi : Gate.inspect c.tokens c.now with ⟨due, tokens⟩
  rw [hi] at hcases
  cases due with
  | false =>
    obtain ⟨rfl, -⟩ : tokens = c.tokens ∧ ∃ u, c.tokens.userAt c.now = .ok u := by
      simpa using hcases
    have hr : ({ c with provider := p } : Console).resolve t task.goal =
        ({ c with provider := p } : Console).project t task.goal c.now := by
      simp [resolve, hi]
    rw [hr]
    exact .judge p (by rw [wants_of_gates hg, hi]) hg hs hp hi
  | true =>
    have hr : ({ c with provider := p } : Console).resolve t task.goal =
        ({ c with provider := p, tokens := tokens } : Console).join t task.goal (.project c.now) := by
      simp [resolve, hi]
    rw [hr]
    exact .gate p tokens (by rw [wants_of_gates hg, hi]) hg hs hp hi

theorem enter_state (p : Provider) (t : Nat) : (p.enter t).state = p.state := by
  unfold Provider.enter
  repeat' split
  all_goals rfl

theorem mount_step {task : Task} (hs : task.stage = .fresh ∨ task.stage = .queued)
    (hr : task.stage = .fresh → task.goal ≠ .refresh)
    (hg : c.gates t task = (c.provider.enter t).isHeldBy t) :
    TaskStep c t task (c.mount t task.goal) := by
  have hp := enter_state c.provider t
  unfold mount
  dsimp only
  split
  next holder queue hm =>
    by_cases ht : holder = t
    · rw [if_pos ht]
      exact resolve_step _ hs hp (by simp [hg, Provider.isHeldBy, hm, ht])
    · rw [if_neg ht]
      obtain ⟨hrf, hn, hgd, hts, htk⟩ := setStage_onward (t := t)
        (c := ({ c with provider := c.provider.enter t } : Console)) (s := .queued) rfl (by simp)
      have hnot : c.gates t task = false := by simp [hg, Provider.isHeldBy, hm, ht]
      exact .pass (wants_of_not_gates hnot hr) hnot hs ⟨hrf, hn, hgd, hts, htk⟩ rfl hp
  next hm =>
    have hnot : c.gates t task = false := by
      rw [hg]
      unfold Provider.isHeldBy
      split
      next holder queue h => exact absurd h (hm holder queue)
      next => rfl
    obtain ⟨hrf, hn, hgd, hts, htk⟩ := arrive_onward (t := t)
      (c := ({ c with provider := c.provider.enter t } : Console)) task.goal
    refine .pass (wants_of_not_gates hnot hr) hnot hs ⟨hrf, hn, hgd, hts, htk⟩ ?_ ?_ <;>
      cases task.goal <;>
      first | rfl | exact hp

theorem begin_step {task : Task} (hs : task.stage = .fresh) :
    TaskStep c t task (c.begin t task.goal) := by
  have ho : task.stage = .fresh ∨ task.stage = .queued := .inl hs
  unfold begin
  cases hgoal : task.goal with
  | refresh =>
    have h := TaskStep.ask (c := c) (t := t) (by simp [wants, hs, hgoal])
      (by simp [gates, hs, hgoal]) ho hgoal
    rw [hgoal] at h
    exact h
  | resolve =>
    have h := resolve_step (t := t) c.provider ho rfl (by simp [gates, hs, hgoal])
    rw [hgoal] at h
    exact h
  | mount =>
    have h := mount_step (c := c) (t := t) ho (by simp [hgoal]) (by simp [gates, hs, hgoal])
    rw [hgoal] at h
    exact h
  | visit path =>
    have h := mount_step (c := c) (t := t) ho (by simp [hgoal]) (by simp [gates, hs, hgoal])
    rw [hgoal] at h
    exact h
  | logout =>
    have hg : c.gates t task = false := by simp [gates, hs, hgoal]
    exact .pass (wants_of_not_gates hg fun _ => by simp [hgoal]) hg ho
      (setStage_onward rfl (by simp)) rfl rfl
  | call call =>
    have hg : c.gates t task = false := by simp [gates, hs, hgoal]
    have hw : c.wants t task = false := wants_of_not_gates hg fun _ => by simp [hgoal]
    dsimp only
    split
    · exact .pass hw hg ho (finish_onward _) rfl rfl
    · exact .pass hw hg ho (send_onward _) rfl rfl

theorem resume_step (c : Console) (t : Nat) (task : Task) :
    TaskStep c t task (c.resume t task) := by
  unfold resume
  split
  next hs => exact begin_step hs
  next hs => exact mount_step (.inr hs) (by simp [hs]) (by simp [gates, hs])
  next k after hs =>
    have hg : c.gates t task = false := gates_of_stage (by simp [hs]) (by simp [hs])
    have hw : c.wants t task = false := wants_of_not_gates hg (by simp [hs])
    unfold look
    obtain ⟨o, -, hc⟩ | ⟨-, hc⟩ | ⟨-, hc⟩ := c.refresher.collect_cases k
    · rw [hc]
      exact .collect k after o _ hw hg hs hc
    · rw [hc]
      exact .collect k after _ _ hw hg hs hc
    · rw [hc]
      refine .rest hw hg fun j hj => ?_
      cases hs ▸ hj
      rw [hc]
  next hf hq hj =>
    have hg : c.gates t task = false := gates_of_stage hf hq
    refine .rest (wants_of_not_gates hg fun h => absurd h hf) hg fun k hk => ?_
    cases hs : task.stage with
    | joined k after => exact absurd hs (hj k after)
    | _ => simp [hs, Stage.operation?] at hk

end Console

end ConsoleSession
