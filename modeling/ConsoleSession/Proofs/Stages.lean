import ConsoleSession.Proofs.Phases
import Mathlib.Data.List.Induction

/-!
# What a step does to the tasks

An event touches the task it is about and no other. A task that has ended or was dropped stays so,
and one that waits for an operation goes on waiting until it is dropped or takes the outcome.
-/

namespace ConsoleSession

def Stage.isOver : Stage → Bool
  | .ended _ | .dropped => true
  | _ => false

namespace Console

variable {c c' : Console} {t u k : Nat}

theorem Onward.task_of_ne (h : Onward t c c') (hne : u ≠ t) : c'.tasks[u]? = c.tasks[u]? := by
  obtain ⟨s, sent, -, -, ht⟩ := h.tasks
  rw [ht, List.getElem?_modify_ne _ _ fun e => hne e.symm]

theorem waitFor_task_of_ne (k : Nat) (after : After) (hne : u ≠ t) :
    (c.waitFor t k after).tasks[u]? = c.tasks[u]? :=
  List.getElem?_modify_ne _ _ fun e => hne e.symm

theorem join_task_of_ne (h : c.refresher.Sound) (goal : Goal) (after : After) (hne : u ≠ t) :
    (c.join t goal after).tasks[u]? = c.tasks[u]? := by
  obtain ⟨-, hj⟩ | ⟨k, -, -, hj⟩ | ⟨k, -, -, hj⟩ := join_cases h t goal after
  · rw [hj, startFor, waitFor_task_of_ne _ _ hne]
  · rw [hj, waitFor_task_of_ne _ _ hne]
  · rw [hj, (proceed_onward goal _ after).task_of_ne hne]

theorem taskStep_task_of_ne (h : c.refresher.Sound) {task : Task} (hs : TaskStep c t task c')
    (hne : u ≠ t) : c'.tasks[u]? = c.tasks[u]? := by
  cases hs with
  | rest _ _ _ => rfl
  | pass _ _ _ ho _ _ => exact ho.task_of_ne hne
  | judge p _ _ _ _ _ => exact (project_onward _ _).task_of_ne hne
  | gate p tokens _ _ _ _ _ => exact join_task_of_ne (c := { c with
      provider := p, tokens := tokens }) h _ _ hne
  | ask _ _ _ _ => exact join_task_of_ne h _ _ hne
  | collect k after o r _ _ _ _ => exact (proceed_onward _ o after).task_of_ne hne

theorem task_apply_of_ne (h : Orderly none c) {e : Event} (hne : e.task? ≠ some u) {task : Task}
    (hu : c.tasks[u]? = some task) : (c.apply e).tasks[u]? = some task := by
  have hm := apply_move c e
  generalize c.apply e = c' at hm
  cases hm with
  | calm _ ht _ _ => rw [ht, hu]
  | spawn goal =>
    obtain ⟨hlt, -⟩ := List.getElem?_eq_some_iff.1 hu
    rw [spawn, List.getElem?_append_left hlt, hu]
  | call k _ => exact hu
  | run _ _ hs =>
    rw [taskStep_task_of_ne (h.taking _).sound hs fun e => hne (by rw [e]; rfl)]
    exact hu
  | vain _ _ => exact hu
  | drop _ _ hd => rw [hd.tasks, List.getElem?_modify_ne _ _ fun e => hne (by rw [e]; rfl), hu]
  | answer k a hp => simpa [refreshed, hp] using hu
  | onward he _ _ ho _ => rw [ho.task_of_ne fun e => hne (by rw [he, e]), hu]
  | retry _ _ _ => rw [join_task_of_ne h.sound _ _ fun e => hne (by rw [e]; rfl), hu]

theorem tasks_apply_of_over (e : Event) {task : Task} (ht : c.tasks[u]? = some task)
    (hs : task.stage.isOver = true) (he : e.task? = some u) : (c.apply e).tasks = c.tasks := by
  obtain ⟨goal, stage, sent⟩ := task
  have hcases : (∃ r, stage = .ended r) ∨ stage = .dropped := by
    cases stage <;> simp_all [Stage.isOver]
  cases e with
  | turn s =>
    cases s with
    | operation k => cases he
    | task t =>
      cases he
      rw [apply, turn]
      split
      · obtain ⟨r, rfl⟩ | rfl := hcases <;> simp [ht, resume]
      · rfl
  | drop t =>
    cases he
    obtain ⟨r, rfl⟩ | rfl := hcases <;> simp [apply, drop, ht]
  | loggedOut t crashed =>
    cases he
    obtain ⟨r, rfl⟩ | rfl := hcases <;> simp [apply, loggedOut, ht]
  | replied t x =>
    cases he
    obtain ⟨r, rfl⟩ | rfl := hcases <;> simp [apply, replied, ht]
  | _ => cases he

theorem over_apply (h : Orderly none c) (e : Event) {s : Stage} (hs : s.isOver = true)
    (hu : c.stage? u = some s) : (c.apply e).stage? u = some s := by
  obtain ⟨task, ht, rfl⟩ := Option.map_eq_some_iff.1 hu
  by_cases hne : e.task? = some u
  · rw [stage?, tasks_apply_of_over e ht hs hne]
    exact hu
  · simp [stage?, task_apply_of_ne h hne ht]

theorem turn_told {task : Task} {after : After} {o : RefreshOutcome} {r : Refresher}
    (hr : .task t ∈ c.ready) (ht : c.tasks[t]? = some task) (hs : task.stage = .joined k after)
    (hc : c.refresher.collect k = (some o, r)) :
    c.apply (.turn (.task t)) =
      ({ c.taking (.task t) with refresher := r } : Console).proceed t task.goal o after := by
  rw [apply_turn_task hr ht]
  simp [resume, hs, look, taking, hc]

/-- A task that waits for an operation does so still after a step, or was dropped in it, or it has
run and taken the outcome. -/
theorem waiting_apply (h : Orderly none c) (e : Event) {task : Task} {after : After}
    (ht : c.tasks[t]? = some task) (hs : task.stage = .joined k after) :
    (c.apply e).tasks[t]? = some task ∨
    (e = .drop t ∧ (c.apply e).tasks[t]? = some { task with stage := .dropped }) ∨
    (∃ o r, e = .turn (.task t) ∧ .task t ∈ c.ready ∧ c.refresher.collect k = (some o, r) ∧
      c.apply e = ({ c.taking (.task t) with refresher := r } : Console).proceed t task.goal o
        after) := by
  by_cases hne : e.task? = some t
  · cases e with
    | turn s =>
      cases s with
      | operation k => cases hne
      | task u =>
        cases hne
        by_cases hr : .task t ∈ c.ready
        · obtain ⟨o, -, hc⟩ | ⟨-, hc⟩ | ⟨-, hc⟩ := c.refresher.collect_cases k
          · exact .inr (.inr ⟨o, _, rfl, hr, hc, turn_told hr ht hs hc⟩)
          · exact .inr (.inr ⟨_, _, rfl, hr, hc, turn_told hr ht hs hc⟩)
          · left
            rw [apply_turn_task hr ht]
            simp [resume, hs, look, taking, hc, ht]
        · left
          rw [apply_turn_idle hr, ht]
    | drop u =>
      cases hne
      right; left
      obtain ⟨goal, stage, sent⟩ := task
      cases hs
      exact ⟨rfl, by simp [apply, drop, ht, wake, setStage]⟩
    | loggedOut u crashed =>
      cases hne
      obtain ⟨goal, stage, sent⟩ := task
      cases hs
      left
      simp [apply, loggedOut, ht]
    | replied u x =>
      cases hne
      obtain ⟨goal, stage, sent⟩ := task
      cases hs
      left
      simp [apply, replied, ht]
    | _ => cases hne
  · exact .inl (task_apply_of_ne h hne ht)

def goals (c : Console) : List Goal := c.tasks.map (·.goal)

theorem goals_modify {f : Task → Task} (ht : c'.tasks = c.tasks.modify t f)
    (hf : ∀ k, (f k).goal = k.goal) : c'.goals = c.goals := by
  refine List.ext_getElem? fun i => ?_
  rcases hi : c.tasks[i]? with _ | k
  · simp [goals, ht, List.getElem?_modify, hi]
  · by_cases hti : t = i <;> simp [goals, ht, hi, hti, hf]

theorem Onward.goals (h : Onward t c c') : c'.goals = c.goals := by
  obtain ⟨s, sent, -, -, ht⟩ := h.tasks
  exact goals_modify ht fun _ => rfl

theorem join_goals (h : c.refresher.Sound) (goal : Goal) (after : After) :
    (c.join t goal after).goals = c.goals := by
  obtain ⟨-, hj⟩ | ⟨k, -, -, hj⟩ | ⟨k, -, -, hj⟩ := join_cases h t goal after
  · rw [hj]
    exact goals_modify (show (c.startFor t after).tasks = c.tasks.modify t _ from rfl) fun _ => rfl
  · rw [hj]
    exact goals_modify (show (c.waitFor t k after).tasks = c.tasks.modify t _ from rfl) fun _ => rfl
  · rw [hj]
    exact (proceed_onward goal _ after).goals

theorem taskStep_goals (h : c.refresher.Sound) {task : Task} (hs : TaskStep c t task c') :
    c'.goals = c.goals := by
  cases hs with
  | rest _ _ _ => rfl
  | pass _ _ _ ho _ _ => exact ho.goals
  | judge p _ _ _ _ _ => exact (project_onward _ _).goals
  | gate p tokens _ _ _ _ _ =>
    exact join_goals (c := { c with provider := p, tokens := tokens }) h _ _
  | ask _ _ _ _ => exact join_goals h _ _
  | collect k after o r _ _ _ _ => exact (proceed_onward _ o after).goals

theorem goals_apply (h : Orderly none c) {e : Event} (hs : ∀ goal, e ≠ .spawn goal) :
    (c.apply e).goals = c.goals := by
  have hm := apply_move c e
  generalize c.apply e = c' at hm
  cases hm with
  | calm _ ht _ _ => rw [goals, goals, ht]
  | spawn goal => exact absurd rfl (hs goal)
  | call k _ => rfl
  | @run t _ _ _ _ hstep => exact taskStep_goals (c := c.taking (.task t)) h.sound hstep
  | vain _ _ => rfl
  | drop _ _ hd => exact goals_modify hd.tasks fun _ => rfl
  | answer k a hp => simp [goals, refreshed, hp]
  | onward _ _ _ ho _ => exact ho.goals
  | retry _ _ _ => exact join_goals h.sound _ _

theorem getElem?_goals : c.goals[t]? = c.tasks[t]?.map (·.goal) :=
  List.getElem?_map ..

theorem task_of_apply (h : Orderly none c) {e : Event} {task : Task}
    (ht : (c.apply e).tasks[t]? = some task) :
    (∃ task', c.tasks[t]? = some task' ∧ task'.goal = task.goal) ∨
    (c.tasks[t]? = none ∧ ∃ goal, e = .spawn goal ∧ task = { goal := goal }) := by
  by_cases hs : ∃ goal, e = .spawn goal
  · obtain ⟨goal, rfl⟩ := hs
    have hsp : (c.tasks ++ [{ goal := goal }])[t]? = some task := ht
    rw [List.getElem?_append] at hsp
    split at hsp
    next hlt => exact .inl ⟨task, hsp, rfl⟩
    next hge =>
      refine .inr ⟨List.getElem?_eq_none (by omega), goal, rfl, ?_⟩
      have hmem := List.mem_of_getElem? hsp
      exact List.mem_singleton.1 hmem
  · have hg : (c.apply e).goals[t]? = c.goals[t]? := by
      rw [goals_apply h fun goal hgoal => hs ⟨goal, hgoal⟩]
    rw [getElem?_goals, getElem?_goals, ht] at hg
    obtain ⟨task', ht', hg'⟩ := Option.map_eq_some_iff.1 hg.symm
    exact .inl ⟨task', ht', hg'⟩

theorem pending_collect {task : Task} (after : After) {o : RefreshOutcome} {r : Refresher}
    (ht : c.tasks[t]? = some task) (hc : c.refresher.collect k = (some o, r)) :
    let c' := ({ c.taking (.task t) with refresher := r } : Console).proceed t task.goal o after
    c'.refresher.pending = c.refresher.pending ∨
    (c.refresher.pending = some k ∧ c.refresher.phase? k = some .crashed ∧
      (∃ r, c'.stage? t = some (.ended r)) ∧ c'.refresher.pending = none) := by
  dsimp only
  rw [(proceed_onward _ o after).refresher]
  obtain ⟨o', -, hk⟩ | ⟨hp, hk⟩ | ⟨-, hk⟩ := c.refresher.collect_cases k
  · rw [hk] at hc
    cases hc
    exact .inl rfl
  · rw [hk] at hc
    cases hc
    by_cases hpend : c.refresher.pending = some k
    · have hr := stage?_proceed_error (c := { c.taking (.task t) with
        refresher := c.refresher.release k }) task.goal .aborted after ht
      exact .inr ⟨hpend, hp, ⟨_, hr⟩, by simp [Refresher.pending_release, hpend]⟩
    · left
      simp [Refresher.pending_release, hpend]
  · rw [hk] at hc
    cases hc

theorem pending_refreshed (h : c.refresher.Sound) (a : RefreshAnswer)
    (hp : c.refresher.phase? k = some .calling) :
    (c.refreshed k a).refresher.pending = c.refresher.pending ∨
    ((c.refreshed k a).refresher.phase? k ≠ some .crashed ∧
      (c.refreshed k a).refresher.pending = none) := by
  obtain ⟨epoch, he⟩ := Refresher.exists_epoch?_of_phase? hp
  have hr : (c.refreshed k a).refresher = (c.refresher.answer k a c.tokens).1 := by
    simp [refreshed, hp]
  rw [hr, Refresher.pending_answer hp he]
  by_cases hj : (Refresher.judge c.tokens epoch a).1 = .crashed
  · exact .inl (if_neg fun h => h.1 hj)
  · have hl : c.refresher.isLive k = true := c.refresher.isLive_of_phase? k hp
    exact .inr ⟨by simp [Refresher.phase?_answer hp he, hj], if_pos ⟨hj, h.live k hl⟩⟩

/-- The slot is filled by the task that finds it empty. It is emptied by the backend's answer, or,
if the operation has crashed, by the first task to be told so. -/
theorem pending_apply (h : Orderly none c) (e : Event) :
    (c.apply e).refresher.pending = c.refresher.pending ∨
    (∃ t, c.asks e = some t ∧ (c.apply e).refresher.pending = some c.given) ∨
    (∃ k a, e = .refreshed k a ∧ c.refresher.phase? k = some .calling ∧
      (c.apply e).refresher.phase? k ≠ some .crashed ∧
      (c.apply e).refresher.pending = none) ∨
    (∃ k t r, c.refresher.pending = some k ∧ c.refresher.phase? k = some .crashed ∧
      (c.asks e = some t ∧ c.given = k ∨ c.awaited? t = some k) ∧
      (c.apply e).stage? t = some (.ended r) ∧ (c.apply e).refresher.pending = none) := by
  cases ha : c.asks e with
  | some t =>
    obtain ⟨-, -, hp⟩ | ⟨hp, hc, hn, r, hr⟩ := asks_awaits h ha
    · exact .inr (.inl ⟨t, rfl, hp⟩)
    · exact .inr (.inr (.inr ⟨_, t, r, hp, hc, .inl ⟨rfl, rfl⟩, hr, hn⟩))
  | none =>
    have hm := apply_move c e
    generalize c.apply e = c' at hm
    cases hm with
    | calm hr _ _ _ => exact .inl (by rw [hr])
    | spawn goal => exact .inl rfl
    | call k _ => exact .inl rfl
    | @run t task c' hmem ht hs =>
      rw [asks_of_run hmem ht] at ha
      have hw : c.wants t task ≠ true := by
        intro hw
        simp [hw] at ha
      cases hs with
      | rest _ _ _ => exact .inl rfl
      | pass _ _ _ ho _ _ => exact .inl (by rw [ho.refresher]; rfl)
      | judge p _ _ _ _ _ => exact .inl (by rw [(project_onward _ _).refresher]; rfl)
      | gate p tokens hw' _ _ _ _ => exact absurd hw' hw
      | ask hw' _ _ _ => exact absurd hw' hw
      | collect k after o r _ _ hs hc =>
        obtain hp | ⟨hpend, hp, ⟨r, hr⟩, hn⟩ := pending_collect after ht hc
        · exact .inl hp
        · have hw : c.awaited? t = some k := by simp [awaited?, stage?, ht, hs, Stage.operation?]
          exact .inr (.inr (.inr ⟨k, t, r, hpend, hp, .inr hw, hr, hn⟩))
    | vain _ _ => exact .inl rfl
    | drop _ _ hd =>
      left
      obtain ⟨hr, -⟩ | ⟨k, -, hr⟩ := hd.refresher
      · rw [hr]
      · rw [hr]
        rfl
    | answer k a hp =>
      exact (pending_refreshed h.sound a hp).imp_right fun hn => .inr (.inl ⟨k, a, rfl, hp, hn⟩)
    | onward _ _ _ ho _ => exact .inl (by rw [ho.refresher])
    | retry _ _ hr =>
      rw [hr] at ha
      cases ha

theorem join_guard (h : c.refresher.Sound) (goal : Goal) (after : After) :
    (c.join t goal after).guard = c.guard := by
  obtain ⟨-, hj⟩ | ⟨k, -, -, hj⟩ | ⟨k, -, -, hj⟩ := join_cases h t goal after
  · rw [hj]
    rfl
  · rw [hj]
    rfl
  · rw [hj, (proceed_onward goal _ after).guard]

theorem taskStep_guard (h : c.refresher.Sound) {task : Task} (hs : TaskStep c t task c') :
    c'.guard = c.guard := by
  cases hs with
  | rest _ _ _ => rfl
  | pass _ _ _ ho _ _ => exact ho.guard
  | judge p _ _ _ _ _ => rw [(project_onward _ _).guard]
  | gate p tokens _ _ _ _ _ =>
    exact join_guard (c := { c with provider := p, tokens := tokens }) h _ _
  | ask _ _ _ _ => exact join_guard h _ _
  | collect k after o r _ _ _ _ => rw [(proceed_onward _ o after).guard]

theorem guard_apply (h : Orderly none c) (e : Event) : (c.apply e).guard = c.guard := by
  cases e with
  | turn s =>
    dsimp only [apply]
    obtain ⟨-, he⟩ | ⟨k, -, -, he⟩ | ⟨u, -, -, -, he⟩ | ⟨u, task, -, -, -, hs⟩ := turn_cases c s
    · rw [he]
    · rw [he]
      rfl
    · rw [he]
      rfl
    · exact taskStep_guard (c := c.taking s) h.sound hs
  | drop t =>
    dsimp only [apply, drop]
    repeat' split
    all_goals rfl
  | refreshed k a =>
    dsimp only [apply, refreshed]
    split <;> rfl
  | loggedOut t crashed =>
    dsimp only [apply, loggedOut]
    repeat' split
    all_goals rfl
  | replied t e =>
    dsimp only [apply, replied]
    repeat' split
    all_goals first | rfl | exact join_guard h.sound _ _
  | _ => rfl

theorem Fresh.guard_run (h : c.Fresh) (es : List Event) : (c.run es).guard = c.guard := by
  induction es using List.reverseRecOn with
  | nil => rfl
  | append_singleton es e ih => rw [run_snoc, guard_apply (h.orderly_run es), ih]

end Console

end ConsoleSession
