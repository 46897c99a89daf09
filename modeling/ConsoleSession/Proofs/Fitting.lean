import ConsoleSession.Proofs.Stages

/-!
# Stages fit goals

What a task can wait for and what it can end with goes by what it is after: only who mounts queues
for the resolution, only a gate keeps a clock reading over a refresh, only a visit ends with a
decision.
-/

namespace ConsoleSession

def Goal.Mounts : Goal → Prop
  | .mount | .visit _ => True
  | _ => False

def After.Fits : Goal → After → Prop
  | .refresh, .report => True
  | .resolve, .project _ | .mount, .project _ | .visit _, .project _ => True
  | .call _, .retry _ => True
  | _, _ => False

def Ending.Fits : Goal → Ending → Prop
  | .refresh, .refreshed _ => True
  | .resolve, .state _ | .mount, .state _ => True
  | .visit _, .decided _ => True
  | .logout, .loggedOut | .logout, .crashed => True
  | .call _, .answered _ => True
  | _, _ => False

def Stage.Fits (goal : Goal) : Stage → Prop
  | .fresh | .dropped => True
  | .joined _ after => after.Fits goal
  | .queued => goal.Mounts
  | .leaving => goal = .logout
  | .sending => ∃ call, goal = .call call
  | .ended r => r.Fits goal

theorem Goal.Mounts.fits {goal : Goal} (h : goal.Mounts) (now : UInt64) :
    (After.project now).Fits goal := by
  cases goal with
  | mount | visit path => exact trivial
  | _ => exact h.elim

namespace Console

variable {c c₀ : Console} {t : Nat} {goal : Goal}

def Fits (c : Console) : Prop :=
  ∀ (t : Nat) (task : Task), c.tasks[t]? = some task → task.stage.Fits task.goal

def Lands (t : Nat) (goal : Goal) (c : Console) : Prop :=
  ∀ s, c.stage? t = some s → s.Fits goal

theorem lands_setStage {s : Stage} (h : s.Fits goal) : Lands t goal (c.setStage t s) := by
  intro s' hs
  rw [stage?_setStage, if_pos rfl] at hs
  obtain ⟨_, -, rfl⟩ := Option.map_eq_some_iff.1 hs
  exact h

theorem lands_finish {r : Ending} (h : r.Fits goal) : Lands t goal (c.finish t r) :=
  lands_setStage h

theorem lands_send (call : Call) : Lands t (.call call) (c.send t call) := by
  intro s hs
  rw [stage?_modify _ (show (c.send t call).tasks = c.tasks.modify t _ from rfl), if_pos rfl] at hs
  obtain ⟨_, -, rfl⟩ := Option.map_eq_some_iff.1 hs
  exact ⟨call, rfl⟩

theorem lands_arrive (h : goal.Mounts) : Lands t goal (c.arrive t goal) := by
  cases goal with
  | mount => exact lands_finish (c := c) trivial
  | visit path => exact lands_finish (c := (c.navigate path).2) trivial
  | _ => exact h.elim

theorem lands_conclude {now : UInt64} (h : (After.project now).Fits goal) (s : AuthState) :
    Lands t goal (c.conclude t goal s) := by
  cases goal with
  | resolve => exact lands_finish trivial
  | mount => exact lands_arrive trivial
  | visit path => exact lands_arrive trivial
  | _ => exact h.elim

theorem lands_proceed {after : After} (h : after.Fits goal) (o : RefreshOutcome) :
    Lands t goal (c.proceed t goal o after) := by
  cases after with
  | report =>
    cases goal with
    | refresh => exact lands_finish trivial
    | _ => exact h.elim
  | project now => exact lands_conclude h _
  | retry refused =>
    cases goal with
    | call call =>
      cases o with
      | ok token => exact lands_send call
      | error why => exact lands_finish trivial
    | _ => exact h.elim

theorem lands_join (hs : c.refresher.Sound) {after : After} (h : after.Fits goal) :
    Lands t goal (c.join t goal after) := by
  obtain ⟨-, hj⟩ | ⟨k, -, -, hj⟩ | ⟨k, -, -, hj⟩ := join_cases hs t goal after
  · rw [hj]
    exact lands_setStage h
  · rw [hj]
    exact lands_setStage h
  · rw [hj]
    exact lands_proceed h _

theorem lands_resolve (hs : c.refresher.Sound) (h : ∀ now, (After.project now).Fits goal) :
    Lands t goal (c.resolve t goal) := by
  unfold resolve
  dsimp only
  split
  · exact lands_join (c := { c with tokens := (Gate.inspect c.tokens c.now).2 }) hs (h _)
  · exact lands_conclude (h c.now) _

theorem lands_mount (hs : c.refresher.Sound) (h : goal.Mounts) : Lands t goal (c.mount t goal) := by
  unfold mount
  dsimp only
  split
  · split
    · exact lands_resolve (c := { c with provider := c.provider.enter t }) hs h.fits
    · exact lands_setStage h
  · exact lands_arrive h

theorem lands_begin (hs : c.refresher.Sound) (goal : Goal) : Lands t goal (c.begin t goal) := by
  cases goal with
  | refresh => exact lands_join hs trivial
  | resolve => exact lands_resolve hs fun _ => trivial
  | mount => exact lands_mount hs trivial
  | visit path => exact lands_mount hs trivial
  | logout => exact lands_setStage rfl
  | call call =>
    unfold begin
    dsimp only
    split
    · exact lands_finish trivial
    · exact lands_send call

theorem lands_of_task {task : Task} (ht : c.tasks[t]? = some task)
    (h : task.stage.Fits task.goal) : Lands t task.goal c := by
  intro s hst
  obtain rfl : task.stage = s := by simpa [stage?, ht] using hst
  exact h

theorem lands_resume (hs : c.refresher.Sound) {task : Task} (ht : c.tasks[t]? = some task)
    (h : task.stage.Fits task.goal) : Lands t task.goal (c.resume t task) := by
  have stays : Lands t task.goal c := lands_of_task ht h
  unfold resume
  split
  next => exact lands_begin hs _
  next hq =>
    have mounts : task.goal.Mounts := by
      rw [hq] at h
      exact h
    exact lands_mount hs mounts
  next k after hj =>
    have fits : after.Fits task.goal := by
      rw [hj] at h
      exact h
    unfold look
    split
    · exact lands_proceed fits _
    · exact stays
  next => exact stays

theorem lands_apply (ho : Orderly none c) (h : c.Fits) {e : Event} {task : Task}
    (he : e.task? = some t) (ht : c.tasks[t]? = some task) : Lands t task.goal (c.apply e) := by
  have fits := h t task ht
  have stays : Lands t task.goal c := lands_of_task ht fits
  cases e with
  | turn s =>
    cases s with
    | operation k => cases he
    | task u =>
      cases he
      by_cases hr : .task t ∈ c.ready
      · rw [apply_turn_task hr ht]
        exact lands_resume (c := c.taking (.task t)) ho.sound ht fits
      · rw [apply_turn_idle hr]
        exact stays
  | drop u =>
    cases he
    dsimp only [apply, drop]
    rw [ht]
    dsimp only
    split
    · exact stays
    · exact stays
    · exact lands_setStage trivial
  | loggedOut u crashed =>
    cases he
    dsimp only [apply, loggedOut]
    split
    next goal sent hl =>
      obtain rfl : task = ⟨goal, .leaving, sent⟩ := Option.some.inj (ht.symm.trans hl)
      obtain rfl : goal = .logout := fits
      split
      · exact lands_finish trivial
      · exact lands_finish trivial
    next => exact stays
  | replied u x =>
    cases he
    dsimp only [apply, replied]
    split
    next goal sent hl =>
      obtain rfl : task = ⟨goal, .sending, sent⟩ := Option.some.inj (ht.symm.trans hl)
      obtain ⟨call, rfl⟩ : ∃ call, goal = .call call := fits
      split
      · split
        · exact lands_join ho.sound trivial
        · exact lands_finish trivial
      · refine lands_finish ?_
        unfold answered
        split <;> trivial
    next => exact stays
  | _ => cases he

theorem Fits.apply (ho : Orderly none c) (h : c.Fits) (e : Event) : (c.apply e).Fits := by
  intro t task ht
  obtain ⟨task', ht', hgoal⟩ | ⟨-, goal, rfl, rfl⟩ := task_of_apply ho ht
  · by_cases he : e.task? = some t
    · exact hgoal ▸ lands_apply ho h he ht' task.stage (by simp [stage?, ht])
    · obtain rfl : task' = task :=
        Option.some.inj ((task_apply_of_ne ho he ht').symm.trans ht)
      exact h t task' ht'
  · exact trivial

theorem Fresh.fits_run (h : c₀.Fresh) (es : List Event) : (c₀.run es).Fits := by
  induction es using List.reverseRecOn with
  | nil =>
    intro t task ht
    simp [run, h.tasks] at ht
  | append_singleton es e ih =>
    rw [run_snoc]
    exact ih.apply (h.orderly_run es) e

end Console

end ConsoleSession
