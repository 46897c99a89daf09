import ConsoleSession.Proofs.Publication

/-!
# Who runs the resolution

Of those who came to mount one holds the resolution and the others queue; when the holder is dropped
the next in the queue takes over. `Attended` is the invariant: a task that came to mount and waits
for a refresh is the holder, and once one of them has returned the resolution is done.
-/

namespace ConsoleSession

namespace Provider

variable {p : Provider} {t u : Nat}

def party (p : Provider) : List Nat :=
  match p.mounting with
  | .running holder queue => holder :: queue
  | _ => []

theorem isHeldBy_iff : p.isHeldBy t = true ↔ ∃ queue, p.mounting = .running t queue := by
  unfold isHeldBy
  split
  next holder queue h => simp [h]
  next h => exact ⟨nofun, fun ⟨queue, running⟩ => absurd running (h t queue)⟩

theorem enter_cases (p : Provider) (t : Nat) :
    (p.mounting = .idle ∧ (p.enter t).mounting = .running t []) ∨
    (∃ holder queue queue', p.mounting = .running holder queue ∧
      (p.enter t).mounting = .running holder queue' ∧ ∀ u ∈ queue', u ∈ queue ∨ u = t) ∨
    (p.mounting = .done ∧ p.enter t = p) := by
  unfold enter
  split
  next h => exact .inl ⟨h, rfl⟩
  next holder queue h =>
    refine .inr (.inl ⟨holder, queue, ?_⟩)
    split
    · exact ⟨queue, h, h, fun u hu => .inl hu⟩
    · exact ⟨queue ++ [t], h, rfl, fun u hu => by simpa using hu⟩
  next h => exact .inr (.inr ⟨h, rfl⟩)

theorem leave_cases (p : Provider) (t : Nat) :
    (∃ queue, p.mounting = .running t queue ∧ (p.leave t).2.mounting ≠ .done ∧
      (p.leave t).2.party = queue) ∨
    (∃ holder queue, p.mounting = .running holder queue ∧ holder ≠ t ∧
      (p.leave t).2.mounting = .running holder (queue.erase t)) ∨
    ((∀ holder queue, p.mounting ≠ .running holder queue) ∧ (p.leave t).2 = p) := by
  unfold leave
  split
  next holder queue h =>
    split
    next here =>
      subst here
      refine .inl ⟨queue, h, ?_⟩
      cases queue <;> exact ⟨nofun, rfl⟩
    next away => exact .inr (.inl ⟨holder, queue, h, away, rfl⟩)
  next h => exact .inr (.inr ⟨h, rfl⟩)

theorem isHeldBy_enter (h : p.isHeldBy t = true) (u : Nat) : (p.enter u).isHeldBy t = true := by
  obtain ⟨queue, h⟩ := isHeldBy_iff.1 h
  rw [isHeldBy_iff]
  obtain ⟨idle, -⟩ | ⟨holder, queue₀, queue', running, entered, -⟩ | ⟨done, -⟩ := p.enter_cases u
  · rw [h] at idle
    cases idle
  · rw [h] at running
    cases running
    exact ⟨queue', entered⟩
  · rw [h] at done
    cases done

theorem isHeldBy_leave (h : p.isHeldBy t = true) (hne : u ≠ t) :
    (p.leave u).2.isHeldBy t = true := by
  obtain ⟨queue, h⟩ := isHeldBy_iff.1 h
  rw [isHeldBy_iff]
  obtain ⟨queue₀, running, -⟩ | ⟨holder, queue₀, running, -, left⟩ | ⟨idle, -⟩ := p.leave_cases u
  · rw [h] at running
    cases running
    exact absurd rfl hne
  · rw [h] at running
    cases running
    exact ⟨_, left⟩
  · exact absurd h (idle t queue)

theorem isHeldBy_unique (ht : p.isHeldBy t = true) (hu : p.isHeldBy u = true) : t = u := by
  obtain ⟨queue, ht⟩ := isHeldBy_iff.1 ht
  obtain ⟨queue', hu⟩ := isHeldBy_iff.1 hu
  cases ht.symm.trans hu
  rfl

theorem enter_of_done (h : p.mounting = .done) (t : Nat) : p.enter t = p := by
  rw [enter, h]

theorem leave_of_done (h : p.mounting = .done) (t : Nat) : (p.leave t).2 = p := by
  rw [leave, h]

theorem done_of_enter (h : (p.enter t).mounting = .done) : p.mounting = .done := by
  obtain ⟨-, entered⟩ | ⟨holder, -, queue, -, entered, -⟩ | ⟨done, -⟩ := p.enter_cases t
  · rw [entered] at h
    cases h
  · rw [entered] at h
    cases h
  · exact done

theorem done_of_leave (h : (p.leave t).2.mounting = .done) : p.mounting = .done := by
  obtain ⟨queue, -, running, -⟩ | ⟨holder, queue, -, -, left⟩ | ⟨-, same⟩ := p.leave_cases t
  · exact absurd h running
  · rw [left] at h
    cases h
  · rwa [same] at h

theorem not_done_of_enter (h : (p.enter t).isHeldBy t = true) : p.mounting ≠ .done := by
  intro done
  rw [enter_of_done done, isHeldBy_iff, done] at h
  obtain ⟨_, ⟨⟩⟩ := h

theorem mem_party_enter (h : u ∈ (p.enter t).party) : u = t ∨ u ∈ p.party := by
  unfold party at h ⊢
  obtain ⟨idle, entered⟩ | ⟨holder, queue, queue', running, entered, more⟩ | ⟨-, same⟩ :=
    p.enter_cases t
  · rw [entered] at h
    exact .inl (List.mem_singleton.1 h)
  · rw [entered] at h
    rw [running]
    obtain rfl | h := List.mem_cons.1 h
    · exact .inr List.mem_cons_self
    · exact (more u h).symm.imp_right (List.mem_cons_of_mem _)
  · rw [same] at h
    exact .inr h

theorem mem_party_leave (h : u ∈ (p.leave t).2.party) : u ∈ p.party := by
  obtain ⟨queue, running, -, left⟩ | ⟨holder, queue, running, -, left⟩ | ⟨-, same⟩ :=
    p.leave_cases t
  · rw [left] at h
    rw [party, running]
    exact List.mem_cons_of_mem _ h
  · rw [party, left] at h
    rw [party, running]
    exact (List.mem_cons.1 h).elim (· ▸ List.mem_cons_self)
      fun h => List.mem_cons_of_mem _ (List.mem_of_mem_erase h)
  · rwa [same] at h

theorem mem_party_of_isHeldBy (h : p.isHeldBy t = true) : t ∈ p.party := by
  obtain ⟨queue, h⟩ := isHeldBy_iff.1 h
  rw [party, h]
  exact List.mem_cons_self

end Provider

namespace Console

variable {c c₀ : Console} {t u k : Nat} {task : Task} {goal : Goal} {now : UInt64} {e : Event}

def Tells (c : Console) : Goal → Ending → Prop
  | .visit path, r => ∃ now s, r = .decided (c.guard.decide c.provider.state path now s).1
  | _, r => r = .state c.provider.state

/-- Task `t` holds the resolution if it waits for a refresh; if it has ended the resolution is done
and it was told the state of now. -/
def Settles (t : Nat) (goal : Goal) (c : Console) : Prop :=
  ∀ s, c.stage? t = some s →
    (∀ k after, s = .joined k after → c.provider.isHeldBy t = true) ∧
    (∀ r, s = .ended r → c.provider.mounting = .done ∧ c.Tells goal r)

theorem settles_setStage {s : Stage} (hj : ∀ k after, s = .joined k after →
    c.provider.isHeldBy t = true) (hr : ∀ r, s ≠ .ended r) : Settles t goal (c.setStage t s) := by
  intro s' hs
  rw [stage?_setStage, if_pos rfl] at hs
  obtain ⟨_, -, rfl⟩ := Option.map_eq_some_iff.1 hs
  exact ⟨hj, fun r h => absurd h (hr r)⟩

theorem settles_arrive (hm : goal.Mounts) (hd : c.provider.mounting = .done) :
    Settles t goal (c.arrive t goal) := by
  have told (c' : Console) (r : Ending) (hr : c'.Tells goal r) (hd : c'.provider.mounting = .done) :
      Settles t goal (c'.finish t r) := by
    intro s hs
    rw [finish, stage?_setStage, if_pos rfl] at hs
    obtain ⟨_, -, rfl⟩ := Option.map_eq_some_iff.1 hs
    refine ⟨by simp, fun r' h => ?_⟩
    cases h
    exact ⟨hd, hr⟩
  cases goal with
  | mount => exact told c _ rfl hd
  | visit path => exact told (c.navigate path).2 _ ⟨c.now, c.redirects, rfl⟩ hd
  | _ => exact hm.elim

theorem settles_project (hm : goal.Mounts) (now : UInt64) :
    Settles t goal (c.project t goal now) := by
  cases goal with
  | mount | visit path => exact settles_arrive trivial rfl
  | _ => exact hm.elim

theorem settles_proceed (hm : goal.Mounts) {after : After} (hf : after.Fits goal)
    (o : RefreshOutcome) : Settles t goal (c.proceed t goal o after) := by
  cases after with
  | project now => exact settles_project hm now
  | report | retry refused =>
    cases goal with
    | mount | visit path => exact hf.elim
    | _ => exact hm.elim

theorem settles_join (hs : c.refresher.Sound) (hm : goal.Mounts) (held : c.provider.isHeldBy t = true)
    (now : UInt64) : Settles t goal (c.join t goal (.project now)) := by
  obtain ⟨-, hj⟩ | ⟨k, -, -, hj⟩ | ⟨k, -, -, hj⟩ := join_cases hs t goal (.project now)
  · rw [hj]
    exact settles_setStage (fun _ _ _ => held) nofun
  · rw [hj]
    exact settles_setStage (fun _ _ _ => held) nofun
  · rw [hj]
    exact settles_proceed (c := { c with refresher := c.refresher.release k }) hm (hm.fits now) _

theorem settles_mount (hs : c.refresher.Sound) (hm : goal.Mounts) :
    Settles t goal (c.mount t goal) := by
  unfold mount resolve
  dsimp only
  split
  next holder queue running =>
    split
    next here =>
      have held : (c.provider.enter t).isHeldBy t = true :=
        Provider.isHeldBy_iff.2 ⟨queue, here ▸ running⟩
      split
      · exact settles_join (c := { c with
          provider := c.provider.enter t, tokens := (Gate.inspect c.tokens c.now).2 }) hs hm held _
      · exact settles_project hm _
    next => exact settles_setStage nofun nofun
  next idle =>
    have done : (c.provider.enter t).mounting = .done := by
      obtain ⟨-, entered⟩ | ⟨holder, -, queue', -, entered, -⟩ | ⟨done, same⟩ :=
        c.provider.enter_cases t
      · exact absurd entered (idle t [])
      · exact absurd entered (idle holder queue')
      · rw [same, done]
    exact settles_arrive (c := { c with provider := c.provider.enter t }) hm done

structure Attended (c : Console) : Prop where
  party : ∀ t ∈ c.provider.party, ∃ goal, c.goals[t]? = some goal ∧ goal.Mounts
  resolving : ∀ (t : Nat) (task : Task) (k : Nat) (after : After), c.tasks[t]? = some task →
    task.goal.Mounts → task.stage = .joined k after → c.provider.isHeldBy t = true
  returned : ∀ (t : Nat) (task : Task) (r : Ending), c.tasks[t]? = some task → task.goal.Mounts →
    task.stage = .ended r → c.provider.mounting = .done
  declared : c.provider.mounting = .done → ∀ u, c.provider.state ≠ .loading u

theorem Fresh.attended (h : c.Fresh) : Attended c := by
  refine ⟨?_, ?_, ?_, ?_⟩
  · simp [h.provider, Provider.party]
  · simp [h.tasks]
  · simp [h.tasks]
  · simp [h.provider]

theorem isHeldBy_of_gates (hm : task.goal.Mounts) (hg : c.gates t task = true) :
    (c.provider.enter t).isHeldBy t = true := by
  unfold gates at hg
  split at hg
  next hgoal =>
    rw [hgoal] at hm
    exact hm.elim
  next => exact hg
  next => exact hg
  next => exact hg
  next => cases hg

theorem Attended.holds (h : Attended c) (ht : c.tasks[t]? = some task) (hm : task.goal.Mounts)
    (hn : c.reads? t task = some now) : (c.provider.enter t).isHeldBy t = true := by
  unfold reads? at hn
  split at hn
  next k now' hs => exact Provider.isHeldBy_enter (h.resolving t task k _ ht hm hs) t
  next =>
    split at hn
    next hg => exact isHeldBy_of_gates hm hg
    next => cases hn

theorem done_apply (ho : Orderly none c) (hf : c.Fits) (hd : c.provider.mounting = .done)
    (e : Event) : (c.apply e).provider.mounting = .done := by
  have hp := provider_apply ho hf e
  generalize (c.apply e).provider = p at hp
  cases hp with
  | kept => exact hd
  | entered => rwa [Provider.enter_of_done hd]
  | mounted => rfl
  | left => rwa [Provider.leave_of_done hd]
  | logout => exact hd
  | login => exact hd

theorem Attended.isHeldBy_apply (h : Attended c) (ho : Orderly none c) (hf : c.Fits)
    (held : c.provider.isHeldBy u = true) (hne : e.task? ≠ some u) :
    (c.apply e).provider.isHeldBy u = true := by
  have hp := provider_apply ho hf e
  generalize (c.apply e).provider = p at hp
  cases hp with
  | kept => exact held
  | entered => exact Provider.isHeldBy_enter held _
  -- only the holder ends the resolution, and it is not the task of this step
  | @mounted t task now p hr ht hm hpp hn =>
    have same := Provider.isHeldBy_unique (h.holds ht hm hn) (Provider.isHeldBy_enter held t)
    exact absurd (congrArg some same) hne
  | left t => exact Provider.isHeldBy_leave held fun same => hne (congrArg some same)
  | logout => exact held
  | login => exact held

theorem Attended.settles_of_kept {c' : Console} (h : Attended c) (ht : c.tasks[t]? = some task)
    (hm : task.goal.Mounts) (hn : task.stage.isOver = false) (ht' : c'.tasks[t]? = some task)
    (hp : c'.provider = c.provider) : Settles t task.goal c' := by
  intro s hs
  rw [stage?, ht'] at hs
  obtain rfl : task.stage = s := Option.some.inj hs
  refine ⟨fun k after hj => ?_, fun r hr => ?_⟩
  · rw [hp]
    exact h.resolving t task k after ht hm hj
  · rw [hr] at hn
    cases hn

theorem Attended.settles_turn (h : Attended c) (hs : c.refresher.Sound) (hf : c.Fits)
    (ht : c.tasks[t]? = some task) (hm : task.goal.Mounts) (hn : task.stage.isOver = false) :
    Settles t task.goal (c.apply (.turn (.task t))) := by
  by_cases hr : .task t ∈ c.ready
  · have fits := hf t task ht
    obtain ⟨goal, stage, sent⟩ := task
    rw [apply_turn_task hr ht]
    cases stage with
    | fresh =>
      dsimp only [resume]
      rw [begin_mounts hm]
      exact settles_mount (c := c.taking (.task t)) hs hm
    | queued => exact settles_mount (c := c.taking (.task t)) hs hm
    | joined k after =>
      dsimp only [resume, look]
      split
      next o r _ =>
        exact settles_proceed (c := { c.taking (.task t) with refresher := r }) hm fits o
      next => exact h.settles_of_kept ht hm hn ht rfl
    | _ => exact h.settles_of_kept ht hm hn ht rfl
  · rw [apply_turn_idle hr]
    exact h.settles_of_kept ht hm hn ht rfl

theorem loggedOut_of_mounts (hf : c.Fits) (ht : c.tasks[t]? = some task) (hm : task.goal.Mounts)
    (crashed : Bool) : c.loggedOut t crashed = c := by
  have fits := hf t task ht
  unfold loggedOut
  split
  next hl =>
    cases ht.symm.trans hl
    exact ((fits : _ = Goal.logout) ▸ hm).elim
  next => rfl

theorem replied_of_mounts (hf : c.Fits) (ht : c.tasks[t]? = some task) (hm : task.goal.Mounts)
    (x : Exchange) : c.replied t x = c := by
  have fits := hf t task ht
  unfold replied
  split
  next hl =>
    cases ht.symm.trans hl
    obtain ⟨call, rfl⟩ : ∃ call, _ = Goal.call call := fits
    exact hm.elim
  next => rfl

theorem Attended.settles_apply (h : Attended c) (ho : Orderly none c) (hf : c.Fits)
    (ht : c.tasks[t]? = some task) (hm : task.goal.Mounts) (hn : task.stage.isOver = false)
    (he : e.task? = some t) : Settles t task.goal (c.apply e) := by
  have stays := h.settles_of_kept ht hm hn ht rfl
  cases e with
  | turn s =>
    cases s with
    | operation k => cases he
    | task u =>
      cases he
      exact h.settles_turn ho.sound hf ht hm hn
  | drop u =>
    cases he
    dsimp only [apply, drop]
    rw [ht]
    dsimp only
    split
    · exact stays
    · exact stays
    · exact settles_setStage (by simp) (by simp)
  | loggedOut u crashed =>
    cases he
    rwa [apply, loggedOut_of_mounts hf ht hm]
  | replied u x =>
    cases he
    rwa [apply, replied_of_mounts hf ht hm]
  | _ => cases he

theorem goals_of_apply (ho : Orderly none c) (ht : c.goals[t]? = some goal) (e : Event) :
    (c.apply e).goals[t]? = some goal := by
  by_cases hs : ∃ goal, e = .spawn goal
  · obtain ⟨goal', rfl⟩ := hs
    have more : (c.apply (.spawn goal')).goals = c.goals ++ [goal'] := by
      simp [goals, apply, spawn]
    obtain ⟨hlt, -⟩ := List.getElem?_eq_some_iff.1 ht
    rw [more, List.getElem?_append_left hlt, ht]
  · rw [goals_apply ho fun goal' h => hs ⟨goal', h⟩, ht]

theorem project_ne_loading (s : TokenStore) (now : UInt64) (u : Option User) :
    (Gate.project s now).1 ≠ .loading u := by
  obtain ⟨v, -, hp⟩ | ⟨-, hp⟩ | ⟨-, hp⟩ := Gate.project_cases s now <;> rw [hp] <;> exact nofun

theorem adopt_ne_loading (s : TokenStore) (token : String) (now : UInt64) (u : Option User) :
    (Gate.adopt s token now).1 ≠ .loading u := by
  obtain ⟨v, -, ha⟩ | ⟨why, -, ha⟩ := Gate.adopt_cases s token now <;> rw [ha] <;> exact nofun

theorem Attended.apply (h : Attended c) (ho : Orderly none c) (hf : c.Fits) (e : Event) :
    Attended (c.apply e) := by
  have hp := provider_apply ho hf e
  -- a task that the step leaves where it was, or one that has just been started
  have moved {t : Nat} {task : Task} (ht : (c.apply e).tasks[t]? = some task)
      (hm : task.goal.Mounts) (hs : task.stage ≠ .fresh) :
      c.tasks[t]? = some task ∧ (e.task? ≠ some t ∨ task.stage.isOver = true) ∨
        Settles t task.goal (c.apply e) := by
    obtain ⟨task', ht', hgoal⟩ | ⟨-, goal, -, rfl⟩ := task_of_apply ho ht
    · by_cases he : e.task? = some t
      · cases isOver : task'.stage.isOver with
        | true =>
          have same := tasks_apply_of_over e ht' isOver he
          rw [same] at ht
          cases ht.symm.trans ht'
          exact .inl ⟨ht, .inr isOver⟩
        | false =>
          right
          rw [← hgoal] at hm ⊢
          exact h.settles_apply ho hf ht' hm isOver he
      · cases (task_apply_of_ne ho he ht').symm.trans ht
        exact .inl ⟨ht', .inl he⟩
    · exact absurd rfl hs
  refine ⟨fun t ht => ?_, fun t task k after ht hm hj => ?_, fun t task r ht hm hr => ?_,
    fun hd u => ?_⟩
  · have before (hmem : t ∈ c.provider.party) :
        ∃ goal, (c.apply e).goals[t]? = some goal ∧ goal.Mounts := by
      obtain ⟨goal, hg, hm⟩ := h.party t hmem
      exact ⟨goal, goals_of_apply ho hg e, hm⟩
    generalize (c.apply e).provider = p at hp ht
    cases hp with
    | kept => exact before ht
    | @entered u task hr htask hm =>
      obtain rfl | hmem := Provider.mem_party_enter ht
      · exact ⟨task.goal, goals_of_apply ho (by rw [getElem?_goals, htask]; rfl) _, hm⟩
      · exact before hmem
    | mounted => cases ht
    | left => exact before (Provider.mem_party_leave ht)
    | logout => exact before ht
    | login => exact before ht
  · obtain ⟨ht', he | isOver⟩ | settles := moved ht hm (by rw [hj]; simp)
    · exact h.isHeldBy_apply ho hf (h.resolving t task k after ht' hm hj) he
    · rw [hj] at isOver
      cases isOver
    · exact (settles task.stage (by simp [stage?, ht])).1 k after hj
  · obtain ⟨ht', -⟩ | settles := moved ht hm (by rw [hr]; simp)
    · exact done_apply ho hf (h.returned t task r ht' hm hr) e
    · exact ((settles task.stage (by simp [stage?, ht])).2 r hr).1
  · generalize (c.apply e).provider = p at hp hd
    cases hp with
    | kept => exact h.declared hd u
    | @entered t =>
      rw [enter_state]
      exact h.declared (Provider.done_of_enter hd) u
    | mounted => exact project_ne_loading _ _ u
    | left t =>
      rw [leave_state]
      exact h.declared (Provider.done_of_leave hd) u
    | logout => simp [Provider.publish]
    | login token => exact adopt_ne_loading _ _ _ u

theorem Fresh.attended_run (h : c₀.Fresh) (es : List Event) : Attended (c₀.run es) := by
  induction es using List.reverseRecOn with
  | nil => exact h.attended
  | append_singleton es e ih =>
    rw [run_snoc]
    exact ih.apply (h.orderly_run es) (h.fits_run es) e

end Console

end ConsoleSession
