import ConsoleSession.Proofs.Fitting
import ConsoleSession.Proofs.Tokens

/-!
# What a step does to the provider

The provider changes through those who come to mount or are dropped there, through a login, a logout
and the end of the resolution. Only the last three publish a state. A resolution publishes what its
gate makes of the token held at its end, by the clock reading it took.
-/

namespace ConsoleSession.Console

variable {c c' c₀ : Console} {t : Nat} {goal : Goal} {task : Task} {now : UInt64}

theorem arrive_provider (goal : Goal) : (c.arrive t goal).provider = c.provider := by
  cases goal <;> rfl

theorem conclude_provider (h : goal.Mounts) (s : AuthState) :
    (c.conclude t goal s).provider = c.provider.mounted s := by
  cases goal with
  | mount | visit path => exact arrive_provider _
  | _ => exact h.elim

theorem enter_published (p : Provider) (t : Nat) : (p.enter t).published = p.published := by
  unfold Provider.enter
  repeat' split
  all_goals rfl

theorem leave_published (p : Provider) (t : Nat) : (p.leave t).2.published = p.published := by
  unfold Provider.leave
  repeat' split
  all_goals rfl

inductive Provides (c : Console) (t : Nat) (task : Task) (c' : Console) : Prop
  | kept (h : c'.provider = c.provider)
  | entered (hm : task.goal.Mounts) (h : c'.provider = c.provider.enter t)
  | mounted (hm : task.goal.Mounts) (p : Provider) (now : UInt64)
      (hp : p = c.provider ∨ p = c.provider.enter t) (hn : c.reads? t task = some now)
      (h : c'.provider = p.mounted (Gate.project c'.tokens now).1)

theorem project_provider (hf : (After.project now).Fits goal) :
    (c.project t goal now).provider = c.provider ∨
      goal.Mounts ∧ (c.project t goal now).provider =
        c.provider.mounted (Gate.project (c.project t goal now).tokens now).1 := by
  have ht : (c.project t goal now).tokens = (Gate.project c.tokens now).2 := conclude_tokens _ _
  rw [ht, Gate.project_project]
  by_cases hm : goal.Mounts
  · exact .inr ⟨hm, conclude_provider (c := { c with tokens := (Gate.project c.tokens now).2 }) hm _⟩
  · cases goal with
    | resolve => exact .inl rfl
    | mount | visit path => exact absurd trivial hm
    | _ => exact hf.elim

theorem proceed_provider {after : After} (hf : after.Fits goal) (o : RefreshOutcome) :
    (c.proceed t goal o after).provider = c.provider ∨
      ∃ now, after = .project now ∧ goal.Mounts ∧ (c.proceed t goal o after).provider =
        c.provider.mounted (Gate.project (c.proceed t goal o after).tokens now).1 := by
  cases after with
  | report => exact .inl rfl
  | project now => exact (project_provider hf).imp_right fun h => ⟨now, rfl, h⟩
  | retry refused =>
    left
    unfold proceed
    dsimp only
    split <;> rfl

theorem join_provider (hs : c.refresher.Sound) {after : After} (hf : after.Fits goal) :
    (c.join t goal after).provider = c.provider ∨
      ∃ now, after = .project now ∧ goal.Mounts ∧ (c.join t goal after).provider =
        c.provider.mounted (Gate.project (c.join t goal after).tokens now).1 := by
  obtain ⟨-, hj⟩ | ⟨k, -, -, hj⟩ | ⟨k, -, -, hj⟩ := join_cases hs t goal after
  · exact .inl (by rw [hj]; rfl)
  · exact .inl (by rw [hj]; rfl)
  · rw [hj]
    exact proceed_provider (c := { c with refresher := c.refresher.release k }) hf _

theorem resolve_provider (hs : c.refresher.Sound) (hf : (After.project c.now).Fits goal) :
    (c.resolve t goal).provider = c.provider ∨
      goal.Mounts ∧ (c.resolve t goal).provider =
        c.provider.mounted (Gate.project (c.resolve t goal).tokens c.now).1 := by
  unfold resolve
  dsimp only
  split
  · obtain h | ⟨now, ⟨⟩, h⟩ := join_provider (c := { c with
      tokens := (Gate.inspect c.tokens c.now).2 }) (t := t) hs hf
    · exact .inl h
    · exact .inr h
  · exact project_provider (c := { c with tokens := (Gate.inspect c.tokens c.now).2 }) hf

theorem mount_provider (hs : c.refresher.Sound) (hm : goal.Mounts) :
    (c.mount t goal).provider = c.provider.enter t ∨
      (c.provider.enter t).isHeldBy t = true ∧ (c.mount t goal).provider =
        (c.provider.enter t).mounted (Gate.project (c.mount t goal).tokens c.now).1 := by
  unfold mount
  dsimp only
  split
  next holder queue held =>
    split
    next here =>
      have holds : (c.provider.enter t).isHeldBy t = true := by
        simp [Provider.isHeldBy, held, here]
      exact (resolve_provider (c := { c with provider := c.provider.enter t }) hs (hm.fits _)).imp_right
        fun h => ⟨holds, h.2⟩
    next => exact .inl rfl
  next => exact .inl (arrive_provider _)

theorem begin_mounts (hm : goal.Mounts) : c.begin t goal = c.mount t goal := by
  cases goal with
  | mount | visit path => rfl
  | _ => exact hm.elim

theorem begin_provider (hs : c.refresher.Sound) (hn : ¬ goal.Mounts) :
    (c.begin t goal).provider = c.provider := by
  cases goal with
  | refresh =>
    have fits : After.report.Fits .refresh := trivial
    obtain h | ⟨now, ⟨⟩, -⟩ := join_provider (t := t) hs fits
    exact h
  | resolve =>
    have fits : (After.project c.now).Fits .resolve := trivial
    obtain h | ⟨hm, -⟩ := resolve_provider (t := t) hs fits
    · exact h
    · exact hm.elim
  | mount | visit path => exact absurd trivial hn
  | logout => rfl
  | call call =>
    unfold begin
    dsimp only
    split <;> rfl

theorem resume_provides (hs : c.refresher.Sound) (hf : task.stage.Fits task.goal) :
    Provides c t task (c.resume t task) := by
  have mounting (ht : task.stage = .fresh ∨ task.stage = .queued) (hm : task.goal.Mounts) :
      Provides c t task (c.mount t task.goal) := by
    obtain h | ⟨held, h⟩ := mount_provider (c := c) (t := t) hs hm
    · exact .entered hm h
    · have gates : c.gates t task = true := by
        obtain ⟨goal, stage, sent⟩ := task
        obtain rfl | rfl := ht
        · cases goal with
          | mount | visit path => exact held
          | _ => exact hm.elim
        · exact held
      exact .mounted hm _ c.now (.inr rfl) (reads?_of_gates gates) h
  unfold resume
  split
  next hfresh =>
    by_cases hm : task.goal.Mounts
    · rw [begin_mounts hm]
      exact mounting (.inl hfresh) hm
    · exact .kept (begin_provider hs hm)
  next hq => exact mounting (.inr hq) (by rw [hq] at hf; exact hf)
  next k after hj =>
    rw [hj] at hf
    unfold look
    split
    next o r hc =>
      obtain h | ⟨now, rfl, hm, h⟩ := proceed_provider (c := { c with refresher := r }) (t := t) hf o
      · exact .kept h
      · exact .mounted hm _ now (.inl rfl) (by simp [reads?, hj]) h
    next => exact .kept rfl
  next => exact .kept rfl

inductive Provided (c : Console) : Event → Provider → Prop
  | kept {e : Event} (hlogin : ∀ token, e ≠ .completeLogin token)
      (hlogout : ∀ t, e = .loggedOut t false → c.stage? t ≠ some .leaving) :
      Provided c e c.provider
  | entered {t : Nat} {task : Task} (hr : .task t ∈ c.ready) (ht : c.tasks[t]? = some task)
      (hm : task.goal.Mounts) : Provided c (.turn (.task t)) (c.provider.enter t)
  | mounted {t : Nat} {task : Task} {now : UInt64} {p : Provider} (hr : .task t ∈ c.ready)
      (ht : c.tasks[t]? = some task) (hm : task.goal.Mounts)
      (hp : p = c.provider ∨ p = c.provider.enter t) (hn : c.reads? t task = some now) :
      Provided c (.turn (.task t))
        (p.mounted (Gate.project (c.apply (.turn (.task t))).tokens now).1)
  | left (t : Nat) : Provided c (.drop t) (c.provider.leave t).2
  | logout {t : Nat} (ht : c.stage? t = some .leaving) :
      Provided c (.loggedOut t false) (c.provider.publish .unauthenticated)
  | login (token : String) :
      Provided c (.completeLogin token)
        (c.provider.publish (Gate.adopt c.tokens token c.now).1)

theorem Provided.of_eq {e : Event} {p : Provider} (h : p = c.provider)
    (hlogin : ∀ token, e ≠ .completeLogin token)
    (hlogout : ∀ t, e = .loggedOut t false → c.stage? t ≠ some .leaving) : Provided c e p :=
  h ▸ .kept hlogin hlogout

theorem turn_provided (ho : Orderly none c) (hf : c.Fits) (s : Strand) :
    Provided c (.turn s) (c.turn s).provider := by
  by_cases hr : s ∈ c.ready
  · cases s with
    | operation k => exact .of_eq (by rw [turn, if_pos hr]) (by simp) (by simp)
    | task t =>
      cases ht : c.tasks[t]? with
      | none => exact .of_eq (by simp [turn, hr, ht]) (by simp) (by simp)
      | some task =>
        have hturn : c.turn (.task t) = (c.taking (.task t)).resume t task := apply_turn_task hr ht
        rw [hturn]
        cases resume_provides (c := c.taking (.task t)) ho.sound (hf t task ht) with
        | kept h => exact .of_eq h (by simp) (by simp)
        | entered hm h => exact h ▸ .entered hr ht hm
        | mounted hm p now hp hn h =>
          rw [h, ← hturn]
          exact .mounted hr ht hm hp hn
  · exact .of_eq (by rw [turn, if_neg hr]) (by simp) (by simp)

theorem drop_provided (c : Console) (t : Nat) : Provided c (.drop t) (c.drop t).provider := by
  unfold drop
  split
  · exact .kept nofun nofun
  · split
    · exact .kept nofun nofun
    · exact .kept nofun nofun
    · exact .left t

theorem loggedOut_provided (c : Console) (t : Nat) (crashed : Bool) :
    Provided c (.loggedOut t crashed) (c.loggedOut t crashed).provider := by
  unfold loggedOut
  split
  next goal sent ht =>
    cases crashed with
    | true => exact .of_eq rfl (by simp) (by simp)
    | false => exact .logout (by simp [stage?, ht])
  next hn =>
    refine .kept (by simp) fun u he hl => ?_
    cases he
    obtain ⟨⟨goal, stage, sent⟩, ht, rfl⟩ := Option.map_eq_some_iff.1 hl
    exact hn goal sent ht

theorem replied_provided (ho : Orderly none c) (hf : c.Fits) (t : Nat) (x : Exchange) :
    Provided c (.replied t x) (c.replied t x).provider := by
  refine .of_eq ?_ nofun nofun
  unfold replied
  split
  next goal sent ht =>
    obtain ⟨call, rfl⟩ : ∃ call, goal = .call call := hf t _ ht
    split
    · split
      next why _ _ =>
        have fits : (After.retry why).Fits (.call call) := trivial
        obtain h | ⟨now, ⟨⟩, -⟩ := join_provider (t := t) ho.sound fits
        exact h
      next => rfl
    · rfl
  next => rfl

theorem provider_apply (ho : Orderly none c) (hf : c.Fits) (e : Event) :
    Provided c e (c.apply e).provider := by
  cases e with
  | turn s => exact turn_provided ho hf s
  | drop t => exact drop_provided c t
  | refreshed k a =>
    refine .of_eq ?_ nofun nofun
    dsimp only [apply, refreshed]
    split <;> rfl
  | loggedOut t crashed => exact loggedOut_provided c t crashed
  | replied t x => exact replied_provided ho hf t x
  | completeLogin token => exact .login token
  | _ => exact .of_eq rfl nofun nofun

end ConsoleSession.Console
