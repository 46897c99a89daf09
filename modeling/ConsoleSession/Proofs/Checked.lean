import ConsoleSession.Proofs.Calls
import ConsoleSession.Proofs.GateRefresh
import ConsoleSession.Proofs.Publication

/-!
# Protected pages

A page that needs a session is shown on the word of the provider, which may be much older than the
token now held. That word was given by the last login or the resolution, whichever published last,
and either had just found a good token of the user in the store.
-/

namespace ConsoleSession

theorem Guard.authenticated_of_shown {g : Guard} {auth : AuthState} {path : String} {now : UInt64}
    {s : RedirectStore} {d : Decision} (hd : (g.decide auth path now s).1 = d)
    (hp : g.isPublic path = false) (hs : d = .render ∨ ∃ p, d = .resume p) :
    ∃ u, auth = .authenticated u := by
  unfold Guard.decide at hd
  rw [hp] at hd
  cases auth with
  | authenticated u => exact ⟨u, rfl⟩
  | loading u =>
    obtain rfl | ⟨p, rfl⟩ := hs <;> exact nomatch hd
  | unauthenticated =>
    obtain rfl | ⟨p, rfl⟩ := hs <;> exact nomatch hd

namespace Console

variable {c c' c₀ : Console} {t : Nat} {task : Task} {path : String} {now : UInt64} {u : User}

/-- The navigation to `path` is decided in the step, and `d` is the decision: by the guard that asks
the provider, or at the end of a visit. -/
inductive Decides (c : Console) : Event → String → Decision → Prop
  | navigate (path : String) : Decides c (.navigate path) path (c.navigate path).1
  | decide (path : String) :
      Decides c (.decide path) path (c.guard.decide c.provider.state path c.now c.redirects).1
  | visit {e : Event} {t : Nat} {task : Task} {path : String} {d : Decision}
      (ht : c.tasks[t]? = some task) (hg : task.goal = .visit path)
      (hn : ∀ r, task.stage ≠ .ended r)
      (hd : (c.apply e).stage? t = some (.ended (.decided d))) : Decides c e path d

def Verdict (g : Guard) (t : Nat) (path : String) (c : Console) : Prop :=
  ∀ d, c.stage? t = some (.ended (.decided d)) →
    ∃ now s, (g.decide c.provider.state path now s).1 = d

theorem verdict_setStage {g : Guard} {s : Stage} (h : ∀ d, s ≠ .ended (.decided d)) :
    Verdict g t path (c.setStage t s) := by
  intro d hd
  rw [stage?_setStage, if_pos rfl] at hd
  obtain ⟨_, -, hs⟩ := Option.map_eq_some_iff.1 hd
  exact absurd hs (h d)

theorem verdict_arrive : Verdict c.guard t path (c.arrive t (.visit path)) := by
  intro d hd
  have he : c.arrive t (.visit path) = (c.navigate path).2.finish t (.decided (c.navigate path).1) :=
    rfl
  rw [he, finish, stage?_setStage, if_pos rfl] at hd
  obtain ⟨_, -, hs⟩ := Option.map_eq_some_iff.1 hd
  cases hs
  exact ⟨c.now, c.redirects, rfl⟩

theorem verdict_project (now : UInt64) : Verdict c.guard t path (c.project t (.visit path) now) :=
  verdict_arrive (c := ({ c with
    tokens := (Gate.project c.tokens now).2
    provider := c.provider.mounted (Gate.project c.tokens now).1 } : Console).wake
      (c.provider.queue.map .task))

theorem verdict_proceed (o : RefreshOutcome) (after : After) :
    Verdict c.guard t path (c.proceed t (.visit path) o after) := by
  cases after with
  | report => exact verdict_setStage nofun
  | project now => exact verdict_project now
  | retry refused => exact verdict_setStage nofun

theorem verdict_join (hs : c.refresher.Sound) (after : After) :
    Verdict c.guard t path (c.join t (.visit path) after) := by
  obtain ⟨-, hj⟩ | ⟨k, -, -, hj⟩ | ⟨k, -, -, hj⟩ := join_cases hs t (.visit path) after
  · rw [hj]
    exact verdict_setStage nofun
  · rw [hj]
    exact verdict_setStage nofun
  · rw [hj]
    exact verdict_proceed (c := { c with refresher := c.refresher.release k }) _ after

theorem verdict_mount (hs : c.refresher.Sound) :
    Verdict c.guard t path (c.mount t (.visit path)) := by
  unfold mount resolve
  dsimp only
  split
  · split
    · split
      · exact verdict_join (c := { c with
          provider := c.provider.enter t, tokens := (Gate.inspect c.tokens c.now).2 }) hs _
      · exact verdict_project (c := { c with
          provider := c.provider.enter t, tokens := (Gate.inspect c.tokens c.now).2 }) _
    · exact verdict_setStage nofun
  · exact verdict_arrive (c := { c with provider := c.provider.enter t })

theorem verdict_apply (ho : Orderly none c) (hf : c.Fits) {e : Event} (ht : c.tasks[t]? = some task)
    (hg : task.goal = .visit path) (hn : ∀ r, task.stage ≠ .ended r) :
    Verdict c.guard t path (c.apply e) := by
  obtain ⟨goal, stage, sent⟩ := task
  obtain rfl : goal = .visit path := hg
  have fits : stage.Fits (.visit path) := hf t _ ht
  -- a task that stays where it was has not ended
  have stays {c' : Console} (h : c'.tasks[t]? = some ⟨.visit path, stage, sent⟩) :
      Verdict c.guard t path c' := by
    intro d hd
    rw [stage?, h] at hd
    exact absurd (Option.some.inj hd) (hn _)
  by_cases he : e.task? = some t
  · cases e with
    | turn s =>
      cases s with
      | operation k => cases he
      | task u =>
        cases he
        by_cases hr : .task t ∈ c.ready
        · rw [apply_turn_task hr ht]
          dsimp only [resume]
          cases stage with
          | fresh | queued => exact verdict_mount (c := c.taking (.task t)) ho.sound
          | joined k after =>
            dsimp only [look]
            split
            next o r _ => exact verdict_proceed (c := { c.taking (.task t) with refresher := r }) o after
            next => exact stays ht
          | _ => exact stays ht
        · rw [apply_turn_idle hr]
          exact stays ht
    | drop u =>
      cases he
      dsimp only [apply, drop]
      rw [ht]
      dsimp only
      split
      · exact stays ht
      · exact stays ht
      · exact verdict_setStage (by simp)
    | loggedOut u crashed =>
      cases he
      dsimp only [apply, loggedOut]
      split
      next hl =>
        cases ht.symm.trans hl
        cases fits
      next => exact stays ht
    | replied u x =>
      cases he
      dsimp only [apply, replied]
      split
      next hl =>
        cases ht.symm.trans hl
        obtain ⟨call, ⟨⟩⟩ := fits
      next => exact stays ht
    | _ => cases he
  · exact stays (task_apply_of_ne ho he ht)

theorem Decides.by_state (ho : Orderly none c) (hf : c.Fits) {e : Event} {d : Decision}
    (h : Decides c e path d) :
    ∃ now s, (c.guard.decide (c.apply e).provider.state path now s).1 = d := by
  cases h with
  | navigate => exact ⟨c.now, c.redirects, rfl⟩
  | decide => exact ⟨c.now, c.redirects, rfl⟩
  | visit ht hg hn hd => exact verdict_apply ho hf ht hg hn _ hd

def ReadsClock (c₀ : Console) (t : Nat) (es : List Event) (now : UInt64) : Prop :=
  ∃ pre post, es = pre ++ .turn (.task t) :: post ∧
    (c₀.run pre).clock? (.turn (.task t)) = some now

/-- The step after `pre` is a login, or one of a task that came to mount; `now` is the reading of the
clock that it goes by. -/
inductive Checks (c₀ : Console) (pre : List Event) : Event → UInt64 → Prop
  | login (token : String) : Checks c₀ pre (.completeLogin token) (c₀.run pre).now
  | mount {t : Nat} {task : Task} {now : UInt64} (ht : (c₀.run pre).tasks[t]? = some task)
      (hm : task.goal.Mounts) (hc : c₀.ReadsClock t (pre ++ [.turn (.task t)]) now) :
      Checks c₀ pre (.turn (.task t)) now

structure Quiet (c : Console) (e : Event) : Prop where
  state : (c.apply e).provider.state = c.provider.state
  published : (c.apply e).provider.published = c.provider.published
  login : ∀ token, e ≠ .completeLogin token
  logout : ∀ t, e = .loggedOut t false → c.stage? t ≠ some .leaving

/-- The last publication of the run was of the user `u`, by a login or by the resolution that a task
came to mount for, and the store then held a good token of that user. -/
def Checked (c₀ : Console) (es : List Event) (u : User) : Prop :=
  ∃ pre f post now, es = pre ++ f :: post ∧ Checks c₀ pre f now ∧
    (c₀.run (pre ++ [f])).provider.published = (c₀.run pre).provider.published + 1 ∧
    (c₀.run (pre ++ [f])).provider.state = .authenticated u ∧
    (∃ token claims, (c₀.run (pre ++ [f])).tokens.token = some token ∧
      Claims.decode token = .ok claims ∧ claims.isExpired now = false ∧
      claims.subject.user = .ok u) ∧
    (c₀.run (pre ++ [f])).Along Quiet post

theorem ReadsClock.snoc {es : List Event} (h : c₀.ReadsClock t es now) (e : Event) :
    c₀.ReadsClock t (es ++ [e]) now := by
  obtain ⟨pre, post, rfl, hc⟩ := h
  exact ⟨pre, post ++ [e], by simp, hc⟩

theorem Fresh.readsClock_of_joined (h : c₀.Fresh) {es : List Event} {k : Nat}
    (hs : (c₀.run es).stage? t = some (.joined k (.project now))) : c₀.ReadsClock t es now := by
  induction es using List.reverseRecOn with
  | nil => simp [run, stage?, h.tasks] at hs
  | append_singleton es e ih =>
    rw [run_snoc] at hs
    obtain hs | ⟨ha, -, hclock⟩ := joined_apply (h.orderly_run es) hs
    · exact (ih hs).snoc e
    · have hc := hclock now rfl
      obtain ⟨_, rfl, -⟩ | ⟨x, _, _, _, rfl, -⟩ := asks_cases ha
      · exact ⟨es, [], rfl, hc⟩
      · cases hc

theorem Fresh.readsClock (h : c₀.Fresh) {es : List Event} (hr : .task t ∈ (c₀.run es).ready)
    (ht : (c₀.run es).tasks[t]? = some task) (hn : (c₀.run es).reads? t task = some now) :
    c₀.ReadsClock t (es ++ [.turn (.task t)]) now := by
  unfold reads? at hn
  split at hn
  next k now' hs =>
    cases hn
    exact (h.readsClock_of_joined (k := k) (by simp [stage?, ht, hs])).snoc _
  next =>
    split at hn
    next hg =>
      cases hn
      exact ⟨es, [], rfl, by simp [clock?, ht, hr, hg]⟩
    next => cases hn

theorem Checked.snoc {es : List Event} {e : Event} (h : c₀.Checked es u)
    (hq : Quiet (c₀.run es) e) : c₀.Checked (es ++ [e]) u := by
  obtain ⟨pre, f, post, now, rfl, hc, hp, hs, hk, hpost⟩ := h
  refine ⟨pre, f, post ++ [e], now, by simp, hc, hp, hs, hk, (along_snoc _ _ _ _).2 ⟨hpost, ?_⟩⟩
  rw [← run_append, List.append_assoc]
  exact hq

theorem checked_of_publish {es : List Event} {e : Event} (hc : Checks c₀ es e now)
    (hp : (c₀.run (es ++ [e])).provider.published = (c₀.run es).provider.published + 1)
    (hs : (c₀.run (es ++ [e])).provider.state = .authenticated u)
    (hu : (c₀.run (es ++ [e])).tokens.userAt now = .ok u) : c₀.Checked (es ++ [e]) u :=
  ⟨es, e, [], now, rfl, hc, hp, hs, TokenStore.userAt_eq_ok.1 hu, trivial⟩

theorem Fresh.checked_run (h : c₀.Fresh) {es : List Event}
    (hs : (c₀.run es).provider.state = .authenticated u) : c₀.Checked es u := by
  induction es using List.reverseRecOn with
  | nil =>
    rw [run, List.foldl_nil, h.provider] at hs
    cases hs
  | append_singleton es e ih =>
    have hp := provider_apply (h.orderly_run es) (h.fits_run es) e
    rw [run_snoc] at hs
    generalize he : ((c₀.run es).apply e).provider = p at hp hs
    cases hp with
    | kept hlogin hlogout =>
      exact (ih hs).snoc ⟨congrArg _ he, congrArg _ he, hlogin, hlogout⟩
    | entered hr ht hm =>
      have same := enter_state (c₀.run es).provider
      refine (ih ((same _).symm.trans hs)).snoc ⟨he ▸ same _, ?_, by simp, by simp⟩
      rw [he]
      exact enter_published _ _
    | left t =>
      have same := leave_state (c₀.run es).provider t
      refine (ih (same.symm.trans hs)).snoc ⟨he ▸ same, ?_, by simp, by simp⟩
      rw [he]
      exact leave_published _ _
    | logout ht => cases hs
    | login token =>
      obtain ⟨hu, htokens⟩ := Gate.userAt_of_adopt hs
      refine checked_of_publish (.login token) ?_ ?_ ?_
      · rw [run_snoc, he]
        rfl
      · rw [run_snoc, he]
        exact hs
      · rw [run_snoc]
        exact (congrArg (TokenStore.userAt · _) htokens).trans hu
    | @mounted t task now p hr ht hm hp hn =>
      have hu := Gate.userAt_of_project (show (Gate.project _ now).1 = .authenticated u from hs)
      refine checked_of_publish (.mount ht hm (h.readsClock hr ht hn)) ?_ ?_ ?_
      · rw [run_snoc, he]
        obtain rfl | rfl := hp
        · rfl
        · exact congrArg (· + 1) (enter_published _ _)
      · rw [run_snoc, he]
        exact hs
      · rw [run_snoc]
        exact hu

/-- Whoever is shown a protected page, or sent on from one, has a session that is declared, and the
last step that declared anything found a good token of that user. -/
theorem protected_page_checked (h : c₀.Fresh) {es : List Event} {e : Event} {d : Decision}
    (hd : Decides (c₀.run es) e path d) (hp : c₀.guard.isPublic path = false)
    (hs : d = .render ∨ ∃ p, d = .resume p) :
    ∃ u, (c₀.run (es ++ [e])).provider.state = .authenticated u ∧ c₀.Checked (es ++ [e]) u := by
  obtain ⟨now, s, hdecide⟩ := hd.by_state (h.orderly_run es) (h.fits_run es)
  rw [h.guard_run] at hdecide
  obtain ⟨u, hu⟩ := Guard.authenticated_of_shown hdecide hp hs
  rw [← run_snoc] at hu
  exact ⟨u, hu, h.checked_run hu⟩

/-- A visit that resolves the session itself. -/
theorem visit_shows_checked_session :
    let es := [.spawn (.visit "/orders"), .turn (.task 0), .turn (.operation 0),
      .refreshed 0 (.token aliceToken)]
    Decides (blank.run es) (.turn (.task 0)) "/orders" .render ∧
      blank.guard.isPublic "/orders" = false ∧
      ∃ u, (blank.run (es ++ [.turn (.task 0)])).provider.state = .authenticated u ∧
        blank.Checked (es ++ [.turn (.task 0)]) u := by
  intro es
  have task : (blank.run es).tasks[0]? = some ⟨.visit "/orders", .joined 0 (.project 0), []⟩ := rfl
  have ends : ((blank.run es).apply (.turn (.task 0))).stage? 0 =
      some (.ended (.decided .render)) := by
    obtain ⟨stage, -⟩ := gate_turn (c := blank.run es) (by decide) task rfl rfl
    have held : (blank.run es).tokens.userAt 0 = .ok alice :=
      (TokenStore.userAt_of_token rfl 0).trans userAt_aliceToken
    have shown : (blank.guard.decide (.authenticated alice) "/orders" 0 (.memory none)).1 = .render := by
      decide
    rw [stage, Gate.project_of_user held]
    exact congrArg (fun d => some (Stage.ended (.decided d))) shown
  have decides : Decides (blank.run es) (.turn (.task 0)) "/orders" .render :=
    .visit task rfl nofun ends
  have shut : blank.guard.isPublic "/orders" = false := by decide
  exact ⟨decides, shut, protected_page_checked fresh_blank decides shut (.inl rfl)⟩

end Console

end ConsoleSession
