import ConsoleSession.Proofs.Phases

/-!
# What a step does to the held token and to the published state

The store changes only through a gate that drops a useless token, a logout, a login, a write from
outside or the answer to a refresh. A state that a step publishes is the one that the gate makes of
the token held after it.
-/

namespace ConsoleSession

namespace Refresher

theorem judge_cases (s : TokenStore) (epoch : UInt64) (a : RefreshAnswer) :
    (∃ t, a = .token t ∧ s.accepts t epoch = true ∧
      judge s epoch a = (.settled (.ok t), { s with token := some t })) ∨
    (judge s epoch a).2 = s ∧
      ((judge s epoch a).1 = .crashed ∨ ∃ why, (judge s epoch a).1 = .settled (.error why)) := by
  cases a with
  | token t =>
    by_cases h : s.accepts t epoch = true
    · exact .inl ⟨t, rfl, h, by simp [judge, TokenStore.setIfEpoch, h]⟩
    · exact .inr (by simp [judge, TokenStore.setIfEpoch, h])
  | error cause => exact .inr (by simp [judge])
  | crash => exact .inr (by simp [judge])

end Refresher

namespace Gate

theorem adopt_cases (s : TokenStore) (token : String) (now : UInt64) :
    (∃ u, (s.set token).userAt now = .ok u ∧
      adopt s token now = (.authenticated u, s.set token)) ∨
    (∃ why, (s.set token).userAt now = .error why ∧
      adopt s token now = (.unauthenticated, (s.set token).clear)) := by
  unfold adopt
  rcases hu : (s.set token).userAt now with why | u
  · exact .inr ⟨why, rfl, by simp [hu]⟩
  · exact .inl ⟨u, rfl, by simp [hu]⟩

theorem userAt_of_adopt {s : TokenStore} {token : String} {now : UInt64} {u : User}
    (h : (adopt s token now).1 = .authenticated u) :
    (s.set token).userAt now = .ok u ∧ (adopt s token now).2 = s.set token := by
  obtain ⟨v, hv, ha⟩ | ⟨why, -, ha⟩ := adopt_cases s token now
  · rw [ha] at h
    cases h
    exact ⟨hv, by rw [ha]⟩
  · rw [ha] at h
    cases h

end Gate

namespace Console

variable {c c' c'' : Console} {t : Nat} {now : UInt64}

/-- A gate has looked at the held token by the clock reading `now`: it has dropped it at most if it
was no use, and has published at most what it made of it. -/
structure Looks (now : UInt64) (c c' : Console) : Prop where
  tokens : c'.tokens = c.tokens ∨
    (∃ why, c.tokens.userAt now = .error (.malformed why)) ∧ c'.tokens = c.tokens.clear
  state : c'.provider.state = c.provider.state ∨
    c'.provider.state = (Gate.project c'.tokens now).1

theorem Looks.of_eq (ht : c'.tokens = c.tokens) (hp : c'.provider.state = c.provider.state) :
    Looks now c c' :=
  ⟨.inl ht, .inl hp⟩

theorem Looks.after (h : Looks now c' c'') (hp : c'.provider.state = c.provider.state)
    (ht : c'.tokens = c.tokens ∨
      (∃ why, c.tokens.userAt now = .error (.malformed why)) ∧ c'.tokens = c.tokens.clear) :
    Looks now c c'' := by
  refine ⟨?_, hp ▸ h.state⟩
  rcases ht with ht | ⟨hu, ht⟩
  · rw [← ht]
    exact h.tokens
  · have hmissing : c'.tokens.userAt now = .error .missing :=
      TokenStore.userAt_of_token_eq_none (by rw [ht]; rfl) now
    rcases h.tokens with ht' | ⟨⟨why, hw⟩, -⟩
    · exact .inr ⟨hu, ht'.trans ht⟩
    · rw [hmissing] at hw
      cases hw

theorem arrive_tokens (goal : Goal) : (c.arrive t goal).tokens = c.tokens := by
  cases goal <;> rfl

theorem arrive_state (goal : Goal) : (c.arrive t goal).provider.state = c.provider.state := by
  cases goal <;> rfl

theorem conclude_tokens (goal : Goal) (s : AuthState) :
    (c.conclude t goal s).tokens = c.tokens := by
  cases goal with
  | resolve => rfl
  | _ => exact arrive_tokens _

theorem conclude_state (goal : Goal) (s : AuthState) :
    (c.conclude t goal s).provider.state = c.provider.state ∨
      (c.conclude t goal s).provider.state = s := by
  cases goal with
  | resolve => exact .inl rfl
  | _ => exact .inr (arrive_state _)

theorem project_looks (goal : Goal) (now : UInt64) : Looks now c (c.project t goal now) := by
  have ht : (c.project t goal now).tokens = (Gate.project c.tokens now).2 := conclude_tokens _ _
  have hs : (c.project t goal now).provider.state = c.provider.state ∨
      (c.project t goal now).provider.state = (Gate.project c.tokens now).1 := conclude_state _ _
  refine ⟨?_, ?_⟩
  · rw [ht]
    obtain ⟨u, -, hp⟩ | ⟨-, hp⟩ | ⟨hu, hp⟩ := Gate.project_cases c.tokens now
    · exact .inl (by rw [hp])
    · exact .inl (by rw [hp])
    · exact .inr ⟨hu, by rw [hp]⟩
  · rw [ht, Gate.project_project]
    exact hs

theorem proceed_kept (goal : Goal) (o : RefreshOutcome) {after : After}
    (hn : ∀ now, after ≠ .project now) :
    (c.proceed t goal o after).tokens = c.tokens ∧
      (c.proceed t goal o after).provider.state = c.provider.state := by
  cases after with
  | report => exact ⟨rfl, rfl⟩
  | project now => exact absurd rfl (hn now)
  | retry refused =>
    unfold proceed
    dsimp only
    split <;> exact ⟨rfl, rfl⟩

theorem join_kept (h : c.refresher.Sound) (goal : Goal) {after : After}
    (hn : ∀ now, after ≠ .project now) :
    (c.join t goal after).tokens = c.tokens ∧
      (c.join t goal after).provider.state = c.provider.state := by
  obtain ⟨-, hj⟩ | ⟨k, -, -, hj⟩ | ⟨k, -, -, hj⟩ := join_cases h t goal after
  · rw [hj]
    exact ⟨rfl, rfl⟩
  · rw [hj]
    exact ⟨rfl, rfl⟩
  · rw [hj]
    exact proceed_kept (c := { c with refresher := c.refresher.release k }) goal _ hn

theorem join_looks (h : c.refresher.Sound) (goal : Goal) (now : UInt64) :
    Looks now c (c.join t goal (.project now)) := by
  obtain ⟨-, hj⟩ | ⟨k, -, -, hj⟩ | ⟨k, -, -, hj⟩ := join_cases h t goal (.project now)
  · rw [hj]
    exact .of_eq rfl rfl
  · rw [hj]
    exact .of_eq rfl rfl
  · rw [hj]
    exact (project_looks (c := { c with refresher := c.refresher.release k }) goal now).after rfl
      (.inl rfl)

/-- The clock reading by which the code of task `t` looks at the held token, if it does. -/
def reads? (c : Console) (t : Nat) (task : Task) : Option UInt64 :=
  match task.stage with
  | .joined _ (.project now) => some now
  | _ => if c.gates t task = true then some c.now else none

theorem reads?_of_gates {task : Task} (hg : c.gates t task = true) :
    c.reads? t task = some c.now := by
  unfold reads?
  split
  next h => simp [gates, h] at hg
  next => rw [if_pos hg]

theorem taskStep_looks (h : c.refresher.Sound) {task : Task} (hs : TaskStep c t task c') :
    c'.tokens = c.tokens ∧ c'.provider.state = c.provider.state ∨
      ∃ now, c.reads? t task = some now ∧ Looks now c c' := by
  cases hs with
  | rest _ _ _ => exact .inl ⟨rfl, rfl⟩
  | pass _ _ _ _ ht hp => exact .inl ⟨ht, hp⟩
  | judge p _ hg _ hp _ =>
    refine .inr ⟨c.now, reads?_of_gates hg, ?_⟩
    exact (project_looks (c := { c with provider := p }) task.goal c.now).after hp (.inl rfl)
  | gate p tokens _ hg _ hp hd =>
    refine .inr ⟨c.now, reads?_of_gates hg, ?_⟩
    refine (join_looks (c := { c with provider := p, tokens := tokens }) h task.goal c.now).after
      hp ?_
    obtain ⟨hi, -⟩ | ⟨hi, -⟩ | ⟨hi, hu⟩ := Gate.inspect_cases c.tokens c.now
    · rw [hi] at hd
      cases hd
    · rw [hi] at hd
      cases hd
      exact .inl rfl
    · rw [hi] at hd
      cases hd
      exact .inr ⟨hu, rfl⟩
  | ask _ _ _ _ => exact .inl (join_kept h _ (by simp))
  | collect k after o r _ _ hs _ =>
    by_cases hn : ∃ now, after = .project now
    · obtain ⟨now, rfl⟩ := hn
      refine .inr ⟨now, by simp [reads?, hs], ?_⟩
      exact (project_looks (c := { c with refresher := r }) task.goal now).after rfl (.inl rfl)
    · exact .inl (proceed_kept (c := { c with refresher := r }) task.goal o
        fun now e => hn ⟨now, e⟩)

/-- What becomes of the store in a step. -/
inductive Stored (c : Console) : Event → TokenStore → Prop
  | kept {e : Event} : Stored c e c.tokens
  | dropped {t : Nat} {task : Task} {now : UInt64} {why : Malformed} (h : .task t ∈ c.ready)
      (ht : c.tasks[t]? = some task) (hn : c.reads? t task = some now)
      (hu : c.tokens.userAt now = .error (.malformed why)) :
      Stored c (.turn (.task t)) c.tokens.clear
  | logout {t : Nat} (ht : c.stage? t = some .leaving) :
      Stored c (.loggedOut t false) c.tokens.clear
  | set (token : String) : Stored c (.setToken token) (c.tokens.set token)
  | setIfEpoch (token : String) (epoch : UInt64) :
      Stored c (.setTokenIfEpoch token epoch) (c.tokens.setIfEpoch token epoch).2
  | login (token : String) :
      Stored c (.completeLogin token) (Gate.adopt c.tokens token c.now).2
  | answer {k : Nat} {a : RefreshAnswer} {epoch : UInt64}
      (hp : c.refresher.phase? k = some .calling) (he : c.refresher.epoch? k = some epoch) :
      Stored c (.refreshed k a) (Refresher.judge c.tokens epoch a).2

theorem Stored.of_eq {e : Event} {s : TokenStore} (h : s = c.tokens) : Stored c e s :=
  h ▸ .kept

theorem turn_stored (h : Orderly none c) (s : Strand) :
    Stored c (.turn s) (c.turn s).tokens := by
  obtain ⟨-, he⟩ | ⟨k, -, -, he⟩ | ⟨t, -, -, -, he⟩ | ⟨t, task, rfl, hr, ht, hs⟩ := turn_cases c s
  · exact .of_eq (by rw [he])
  · exact .of_eq (by rw [he]; rfl)
  · exact .of_eq (by rw [he]; rfl)
  · obtain ⟨hk, -⟩ | ⟨now, hn, hl⟩ := taskStep_looks (c := c.taking (.task t)) h.sound hs
    · exact .of_eq hk
    · rcases hl.tokens with hk | ⟨⟨why, hu⟩, hk⟩
      · exact .of_eq hk
      · exact hk ▸ .dropped hr ht hn hu

theorem loggedOut_stored (c : Console) (t : Nat) (crashed : Bool) :
    Stored c (.loggedOut t crashed) (c.loggedOut t crashed).tokens := by
  unfold loggedOut
  split
  next goal sent ht =>
    cases crashed with
    | true => exact .kept
    | false => exact .logout (by simp [stage?, ht])
  next => exact .kept

theorem replied_kept (h : Orderly none c) (t : Nat) (e : Exchange) :
    (c.replied t e).tokens = c.tokens ∧
      (c.replied t e).provider.state = c.provider.state := by
  unfold replied
  split
  next goal sent ht =>
    split
    next why _ =>
      split
      · exact join_kept h.sound goal (by simp)
      · exact ⟨rfl, rfl⟩
    next => exact ⟨rfl, rfl⟩
  next => exact ⟨rfl, rfl⟩

theorem leave_state (p : Provider) (t : Nat) : (p.leave t).2.state = p.state := by
  unfold Provider.leave
  repeat' split
  all_goals rfl

theorem drop_kept (c : Console) (t : Nat) :
    (c.drop t).tokens = c.tokens ∧ (c.drop t).provider.state = c.provider.state := by
  unfold drop
  split
  · exact ⟨rfl, rfl⟩
  · split
    · exact ⟨rfl, rfl⟩
    · exact ⟨rfl, rfl⟩
    · exact ⟨rfl, leave_state c.provider t⟩

theorem tokens_refreshed {k : Nat} {epoch : UInt64} (hp : c.refresher.phase? k = some .calling)
    (he : c.refresher.epoch? k = some epoch) (a : RefreshAnswer) :
    (c.refreshed k a).tokens = (Refresher.judge c.tokens epoch a).2 := by
  simp [refreshed, hp, Refresher.answer_eq hp he]

theorem phase?_refreshed {k : Nat} {epoch : UInt64} (hp : c.refresher.phase? k = some .calling)
    (he : c.refresher.epoch? k = some epoch) (a : RefreshAnswer) :
    (c.refreshed k a).refresher.phase? k = some (Refresher.judge c.tokens epoch a).1 := by
  simp [refreshed, hp, Refresher.phase?_answer hp he]

theorem refreshed_stored (c : Console) (k : Nat) (a : RefreshAnswer) :
    Stored c (.refreshed k a) (c.refreshed k a).tokens := by
  by_cases hp : c.refresher.phase? k = some .calling
  · obtain ⟨epoch, he⟩ := Refresher.exists_epoch?_of_phase? hp
    exact tokens_refreshed hp he a ▸ .answer hp he
  · exact .of_eq (by simp [refreshed, hp])

theorem tokens_apply (h : Orderly none c) (e : Event) : Stored c e (c.apply e).tokens := by
  cases e with
  | turn s => exact turn_stored h s
  | drop t => exact .of_eq (drop_kept c t).1
  | refreshed k a => exact refreshed_stored c k a
  | loggedOut t crashed => exact loggedOut_stored c t crashed
  | replied t e => exact .of_eq (replied_kept h t e).1
  | setToken token => exact .set token
  | setTokenIfEpoch token epoch => exact .setIfEpoch token epoch
  | completeLogin token => exact .login token
  | _ => exact .kept

theorem state_apply (h : Orderly none c) (e : Event) :
    (c.apply e).provider.state = c.provider.state ∨
      ∃ now, (c.apply e).provider.state = (Gate.project (c.apply e).tokens now).1 := by
  cases e with
  | turn s =>
    obtain ⟨-, he⟩ | ⟨k, -, -, he⟩ | ⟨t, -, -, -, he⟩ | ⟨t, task, -, -, -, hs⟩ := turn_cases c s
    · exact .inl (by rw [apply, he])
    · exact .inl (by rw [apply, he]; rfl)
    · exact .inl (by rw [apply, he]; rfl)
    · obtain ⟨-, hk⟩ | ⟨now, -, hl⟩ := taskStep_looks (c := c.taking s) h.sound hs
      · exact .inl hk
      · exact hl.state.imp_right fun hp => ⟨now, hp⟩
  | drop t => exact .inl (drop_kept c t).2
  | replied t e => exact .inl (replied_kept h t e).2
  | refreshed k a =>
    left
    dsimp only [apply, refreshed]
    split <;> rfl
  | loggedOut t crashed =>
    dsimp only [apply, loggedOut]
    split
    next =>
      cases crashed with
      | true => exact .inl rfl
      | false =>
        have hp := Gate.project_of_none (s := c.tokens.clear) rfl 0
        exact .inr ⟨0, (congrArg Prod.fst hp).symm⟩
    next => exact .inl rfl
  | completeLogin token =>
    right
    refine ⟨c.now, ?_⟩
    obtain ⟨u, hu, ha⟩ | ⟨why, -, ha⟩ := Gate.adopt_cases c.tokens token c.now
    · simp [apply, completeLogin, ha, Provider.publish, Gate.project_of_user hu]
    · have hp := Gate.project_of_none (s := (c.tokens.set token).clear) rfl c.now
      simp [apply, completeLogin, ha, Provider.publish, hp]
  | _ => exact .inl rfl

end Console

end ConsoleSession
