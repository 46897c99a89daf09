import ConsoleSession.Proofs.GateRefresh
import ConsoleSession.Proofs.Publication

/-!
# What becomes of an adopted login

The token of an adopted login is held until it is replaced or withdrawn, or a gate finds it expired.
A refresh that was under way when the login was adopted can replace it like one that is started
later: a login writes a token, and only a clearing of the store makes a refresh lose its write.
Whoever came to mount before the login and waits for a refresh that brings nothing then publishes
the user of the login.
-/

namespace ConsoleSession

theorem Gate.adopt_eq_of_user {s : TokenStore} {tok : String} {now : UInt64} {u : User}
    (h : (adopt s tok now).1 = .authenticated u) :
    adopt s tok now = (.authenticated u, { s with token := some tok }) ∧
      (⟨some tok, 0⟩ : TokenStore).userAt now = .ok u := by
  obtain ⟨hu, ha⟩ := userAt_of_adopt h
  have hfull : tok.isEmpty ≠ true := by
    intro he
    rw [TokenStore.set, if_pos he, TokenStore.userAt_of_token_eq_none rfl] at hu
    cases hu
  rw [TokenStore.set, if_neg hfull] at hu ha
  exact ⟨Prod.ext h ha, (TokenStore.userAt_of_token rfl now).symm.trans hu⟩

namespace Console

variable {c c₀ : Console} {t k : Nat} {now : UInt64} {tok : String} {u : User}

/-- The step replaces the held token `tok` or withdraws it: a write from outside, a login, a logout,
a gate that finds it expired, or a refresh that succeeds. -/
inductive Supplants (tok : String) (c : Console) : Event → Prop
  | set (token : String) : Supplants tok c (.setToken token)
  | setIfEpoch {token : String} {epoch : UInt64} (ha : c.tokens.accepts token epoch = true) :
      Supplants tok c (.setTokenIfEpoch token epoch)
  | login (token : String) : Supplants tok c (.completeLogin token)
  | logout {t : Nat} (ht : c.stage? t = some .leaving) : Supplants tok c (.loggedOut t false)
  | discard {t : Nat} {task : Task} {now : UInt64} (hr : .task t ∈ c.ready)
      (ht : c.tasks[t]? = some task) (hn : c.reads? t task = some now)
      (hu : (⟨some tok, 0⟩ : TokenStore).userAt now = .error (.malformed .expired))
      (hd : (c.apply (.turn (.task t))).tokens.token = none) : Supplants tok c (.turn (.task t))
  | refresh {k : Nat} {a : RefreshAnswer} {token : String}
      (hp : c.refresher.phase? k = some .calling)
      (hs : (c.apply (.refreshed k a)).refresher.phase? k = some (.settled (.ok token))) :
      Supplants tok c (.refreshed k a)

theorem tokens_apply_of_held (ho : Orderly none c) {e : Event} (ht : c.tokens.token = some tok)
    (hu : (⟨some tok, 0⟩ : TokenStore).userAt now = .ok u) (hn : ¬ Supplants tok c e) :
    (c.apply e).tokens = c.tokens := by
  have hs := tokens_apply ho e
  generalize he : (c.apply e).tokens = s at hs
  cases hs with
  | kept => rfl
  | @dropped t task now' why hr htask hread hbad =>
    rw [TokenStore.userAt_of_token ht] at hbad
    obtain hgood | ⟨-, hold⟩ := TokenStore.userAt_or_expired hu now'
    · rw [hgood] at hbad
      cases hbad
    · exact absurd (.discard hr htask hread hold (by rw [he]; rfl)) hn
  | logout hst => exact absurd (.logout hst) hn
  | set token => exact absurd (.set token) hn
  | setIfEpoch token epoch =>
    by_cases ha : c.tokens.accepts token epoch = true
    · exact absurd (.setIfEpoch ha) hn
    · simp [TokenStore.setIfEpoch, ha]
  | login token => exact absurd (.login token) hn
  | @answer k a epoch hp hepoch =>
    obtain ⟨token, -, -, hj⟩ | ⟨hj, -⟩ := Refresher.judge_cases c.tokens epoch a
    · have settled := phase?_refreshed hp hepoch a
      rw [hj] at settled
      exact absurd (.refresh hp settled) hn
    · exact hj

theorem Fresh.held_run (h : c₀.Fresh) {es fs : List Event}
    (ht : (c₀.run es).tokens.token = some tok)
    (hu : (⟨some tok, 0⟩ : TokenStore).userAt now = .ok u)
    (hn : (c₀.run es).Along (fun c e => ¬ Supplants tok c e) fs) :
    (c₀.run (es ++ fs)).tokens = (c₀.run es).tokens ∧
      ∀ k, clearsDuring k c₀ (es ++ fs) = clearsDuring k c₀ es := by
  induction fs using List.reverseRecOn with
  | nil =>
    rw [List.append_nil]
    exact ⟨rfl, fun _ => rfl⟩
  | append_singleton fs e ih =>
    obtain ⟨hn, he⟩ := (along_snoc _ _ _ _).1 hn
    rw [← run_append] at he
    obtain ⟨hsame, hclears⟩ := ih hn
    have step : ((c₀.run (es ++ fs)).apply e).tokens = (c₀.run (es ++ fs)).tokens :=
      tokens_apply_of_held (h.orderly_run _) (hsame ▸ ht) hu he
    rw [← List.append_assoc, run_snoc]
    refine ⟨step.trans hsame, fun k => ?_⟩
    rw [clearsDuring_snoc, hclears, clears_of_epoch_eq (congrArg _ step), ite_self, Nat.add_zero]

theorem apply_adopted (ha : (Gate.adopt c.tokens tok c.now).1 = .authenticated u) :
    c.apply (.completeLogin tok) = { c with
      tokens := { c.tokens with token := some tok }
      provider := c.provider.publish (.authenticated u) } := by
  rw [apply, completeLogin, (Gate.adopt_eq_of_user ha).1]

theorem clearsDuring_adopted {pre : List Event}
    (ha : (Gate.adopt (c₀.run pre).tokens tok (c₀.run pre).now).1 = .authenticated u) (k : Nat) :
    clearsDuring k c₀ (pre ++ [.completeLogin tok]) = clearsDuring k c₀ pre := by
  rw [clearsDuring_snoc, clears_of_epoch_eq (by rw [apply_adopted ha]), ite_self, Nat.add_zero]

theorem mount_turn {task : Task} {o : RefreshOutcome} {r : Refresher} (hr : .task t ∈ c.ready)
    (ht : c.tasks[t]? = some task) (hm : task.goal.Mounts)
    (hs : task.stage = .joined k (.project now)) (hc : c.refresher.collect k = (some o, r)) :
    (c.apply (.turn (.task t))).provider = c.provider.mounted (Gate.project c.tokens now).1 ∧
      (c.apply (.turn (.task t))).tokens = (Gate.project c.tokens now).2 := by
  refine ⟨?_, (gate_turn hr ht hs hc).2⟩
  rw [turn_told hr ht hs hc]
  exact conclude_provider (c := { c.taking (.task t) with
    refresher := r, tokens := (Gate.project c.tokens now).2 }) hm _

theorem mount_held {now₀ : UInt64} (ho : Orderly none c) (htok : c.tokens.token = some tok)
    (hu : (⟨some tok, 0⟩ : TokenStore).userAt now₀ = .ok u) {task : Task}
    (ht : c.tasks[t]? = some task) (hm : task.goal.Mounts)
    (hs : task.stage = .joined k (.project now)) (hl : c.refresher.isLive k = false) :
    let c' := c.apply (.turn (.task t))
    .task t ∈ c.ready ∧ c'.provider.published = c.provider.published + 1 ∧
      (c'.provider.state = .authenticated u ∧ c'.tokens.token = some tok ∨
        now₀ < now ∧ (⟨some tok, 0⟩ : TokenStore).userAt now = .error (.malformed .expired) ∧
          c'.provider.state = .unauthenticated ∧ c'.tokens.token = none) := by
  have hw : c.awaited? t = some k := by
    rw [awaited?_of_task ht, hs]
    rfl
  obtain ⟨hready, o, r, hc⟩ := ho.finds hw hl
  obtain ⟨hprovider, htokens⟩ := mount_turn hready ht hm hs hc
  dsimp only
  rw [hprovider, htokens]
  refine ⟨hready, rfl, ?_⟩
  obtain hgood | ⟨hlater, hold⟩ := TokenStore.userAt_or_expired hu now
  · rw [Gate.project_of_user ((TokenStore.userAt_of_token htok now).trans hgood)]
    exact .inl ⟨rfl, htok⟩
  · have hbad := (TokenStore.userAt_of_token htok now).trans hold
    refine .inr ⟨hlater, hold, ?_⟩
    simp [Gate.project, hbad, Provider.mounted, Provider.publish, TokenStore.clear]

/-- A login that was adopted, and a run after it in which nothing supplants its token. The token is
held. A refresh that is then answered replaces it exactly if it brings a token and the store was not
cleared between its start and the login. Whoever came to mount and waited for a refresh that is over
publishes the user of the login, unless it read the clock later than the login did and the token had
expired by then. -/
theorem adopted_login_held (h : c₀.Fresh) (pre post : List Event)
    (ha : (Gate.adopt (c₀.run pre).tokens tok (c₀.run pre).now).1 = .authenticated u)
    (hn : (c₀.run (pre ++ [.completeLogin tok])).Along (fun c e => ¬ Supplants tok c e) post) :
    let c := c₀.run (pre ++ .completeLogin tok :: post)
    c.tokens.token = some tok ∧
    (∀ k a, c.calling k = true → clearsDuring k c₀ pre < UInt64.size →
      (∃ token, a = .token token ∧ token.isEmpty = false ∧ clearsDuring k c₀ pre = 0 ∧
        (c.apply (.refreshed k a)).tokens.token = some token) ∨
      (∀ token, a = .token token → token.isEmpty = true ∨ 0 < clearsDuring k c₀ pre) ∧
        (c.apply (.refreshed k a)).tokens = c.tokens) ∧
    ∀ t task k now, c.tasks[t]? = some task → task.goal.Mounts →
      task.stage = .joined k (.project now) → c.refresher.isLive k = false →
      let c' := c.apply (.turn (.task t))
      .task t ∈ c.ready ∧ c'.provider.published = c.provider.published + 1 ∧
      (c'.provider.state = .authenticated u ∧ c'.tokens.token = some tok ∨
        (c₀.run pre).now < now ∧
          (⟨some tok, 0⟩ : TokenStore).userAt now = .error (.malformed .expired) ∧
          c'.provider.state = .unauthenticated ∧ c'.tokens.token = none) := by
  intro c
  obtain ⟨-, hu⟩ := Gate.adopt_eq_of_user ha
  have hheld : (c₀.run (pre ++ [.completeLogin tok])).tokens.token = some tok := by
    rw [run_snoc, apply_adopted ha]
  obtain ⟨hsame, hclears⟩ := h.held_run hheld hu hn
  have hsplit : pre ++ .completeLogin tok :: post = pre ++ [.completeLogin tok] ++ post := by simp
  have htok : c.tokens.token = some tok := by
    dsimp only [c]
    rw [hsplit, hsame, hheld]
  refine ⟨htok, fun k a hcall hlt => ?_, fun t task k now ht hm hs hl => ?_⟩
  · have hcount : clearsDuring k c₀ (pre ++ .completeLogin tok :: post) = clearsDuring k c₀ pre := by
      rw [hsplit, hclears, clearsDuring_adopted ha]
    rw [← hcount] at hlt ⊢
    exact h.tokens_refreshed_run (calling_iff.1 hcall) hlt a
  · exact mount_held (h.orderly_run _) htok hu ht hm hs hl

/-- The refresh that the mount waits for fails. -/
theorem mount_publishes_login :
    let pre := [.spawn .mount, .turn (.task 0), .turn (.operation 0)]
    let post := [.refreshed 0 (.error (.status 500 ""))]
    (Gate.adopt (blank.run pre).tokens aliceToken (blank.run pre).now).1 = .authenticated alice ∧
      (blank.run (pre ++ [.completeLogin aliceToken])).Along
        (fun c e => ¬ Supplants aliceToken c e) post ∧
      (blank.run (pre ++ .completeLogin aliceToken :: post)).tokens.token = some aliceToken ∧
      ((blank.run (pre ++ .completeLogin aliceToken :: post)).apply
        (.turn (.task 0))).provider.state = .authenticated alice := by
  intro pre post
  have adopted : (Gate.adopt (blank.run pre).tokens aliceToken (blank.run pre).now).1 =
      .authenticated alice := by decide +kernel
  have login := apply_adopted adopted
  rw [← run_snoc] at login
  have undisturbed : (blank.run (pre ++ [.completeLogin aliceToken])).Along
      (fun c e => ¬ Supplants aliceToken c e) post := by
    rw [login]
    refine ⟨?_, trivial⟩
    rintro (_ | _ | _ | _ | _ | ⟨-, hs⟩)
    cases hs
  obtain ⟨held, -, mounts⟩ := adopted_login_held fresh_blank pre post adopted undisturbed
  refine ⟨adopted, undisturbed, held, ?_⟩
  have waits : (blank.run (pre ++ .completeLogin aliceToken :: post)).tasks[0]? =
      some ⟨.mount, .joined 0 (.project 0), []⟩ := by
    rw [List.append_cons, run_append, login]
    rfl
  have settled : (blank.run (pre ++ .completeLogin aliceToken :: post)).refresher.isLive 0 = false := by
    rw [List.append_cons, run_append, login]
    rfl
  obtain ⟨-, -, ⟨published, -⟩ | ⟨late, -⟩⟩ := mounts 0 _ 0 0 waits trivial rfl settled
  · exact published
  · exact absurd late (by decide)

def bob : User := ⟨"7", "bob", none⟩

def bobToken : String := ".eyJwbGQiOnsiaWQiOiI3IiwiaWRlbnRpZmllciI6ImJvYiJ9LCJleHAiOjl9."

theorem userAt_bobToken : (⟨some bobToken, 0⟩ : TokenStore).userAt 0 = .ok bob := by
  decide +kernel

/-- The refresh that the mount waits for brings the token of another user: it is all that happens
after the login, and the login is lost. -/
theorem login_lost_to_older_refresh :
    let pre := [.spawn .mount, .turn (.task 0), .turn (.operation 0)]
    (Gate.adopt (blank.run pre).tokens aliceToken (blank.run pre).now).1 = .authenticated alice ∧
      (blank.run pre).calling 0 = true ∧
      (blank.run (pre ++ [.completeLogin aliceToken])).tokens.token = some aliceToken ∧
      (blank.run (pre ++ [.completeLogin aliceToken] ++
        [.refreshed 0 (.token bobToken)])).tokens.token = some bobToken ∧
      ((blank.run (pre ++ [.completeLogin aliceToken] ++ [.refreshed 0 (.token bobToken)])).apply
        (.turn (.task 0))).provider.state = .authenticated bob := by
  intro pre
  have adopted : (Gate.adopt (blank.run pre).tokens aliceToken (blank.run pre).now).1 =
      .authenticated alice := by decide +kernel
  have login := apply_adopted adopted
  rw [← run_snoc] at login
  have calls : (blank.run (pre ++ [.completeLogin aliceToken])).refresher.phase? 0 =
      some .calling := by
    rw [login]
    rfl
  have uncleared : clearsDuring 0 blank (pre ++ [.completeLogin aliceToken]) = 0 :=
    (clearsDuring_adopted adopted 0).trans rfl
  have replaced := fresh_blank.tokens_of_answer calls uncleared (isEmpty_of_userAt userAt_bobToken)
  have waits : (blank.run (pre ++ [.completeLogin aliceToken] ++
      [.refreshed 0 (.token bobToken)])).tasks[0]? =
        some ⟨.mount, .joined 0 (.project 0), []⟩ := by
    rw [run_snoc, login]
    rfl
  have settled : (blank.run (pre ++ [.completeLogin aliceToken] ++
      [.refreshed 0 (.token bobToken)])).refresher.isLive 0 = false := by
    rw [run_snoc, login]
    rfl
  have orderly := fresh_blank.orderly_run (pre ++ [.completeLogin aliceToken] ++
    [.refreshed 0 (.token bobToken)])
  obtain ⟨ready, o, r, collects⟩ := orderly.finds (awaited?_of_task waits) settled
  obtain ⟨published, -⟩ := mount_turn ready waits trivial rfl collects
  refine ⟨adopted, rfl, by rw [login], replaced, ?_⟩
  have user := (TokenStore.userAt_of_token replaced 0).trans userAt_bobToken
  rw [published, Gate.project_of_user user]
  rfl

end Console

end ConsoleSession
