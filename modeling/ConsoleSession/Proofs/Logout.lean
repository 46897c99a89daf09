import ConsoleSession.Proofs.Epochs
import ConsoleSession.Proofs.Stages

/-!
# A logout stays a logout

A logout clears the store, so every operation that was live then is bound to an epoch that is over,
and its answer is refused. `Closed` is what is kept from there on, until a token is brought in from
outside or another refresh starts: no token, no user, and none to come.
-/

namespace ConsoleSession.Console

variable {c c₀ : Console} {t k : Nat} {flight : Nat → Prop}

/-- The step brings in no token from outside and starts no operation. -/
def Undisturbed (c : Console) (e : Event) : Prop :=
  (c.apply e).refresher.operations.length = c.refresher.operations.length ∧
  match e with
  | .setToken token => token.isEmpty = true
  | .setTokenIfEpoch token epoch => c.tokens.accepts token epoch = false
  | .completeLogin _ => False
  | _ => True

instance (c : Console) : (e : Event) → Decidable (c.Undisturbed e)
  | .setToken _ | .setTokenIfEpoch .. => inferInstanceAs (Decidable (_ ∧ _ = _))
  | .completeLogin _ => inferInstanceAs (Decidable (_ ∧ False))
  | .spawn _ | .turn _ | .drop _ | .refreshed .. | .loggedOut .. | .replied .. | .login _
  | .navigate _ | .decide _ | .saveIntent _ | .tick _ => inferInstanceAs (Decidable (_ ∧ True))

/-- There is no session, and none of the operations in `flight` can bring one. -/
structure Closed (flight : Nat → Prop) (c : Console) : Prop where
  token : c.tokens.token = none
  state : c.provider.state = .unauthenticated
  live : ∀ k, c.refresher.isLive k = true → flight k
  failed : ∀ k o, flight k → c.refresher.phase? k = some (.settled o) → ∃ why, o = .error why

def Denied (g : Guard) (goal : Goal) : After → Ending → Prop
  | .report, r => ∃ why, r = .refreshed (.error why)
  | .retry refused, r => r = .answered (.error refused)
  | .project _, r =>
    match goal with
    | .visit path => ∃ now store, r = .decided (g.decide .unauthenticated path now store).1
    | _ => r = .state .unauthenticated

theorem denied_failed (h : c.tokens.token = none) (goal : Goal) (why : RefreshError) (after : After) :
    Denied c.guard goal after (c.failed goal why after) := by
  cases after with
  | report => exact ⟨why, rfl⟩
  | retry refused => exact rfl
  | project now =>
    rw [failed, Gate.project_of_none h now]
    cases goal with
    | visit path => exact ⟨c.now, c.redirects, rfl⟩
    | _ => exact rfl

theorem token_apply_of_closed (h : c.tokens.token = none) (ho : Orderly none c) {e : Event}
    (hu : c.Undisturbed e)
    (hr : ∀ k epoch token, c.refresher.isLive k = true → c.refresher.epoch? k = some epoch →
      c.tokens.accepts token epoch = false) : (c.apply e).tokens.token = none := by
  have hs := tokens_apply ho e
  have hin := hu.2
  generalize (c.apply e).tokens = s at hs
  cases hs with
  | kept => exact h
  | dropped _ _ _ _ => rfl
  | logout _ => rfl
  | set token =>
    have ht : token.isEmpty = true := hin
    simp [TokenStore.set, ht, TokenStore.clear]
  | setIfEpoch token epoch =>
    have ht : c.tokens.accepts token epoch = false := hin
    simpa [TokenStore.setIfEpoch, ht] using h
  | login token => exact hin.elim
  | @answer k a epoch hp he =>
    obtain ⟨token, -, hacc, -⟩ | ⟨hj, -⟩ := Refresher.judge_cases c.tokens epoch a
    · rw [hr k epoch token (c.refresher.isLive_of_phase? k hp) he] at hacc
      cases hacc
    · rw [hj]
      exact h

theorem Closed.apply (h : Closed flight c) (ho : Orderly none c) {e : Event} (hu : c.Undisturbed e)
    (hr : ∀ k epoch token, c.refresher.isLive k = true → c.refresher.epoch? k = some epoch →
      c.tokens.accepts token epoch = false) : Closed flight (c.apply e) := by
  have htoken := token_apply_of_closed h.token ho hu hr
  refine ⟨htoken, ?_, fun k hk => ?_, fun k o hlive hk => ?_⟩
  · obtain hs | ⟨now, hs⟩ := state_apply ho e
    · rw [hs, h.state]
    · rw [hs, Gate.project_of_none htoken]
  · obtain hk | ⟨hs, -⟩ := isLive_apply ho hk
    · exact h.live k hk
    · have hlen := length_apply ho e
      rw [hu.1, if_pos hs] at hlen
      omega
  · obtain hs | ⟨-, -, hs⟩ | ⟨-, -, -, hs⟩ | ⟨a, epoch, rfl, hcall, he, hs⟩ := phase?_apply ho e k
    · exact h.failed k o hlive (hs ▸ hk)
    · rw [hk] at hs
      cases hs
    · rw [hk] at hs
      cases hs
    · rw [hk] at hs
      obtain ⟨token, -, hacc, -⟩ | ⟨-, hj | ⟨why, hj⟩⟩ := Refresher.judge_cases c.tokens epoch a
      · rw [hr k epoch token (c.refresher.isLive_of_phase? k hcall) he] at hacc
        cases hacc
      · rw [hj] at hs
        cases hs
      · rw [hj] at hs
        cases hs
        exact ⟨why, rfl⟩

theorem Closed.collect (h : Closed flight c) (hk : flight k) {o : RefreshOutcome} {r : Refresher}
    (hc : c.refresher.collect k = (some o, r)) : ∃ why, o = .error why := by
  obtain ⟨o', hp, hcol⟩ | ⟨-, hcol⟩ | ⟨-, hcol⟩ := c.refresher.collect_cases k
  · rw [hcol] at hc
    cases hc
    exact h.failed k o hk hp
  · rw [hcol] at hc
    cases hc
    exact ⟨_, rfl⟩
  · rw [hcol] at hc
    cases hc

theorem Closed.waiting_apply (h : Closed flight c) (ho : Orderly none c) (hk : flight k) (e : Event)
    {task : Task} {after : After} (ht : c.tasks[t]? = some task) (hs : task.stage = .joined k after) :
    (c.apply e).tasks[t]? = some task ∨ (c.apply e).stage? t = some .dropped ∨
      ∃ r, (c.apply e).stage? t = some (.ended r) ∧ Denied c.guard task.goal after r := by
  obtain hstay | ⟨-, hdrop⟩ | ⟨o, r, -, -, hc, he⟩ := Console.waiting_apply ho e ht hs
  · exact .inl hstay
  · exact .inr (.inl (by simp [stage?, hdrop]))
  · obtain ⟨why, rfl⟩ := h.collect hk hc
    let c' : Console := { c.taking (.task t) with refresher := r }
    refine .inr (.inr ⟨c'.failed task.goal why after, ?_, ?_⟩)
    · rw [he]
      exact stage?_proceed_error (c := c') task.goal why after ht
    · exact denied_failed (c := c') h.token task.goal why after

theorem refreshed_refused {epoch : UInt64} (hp : c.refresher.phase? k = some .calling)
    (he : c.refresher.epoch? k = some epoch) (hr : ∀ token, c.tokens.accepts token epoch = false)
    (a : RefreshAnswer) :
    (c.apply (.refreshed k a)).tokens = c.tokens ∧
      ∃ why, ((c.apply (.refreshed k a)).refresher.collect k).1 = some (.error why) := by
  have hphase : (c.apply (.refreshed k a)).refresher.phase? k =
      some (Refresher.judge c.tokens epoch a).1 := phase?_refreshed hp he a
  have htokens : (c.apply (.refreshed k a)).tokens = (Refresher.judge c.tokens epoch a).2 :=
    tokens_refreshed hp he a
  obtain ⟨token, -, hacc, -⟩ | ⟨hj, hcrash | ⟨why, hset⟩⟩ :=
    Refresher.judge_cases c.tokens epoch a
  · rw [hr token] at hacc
    cases hacc
  · rw [hcrash] at hphase
    exact ⟨htokens.trans hj, .aborted, by simp [Refresher.collect, hphase]⟩
  · rw [hset] at hphase
    exact ⟨htokens.trans hj, why, by simp [Refresher.collect, hphase]⟩

theorem apply_loggedOut (ht : c.stage? t = some .leaving) :
    ∃ goal sent, c.tasks[t]? = some ⟨goal, .leaving, sent⟩ ∧
      c.apply (.loggedOut t false) = ({ c with
        tokens := c.tokens.clear
        provider := c.provider.publish .unauthenticated } : Console).finish t .loggedOut := by
  obtain ⟨⟨goal, stage, sent⟩, htask, hs⟩ := Option.map_eq_some_iff.1 ht
  cases hs
  exact ⟨goal, sent, htask, by simp [apply, loggedOut, htask]⟩

theorem closed_loggedOut (ht : c.stage? t = some .leaving) :
    Closed (fun k => c.refresher.isLive k = true) (c.apply (.loggedOut t false)) := by
  obtain ⟨goal, sent, -, he⟩ := apply_loggedOut ht
  rw [he]
  refine ⟨rfl, rfl, fun k hk => hk, fun k o hk hp => ?_⟩
  have hp' : c.refresher.phase? k = some (.settled o) := hp
  rw [c.refresher.isLive_of_phase? k hp'] at hk
  cases hk

theorem clears_loggedOut (ht : c.stage? t = some .leaving) : c.clears (.loggedOut t false) = 1 := by
  obtain ⟨goal, sent, -, he⟩ := apply_loggedOut ht
  exact clears_of_clear (by rw [he]; rfl)

theorem Fresh.not_accepts_of_clears (h : c₀.Fresh) {pre post : List Event} {e : Event}
    (hpre : (c₀.run pre).refresher.isLive k = true) (hc : 0 < (c₀.run pre).clears e)
    (hn : clearsDuring k c₀ (pre ++ e :: post) < UInt64.size) {epoch : UInt64}
    (hl : (c₀.run (pre ++ e :: post)).refresher.isLive k = true)
    (he : (c₀.run (pre ++ e :: post)).refresher.epoch? k = some epoch) (token : String) :
    (c₀.run (pre ++ e :: post)).tokens.accepts token epoch = false := by
  rw [← Bool.not_eq_true, h.accepts_iff hl he hn]
  rintro ⟨hz, -⟩
  rw [clearsDuring_append, clearsDuring, if_pos hpre] at hz
  omega

theorem not_accepts_of_logout (h : c₀.Fresh) {pre post : List Event}
    (ht : (c₀.run pre).stage? t = some .leaving)
    (hpre : (c₀.run pre).refresher.isLive k = true)
    (hn : clearsDuring k c₀ (pre ++ .loggedOut t false :: post) < UInt64.size) {epoch : UInt64}
    (hl : (c₀.run (pre ++ .loggedOut t false :: post)).refresher.isLive k = true)
    (he : (c₀.run (pre ++ .loggedOut t false :: post)).refresher.epoch? k = some epoch)
    (token : String) :
    (c₀.run (pre ++ .loggedOut t false :: post)).tokens.accepts token epoch = false :=
  h.not_accepts_of_clears hpre (by rw [clears_loggedOut ht]; exact Nat.one_pos) hn hl he token

theorem run_logout (c₀ : Console) (pre post : List Event) :
    c₀.run (pre ++ .loggedOut t false :: post) =
      ((c₀.run pre).apply (.loggedOut t false)).run post :=
  run_append c₀ pre _

variable {pre mid post : List Event}

theorem logout_snoc (e : Event) :
    pre ++ .loggedOut t false :: (post ++ [e]) = (pre ++ .loggedOut t false :: post) ++ [e] := by
  simp

theorem Fresh.closed_run (h : c₀.Fresh) (ht : (c₀.run pre).stage? t = some .leaving)
    (hq : ((c₀.run pre).apply (.loggedOut t false)).Along Undisturbed post)
    (hn : ∀ k, (c₀.run pre).refresher.isLive k = true →
      clearsDuring k c₀ (pre ++ .loggedOut t false :: post) < UInt64.size) :
    Closed (fun k => (c₀.run pre).refresher.isLive k = true)
      (c₀.run (pre ++ .loggedOut t false :: post)) := by
  induction post using List.reverseRecOn with
  | nil =>
    rw [run_logout]
    exact closed_loggedOut ht
  | append_singleton post e ih =>
    obtain ⟨hq, hu⟩ := (along_snoc _ _ _ _).1 hq
    rw [logout_snoc] at hn ⊢
    have hn' := fun k hk => Nat.lt_of_le_of_lt (clearsDuring_le_append k c₀ _ [e]) (hn k hk)
    have hc := ih hq hn'
    rw [run_snoc]
    rw [← run_logout] at hu
    exact hc.apply (h.orderly_run _) hu fun k epoch token hl he =>
      not_accepts_of_logout h ht (hc.live k hl) (hn' k (hc.live k hl)) hl he token

theorem Fresh.waiting_run (h : c₀.Fresh) (ht : (c₀.run pre).stage? t = some .leaving)
    (hk : (c₀.run pre).refresher.isLive k = true) {u : Nat} {task : Task} {after : After}
    (hu : (c₀.run (pre ++ .loggedOut t false :: mid)).tasks[u]? = some task)
    (hs : task.stage = .joined k after)
    (hq : ((c₀.run pre).apply (.loggedOut t false)).Along Undisturbed (mid ++ post))
    (hn : ∀ k, (c₀.run pre).refresher.isLive k = true →
      clearsDuring k c₀ (pre ++ .loggedOut t false :: (mid ++ post)) < UInt64.size) :
    let c := c₀.run (pre ++ .loggedOut t false :: (mid ++ post))
    c.tasks[u]? = some task ∨ c.stage? u = some .dropped ∨
      ∃ r, c.stage? u = some (.ended r) ∧ Denied c₀.guard task.goal after r := by
  induction post using List.reverseRecOn with
  | nil =>
    rw [List.append_nil]
    exact .inl hu
  | append_singleton post e ih =>
    rw [← List.append_assoc] at hq hn ⊢
    obtain ⟨hq, -⟩ := (along_snoc _ _ _ _).1 hq
    rw [logout_snoc] at hn ⊢
    have hn' := fun k hk => Nat.lt_of_le_of_lt (clearsDuring_le_append k c₀ _ [e]) (hn k hk)
    have ho := h.orderly_run (pre ++ .loggedOut t false :: (mid ++ post))
    rw [run_snoc]
    rcases ih hq hn' with hstay | hdrop | ⟨r, hend, hden⟩
    · rw [← h.guard_run (pre ++ .loggedOut t false :: (mid ++ post))]
      exact (h.closed_run ht hq hn').waiting_apply ho hk e hstay hs
    · exact .inr (.inl (over_apply ho e rfl hdrop))
    · exact .inr (.inr ⟨r, over_apply ho e rfl hend, hden⟩)

/-- After a logout, as long as no token is brought in and no operation started, there is no session.
The operations that were live then come to errors and write nothing, whatever the backend answers,
and whoever waits for one of them ends without a session. -/
theorem logout_final (h : c₀.Fresh) (pre post : List Event)
    (ht : (c₀.run pre).stage? t = some .leaving)
    (hq : ((c₀.run pre).apply (.loggedOut t false)).Along Undisturbed post)
    (hn : ∀ k, (c₀.run pre).refresher.isLive k = true →
      clearsDuring k c₀ (pre ++ .loggedOut t false :: post) < UInt64.size) :
    let c := c₀.run (pre ++ .loggedOut t false :: post)
    c.tokens.token = none ∧ c.provider.state = .unauthenticated ∧
    ∀ k, (c₀.run pre).refresher.isLive k = true →
      (∀ o, (c.refresher.collect k).1 = some o → ∃ why, o = .error why) ∧
      (∀ a, c.calling k = true →
        (c.apply (.refreshed k a)).tokens = c.tokens ∧
        ∃ why, ((c.apply (.refreshed k a)).refresher.collect k).1 = some (.error why)) ∧
      (∀ mid rest, post = mid ++ rest → ∀ u task after,
        (c₀.run (pre ++ .loggedOut t false :: mid)).tasks[u]? = some task →
        task.stage = .joined k after →
        c.tasks[u]? = some task ∨ c.stage? u = some .dropped ∨
          ∃ r, c.stage? u = some (.ended r) ∧ Denied c₀.guard task.goal after r) := by
  intro c
  have hc : Closed _ c := h.closed_run ht hq hn
  refine ⟨hc.token, hc.state, fun k hk => ⟨fun o ho => ?_, fun a hcall => ?_, ?_⟩⟩
  · exact hc.collect hk (Prod.ext ho rfl)
  · have hp : c.refresher.phase? k = some .calling := calling_iff.1 hcall
    obtain ⟨epoch, he⟩ := Refresher.exists_epoch?_of_phase? hp
    have hl : c.refresher.isLive k = true := c.refresher.isLive_of_phase? k hp
    exact refreshed_refused hp he (not_accepts_of_logout h ht hk (hn k hk) hl he) a
  · rintro mid rest rfl u task after hu hs
    exact h.waiting_run ht hk hu hs hq hn

/-- A refresh is under way when the logout comes, and is answered after it. -/
theorem refresh_after_logout :
    let pre := [.spawn .refresh, .spawn .logout, .turn (.task 0), .turn (.operation 0),
      .turn (.task 1)]
    let post := [.refreshed 0 (.token "late"), .turn (.task 0)]
    let c := blank.run (pre ++ .loggedOut 1 false :: post)
    (blank.run pre).refresher.isLive 0 = true ∧ c.tokens.token = none ∧
      c.provider.state = .unauthenticated ∧
      c.stage? 0 = some (.ended (.refreshed (.error .superseded))) := by
  intro pre post c
  have hn : ∀ k, (blank.run pre).refresher.isLive k = true →
      clearsDuring k blank (pre ++ .loggedOut 1 false :: post) < UInt64.size := by
    intro k hk
    have hp := (fresh_blank.orderly_run pre).sound.live k hk
    obtain rfl : 0 = k := Option.some.inj hp
    decide
  obtain ⟨htoken, hstate, -⟩ := logout_final fresh_blank pre post rfl (by decide) hn
  exact ⟨rfl, htoken, hstate, rfl⟩

end ConsoleSession.Console
