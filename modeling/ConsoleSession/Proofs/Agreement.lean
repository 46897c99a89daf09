import ConsoleSession.Proofs.Settlement
import ConsoleSession.Proofs.Verdicts

/-!
# Logins and gates judge alike

A login is accepted exactly if a gate that held its token would come to the same user without a
refresh. A login that is rejected takes the token back, in such a way that no refresh under way at the
time writes another.
-/

namespace ConsoleSession

def TokenStore.Holds (s : TokenStore) (token : String) : Prop :=
  s.token = some token ∨ token.isEmpty = true ∧ s.token = none

namespace TokenStore

variable {s : TokenStore} {token : String} {now : UInt64} {u : User}

theorem not_user_of_isEmpty (h : token.isEmpty = true) (u : User) :
    (⟨some token, 0⟩ : TokenStore).userAt now ≠ .ok u := by
  intro hu
  rw [Console.isEmpty_of_userAt hu] at h
  cases h

theorem Holds.userAt_iff (h : s.Holds token) (s' : TokenStore) (now : UInt64) (u : User) :
    s.userAt now = .ok u ↔ (s'.set token).userAt now = .ok u := by
  by_cases empty : token.isEmpty = true
  · have login : (s'.set token).userAt now = .error .missing := by
      rw [set, if_pos empty, userAt_of_token_eq_none rfl]
    rw [login]
    refine iff_of_false ?_ (by simp)
    obtain held | ⟨-, none⟩ := h
    · rw [userAt_of_token held]
      exact not_user_of_isEmpty empty u
    · rw [userAt_of_token_eq_none none]
      simp
  · obtain held | ⟨full, -⟩ := h
    · rw [set, if_neg empty, userAt_of_token held]
      exact Iff.rfl
    · exact absurd full empty

theorem clear_set (s : TokenStore) (token : String) :
    (s.set token).clear = ⟨none, s.epoch + if token.isEmpty then 2 else 1⟩ := by
  by_cases empty : token.isEmpty = true
  · rw [set, if_pos empty, if_pos empty, clear, clear, UInt64.add_assoc]
    rfl
  · rw [set, if_neg empty, if_neg empty, clear]

theorem lt_epoch_of_clear_set {epoch : UInt64} (token : String) (h : epoch.toNat + 2 < UInt64.size) :
    epoch < epoch + if token.isEmpty then 2 else 1 := by
  rw [UInt64.lt_iff_toNat_lt]
  split
  · rw [UInt64.toNat_add, Nat.mod_eq_of_lt (by simpa using h)]
    exact Nat.lt_add_of_pos_right (by decide)
  · rw [UInt64.toNat_add, Nat.mod_eq_of_lt (by simpa using Nat.lt_of_succ_lt h)]
    exact Nat.lt_add_of_pos_right (by decide)

end TokenStore

namespace Console

variable {c c₀ : Console} {t k : Nat} {task : Task} {u : User} {token : String}

theorem first_look_user (ho : Orderly none c) (hf : c.Fits) (hr : .task t ∈ c.ready)
    (ht : c.tasks[t]? = some task) (hg : c.gates t task = true) :
    c.asks (.turn (.task t)) = none ∧ Resolves c t (.authenticated u) ↔
      c.tokens.userAt c.now = .ok u := by
  rw [asks_of_run hr ht, wants_of_gates hg]
  constructor
  · rintro ⟨quiet, hs⟩
    have good : ∃ v, c.tokens.userAt c.now = .ok v := by
      by_contra nobody
      rw [if_pos (Gate.inspect_due_iff.2 fun v hv => nobody ⟨v, hv⟩)] at quiet
      cases quiet
    obtain ⟨v, hv⟩ := good
    obtain ⟨hstate, -⟩ := hs.of_gates ho hf hr ht hg
    rw [Gate.inspect_of_user hv, Gate.project_of_user hv] at hstate
    cases hstate
    exact hv
  · intro user
    have hi := Gate.inspect_of_user user
    have hs := (judges_of_inspect hr ht hg hi).resolves_of_gates hf ht hg
    rw [Gate.project_of_user user] at hs
    exact ⟨by rw [hi]; rfl, hs⟩

theorem first_look_asks (hr : .task t ∈ c.ready) (ht : c.tasks[t]? = some task)
    (hg : c.gates t task = true) :
    c.asks (.turn (.task t)) = some t ↔ ∀ u, c.tokens.userAt c.now ≠ .ok u := by
  rw [asks_of_run hr ht, wants_of_gates hg, ← Gate.inspect_due_iff]
  cases (Gate.inspect c.tokens c.now).1 with
  | true => exact iff_of_true rfl rfl
  | false => exact iff_of_false nofun nofun

theorem completeLogin_cases (c : Console) (token : String) :
    (∃ u, (c.tokens.set token).userAt c.now = .ok u ∧
      c.apply (.completeLogin token) = { c with
        tokens := ⟨some token, c.tokens.epoch⟩
        provider := c.provider.publish (.authenticated u) }) ∨
    ((∀ u, (c.tokens.set token).userAt c.now ≠ .ok u) ∧
      c.apply (.completeLogin token) = { c with
        tokens := ⟨none, c.tokens.epoch + if token.isEmpty then 2 else 1⟩
        provider := c.provider.publish .unauthenticated }) := by
  obtain ⟨u, hu, ha⟩ | ⟨why, hw, ha⟩ := Gate.adopt_cases c.tokens token c.now
  · exact .inl ⟨u, hu, apply_adopted (congrArg Prod.fst ha)⟩
  · refine .inr ⟨fun u hu => ?_, ?_⟩
    · rw [hw] at hu
      cases hu
    · rw [apply, completeLogin, ha, TokenStore.clear_set]

theorem completeLogin_judges (c : Console) (token : String) :
    (∀ u, (c.apply (.completeLogin token)).provider.state = .authenticated u ↔
      (c.tokens.set token).userAt c.now = .ok u) ∧
    ((c.apply (.completeLogin token)).provider.state = .unauthenticated ↔
      ∀ u, (c.tokens.set token).userAt c.now ≠ .ok u) := by
  obtain ⟨v, hv, he⟩ | ⟨hn, he⟩ := completeLogin_cases c token
  · rw [he, hv]
    simp [Provider.publish]
  · rw [he]
    exact ⟨fun u => iff_of_false (by simp [Provider.publish]) (hn u), iff_of_true rfl hn⟩

theorem Fresh.refused_after_rejection (h : c₀.Fresh) {es fs : List Event}
    (live : (c₀.run es).refresher.isLive k = true)
    (denied : ((c₀.run es).apply (.completeLogin token)).provider.state = .unauthenticated)
    (hn : clearsDuring k c₀ (es ++ .completeLogin token :: fs) < UInt64.size) (a : RefreshAnswer) :
    let d := c₀.run (es ++ .completeLogin token :: fs)
    (d.apply (.refreshed k a)).tokens = d.tokens ∧
      (d.calling k = true →
        ∃ why, ((d.apply (.refreshed k a)).refresher.collect k).1 = some (.error why)) := by
  intro d
  have cleared : 0 < (c₀.run es).clears (.completeLogin token) :=
    clears_of_ends (e := .completeLogin token) denied
  by_cases hp : d.refresher.phase? k = some .calling
  · obtain ⟨epoch, he⟩ := Refresher.exists_epoch?_of_phase? hp
    have hl : d.refresher.isLive k = true := Refresher.isLive_of_phase? _ k hp
    obtain ⟨same, failed⟩ :=
      refreshed_refused hp he (h.not_accepts_of_clears live cleared hn hl he) a
    exact ⟨same, fun _ => failed⟩
  · have idle : d.apply (.refreshed k a) = d := by
      rw [apply, refreshed, if_neg hp]
    exact ⟨by rw [idle], fun calls => absurd (calling_iff.1 calls) hp⟩

/-- A login publishes a user exactly if a gate that held its text at the same reading of the clock
would come to that user without a refresh, and nobody exactly if that gate would call for one. An
accepted text is held, in the same epoch. A rejected one leaves an empty store and a later epoch, and
no refresh under way at the time writes what it brings. -/
theorem login_agrees_with_gate (h : c₀.Fresh) (es : List Event) (token : String) :
    let c := c₀.run es
    let c' := c.apply (.completeLogin token)
    (∀ (g₀ : Console) (gs : List Event) (t : Nat) (task : Task), g₀.Fresh →
      let g := g₀.run gs
      .task t ∈ g.ready → g.tasks[t]? = some task → g.gates t task = true → g.now = c.now →
      g.tokens.Holds token →
        (∀ u, c'.provider.state = .authenticated u ↔
          g.asks (.turn (.task t)) = none ∧ Resolves g t (.authenticated u)) ∧
        (c'.provider.state = .unauthenticated ↔ g.asks (.turn (.task t)) = some t)) ∧
    c'.provider.published = c.provider.published + 1 ∧
    ((∃ u, c'.provider.state = .authenticated u) ∧ c'.tokens = ⟨some token, c.tokens.epoch⟩ ∨
      c'.provider.state = .unauthenticated ∧
        c'.tokens = ⟨none, c.tokens.epoch + if token.isEmpty then 2 else 1⟩ ∧
        (c.tokens.epoch.toNat + 2 < UInt64.size → c.tokens.epoch < c'.tokens.epoch) ∧
        ∀ k, c.refresher.isLive k = true → ∀ fs a,
          clearsDuring k c₀ (es ++ .completeLogin token :: fs) < UInt64.size →
          let d := c₀.run (es ++ .completeLogin token :: fs)
          (d.apply (.refreshed k a)).tokens = d.tokens ∧
            (d.calling k = true →
              ∃ why, ((d.apply (.refreshed k a)).refresher.collect k).1 = some (.error why))) := by
  intro c c'
  have judged : (∀ u, c'.provider.state = .authenticated u ↔
        (c.tokens.set token).userAt c.now = .ok u) ∧
      (c'.provider.state = .unauthenticated ↔ ∀ u, (c.tokens.set token).userAt c.now ≠ .ok u) :=
    completeLogin_judges c token
  refine ⟨fun g₀ gs t task hg₀ => ?_, ?_, ?_⟩
  · intro g hr ht hg clock held
    have same (u : User) : g.tokens.userAt g.now = .ok u ↔
        (c.tokens.set token).userAt c.now = .ok u := by
      rw [clock]
      exact held.userAt_iff c.tokens c.now u
    refine ⟨fun u => ?_, ?_⟩
    · rw [judged.1, first_look_user (hg₀.orderly_run gs) (hg₀.fits_run gs) hr ht hg, same]
    · rw [judged.2, first_look_asks hr ht hg]
      exact forall_congr' fun u => not_congr (same u).symm
  · rfl
  · obtain ⟨u, -, he⟩ | ⟨-, he⟩ := completeLogin_cases c token
    · exact .inl ⟨⟨u, congrArg (·.provider.state) he⟩, congrArg (·.tokens) he⟩
    · have denied : c'.provider.state = .unauthenticated := congrArg (·.provider.state) he
      have taken : c'.tokens = _ := congrArg (·.tokens) he
      refine .inr ⟨denied, taken, fun room => ?_, fun k live fs a room => ?_⟩
      · rw [taken]
        exact TokenStore.lt_epoch_of_clear_set token room
      · exact h.refused_after_rejection live denied room a

/-- A text that cannot be read is rejected while a refresh is under way, whose token is then lost; a
gate that holds that text calls for a refresh, and one that holds a token of a user comes to the user
whom the token logs in. -/
theorem texts_judged_alike :
    let es := [.spawn .refresh, .turn (.task 0), .turn (.operation 0)]
    let gate := fun token => blank.run [.setToken token, .spawn .resolve]
    (gate "bad").asks (.turn (.task 0)) = some 0 ∧
      ((blank.run es).apply (.completeLogin "bad")).tokens = ⟨none, 1⟩ ∧
      (blank.run (es ++ [.completeLogin "bad", .refreshed 0 (.token aliceToken)])).tokens =
        ⟨none, 1⟩ ∧
      ((blank.run es).apply (.completeLogin aliceToken)).tokens = ⟨some aliceToken, 0⟩ ∧
      Resolves (gate aliceToken) 0 (.authenticated alice) := by
  intro es gate
  have task (token : String) : (gate token).tasks[0]? = some ⟨.resolve, .fresh, []⟩ := rfl
  have ready (token : String) : .task 0 ∈ (gate token).ready := List.mem_singleton_self _
  have rejected : ((blank.run es).apply (.completeLogin "bad")).provider.state =
    .unauthenticated := rfl
  have adopted : (Gate.adopt (blank.run es).tokens aliceToken (blank.run es).now).1 =
    .authenticated alice := by decide +kernel
  have accepted : ((blank.run es).apply (.completeLogin aliceToken)).provider.state =
      .authenticated alice := by
    rw [apply_adopted adopted]
    rfl
  obtain ⟨agrees, -, ⟨⟨u, hu⟩, -⟩ | ⟨-, taken, -, refused⟩⟩ :=
    login_agrees_with_gate fresh_blank es "bad"
  · rw [rejected] at hu
    cases hu
  obtain ⟨agrees', -, ⟨-, held⟩ | ⟨hn, -⟩⟩ := login_agrees_with_gate fresh_blank es aliceToken
  · have asks := (agrees blank _ 0 _ fresh_blank (ready "bad") (task "bad") rfl rfl (.inl rfl)).2.1
      rejected
    have comes := ((agrees' blank _ 0 _ fresh_blank (ready aliceToken) (task aliceToken) rfl rfl
      (.inl rfl)).1 alice).1 accepted
    obtain ⟨kept, -⟩ := refused 0 rfl [] (.token aliceToken) (by decide)
    refine ⟨asks, taken, ?_, held, comes.2⟩
    rw [List.append_cons, run_snoc]
    exact kept.trans ((congrArg _ (run_snoc _ _ _)).trans taken)
  · rw [accepted] at hn
    cases hn

end Console

end ConsoleSession
