import ConsoleSession.Proofs.Adoption
import ConsoleSession.Proofs.Resolving

/-!
# Sessions on a token that has expired

A gate judges the token that a refresh has brought by the reading of the clock it took before the
refresh. A token that expires between that reading and the gate's judgement passes for a good one.
-/

namespace ConsoleSession

namespace TokenStore

variable {s : TokenStore} {u : User} {now : UInt64}

theorem SpeaksFor.sound (h : s.SpeaksFor u now) : s.defect? now = none := by
  obtain ⟨token, claims, ht, hd, hx, hu⟩ := h
  simp [defect?, ht, hd, hx, hu]

theorem SpeaksFor.at_or_expired (h : s.SpeaksFor u now) (now' : UInt64) :
    s.SpeaksFor u now' ∨ now < now' ∧ s.defect? now' = some .expired := by
  obtain good | ⟨later, bad⟩ := userAt_or_expired (speaksFor_iff.1 h) now'
  · exact .inl (speaksFor_iff.2 good)
  · obtain ⟨token, claims, ht, hd, -, hu⟩ := h
    refine .inr ⟨later, ?_⟩
    cases hx : claims.isExpired now' with
    | true => simp [defect?, ht, hd, hx]
    | false =>
      rw [userAt_eq_ok.2 ⟨token, claims, ht, hd, hx, hu⟩] at bad
      cases bad

end TokenStore

namespace Console

variable {c₀ : Console} {a : Nat} {task : Task}

/-- A gate comes to a user while the token held has expired exactly if it finds a token that was good
when it read the clock and has expired since. That takes a clock that has gone on during a refresh. In
any other case in which it comes to a user, the token held is good. -/
theorem session_on_expired_iff (h : c₀.Fresh) (pre : List Event)
    (hr : .task a ∈ (c₀.run pre).ready) (ht : (c₀.run pre).tasks[a]? = some task)
    (hg : (c₀.run pre).gates a task = true) {es : List Event} {s : AuthState}
    (hes : Since pre (.turn (.task a)) es) (hs : Resolves (c₀.run es) a s) :
    let c := c₀.run pre
    let d := c₀.run es
    let held := (d.apply (.turn (.task a))).tokens
    ((∃ u, s = .authenticated u ∧ held.defect? d.now = some .expired) ↔
      ∃ u, d.tokens.SpeaksFor u c.now ∧ d.tokens.defect? d.now = some .expired) ∧
    ∀ u, s = .authenticated u →
      held.SpeaksFor u d.now ∨
        held.defect? d.now = some .expired ∧ c.now < d.now ∧ c.tokens.defect? c.now ≠ none := by
  intro c d held
  obtain ⟨tokens, found, rfl, hheld⟩ := h.judges_of_resolves hr ht hg hes hs
  have user (u : User) (hu : (Gate.project tokens c.now).1 = .authenticated u) :
      tokens.SpeaksFor u c.now ∧ held = tokens := by
    have good := Gate.userAt_of_project hu
    exact ⟨TokenStore.speaksFor_iff.2 good, hheld.trans (by rw [Gate.project_of_user good])⟩
  refine ⟨⟨?_, ?_⟩, fun u hu => ?_⟩
  · rintro ⟨u, hu, expired⟩
    obtain ⟨good, same⟩ := user u hu
    rw [same] at expired
    obtain ⟨rfl, -⟩ | ⟨-, rfl⟩ := found
    · have sound : tokens.defect? d.now = none := good.sound
      rw [sound] at expired
      cases expired
    · exact ⟨u, good, expired⟩
  · rintro ⟨u, good, expired⟩
    obtain ⟨rfl, -⟩ | ⟨-, rfl⟩ := found
    · have sound : d.tokens.defect? d.now = none := good.sound
      rw [sound] at expired
      cases expired
    · have project := Gate.project_of_user (TokenStore.speaksFor_iff.1 good)
      have same : held = d.tokens := hheld.trans (by rw [project])
      exact ⟨u, by rw [project], by rw [same]; exact expired⟩
  · obtain ⟨good, same⟩ := user u hu
    rw [same]
    obtain now | ⟨later, expired⟩ := good.at_or_expired d.now
    · exact .inl now
    · refine .inr ⟨expired, later, fun sound => ?_⟩
      obtain ⟨rfl, -⟩ | ⟨due, -⟩ := found
      · exact absurd later (UInt64.lt_irrefl _)
      · rw [TokenStore.inspect_due, sound] at due
        cases due

/-- The refresh that a mount waits for brings a token that has expired by then: the gate still goes by
the clock of before. -/
theorem mount_on_token_expired_on_arrival :
    let pre := [.spawn .mount]
    let mid := [.turn (.operation 0), .tick 10, .refreshed 0 (.token aliceToken)]
    let d := blank.run (pre ++ .turn (.task 0) :: mid)
    let d' := d.apply (.turn (.task 0))
    d.now = 10 ∧ d.tokens.defect? 10 = some .expired ∧ Resolves d 0 (.authenticated alice) ∧
      d'.provider.state = .authenticated alice ∧ d'.tokens.defect? 10 = some .expired := by
  intro pre mid d d'
  have task : (blank.run pre).tasks[0]? = some ⟨.mount, .fresh, []⟩ := rfl
  have waits : d.tasks[0]? = some ⟨.mount, .joined 0 (.project 0), []⟩ := rfl
  have orderly : Orderly none d := fresh_blank.orderly_run _
  have held : d.tokens.token = some aliceToken := by
    have split : pre ++ .turn (.task 0) :: mid =
      pre ++ [.turn (.task 0), .turn (.operation 0), .tick 10] ++
        [.refreshed 0 (.token aliceToken)] := rfl
    dsimp only [d]
    rw [split]
    exact fresh_blank.tokens_of_answer rfl rfl (isEmpty_of_userAt userAt_aliceToken)
  have good : d.tokens.SpeaksFor alice 0 :=
    TokenStore.speaksFor_iff.2 ((TokenStore.userAt_of_token held 0).trans userAt_aliceToken)
  have expired : d.tokens.defect? 10 = some .expired := by
    rw [TokenStore.defect?, held]
    decide +kernel
  have project := Gate.project_of_user (TokenStore.speaksFor_iff.1 good)
  have settled : d.refresher.isLive 0 = false := rfl
  obtain ⟨ready, o, r, collects⟩ := orderly.finds (awaited?_of_task waits) settled
  obtain ⟨published, -⟩ := mount_turn ready waits trivial rfl collects
  rw [project] at published
  have resolves : Resolves d 0 (.authenticated alice) :=
    .shared (resolution_of_mounted (.inl rfl) published)
  obtain ⟨⟨-, declared⟩, -⟩ := session_on_expired_iff fresh_blank pre (by decide) task rfl
    (.inr ⟨mid, rfl⟩) resolves
  obtain ⟨-, -, stale⟩ := declared ⟨alice, good, expired⟩
  exact ⟨rfl, expired, resolves, by rw [published]; rfl, stale⟩

end Console

end ConsoleSession
