import ConsoleSession.Session.Gate

/-!
# What the gate makes of the held token

The two looks at the store, before a refresh and after it, agree: a refresh is due exactly when the
held token names no user at that moment, and a token that names one is never dropped.
-/

namespace ConsoleSession

namespace TokenStore

variable {s : TokenStore} {now : UInt64}

theorem decode_of_none (h : s.token = none) : s.decode = .error .missing := by
  rw [decode, h]

theorem decode_of_error {t : String} {why : Malformed} (h : s.token = some t)
    (hd : Claims.decode t = .error why) : s.decode = .error (.malformed why) := by
  simp only [decode, h, hd]
  rfl

theorem decode_of_ok {t : String} {c : Claims} (h : s.token = some t)
    (hd : Claims.decode t = .ok c) : s.decode = .ok c := by
  simp only [decode, h, hd]
  rfl

theorem token_eq_none_of_decode (h : s.decode = .error .missing) : s.token = none := by
  rcases ht : s.token with _ | t
  · rfl
  · rcases hd : Claims.decode t with why | c
    · rw [decode_of_error ht hd] at h
      cases h
    · rw [decode_of_ok ht hd] at h
      cases h

theorem userAt_of_decode_error {e : DecodeError} (h : s.decode = .error e) :
    s.userAt now = .error e := by
  rw [userAt, h]

theorem userAt_of_error {c : Claims} {why : Malformed} (h : s.decode = .ok c)
    (hu : c.userAt now = .error why) : s.userAt now = .error (.malformed why) := by
  simp only [userAt, h, hu]
  rfl

theorem userAt_of_ok {c : Claims} {u : User} (h : s.decode = .ok c)
    (hu : c.userAt now = .ok u) : s.userAt now = .ok u := by
  simp only [userAt, h, hu]
  rfl

theorem userAt_of_token_eq_none (h : s.token = none) (now : UInt64) :
    s.userAt now = .error .missing :=
  userAt_of_decode_error (decode_of_none h)

theorem userAt_congr {s' : TokenStore} (h : s.token = s'.token) (now : UInt64) :
    s.userAt now = s'.userAt now := by
  simp [userAt, decode, h]

theorem userAt_of_token {t : String} (h : s.token = some t) (now : UInt64) :
    s.userAt now = (⟨some t, 0⟩ : TokenStore).userAt now :=
  userAt_congr h now

theorem token_eq_none_of_userAt (h : s.userAt now = .error .missing) : s.token = none := by
  rcases hd : s.decode with e | c
  · rw [userAt_of_decode_error hd] at h
    cases h
    exact token_eq_none_of_decode hd
  · rcases hu : c.userAt now with why | u
    · rw [userAt_of_error hd hu] at h
      cases h
    · rw [userAt_of_ok hd hu] at h
      cases h

theorem userAt_eq_ok {u : User} : s.userAt now = .ok u ↔
    ∃ t c, s.token = some t ∧ Claims.decode t = .ok c ∧ c.isExpired now = false ∧
      c.subject.user = .ok u := by
  constructor
  · intro h
    rcases ht : s.token with _ | t
    · rw [userAt_of_token_eq_none ht] at h
      cases h
    rcases hd : Claims.decode t with why | c
    · rw [userAt_of_decode_error (decode_of_error ht hd)] at h
      cases h
    rcases hx : c.isExpired now with _ | _
    · have hc : c.userAt now = c.subject.user := by simp [Claims.userAt, hx]
      rcases hu : c.subject.user with why | u'
      · rw [userAt_of_error (decode_of_ok ht hd) (hc.trans hu)] at h
        cases h
      · rw [userAt_of_ok (decode_of_ok ht hd) (hc.trans hu)] at h
        cases h
        exact ⟨t, c, rfl, hd, hx, hu⟩
    · have hc : c.userAt now = .error .expired := by simp [Claims.userAt, hx]
      rw [userAt_of_error (decode_of_ok ht hd) hc] at h
      cases h
  · rintro ⟨t, c, ht, hd, hx, hu⟩
    exact userAt_of_ok (decode_of_ok ht hd) (by simp [Claims.userAt, hx, hu])

theorem userAt_or_expired {u : User} (h : s.userAt now = .ok u) (now' : UInt64) :
    s.userAt now' = .ok u ∨
      now < now' ∧ s.userAt now' = .error (.malformed .expired) := by
  obtain ⟨t, c, ht, hd, hx, hu⟩ := userAt_eq_ok.1 h
  rcases hx' : c.isExpired now' with _ | _
  · exact .inl (userAt_eq_ok.2 ⟨t, c, ht, hd, hx', hu⟩)
  · refine .inr ⟨?_, userAt_of_error (decode_of_ok ht hd) (by simp [Claims.userAt, hx'])⟩
    unfold Claims.isExpired at hx hx'
    rcases he : c.expiresAt with _ | e
    · simp [he] at hx
    · simp only [he, decide_eq_false_iff_not, decide_eq_true_eq, UInt64.not_lt] at hx hx'
      exact UInt64.lt_of_le_of_lt hx hx'

end TokenStore

namespace Gate

/-- The first look: a usable token is left, a missing or an expired one too, any other is dropped. -/
theorem inspect_cases (s : TokenStore) (now : UInt64) :
    (inspect s now = (false, s) ∧ ∃ u, s.userAt now = .ok u) ∨
    (inspect s now = (true, s) ∧
      (s.token = none ∨ s.userAt now = .error (.malformed .expired))) ∨
    (inspect s now = (true, s.clear) ∧ ∃ why, s.userAt now = .error (.malformed why)) := by
  rcases hd : s.decode with e | c
  · cases e with
    | missing =>
      exact .inr (.inl ⟨by simp [inspect, hd], .inl (TokenStore.token_eq_none_of_decode hd)⟩)
    | malformed why =>
      exact .inr (.inr ⟨by simp [inspect, hd], why, TokenStore.userAt_of_decode_error hd⟩)
  · by_cases hx : c.isExpired now = true
    · have hu : c.userAt now = .error .expired := by simp [Claims.userAt, hx]
      exact .inr (.inl ⟨by simp [inspect, hd, hx], .inr (TokenStore.userAt_of_error hd hu)⟩)
    · have hclaims : c.userAt now = c.subject.user := by simp [Claims.userAt, hx]
      rcases hu : c.subject.user with why | u
      · refine .inr (.inr ⟨by simp [inspect, hd, hx, hu], why, ?_⟩)
        exact TokenStore.userAt_of_error hd (hclaims.trans hu)
      · refine .inl ⟨by simp [inspect, hd, hx, hu], u, ?_⟩
        exact TokenStore.userAt_of_ok hd (hclaims.trans hu)

theorem project_cases (s : TokenStore) (now : UInt64) :
    (∃ u, s.userAt now = .ok u ∧ project s now = (.authenticated u, s)) ∨
    (s.token = none ∧ project s now = (.unauthenticated, s)) ∨
    ((∃ why, s.userAt now = .error (.malformed why)) ∧
      project s now = (.unauthenticated, s.clear)) := by
  unfold project
  rcases hu : s.userAt now with e | u
  · cases e with
    | missing => exact .inr (.inl ⟨TokenStore.token_eq_none_of_userAt hu, rfl⟩)
    | malformed why => exact .inr (.inr ⟨⟨why, rfl⟩, rfl⟩)
  · exact .inl ⟨u, rfl, rfl⟩

theorem inspect_of_user {s : TokenStore} {now : UInt64} {u : User} (h : s.userAt now = .ok u) :
    inspect s now = (false, s) := by
  obtain ⟨hi, -⟩ | ⟨-, hn | hx⟩ | ⟨-, why, hx⟩ := inspect_cases s now
  · exact hi
  · rw [TokenStore.userAt_of_token_eq_none hn] at h
    cases h
  · rw [hx] at h
    cases h
  · rw [hx] at h
    cases h

theorem inspect_due_iff {s : TokenStore} {now : UInt64} :
    (inspect s now).1 = true ↔ ∀ u, s.userAt now ≠ .ok u := by
  obtain ⟨hi, u, hu⟩ | ⟨hi, hn | hx⟩ | ⟨hi, why, hx⟩ := inspect_cases s now
  · rw [hi]
    exact iff_of_false nofun fun none => none u hu
  · rw [hi, TokenStore.userAt_of_token_eq_none hn]
    exact iff_of_true rfl nofun
  · rw [hi, hx]
    exact iff_of_true rfl nofun
  · rw [hi, hx]
    exact iff_of_true rfl nofun

theorem project_of_user {s : TokenStore} {now : UInt64} {u : User} (h : s.userAt now = .ok u) :
    project s now = (.authenticated u, s) := by
  simp [project, h]

theorem project_of_none {s : TokenStore} (h : s.token = none) (now : UInt64) :
    project s now = (.unauthenticated, s) := by
  simp [project, TokenStore.userAt_of_token_eq_none h]

theorem userAt_of_project {s : TokenStore} {now : UInt64} {u : User}
    (h : (project s now).1 = .authenticated u) : s.userAt now = .ok u := by
  obtain ⟨v, hv, hp⟩ | ⟨-, hp⟩ | ⟨-, hp⟩ := project_cases s now
  · rw [hp] at h
    cases h
    exact hv
  · rw [hp] at h
    cases h
  · rw [hp] at h
    cases h

theorem project_project (s : TokenStore) (now : UInt64) :
    project (project s now).2 now = project s now := by
  obtain ⟨u, -, hp⟩ | ⟨-, hp⟩ | ⟨-, hp⟩ := project_cases s now
  · rw [hp, hp]
  · rw [hp, hp]
  · rw [hp]
    exact project_of_none rfl now

end Gate

end ConsoleSession
