import ConsoleSession.Proofs.Verdicts

/-!
# What a resolution guarantees

A gate comes to a user exactly if the token that is held then is a good one of that user, by the clock
reading of the gate's first look; it comes to no user only with an empty store. It calls for a refresh
once if the first look finds something wrong with the held token, and never otherwise. A token that no
refresh can make good is gone when the call is made; one that has only expired stays until the refresh
is over.
-/

namespace ConsoleSession

namespace TokenStore

variable {s : TokenStore} {now : UInt64} {u : User}

/-- What can be wrong with the held token. -/
inductive Defect
  | missing
  | malformed
  | expired
  | nameless
  deriving DecidableEq, Repr

def defect? (s : TokenStore) (now : UInt64) : Option Defect :=
  match s.token.map Claims.decode with
  | none => some .missing
  | some (.error _) => some .malformed
  | some (.ok claims) =>
    if claims.isExpired now then some .expired
    else
      match claims.subject.user with
      | .error _ => some .nameless
      | .ok _ => none

/-- The held token decodes, has not expired at `now`, and its subject is user `u`. -/
def SpeaksFor (s : TokenStore) (u : User) (now : UInt64) : Prop :=
  ∃ token claims, s.token = some token ∧ Claims.decode token = .ok claims ∧
    claims.isExpired now = false ∧ claims.subject.user = .ok u

theorem speaksFor_iff : s.SpeaksFor u now ↔ s.userAt now = .ok u :=
  userAt_eq_ok.symm

theorem inspect_of_defect {defect : Option Defect} :
    s.defect? now = defect → Gate.inspect s now =
      match defect with
      | none => (false, s)
      | some .missing | some .expired => (true, s)
      | some .malformed | some .nameless => (true, s.clear) := by
  rintro rfl
  unfold Gate.inspect defect?
  cases ht : s.token with
  | none => rw [decode_of_none ht, Option.map_none]
  | some token =>
    rw [Option.map_some]
    cases hd : Claims.decode token with
    | error why => rw [decode_of_error ht hd]
    | ok claims =>
      rw [decode_of_ok ht hd]
      dsimp only
      cases claims.isExpired now with
      | true => rfl
      | false => cases claims.subject.user <;> rfl

theorem inspect_due (s : TokenStore) (now : UInt64) :
    (Gate.inspect s now).1 = (s.defect? now).isSome := by
  cases hd : s.defect? now with
  | none => rw [inspect_of_defect hd]; rfl
  | some defect =>
    rw [inspect_of_defect hd]
    cases defect <;> rfl

theorem exists_speaksFor_of_sound (h : s.defect? now = none) : ∃ u, s.SpeaksFor u now := by
  by_contra nobody
  have due : (Gate.inspect s now).1 = true :=
    Gate.inspect_due_iff.2 fun u hu => nobody ⟨u, speaksFor_iff.2 hu⟩
  rw [inspect_due, h] at due
  cases due

end TokenStore

namespace Console

variable {c₀ : Console} {a k : Nat} {task : Task} {pre : List Event} {s : AuthState}

def callsBy (t : Nat) (c : Console) (es : List Event) : Nat :=
  (gathered asks c es).count t

theorem callsBy_snoc (t : Nat) (c : Console) (es : List Event) (e : Event) :
    callsBy t c (es ++ [e]) = callsBy t c es + if (c.run es).asks e = some t then 1 else 0 := by
  rw [callsBy, gathered_snoc, List.count_append]
  congr 1
  cases (c.run es).asks e with
  | none => rfl
  | some u => simp [List.count_singleton]

theorem Fresh.callsBy_of_not_hasCalled (h : c₀.Fresh) {es : List Event}
    (hn : ∀ task, (c₀.run es).tasks[a]? = some task → ¬ task.hasCalled) : callsBy a c₀ es = 0 := by
  induction es using List.reverseRecOn with
  | nil => rfl
  | append_singleton es e ih =>
    have ho := h.orderly_run es
    rw [run_snoc] at hn
    rw [callsBy_snoc, ih, if_neg]
    · intro ha
      obtain ⟨task, ht, called⟩ := hasCalled_of_asks ho ha
      exact hn task ht called
    · intro task ht called
      obtain ⟨task', ht', called'⟩ := hasCalled_apply ho e ht called
      exact hn task' ht' called'

theorem Fresh.callsBy_of_hasCalled (h : c₀.Fresh) {es fs : List Event}
    (ht : (c₀.run es).tasks[a]? = some task) (hc : task.hasCalled) :
    callsBy a c₀ (es ++ fs) = callsBy a c₀ es := by
  have called : ∃ task, (c₀.run (es ++ fs)).tasks[a]? = some task ∧ task.hasCalled ∧
      callsBy a c₀ (es ++ fs) = callsBy a c₀ es := by
    induction fs using List.reverseRecOn with
    | nil =>
      rw [List.append_nil]
      exact ⟨task, ht, hc, rfl⟩
    | append_singleton fs e ih =>
      obtain ⟨task, ht, hc, same⟩ := ih
      rw [← List.append_assoc, run_snoc, callsBy_snoc, if_neg (not_asks_of_hasCalled ht hc e)]
      obtain ⟨task', ht', hc'⟩ := hasCalled_apply (h.orderly_run _) e ht hc
      exact ⟨task', ht', hc', same⟩
  obtain ⟨-, -, -, same⟩ := called
  exact same

theorem Fresh.callsBy_gate (h : c₀.Fresh) (hr : .task a ∈ (c₀.run pre).ready)
    (ht : (c₀.run pre).tasks[a]? = some task) (hg : (c₀.run pre).gates a task = true)
    (mid : List Event) :
    callsBy a c₀ (pre ++ .turn (.task a) :: mid) =
      if ((c₀.run pre).tokens.defect? (c₀.run pre).now).isSome then 1 else 0 := by
  have before : callsBy a c₀ pre = 0 := by
    refine h.callsBy_of_not_hasCalled fun task' ht' => ?_
    cases ht.symm.trans ht'
    obtain hs | hs := gates_stage hg <;> simp [Task.hasCalled, hs]
  have looked : callsBy a c₀ (pre ++ [.turn (.task a)]) =
      if ((c₀.run pre).tokens.defect? (c₀.run pre).now).isSome then 1 else 0 := by
    rw [callsBy_snoc, before, asks_of_run hr ht, wants_of_gates hg, TokenStore.inspect_due]
    cases (c₀.run pre).tokens.defect? (c₀.run pre).now <;> simp
  have split : pre ++ .turn (.task a) :: mid = pre ++ [.turn (.task a)] ++ mid := by simp
  rw [split, ← looked]
  obtain ⟨-, waits⟩ | ⟨stage, hover, hstage⟩ := h.gate_stands hr ht hg []
  · exact h.callsBy_of_hasCalled waits trivial
  · obtain ⟨task', ht', rfl⟩ := Option.map_eq_some_iff.1 hstage
    refine h.callsBy_of_hasCalled ht' ?_
    unfold Task.hasCalled
    cases hs : task'.stage with
    | ended r => exact trivial
    | dropped => exact trivial
    | _ =>
      rw [hs] at hover
      cases hover

theorem speaksFor_project (tokens : TokenStore) (now : UInt64) :
    (∀ u, (Gate.project tokens now).1 = .authenticated u ↔
      (Gate.project tokens now).2.SpeaksFor u now) ∧
    ((∃ u, (Gate.project tokens now).1 = .authenticated u) ∨
      (Gate.project tokens now).1 = .unauthenticated ∧
        (Gate.project tokens now).2.token = none) := by
  have empty (tokens : TokenStore) (hn : tokens.token = none) (u : User) :
      AuthState.unauthenticated = .authenticated u ↔ tokens.SpeaksFor u now := by
    rw [TokenStore.speaksFor_iff, TokenStore.userAt_of_token_eq_none hn]
    exact ⟨nofun, nofun⟩
  obtain ⟨v, hv, hp⟩ | ⟨hn, hp⟩ | ⟨-, hp⟩ := Gate.project_cases tokens now
  · rw [hp]
    refine ⟨fun u => ?_, .inl ⟨v, rfl⟩⟩
    rw [TokenStore.speaksFor_iff, hv]
    simp
  · rw [hp]
    exact ⟨empty _ hn, .inr ⟨rfl, hn⟩⟩
  · rw [hp]
    exact ⟨empty _ rfl, .inr ⟨rfl, rfl⟩⟩

theorem CallsOver.tokens_of_none {c : Console} {tokens : TokenStore} {now : UInt64}
    (ho : Orderly none c) (ht : c.tasks[a]? = some task)
    (hc : CallsOver c a task.goal tokens now) (hn : tokens.token = none) :
    (c.apply (.turn (.task a))).tokens = tokens := by
  obtain ⟨-, -, same, -⟩ | ⟨-, hj⟩ := hc.cases ho ht
  · exact same
  · rw [hj.tokens, Gate.project_of_none hn]

/-- A gate that has looked at the clock and at the held token, in a run that takes whatever course it
will. When it comes to a state, the state is a user's exactly if the store then holds a good token of
that user by the gate's reading of the clock, and otherwise nobody's with the store empty. It has
called for a refresh once if its first look found something wrong with the held token, and else not
at all; then it comes to a user at once and leaves the store alone. A token that is malformed or
nameless is gone when the call is made. An expired one is there, and stays until the refresh is over.
Unless it is dropped the gate comes to a state as soon as it runs after its refresh is over. -/
theorem gate_guarantees (h : c₀.Fresh) (pre : List Event) (hr : .task a ∈ (c₀.run pre).ready)
    (ht : (c₀.run pre).tasks[a]? = some task) (hg : (c₀.run pre).gates a task = true) :
    let start : Event := .turn (.task a)
    let c := c₀.run pre
    let defect := c.tokens.defect? c.now
    (∀ es s, Since pre start es → Resolves (c₀.run es) a s →
      let held := ((c₀.run es).apply start).tokens
      (∀ u, s = .authenticated u ↔ held.SpeaksFor u c.now) ∧
      ((∃ u, s = .authenticated u) ∨ s = .unauthenticated ∧ held.token = none)) ∧
    (∀ mid, callsBy a c₀ (pre ++ start :: mid) = if defect.isSome then 1 else 0) ∧
    (defect = none → (c.apply start).tokens = c.tokens ∧ ∃ u, Resolves c a (.authenticated u)) ∧
    (defect = some .malformed ∨ defect = some .nameless →
      CallsOver c a task.goal c.tokens.clear c.now ∧ (c.apply start).tokens = c.tokens.clear) ∧
    (defect = some .missing ∨ defect = some .expired → CallsOver c a task.goal c.tokens c.now) ∧
    (defect = some .expired →
      (c.apply start).tokens = c.tokens ∨ c.refresher.phase? c.given = some .crashed) ∧
    ∀ mid, let d := c₀.run (pre ++ start :: mid)
      (∃ es rest s, pre ++ start :: mid = es ++ start :: rest ∧ Since pre start es ∧
        Resolves (c₀.run es) a s) ∨
      .drop a ∈ mid ∨
      d.awaited? a = some c.given ∧
        (d.refresher.isLive c.given = true → (d.apply start).tokens = d.tokens) ∧
        (d.refresher.isLive c.given = false → .task a ∈ d.ready ∧ ∃ s, Resolves d a s) := by
  intro start c defect
  have ho := h.orderly_run pre
  have fits := fits_of_gates (h.fits_run pre a task ht) hg c.now
  refine ⟨fun es s hes hs => ?_, h.callsBy_gate hr ht hg, fun sound => ?_, fun useless => ?_,
    fun kept => ?_, fun expired => ?_, fun mid => ?_⟩
  · obtain ⟨tokens, -, rfl, held⟩ := h.judges_of_resolves hr ht hg hes hs
    rw [held]
    exact speaksFor_project tokens c.now
  · obtain ⟨u, hu⟩ := TokenStore.exists_speaksFor_of_sound sound
    have good := Gate.project_of_user (TokenStore.speaksFor_iff.1 hu)
    have hj := judges_of_inspect hr ht hg (TokenStore.inspect_of_defect sound)
    have resolves := hj.resolves_of_gates (h.fits_run pre) ht hg
    rw [good] at resolves
    exact ⟨hj.tokens.trans (by rw [good]), u, resolves⟩
  · have calls : CallsOver c a task.goal c.tokens.clear c.now := by
      obtain hd | hd := useless <;>
        exact calls_of_inspect hr ht hg (TokenStore.inspect_of_defect hd)
    exact ⟨calls, calls.tokens_of_none ho ht rfl⟩
  · obtain hd | hd := kept <;> exact calls_of_inspect hr ht hg (TokenStore.inspect_of_defect hd)
  · have calls := calls_of_inspect hr ht hg (TokenStore.inspect_of_defect expired)
    obtain ⟨-, -, same, -⟩ | ⟨crashed, -⟩ := calls.cases ho ht
    · exact .inl same
    · exact .inr crashed
  · intro d
    obtain resolved | dropped | waits := h.gate_settles hr ht hg mid
    · exact .inl resolved
    · exact .inr (.inl dropped)
    · refine .inr (.inr ⟨awaited?_of_task waits, fun live => ?_, fun settled => ?_⟩)
      · obtain ⟨settled, -⟩ | ⟨-, same, -⟩ := waiting_turn (h.orderly_run _) waits rfl
        · rw [live] at settled
          cases settled
        · exact same
      · obtain ⟨-, ready, hj⟩ | ⟨live, -⟩ := waiting_turn (h.orderly_run _) waits rfl
        · exact ⟨ready, _, hj.resolves waits rfl fits⟩
        · rw [settled] at live
          cases live

/-- A token that cannot be read is dropped, and the refresh brings one that is a user's. -/
theorem unreadable_token_replaced :
    let pre := [.setToken "bad", .spawn .resolve]
    let mid := [.turn (.operation 0), .refreshed 0 (.token aliceToken)]
    let es := pre ++ .turn (.task 0) :: mid
    (blank.run pre).gates 0 ⟨.resolve, .fresh, []⟩ = true ∧
      (blank.run pre).tokens.defect? 0 = some .malformed ∧
      ((blank.run pre).apply (.turn (.task 0))).tokens = ⟨none, 1⟩ ∧
      callsBy 0 blank es = 1 ∧ Resolves (blank.run es) 0 (.authenticated alice) ∧
      ((blank.run es).apply (.turn (.task 0))).tokens.SpeaksFor alice 0 := by
  intro pre mid es
  have task : (blank.run pre).tasks[0]? = some ⟨.resolve, .fresh, []⟩ := rfl
  have malformed : (blank.run pre).tokens.defect? (blank.run pre).now = some .malformed := rfl
  obtain ⟨states, calls, -, useless, -⟩ := gate_guarantees fresh_blank pre (by decide) task rfl
  obtain ⟨-, dropped⟩ := useless (.inl malformed)
  have called := calls mid
  rw [malformed] at called
  have waits : (blank.run es).tasks[0]? = some ⟨.resolve, .joined 0 (.project 0), []⟩ := rfl
  have held : (blank.run es).tokens.token = some aliceToken := by
    have split : es = pre ++ [.turn (.task 0), .turn (.operation 0)] ++
      [.refreshed 0 (.token aliceToken)] := rfl
    rw [split]
    exact fresh_blank.tokens_of_answer rfl rfl (isEmpty_of_userAt userAt_aliceToken)
  have resolves : Resolves (blank.run es) 0 (.authenticated alice) := by
    obtain ⟨-, -, hj⟩ | ⟨live, -⟩ := waiting_turn (fresh_blank.orderly_run es) waits rfl
    · have user := (TokenStore.userAt_of_token held 0).trans userAt_aliceToken
      have comes := hj.resolves waits rfl trivial
      rwa [Gate.project_of_user user] at comes
    · cases live
  obtain ⟨states, -⟩ := states es _ (.inr ⟨mid, rfl⟩) resolves
  exact ⟨rfl, malformed, dropped, called, resolves, (states alice).1 rfl⟩

end Console

end ConsoleSession
