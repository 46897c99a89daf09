import ConsoleSession.Proofs.Epochs
import ConsoleSession.Proofs.Stages

/-!
# What a gate makes of the refresh it waited for

A gate that finds no usable token waits for a refresh, its own or one already under way, and judges
what is held after it by the clock reading it took before. The answer is written only if the store
was not cleared since the operation was started. The gate's own discarding of a useless token is such
a clearing, so a gate that joins an operation started before loses its token.
-/

namespace ConsoleSession.Console

variable {c c' c₀ : Console} {a t k : Nat} {now : UInt64} {tok : String} {u : User}

def Names (tok : String) (u : User) (c : Console) (e : Event) : Prop :=
  ∀ now, c.clock? e = some now → (⟨some tok, 0⟩ : TokenStore).userAt now = .ok u

def WritesOnly (tok : Option String) (c : Console) (e : Event) : Prop :=
  (c.apply e).tokens.token = c.tokens.token ∨ (c.apply e).tokens.token = none ∨
    (c.apply e).tokens.token = tok

/-- The step ends the session from outside the gates. -/
def Ends (c : Console) : Event → Prop
  | .setToken token => token.isEmpty = true
  | .loggedOut t crashed => crashed = false ∧ c.stage? t = some .leaving
  | .completeLogin token => (Gate.adopt c.tokens token c.now).1 = .unauthenticated
  | _ => False

theorem names_of_none {e : Event} (h : c.clock? e = none) : Names tok u c e := by
  intro now hn
  rw [h] at hn
  cases hn

theorem names_of_some {e : Event} (h : c.clock? e = some now)
    (hu : (⟨some tok, 0⟩ : TokenStore).userAt now = .ok u) : Names tok u c e := by
  intro now' hn
  rw [h] at hn
  cases hn
  exact hu

theorem gate_joined (h : Orderly none c) {task : Task} (hr : .task a ∈ c.ready)
    (ht : c.tasks[a]? = some task) (hg : c.gates a task = true)
    (hw : (c.apply (.turn (.task a))).awaited? a = some k) :
    (c.apply (.turn (.task a))).tasks[a]? = some { task with stage := .joined k (.project c.now) } ∧
      (c.apply (.turn (.task a))).tokens = (Gate.inspect c.tokens c.now).2 ∧
      (Gate.inspect c.tokens c.now).1 = true := by
  have hturn := turn_cases c (.task a)
  dsimp only [apply] at hw ⊢
  generalize c.turn (.task a) = c' at hturn hw
  obtain ⟨hn, -⟩ | ⟨_, hk, -⟩ | ⟨_, ⟨⟩, -, hn, -⟩ | ⟨_, task', ⟨⟩, -, ht', hs⟩ := hturn
  · exact absurd hr hn
  · cases hk
  · rw [ht] at hn
    cases hn
  · cases Option.some.inj (ht.symm.trans ht')
    have hg' : (c.taking (.task a)).gates a task = true := hg
    cases hs with
    | rest _ hn _ => simp [hn] at hg'
    | pass _ hn _ _ _ _ => simp [hn] at hg'
    | ask _ hn _ _ => simp [hn] at hg'
    | collect _ _ _ _ _ hn _ _ => simp [hn] at hg'
    | judge p _ _ _ _ _ => simp [(project_onward _ _).awaited?] at hw
    | gate p tokens _ _ _ _ hd =>
      have hd' : Gate.inspect c.tokens c.now = (true, tokens) := hd
      rw [hd']
      obtain ⟨htk, htn⟩ := join_waits (c := { c.taking (.task a) with
        provider := p, tokens := tokens }) h.sound ht hw
      exact ⟨htk, htn, rfl⟩

theorem gate_waiting_run (h : c₀.Fresh) (es : List Event) {task : Task}
    (ht : (c₀.run es).tasks[a]? = some task) (hs : task.stage = .joined k (.project now))
    (fs : List Event) :
    (c₀.run (es ++ fs)).tasks[a]? = some task ∨
      ∃ s : Stage, s.isOver = true ∧ (c₀.run (es ++ fs)).stage? a = some s := by
  induction fs using List.reverseRecOn with
  | nil =>
    rw [List.append_nil]
    exact .inl ht
  | append_singleton fs e ih =>
    have ho := h.orderly_run (es ++ fs)
    rw [← List.append_assoc, run_snoc]
    rcases ih with hstay | ⟨s, hover, hst⟩
    · obtain hstay' | ⟨-, hdrop⟩ | ⟨o, r, -, -, -, he⟩ := waiting_apply ho e hstay hs
      · exact .inl hstay'
      · exact .inr ⟨.dropped, rfl, by simp [stage?, hdrop]⟩
      · rw [he]
        exact .inr ⟨_, rfl, stage?_project (c := { (c₀.run (es ++ fs)).taking (.task a) with
          refresher := r }) task.goal now hstay⟩
    · exact .inr ⟨s, hover, over_apply ho e hover hst⟩

theorem gate_turn {task : Task} {o : RefreshOutcome} {r : Refresher} (hr : .task a ∈ c.ready)
    (ht : c.tasks[a]? = some task) (hs : task.stage = .joined k (.project now))
    (hc : c.refresher.collect k = (some o, r)) :
    (c.apply (.turn (.task a))).stage? a =
        some (.ended (c.concluded task.goal (Gate.project c.tokens now).1)) ∧
      (c.apply (.turn (.task a))).tokens = (Gate.project c.tokens now).2 := by
  rw [turn_told hr ht hs hc]
  exact ⟨stage?_project (c := { c.taking (.task a) with refresher := r }) task.goal now ht,
    conclude_tokens _ _⟩

theorem Fresh.names_run (h : c₀.Fresh) {es : List Event} (hn : c₀.Along (Names tok u) es)
    (hs : (c₀.run es).stage? t = some (.joined k (.project now))) :
    (⟨some tok, 0⟩ : TokenStore).userAt now = .ok u := by
  induction es using List.reverseRecOn with
  | nil => simp [run, stage?, h.tasks] at hs
  | append_singleton es e ih =>
    obtain ⟨hn, he⟩ := (along_snoc _ _ _ _).1 hn
    rw [run_snoc] at hs
    obtain hs | ⟨-, -, hclock⟩ := joined_apply (h.orderly_run es) hs
    · exact ih hn hs
    · exact he now (hclock now rfl)

theorem Fresh.names_reads (h : c₀.Fresh) {es : List Event} (hn : c₀.Along (Names tok u) es)
    {task : Task} (hr : .task t ∈ (c₀.run es).ready) (ht : (c₀.run es).tasks[t]? = some task)
    (he : Names tok u (c₀.run es) (.turn (.task t))) (hnow : (c₀.run es).reads? t task = some now) :
    (⟨some tok, 0⟩ : TokenStore).userAt now = .ok u := by
  unfold reads? at hnow
  split at hnow
  next k now' hs =>
    cases hnow
    exact h.names_run hn (t := t) (k := k) (by simp [stage?, ht, hs])
  next =>
    split at hnow
    next hg =>
      cases hnow
      exact he _ (by simp [clock?, ht, hr, hg])
    next => cases hnow

theorem ends_of_token_none (h : Orderly none c) {e : Event} (ht : c.tokens.token = some tok)
    (hn : (c.apply e).tokens.token = none) :
    Ends c e ∨ ∃ t task now why, e = .turn (.task t) ∧ .task t ∈ c.ready ∧
      c.tasks[t]? = some task ∧ c.reads? t task = some now ∧
      c.tokens.userAt now = .error (.malformed why) := by
  have hs := tokens_apply h e
  generalize (c.apply e).tokens = s at hs hn
  cases hs with
  | kept => simp [hn] at ht
  | dropped hr htk hnow hu => exact .inr ⟨_, _, _, _, rfl, hr, htk, hnow, hu⟩
  | logout hst => exact .inl ⟨rfl, hst⟩
  | set token =>
    by_cases he : token.isEmpty = true
    · exact .inl he
    · simp [TokenStore.set, he] at hn
  | setIfEpoch token epoch =>
    by_cases hacc : c.tokens.accepts token epoch = true <;>
      simp [TokenStore.setIfEpoch, hacc, ht] at hn
  | login token =>
    obtain ⟨u, hu, ha⟩ | ⟨why, -, ha⟩ := Gate.adopt_cases c.tokens token c.now
    · rw [ha] at hn
      rw [TokenStore.userAt_of_token_eq_none hn] at hu
      cases hu
    · exact .inl (congrArg Prod.fst ha)
  | @answer k a epoch _ _ =>
    obtain ⟨token, -, -, hj⟩ | ⟨hj, -⟩ := Refresher.judge_cases c.tokens epoch a
    · simp [hj] at hn
    · rw [hj, ht] at hn
      cases hn

/-- The token stays that no gate finds useless and nobody replaces or withdraws. -/
theorem Fresh.token_run (h : c₀.Fresh) {es fs : List Event}
    (hn : c₀.Along (Names tok u) (es ++ fs)) (htok : (c₀.run es).tokens.token = some tok)
    (hkeep : (c₀.run es).Along (fun c e => WritesOnly (some tok) c e ∧ ¬ Ends c e) fs) :
    (c₀.run (es ++ fs)).tokens.token = some tok := by
  induction fs using List.reverseRecOn with
  | nil => rwa [List.append_nil]
  | append_singleton fs e ih =>
    obtain ⟨hkeep, hw, hends⟩ := (along_snoc _ _ _ _).1 hkeep
    rw [← run_append] at hw hends
    rw [← List.append_assoc] at hn ⊢
    obtain ⟨hpast, he⟩ := (along_snoc _ _ _ _).1 hn
    have htok' := ih hpast hkeep
    rw [run_snoc]
    rcases hw with hw | hw | hw
    · exact hw.trans htok'
    · obtain hend | ⟨t, task, now, why, rfl, hr, ht, hnow, hu⟩ :=
        ends_of_token_none (h.orderly_run _) htok' hw
      · exact absurd hend hends
      · have hgood := h.names_reads hpast hr ht he hnow
        rw [TokenStore.userAt_of_token htok', hgood] at hu
        cases hu
    · exact hw

theorem Fresh.phase?_run_of_answer (h : c₀.Fresh) {es : List Event} {epoch : UInt64}
    (hp : (c₀.run es).refresher.phase? k = some .calling)
    (he : (c₀.run es).refresher.epoch? k = some epoch) (answer : RefreshAnswer) (fs : List Event) :
    (c₀.run (es ++ .refreshed k answer :: fs)).refresher.phase? k =
      some (Refresher.judge (c₀.run es).tokens epoch answer).1 := by
  induction fs using List.reverseRecOn with
  | nil =>
    rw [run_snoc]
    exact phase?_refreshed hp he answer
  | append_singleton fs e ih =>
    rw [← List.cons_append, ← List.append_assoc, run_snoc]
    exact phase?_apply_of_over (h.orderly_run _) e ih (Refresher.judge_isLive _ _ _)

theorem Fresh.tokens_of_answer (h : c₀.Fresh) {es : List Event}
    (hp : (c₀.run es).refresher.phase? k = some .calling) (hz : clearsDuring k c₀ es = 0)
    (htok : tok.isEmpty = false) :
    (c₀.run (es ++ [.refreshed k (.token tok)])).tokens.token = some tok := by
  rw [run_snoc]
  obtain ⟨token, ⟨⟩, -, -, hheld⟩ | ⟨hno, -⟩ :=
    h.tokens_refreshed_run hp (by rw [hz]; decide) (.token tok)
  · exact hheld
  · rcases hno tok rfl with he | hpos
    · rw [htok] at he
      cases he
    · omega

theorem Fresh.superseded_run (h : c₀.Fresh) {es : List Event}
    (hp : (c₀.run es).refresher.phase? k = some .calling) (hz : 0 < clearsDuring k c₀ es)
    (hn : clearsDuring k c₀ es < UInt64.size) (tok : String) (fs : List Event) :
    (c₀.run (es ++ .refreshed k (.token tok) :: fs)).refresher.phase? k =
      some (.settled (.error .superseded)) := by
  obtain ⟨epoch, he⟩ := Refresher.exists_epoch?_of_phase? hp
  have hl : (c₀.run es).refresher.isLive k = true := Refresher.isLive_of_phase? _ k hp
  have hacc : (c₀.run es).tokens.accepts tok epoch = false := by
    rw [← Bool.not_eq_true, h.accepts_iff hl he hn]
    rintro ⟨hz', -⟩
    omega
  rw [h.phase?_run_of_answer hp he]
  simp [Refresher.judge, TokenStore.setIfEpoch, hacc]

theorem userAt_run_of_no_writes {fs : List Event} (hn : ∀ u, c.tokens.userAt now ≠ .ok u)
    (hw : c.Along (WritesOnly none) fs) (u : User) : (c.run fs).tokens.userAt now ≠ .ok u := by
  induction fs using List.reverseRecOn with
  | nil => exact hn u
  | append_singleton fs e ih =>
    obtain ⟨hw, he⟩ := (along_snoc _ _ _ _).1 hw
    rw [run_snoc]
    have hnone : ∀ s : TokenStore, s.token = none → s.userAt now ≠ .ok u := by
      intro s hs
      rw [TokenStore.userAt_of_token_eq_none hs]
      simp
    rcases he with he | he | he
    · rw [TokenStore.userAt_congr he]
      exact ih hw
    · exact hnone _ he
    · exact hnone _ he

theorem project_of_no_user {s : TokenStore} (h : ∀ u, s.userAt now ≠ .ok u) :
    (Gate.project s now).1 = .unauthenticated ∧ (Gate.project s now).2.token = none := by
  obtain ⟨u, hu, -⟩ | ⟨hn, hp⟩ | ⟨-, hp⟩ := Gate.project_cases s now
  · exact absurd hu (h u)
  · rw [hp]
    exact ⟨rfl, hn⟩
  · rw [hp]
    exact ⟨rfl, rfl⟩

theorem no_user_of_inspect {s : TokenStore} (h : (Gate.inspect s now).1 = true) (u : User) :
    s.userAt now ≠ .ok u :=
  Gate.inspect_due_iff.1 h u

theorem isEmpty_of_userAt (h : (⟨some tok, 0⟩ : TokenStore).userAt now = .ok u) :
    tok.isEmpty = false := by
  rw [← Bool.not_eq_true]
  intro he
  rw [String.isEmpty_iff.1 he] at h
  have hd : Claims.decode "" = .error .segments := rfl
  rw [TokenStore.userAt_of_decode_error (TokenStore.decode_of_error rfl hd)] at h
  cases h

theorem clearsDuring_at (c₀ : Console) (pre mid : List Event) (e : Event) :
    clearsDuring k c₀ (pre ++ e :: mid) = clearsDuring k c₀ pre +
      ((if (c₀.run pre).refresher.isLive k = true then (c₀.run pre).clears e else 0) +
        clearsDuring k (c₀.run (pre ++ [e])) mid) := by
  rw [clearsDuring_append, run_snoc]
  rfl

variable {pre : List Event} {task : Task}

theorem clearsDuring_of_joined (h : c₀.Fresh) (hr : .task a ∈ (c₀.run pre).ready)
    (ht : (c₀.run pre).tasks[a]? = some task) (hg : (c₀.run pre).gates a task = true)
    (hask : (c₀.run (pre ++ [.turn (.task a)])).awaited? a = some k)
    (hl : (c₀.run pre).refresher.isLive k = true)
    (hd : (Gate.inspect (c₀.run pre).tokens (c₀.run pre).now).2 ≠ (c₀.run pre).tokens)
    (mid : List Event) : 0 < clearsDuring k c₀ (pre ++ .turn (.task a) :: mid) := by
  rw [run_snoc] at hask
  obtain ⟨-, htn, -⟩ := gate_joined (h.orderly_run pre) hr ht hg hask
  have hone : (c₀.run pre).clears (.turn (.task a)) = 1 := by
    refine clears_of_clear (htn.trans ?_)
    obtain ⟨hi, -⟩ | ⟨hi, -⟩ | ⟨hi, -⟩ := Gate.inspect_cases (c₀.run pre).tokens (c₀.run pre).now
    · exact absurd (by rw [hi]) hd
    · exact absurd (by rw [hi]) hd
    · rw [hi]
  rw [clearsDuring_at, if_pos hl, hone]
  omega

theorem clearsDuring_of_started (h : c₀.Fresh) (hr : .task a ∈ (c₀.run pre).ready)
    (ht : (c₀.run pre).tasks[a]? = some task) (hg : (c₀.run pre).gates a task = true)
    (hask : (c₀.run (pre ++ [.turn (.task a)])).awaited? a = some k)
    (hl : (c₀.run pre).refresher.isLive k = false) (mid : List Event) :
    clearsDuring k c₀ (pre ++ .turn (.task a) :: mid) =
      clearsDuring k (c₀.run (pre ++ [.turn (.task a)])) mid := by
  have ho := h.orderly_run pre
  rw [clearsDuring_at, run_snoc]
  rw [run_snoc] at hask
  obtain ⟨-, -, hdue⟩ := gate_joined ho hr ht hg hask
  have hwants : (c₀.run pre).wants a task = true := (wants_of_gates hg).trans hdue
  have ha : (c₀.run pre).asks (.turn (.task a)) = some a := by
    rw [asks_of_run hr ht, if_pos hwants]
  -- the operation is the next to start, so nothing was cleared while it was live
  have hnone : (c₀.run pre).refresher.phase? k = none := by
    obtain ⟨hp, hw, -⟩ | ⟨-, -, -, r, hend⟩ := asks_awaits ho ha
    · cases Option.some.inj (hask.symm.trans hw)
      rcases hp with hp | hp
      · rw [Refresher.phase?_eq_none]
        simp [given, hp]
      · rw [hl] at hp
        cases hp
    · simp [awaited?, hend, Stage.operation?] at hask
  simp [hl, clearsDuring_of_unstarted h hnone]

theorem Fresh.answered_run (h : c₀.Fresh) {es fs : List Event} {answer : RefreshAnswer}
    (hcall : (c₀.run es).calling k = true)
    (hwait : (c₀.run (es ++ .refreshed k answer :: fs)).awaited? a = some k) :
    .task a ∈ (c₀.run (es ++ .refreshed k answer :: fs)).ready ∧
      ∃ o r, (c₀.run (es ++ .refreshed k answer :: fs)).refresher.collect k = (some o, r) := by
  have hp : (c₀.run es).refresher.phase? k = some .calling := calling_iff.1 hcall
  obtain ⟨epoch, he⟩ := Refresher.exists_epoch?_of_phase? hp
  have hphase := h.phase?_run_of_answer hp he answer fs
  have hl := (Refresher.isLive_of_phase? _ k hphase).trans (Refresher.judge_isLive _ _ _)
  exact (h.orderly_run _).finds hwait hl

theorem Fresh.gate_run (h : c₀.Fresh) {fs : List Event} (hr : .task a ∈ (c₀.run pre).ready)
    (ht : (c₀.run pre).tasks[a]? = some task) (hg : (c₀.run pre).gates a task = true)
    (hask : (c₀.run (pre ++ [.turn (.task a)])).awaited? a = some k)
    (hwait : (c₀.run (pre ++ [.turn (.task a)] ++ fs)).awaited? a = some k) :
    (c₀.run (pre ++ [.turn (.task a)] ++ fs)).tasks[a]? =
        some { task with stage := .joined k (.project (c₀.run pre).now) } ∧
      (Gate.inspect (c₀.run pre).tokens (c₀.run pre).now).1 = true := by
  have hask' := hask
  rw [run_snoc] at hask'
  obtain ⟨hjoined, -, hdue⟩ := gate_joined (h.orderly_run pre) hr ht hg hask'
  rw [← run_snoc] at hjoined
  refine ⟨?_, hdue⟩
  obtain hstay | ⟨s, hover, hs⟩ := gate_waiting_run h _ hjoined rfl fs
  · exact hstay
  · rw [awaited?, hs] at hwait
    cases s with
    | joined _ _ => cases hover
    | _ => cases hwait

/-- A gate that came to wait for operation `k`, whose call then brought the token of a user. If the
store was not cleared while the operation was live, and nobody has ended the session or written
another token since, the gate comes to that user with the token held. If it was cleared, the token is
lost, and the gate comes to no user unless somebody else has written a token. The gate's own clearing
counts if the operation was live before. -/
theorem gate_after_refresh (h : c₀.Fresh) (pre mid post : List Event)
    (hr : .task a ∈ (c₀.run pre).ready) (ht : (c₀.run pre).tasks[a]? = some task)
    (hg : (c₀.run pre).gates a task = true)
    (hask : (c₀.run (pre ++ [.turn (.task a)])).awaited? a = some k)
    (hcall : (c₀.run (pre ++ .turn (.task a) :: mid)).calling k = true)
    (hwait : (c₀.run (pre ++ .turn (.task a) :: mid ++ .refreshed k (.token tok) :: post)).awaited? a
      = some k) :
    let c₁ := c₀.run pre
    let es := pre ++ .turn (.task a) :: mid
    let c := c₀.run (es ++ .refreshed k (.token tok) :: post)
    let c' := c.apply (.turn (.task a))
    .task a ∈ c.ready ∧
    (clearsDuring k c₀ es = 0 →
      c₀.Along (Names tok u) (es ++ .refreshed k (.token tok) :: post) →
      (c₀.run (es ++ [.refreshed k (.token tok)])).Along
        (fun c e => WritesOnly (some tok) c e ∧ ¬ Ends c e) post →
      c'.stage? a = some (.ended (c.concluded task.goal (.authenticated u))) ∧
        c'.tokens.token = some tok) ∧
    (0 < clearsDuring k c₀ es → clearsDuring k c₀ es < UInt64.size →
      c.refresher.phase? k = some (.settled (.error .superseded)) ∧
      (c₁.Along (WritesOnly none) (.turn (.task a) :: mid ++ .refreshed k (.token tok) :: post) →
        c'.stage? a = some (.ended (c.concluded task.goal .unauthenticated)) ∧
          c'.tokens.token = none)) ∧
    (c₁.refresher.isLive k = true → (Gate.inspect c₁.tokens c₁.now).2 ≠ c₁.tokens →
      0 < clearsDuring k c₀ es) ∧
    (c₁.refresher.isLive k = false →
      clearsDuring k c₀ es = clearsDuring k (c₀.run (pre ++ [.turn (.task a)])) mid) := by
  intro c₁ es c c'
  have hp : (c₀.run es).refresher.phase? k = some .calling := calling_iff.1 hcall
  have hsplit : es ++ .refreshed k (.token tok) :: post =
      pre ++ [.turn (.task a)] ++ (mid ++ .refreshed k (.token tok) :: post) := by simp [es]
  obtain ⟨htask, hdue⟩ := h.gate_run hr ht hg hask (hsplit ▸ hwait)
  rw [← hsplit] at htask
  obtain ⟨hready, o, r, hcol⟩ := h.answered_run hcall hwait
  obtain ⟨hstage, htokens⟩ := gate_turn hready htask rfl hcol
  refine ⟨hready, fun hz hnames hkeep => ?_, fun hz hn => ⟨?_, fun hw => ?_⟩, ?_, ?_⟩
  · have hgood : (⟨some tok, 0⟩ : TokenStore).userAt c₁.now = .ok u :=
      h.names_run hnames (t := a) (k := k) (by simp [stage?, htask, c₁])
    have hsplit' : es ++ .refreshed k (.token tok) :: post =
        es ++ [.refreshed k (.token tok)] ++ post := by simp
    have hheld : c.tokens.token = some tok := by
      have hwritten := h.tokens_of_answer hp hz (isEmpty_of_userAt hgood)
      rw [hsplit'] at hnames
      have hrun := h.token_run hnames hwritten hkeep
      rwa [← hsplit'] at hrun
    have huser : c.tokens.userAt c₁.now = .ok u :=
      (TokenStore.userAt_of_token hheld _).trans hgood
    rw [Gate.project_of_user huser] at hstage htokens
    exact ⟨hstage, htokens ▸ hheld⟩
  · exact h.superseded_run hp hz hn tok post
  · have hnone : ∀ u, c.tokens.userAt c₁.now ≠ .ok u := by
      have hrun := userAt_run_of_no_writes (no_user_of_inspect hdue) hw
      rw [← run_append, ← List.append_assoc] at hrun
      exact hrun
    obtain ⟨hs, hn⟩ := project_of_no_user hnone
    rw [hs] at hstage
    exact ⟨hstage, htokens ▸ hn⟩
  · exact fun hl hd => clearsDuring_of_joined h hr ht hg hask hl hd mid
  · exact fun hl => clearsDuring_of_started h hr ht hg hask hl mid

def alice : User := ⟨"42", "alice", none⟩

def aliceToken : String := ".eyJwbGQiOnsiaWQiOiI0MiIsImlkZW50aWZpZXIiOiJhbGljZSJ9LCJleHAiOjl9."

theorem userAt_aliceToken : (⟨some aliceToken, 0⟩ : TokenStore).userAt 0 = .ok alice := by
  decide +kernel

/-- A gate that starts the refresh itself. -/
theorem gate_gets_own_refresh :
    let c := (blank.run ([.spawn .resolve] ++ .turn (.task 0) :: [.turn (.operation 0)] ++
      .refreshed 0 (.token aliceToken) :: [])).apply (.turn (.task 0))
    c.stage? 0 = some (.ended (.state (.authenticated alice))) ∧
      c.tokens.token = some aliceToken := by
  have hnames : blank.Along (Names aliceToken alice)
      ([.spawn .resolve] ++ .turn (.task 0) :: [.turn (.operation 0)] ++
        .refreshed 0 (.token aliceToken) :: []) :=
    ⟨names_of_none rfl, names_of_some rfl userAt_aliceToken, names_of_none rfl, names_of_none rfl,
      trivial⟩
  have htask : (blank.run [.spawn .resolve]).tasks[0]? = some ⟨.resolve, .fresh, []⟩ := rfl
  obtain ⟨-, hheld, -⟩ := gate_after_refresh (k := 0) (u := alice) fresh_blank [.spawn .resolve]
    [.turn (.operation 0)] [] (by decide) htask rfl rfl rfl rfl
  exact hheld rfl hnames trivial

/-- A gate that drops a useless token and joins the refresh of another: nobody ends the session or
writes a token, and still the token that the refresh brings is lost. -/
theorem gate_loses_joined_refresh :
    let pre := [.setToken "bad", .spawn .refresh, .spawn .resolve, .turn (.task 0),
      .turn (.operation 0)]
    let fs := [.turn (.task 1), .refreshed 0 (.token aliceToken), .turn (.task 1)]
    (blank.run pre).gates 1 ⟨.resolve, .fresh, []⟩ = true ∧
      (blank.run (pre ++ fs.take 1)).awaited? 1 = some 0 ∧
      (blank.run (pre ++ fs.take 1)).calling 0 = true ∧
      blank.Along (Names aliceToken alice) (pre ++ fs) ∧
      blank.Along (fun c e => ¬ Ends c e) (pre ++ fs) ∧
      (blank.run pre).Along (WritesOnly (some aliceToken)) fs ∧
      (blank.run (pre ++ fs)).stage? 1 = some (.ended (.state .unauthenticated)) ∧
      (blank.run (pre ++ fs)).tokens.token = none := by
  intro pre fs
  refine ⟨rfl, rfl, rfl, ?_, ?_, ?_, rfl, rfl⟩
  · exact ⟨names_of_none rfl, names_of_none rfl, names_of_none rfl, names_of_none rfl,
      names_of_none rfl, names_of_some rfl userAt_aliceToken, names_of_none rfl, names_of_none rfl,
      trivial⟩
  · exact ⟨(by decide : ¬ "bad".isEmpty = true), id, id, id, id, id, id, id, trivial⟩
  · exact ⟨.inr (.inl rfl), .inl rfl, .inl rfl, trivial⟩

end ConsoleSession.Console
