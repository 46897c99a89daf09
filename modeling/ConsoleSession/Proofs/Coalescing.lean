import ConsoleSession.Proofs.Calls

/-!
# Callers of one refresh

Whoever calls for a refresh while an operation is pending is given that operation, and whoever calls
while none is starts one. `replies` is the record of the calls that have come back in a run. Those of
one operation came back with one outcome, none came back with that of an operation which had already
told somebody, and once nothing can run nobody waits any more but for a call that is out.
-/

namespace ConsoleSession

/-- A call for a refresh that has come back: the task that called, the operation that it was given,
and what came of it. -/
structure Reply where
  task : Nat
  operation : Nat
  outcome : RefreshOutcome
  deriving DecidableEq, Repr

namespace Console

variable {c c₀ : Console} {t k : Nat} {r : Reply} {e : Event}

def inCall (c : Console) (e : Event) : Option (Nat × Nat) :=
  match c.asks e, e with
  | some t, _ => some (t, c.given)
  | none, .turn (.task t) => if .task t ∈ c.ready then (c.awaited? t).map (t, ·) else none
  | none, _ => none

def replyOf (c : Console) (e : Event) : Option Reply :=
  (c.inCall e).bind fun (t, k) => (c.refresher.collect k).1.map (⟨t, k, ·⟩)

def replies : Console → List Event → List Reply
  | _, [] => []
  | c, e :: es => (c.replyOf e).toList ++ replies (c.apply e) es

theorem replies_snoc (c : Console) (es : List Event) (e : Event) :
    c.replies (es ++ [e]) = c.replies es ++ ((c.run es).replyOf e).toList := by
  induction es generalizing c with
  | nil => exact List.append_nil _
  | cons f es ih =>
    show (c.replyOf f).toList ++ (c.apply f).replies (es ++ [e]) = _
    rw [ih, ← List.append_assoc]
    rfl

theorem replyOf_eq_some :
    c.replyOf e = some r ↔ c.inCall e = some (r.task, r.operation) ∧
      (c.refresher.collect r.operation).1 = some r.outcome := by
  simp only [replyOf, Option.bind_eq_some_iff, Option.map_eq_some_iff, Prod.exists]
  constructor
  · rintro ⟨t, k, hin, o, hc, rfl⟩
    exact ⟨hin, hc⟩
  · rintro ⟨hin, hc⟩
    exact ⟨_, _, hin, _, hc, rfl⟩

theorem asks_of_awaited (hw : c.awaited? t = some k) : c.asks (.turn (.task t)) = none := by
  obtain ⟨after, hs⟩ := awaited?_eq_some.1 hw
  obtain ⟨task, ht, hs⟩ := Option.map_eq_some_iff.1 hs
  simp [asks, ht, wants, gates, hs]

theorem inCall_of_asks (ha : c.asks e = some t) : c.inCall e = some (t, c.given) := by
  simp [inCall, ha]

theorem inCall_of_awaited (hr : .task t ∈ c.ready) (hw : c.awaited? t = some k) :
    c.inCall (.turn (.task t)) = some (t, k) := by
  simp [inCall, asks_of_awaited hw, hr, hw]

theorem inCall_cases (h : c.inCall e = some (t, k)) :
    (c.asks e = some t ∧ c.given = k) ∨
    (e = .turn (.task t) ∧ .task t ∈ c.ready ∧ c.awaited? t = some k) := by
  unfold inCall at h
  split at h
  next u ha =>
    cases h
    exact .inl ⟨ha, rfl⟩
  next u _ =>
    split at h
    next hr =>
      obtain ⟨j, hw, ⟨⟩⟩ := Option.map_eq_some_iff.1 h
      exact .inr ⟨rfl, hr, hw⟩
    next => cases h
  next => cases h

theorem join_told (goal : Goal) (after : After) {o : RefreshOutcome}
    (hc : (c.refresher.collect c.given).1 = some o) :
    c.join t goal after =
      ({ c with refresher := (c.refresher.collect c.given).2 } : Console).proceed t goal o after := by
  rcases hp : c.refresher.pending with _ | k
  · -- an operation that has not been started yet tells nothing
    have hn := (c.refresher.phase?_eq_none c.given).2 (by simp [given, hp])
    simp [Refresher.collect, hn] at hc
  · have hg : c.given = k := by simp [given, hp]
    rw [hg] at hc ⊢
    rcases hk : c.refresher.collect k with ⟨o', r⟩
    rw [hk] at hc
    cases hc
    simp [join, Refresher.enter, hp, look, hk]

theorem join_untold (h : c.refresher.Sound) (goal : Goal) (after : After) {task : Task}
    (ht : c.tasks[t]? = some task) (hc : (c.refresher.collect c.given).1 = none) :
    (c.join t goal after).tasks[t]? = some { task with stage := .joined c.given after } := by
  obtain ⟨-, hw, -⟩ | ⟨-, hcrash, -⟩ := join_awaits h goal after ht
  · exact (join_waits h ht hw).1
  · simp [Refresher.collect, hcrash] at hc

theorem proceed_of_reply (hr : c.replyOf e = some r) :
    ∃ (c₁ : Console) (task : Task) (after : After), c.tasks[r.task]? = some task ∧
      c.apply e = c₁.proceed r.task task.goal r.outcome after ∧
      c₁.refresher = (c.refresher.collect r.operation).2 := by
  obtain ⟨hin, hc⟩ := replyOf_eq_some.1 hr
  obtain ⟨ha, hg⟩ | ⟨rfl, hready, hw⟩ := inCall_cases hin
  · rw [← hg] at hc ⊢
    obtain ⟨task, rfl, hready, ht, hwants⟩ | ⟨x, goal, sent, why, rfl, ht, -, he⟩ := asks_cases ha
    · obtain ⟨hn, -⟩ | ⟨_, hk, -⟩ | ⟨_, ⟨⟩, -, hn, -⟩ | ⟨_, task', ⟨⟩, -, ht', hs⟩ :=
        turn_cases c (.task r.task)
      · exact absurd hready hn
      · cases hk
      · rw [ht] at hn
        cases hn
      · cases Option.some.inj (ht.symm.trans ht')
        have hwants' : (c.taking (.task r.task)).wants r.task task = true := hwants
        dsimp only [apply]
        generalize c.turn (.task r.task) = c' at hs
        cases hs with
        | gate p tokens _ _ _ _ _ =>
          exact ⟨_, task, _, ht, join_told (c := { c.taking (.task r.task) with
            provider := p, tokens := tokens }) _ _ hc, rfl⟩
        | ask _ _ _ _ =>
          exact ⟨_, task, _, ht, join_told (c := c.taking (.task r.task)) _ _ hc, rfl⟩
        | rest hn _ _ => simp [hn] at hwants'
        | pass hn _ _ _ _ _ => simp [hn] at hwants'
        | judge p hn _ _ _ _ => simp [hn] at hwants'
        | collect k after o r hn _ _ _ => simp [hn] at hwants'
    · rw [he]
      exact ⟨_, ⟨goal, .sending, sent⟩, _, ht, join_told goal _ hc, rfl⟩
  · obtain ⟨after, hst⟩ := awaited?_eq_some.1 hw
    obtain ⟨task, ht, hs⟩ := Option.map_eq_some_iff.1 hst
    exact ⟨_, task, after, ht, turn_told hready ht hs (Prod.ext hc rfl), rfl⟩

theorem collect_apply (h : Orderly none c) (e : Event) {o : RefreshOutcome}
    (hc : (c.refresher.collect k).1 = some o) :
    ((c.apply e).refresher.collect k).1 = some o := by
  obtain ⟨o', hp, hk⟩ | ⟨hp, hk⟩ | ⟨-, hk⟩ := c.refresher.collect_cases k
  · rw [hk] at hc
    simpa [Refresher.collect, phase?_apply_of_over h e hp rfl] using hc
  · rw [hk] at hc
    simpa [Refresher.collect, phase?_apply_of_over h e hp rfl] using hc
  · rw [hk] at hc
    cases hc

structure Over (k : Nat) (o : RefreshOutcome) (c : Console) : Prop where
  started : k < c.refresher.operations.length
  outcome : (c.refresher.collect k).1 = some o
  released : c.refresher.pending ≠ some k

theorem length_le_apply (h : Orderly none c) (e : Event) :
    c.refresher.operations.length ≤ (c.apply e).refresher.operations.length := by
  rw [length_apply h e]
  exact Nat.le_add_right _ _

theorem Over.ne_given {o : RefreshOutcome} (h : Over k o c) : k ≠ c.given := by
  rintro rfl
  have hlt := h.started
  have hne := h.released
  rcases hp : c.refresher.pending with _ | j
  · simp [given, hp] at hlt
  · simp [given, hp] at hne

theorem Over.apply {o : RefreshOutcome} (h : Over k o c) (ho : Orderly none c) (e : Event) :
    Over k o (c.apply e) := by
  refine ⟨Nat.lt_of_lt_of_le h.started (length_le_apply ho e), collect_apply ho e h.outcome,
    fun hp => ?_⟩
  obtain he | ⟨_, -, he⟩ | ⟨_, _, -, -, -, he⟩ | ⟨_, _, _, -, -, -, -, he⟩ := pending_apply ho e
  · exact h.released (he ▸ hp)
  · exact h.ne_given (Option.some.inj (hp.symm.trans he))
  · rw [hp] at he
    cases he
  · rw [hp] at he
    cases he

theorem started_of_collect {o : RefreshOutcome} (h : (c.refresher.collect k).1 = some o) :
    k < c.refresher.operations.length := by
  obtain ⟨o', hp, -⟩ | ⟨hp, -⟩ | ⟨-, hk⟩ := c.refresher.collect_cases k
  · exact c.refresher.lt_of_phase? k hp
  · exact c.refresher.lt_of_phase? k hp
  · rw [hk] at h
    cases h

theorem over_of_reply (ho : Orderly none c) (hr : c.replyOf e = some r) :
    Over r.operation r.outcome (c.apply e) := by
  obtain ⟨-, hc⟩ := replyOf_eq_some.1 hr
  obtain ⟨c₁, task, after, -, he, hrf⟩ := proceed_of_reply hr
  refine ⟨Nat.lt_of_lt_of_le (started_of_collect hc) (length_le_apply ho e), collect_apply ho e hc, ?_⟩
  rw [he, (proceed_onward task.goal _ after).refresher, hrf]
  obtain ⟨o, hp, hk⟩ | ⟨-, hk⟩ | ⟨-, hk⟩ := c.refresher.collect_cases r.operation
  · rw [hk]
    exact fun hpend => ho.sound.unsettled _ o hpend hp
  · rw [hk, Refresher.pending_release]
    split
    · simp
    · assumption
  · rw [hk] at hc
    cases hc

theorem Fresh.over_run (h : c₀.Fresh) {es : List Event} (hr : r ∈ c₀.replies es) :
    Over r.operation r.outcome (c₀.run es) := by
  induction es using List.reverseRecOn with
  | nil => cases hr
  | append_singleton es e ih =>
    have ho := h.orderly_run es
    rw [replies_snoc, List.mem_append, Option.mem_toList] at hr
    rw [run_snoc]
    rcases hr with hr | hr
    · exact (ih hr).apply ho e
    · exact over_of_reply ho hr

theorem Fresh.caller_of_reply (h : c₀.Fresh) {es : List Event} (hr : r ∈ c₀.replies es) :
    r.task ∈ callers r.operation c₀ es := by
  induction es using List.reverseRecOn with
  | nil => cases hr
  | append_singleton es e ih =>
    rw [replies_snoc, List.mem_append, Option.mem_toList] at hr
    rw [callers_snoc, List.mem_append]
    rcases hr with hr | hr
    · exact .inl (ih hr)
    · obtain ⟨ha, hg⟩ | ⟨-, -, hw⟩ := inCall_cases (replyOf_eq_some.1 hr).1
      · exact .inr (mem_callersOf.2 ⟨hg, ha⟩)
      · exact .inl ((h.accounted r.operation es).waiting r.task hw)

theorem Fresh.caller_run (h : c₀.Fresh) {es : List Event} (ht : t ∈ callers k c₀ es) :
    (c₀.run es).awaited? t = some k ∨ (c₀.run es).stage? t = some .dropped ∨
      ∃ r ∈ c₀.replies es, r.task = t ∧ r.operation = k := by
  induction es using List.reverseRecOn with
  | nil => cases ht
  | append_singleton es e ih =>
    have ho := h.orderly_run es
    have hlast : ∀ o, (c₀.run es).inCall e = some (t, k) →
        ((c₀.run es).refresher.collect k).1 = some o →
        ∃ r ∈ c₀.replies (es ++ [e]), r.task = t ∧ r.operation = k := by
      intro o hin hc
      refine ⟨⟨t, k, o⟩, ?_, rfl, rfl⟩
      rw [replies_snoc, List.mem_append, Option.mem_toList]
      exact .inr (replyOf_eq_some.2 ⟨hin, hc⟩)
    rw [callers_snoc, List.mem_append] at ht
    rw [run_snoc]
    rcases ht with ht | ht
    · rcases ih ht with hw | hd | ⟨r, hr, htk⟩
      · obtain ⟨after, hst⟩ := awaited?_eq_some.1 hw
        obtain ⟨task, htk, hs⟩ := Option.map_eq_some_iff.1 hst
        obtain hstay | ⟨-, hdrop⟩ | ⟨o, r, rfl, hready, hc, -⟩ := waiting_apply ho e htk hs
        · exact .inl (by rw [awaited?_of_task hstay, hs]; rfl)
        · exact .inr (.inl (by simp [stage?, hdrop]))
        · exact .inr (.inr (hlast o (inCall_of_awaited hready hw) (by rw [hc])))
      · exact .inr (.inl (over_apply ho e rfl hd))
      · exact .inr (.inr ⟨r, by rw [replies_snoc]; exact List.mem_append_left _ hr, htk⟩)
    · obtain ⟨rfl, ha⟩ := mem_callersOf.1 ht
      obtain ⟨-, hw, -⟩ | ⟨-, hcrash, -⟩ := asks_awaits ho ha
      · exact .inl hw
      · exact .inr (.inr (hlast _ (inCall_of_asks ha) (by simp [Refresher.collect, hcrash]; rfl)))

theorem Fresh.operation_of_reply (h : c₀.Fresh) {pre post : List Event}
    (ha : (c₀.run pre).asks e = some t) (hr : r ∈ c₀.replies (pre ++ e :: post))
    (ht : r.task = t) : r.operation = (c₀.run pre).given := by
  obtain ⟨pre', e', post', hes, ha', hg⟩ := mem_callers.1 (h.caller_of_reply hr)
  cases h.call_unique hes ha (ht ▸ ha')
  exact hg.symm

/-- Where a task can stand that calls for a refresh of its own accord, given the calls that have come
back. -/
def Direct (told : List Reply) (t : Nat) (s : Stage) : Prop :=
  s = .fresh ∨ (∃ k, s = .joined k .report) ∨ s = .dropped ∨
    ∃ r ∈ told, r.task = t ∧ s = .ended (.refreshed r.outcome)

theorem Direct.mono {told told' : List Reply} {s : Stage} (h : Direct told t s)
    (hsub : ∀ r ∈ told, r ∈ told') : Direct told' t s := by
  rcases h with h | h | h | ⟨r, hr, h⟩
  · exact .inl h
  · exact .inr (.inl h)
  · exact .inr (.inr (.inl h))
  · exact .inr (.inr (.inr ⟨r, hsub r hr, h⟩))

theorem direct_apply (ho : Orderly none c) (e : Event) {told : List Reply} {task : Task}
    (ht : c.tasks[t]? = some task) (hg : task.goal = .refresh) (hd : Direct told t task.stage) :
    ∃ task', (c.apply e).tasks[t]? = some task' ∧
      Direct (told ++ (c.replyOf e).toList) t task'.stage := by
  have hkeep : Direct (told ++ (c.replyOf e).toList) t task.stage :=
    hd.mono fun r hr => List.mem_append_left _ hr
  have htold : ∀ k o, c.inCall e = some (t, k) → (c.refresher.collect k).1 = some o →
      ∃ r ∈ told ++ (c.replyOf e).toList, r.task = t ∧ r.outcome = o := by
    intro k o hin hc
    refine ⟨⟨t, k, o⟩, List.mem_append_right _ ?_, rfl, rfl⟩
    exact Option.mem_toList.2 (replyOf_eq_some.2 ⟨hin, hc⟩)
  by_cases hne : e.task? = some t
  · obtain ⟨goal, stage, sent⟩ := task
    cases hg
    rcases hd with rfl | ⟨k, rfl⟩ | rfl | ⟨r, -, -, rfl⟩
    · cases e with
      | turn s =>
        cases s with
        | operation j => cases hne
        | task u =>
          cases hne
          by_cases hr : .task t ∈ c.ready
          · have hrun : c.apply (.turn (.task t)) = (c.taking (.task t)).join t .refresh .report := by
              rw [apply_turn_task hr ht]
              rfl
            have ha : c.asks (.turn (.task t)) = some t := by simp [asks, ht, hr, wants]
            rcases hc : (c.refresher.collect c.given).1 with _ | o
            · exact ⟨_, hrun ▸ join_untold (c := c.taking (.task t)) ho.sound .refresh .report ht hc,
                .inr (.inl ⟨_, rfl⟩)⟩
            · rw [hrun, join_told (c := c.taking (.task t)) .refresh .report hc]
              obtain ⟨r, hr, htask, rfl⟩ := htold _ o (inCall_of_asks ha) hc
              exact ⟨⟨.refresh, .ended (.refreshed r.outcome), sent⟩,
                by simp [proceed, finish, setStage, taking, ht], .inr (.inr (.inr ⟨r, hr, htask, rfl⟩))⟩
          · exact ⟨_, by rw [apply_turn_idle hr, ht], hkeep⟩
      | drop u =>
        cases hne
        exact ⟨⟨.refresh, .dropped, sent⟩, by simp [apply, drop, ht, wake, setStage],
          .inr (.inr (.inl rfl))⟩
      | loggedOut u crashed =>
        cases hne
        exact ⟨_, by simp [apply, loggedOut, ht], hkeep⟩
      | replied u x =>
        cases hne
        exact ⟨_, by simp [apply, replied, ht], hkeep⟩
      | _ => cases hne
    · obtain hstay | ⟨-, hdrop⟩ | ⟨o, r, rfl, hready, hc, he⟩ := waiting_apply ho e ht rfl
      · exact ⟨_, hstay, hkeep⟩
      · exact ⟨_, hdrop, .inr (.inr (.inl rfl))⟩
      · have hw : c.awaited? t = some k := by simp [awaited?_of_task ht, Stage.operation?]
        obtain ⟨r', hr', htask, rfl⟩ := htold k o (inCall_of_awaited hready hw) (by rw [hc])
        rw [he]
        exact ⟨⟨.refresh, .ended (.refreshed r'.outcome), sent⟩,
          by simp [proceed, finish, setStage, taking, ht], .inr (.inr (.inr ⟨r', hr', htask, rfl⟩))⟩
    · exact ⟨_, by rw [tasks_apply_of_over e ht rfl hne, ht], hkeep⟩
    · exact ⟨_, by rw [tasks_apply_of_over e ht rfl hne, ht], hkeep⟩
  · exact ⟨task, task_apply_of_ne ho hne ht, hkeep⟩

theorem Fresh.direct_run (h : c₀.Fresh) {es : List Event} {task : Task}
    (ht : (c₀.run es).tasks[t]? = some task) (hg : task.goal = .refresh) :
    Direct (c₀.replies es) t task.stage := by
  induction es using List.reverseRecOn generalizing task with
  | nil => simp [run, h.tasks] at ht
  | append_singleton es e ih =>
    have ho := h.orderly_run es
    rw [run_snoc] at ht
    rw [replies_snoc]
    obtain ⟨task₀, ht₀, hg₀⟩ | ⟨-, goal, rfl, rfl⟩ := task_of_apply ho ht
    · obtain ⟨task', ht', hd⟩ := direct_apply ho e ht₀ (hg₀.trans hg) (ih ht₀ (hg₀.trans hg))
      cases Option.some.inj (ht.symm.trans ht')
      exact hd
    · exact .inl rfl

/-- A call for a refresh is given the operation that is pending, or else the one that it starts; it
comes back with the outcome of that operation and no other, the same for all who were given it. An
operation that has told somebody is given to nobody after that. Who was given one waits, was dropped
or has been told; and when nothing can run, those who wait are waiting for a call that is out. -/
theorem callers_share_outcome (h : c₀.Fresh) (es : List Event) :
    let c := c₀.run es
    (∀ pre e post t, es = pre ++ e :: post → (c₀.run pre).asks e = some t →
      let k := (c₀.run pre).given
      ((c₀.run pre).refresher.pending = some k ∨
        (c₀.run pre).refresher.pending = none ∧ (c₀.run pre).refresher.phase? k = none ∧
          (c₀.run (pre ++ [e])).refresher.phase? k = some .spawned) ∧
      (∀ r ∈ c₀.replies pre, r.operation ≠ k) ∧
      (∀ r ∈ c₀.replies es, r.task = t → r.operation = k) ∧
      (c.awaited? t = some k ∨ c.stage? t = some .dropped ∨ ∃ r ∈ c₀.replies es, r.task = t)) ∧
    (∀ r ∈ c₀.replies es,
      (∃ pre e post, es = pre ++ e :: post ∧ (c₀.run pre).asks e = some r.task) ∧
      (c.refresher.collect r.operation).1 = some r.outcome) ∧
    (∀ r ∈ c₀.replies es, ∀ s ∈ c₀.replies es, r.operation = s.operation → r.outcome = s.outcome) ∧
    (∀ e r, c.replyOf e = some r → ∃ (c₁ : Console) (task : Task) (after : After),
      c.tasks[r.task]? = some task ∧ c.apply e = c₁.proceed r.task task.goal r.outcome after) ∧
    (∀ t task result, c.tasks[t]? = some task → task.goal = .refresh →
      task.stage = .ended result → ∃ r ∈ c₀.replies es, r.task = t ∧ result = .refreshed r.outcome) ∧
    (c.ready = [] → ∀ t k, c.awaited? t = some k → c.calling k = true) := by
  intro c
  have ho : Orderly none c := h.orderly_run es
  refine ⟨?_, fun r hr => ⟨?_, (h.over_run hr).outcome⟩, fun r hr s hs hop => ?_, fun e r hr => ?_,
    fun t task result ht hg hs => ?_, fun hready t k hw => ?_⟩
  · rintro pre e post t rfl ha k
    have hpre := h.orderly_run pre
    refine ⟨?_, fun r hr => (h.over_run hr).ne_given, fun r hr ht => h.operation_of_reply ha hr ht, ?_⟩
    · rcases hp : (c₀.run pre).refresher.pending with _ | j
      · have hk : k = (c₀.run pre).refresher.operations.length := by simp [k, given, hp]
        refine .inr ⟨rfl, (Refresher.phase?_eq_none _ k).2 (Nat.le_of_eq hk.symm), ?_⟩
        rw [run_snoc, hk]
        exact phase?_of_starts hpre ha hp
      · exact .inl (by simp [k, given, hp])
    · obtain hw | hd | ⟨r, hr, ht, -⟩ := h.caller_run (mem_callers.2 ⟨pre, e, post, rfl, ha, rfl⟩)
      · exact .inl hw
      · exact .inr (.inl hd)
      · exact .inr (.inr ⟨r, hr, ht⟩)
  · obtain ⟨pre, e, post, hes, ha, -⟩ := mem_callers.1 (h.caller_of_reply hr)
    exact ⟨pre, e, post, hes, ha⟩
  · have hout := (h.over_run hr).outcome
    rw [hop, (h.over_run hs).outcome] at hout
    exact (Option.some.inj hout).symm
  · obtain ⟨c₁, task, after, ht, he, -⟩ := proceed_of_reply hr
    exact ⟨c₁, task, after, ht, he⟩
  · obtain hf | ⟨k, hf⟩ | hf | ⟨r, hr, htask, hf⟩ := h.direct_run ht hg
    · cases hs.symm.trans hf
    · cases hs.symm.trans hf
    · cases hs.symm.trans hf
    · cases hs.symm.trans hf
      exact ⟨r, hr, htask, rfl⟩
  · rw [← ho.isLive_iff_calling hready]
    refine Classical.byContradiction fun hl => ?_
    have hmem := ho.woken t k (by simp) hw (by simpa using hl)
    rw [hready] at hmem
    cases hmem

/-- Three callers share a call that crashes; one of them was dropped, and one comes after the crash. -/
theorem crash_told_to_all :
    let es := [.spawn .refresh, .spawn .refresh, .spawn .refresh, .turn (.task 0), .turn (.task 1),
      .turn (.operation 0), .drop 0, .refreshed 0 .crash, .turn (.task 2), .turn (.task 1)]
    blank.replies es = [⟨2, 0, .error .aborted⟩, ⟨1, 0, .error .aborted⟩] ∧
      (blank.run es).ready = [] ∧ ∀ t k, (blank.run es).awaited? t ≠ some k := by
  intro es
  obtain ⟨-, -, -, -, -, hquiet⟩ := callers_share_outcome fresh_blank es
  refine ⟨rfl, rfl, fun t k hw => ?_⟩
  have hcall := calling_iff.1 (hquiet rfl t k hw)
  have hk := Refresher.lt_of_phase? _ k hcall
  obtain rfl : k = 0 := Nat.lt_one_iff.1 hk
  cases hcall

end Console

end ConsoleSession
