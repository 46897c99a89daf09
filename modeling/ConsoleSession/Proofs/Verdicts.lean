import ConsoleSession.Proofs.GateRefresh
import ConsoleSession.Proofs.Mounting

/-!
# The turn in which a gate comes to a state

A gate makes a state of the held token in one turn of its task. That is the turn in which it looks at
the token first, if no refresh is due or the pending one has crashed, and else the turn in which it
takes the outcome that it waited for. The clock is read in the first look only.
-/

namespace ConsoleSession

theorem Refresher.collect_of_isLive {r : Refresher} {k : Nat} (hl : r.isLive k = true) :
    r.collect k = (none, r) := by
  obtain hp | hp := (r.isLive_iff k).1 hl <;> simp [collect, hp]

namespace Console

variable {c c' c₀ : Console} {t k : Nat} {task : Task} {now : UInt64} {s s' : AuthState}

/-- In its turn task `t` comes to a state of the session, for itself or for all who mount. -/
inductive Resolves (c : Console) (t : Nat) (s : AuthState) : Prop
  | own {task : Task} (ht : c.tasks[t]? = some task) (hgoal : task.goal = .resolve)
      (hs : task.stage.isOver = false)
      (hr : (c.apply (.turn (.task t))).stage? t = some (.ended (.state s))) : Resolves c t s
  | shared (h : c.resolution (.turn (.task t)) = some s) : Resolves c t s

/-- Task `t` takes `c` to `c'` by making a state of the store `tokens`, as of `now`. -/
def Judges (t : Nat) (goal : Goal) (now : UInt64) (tokens : TokenStore) (c c' : Console) : Prop :=
  ∃ c₁ : Console, c₁.tasks = c.tasks ∧
    (c₁.provider = c.provider ∨ c₁.provider = c.provider.enter t) ∧ c₁.tokens = tokens ∧
    c' = c₁.project t goal now

theorem Resolves.unique (ho : Orderly none c) (hf : c.Fits) (h : Resolves c t s)
    (h' : Resolves c t s') : s = s' := by
  have apart {task : Task} {s : AuthState} (ht : c.tasks[t]? = some task)
      (hgoal : task.goal = .resolve) (h : c.resolution (.turn (.task t)) = some s) : False := by
    obtain ⟨_, task', ⟨⟩, ht', mounts⟩ := resolution_mounts ho hf h
    cases ht.symm.trans ht'
    rw [hgoal] at mounts
    exact mounts
  cases h with
  | own ht hgoal _ hr =>
    cases h' with
    | own _ _ _ hr' =>
      cases hr.symm.trans hr'
      rfl
    | shared h' => exact (apart ht hgoal h').elim
  | shared h =>
    cases h' with
    | own ht hgoal _ _ => exact (apart ht hgoal h).elim
    | shared h' => exact Option.some.inj (h.symm.trans h')

theorem not_resolves (hp : (c.apply (.turn (.task t))).provider.published = c.provider.published)
    (hs : ∀ task r, c.tasks[t]? = some task → task.stage.isOver = false →
      (c.apply (.turn (.task t))).stage? t ≠ some (.ended r)) (s : AuthState) :
    ¬ Resolves c t s := by
  rintro (⟨ht, -, hover, hr⟩ | h)
  · exact hs _ _ ht hover hr
  · rw [resolution_of_published hp] at h
    cases h

theorem Judges.tokens {tokens : TokenStore} {goal : Goal} (hj : Judges t goal now tokens c c') :
    c'.tokens = (Gate.project tokens now).2 := by
  obtain ⟨c₁, -, -, rfl, rfl⟩ := hj
  exact conclude_tokens _ _

theorem Judges.resolves {tokens : TokenStore} (ht : c.tasks[t]? = some task)
    (hs : task.stage.isOver = false) (hf : (After.project now).Fits task.goal)
    (hj : Judges t task.goal now tokens c (c.apply (.turn (.task t)))) :
    Resolves c t (Gate.project tokens now).1 := by
  obtain ⟨c₁, htasks, hp, rfl, he⟩ := hj
  have task₁ : c₁.tasks[t]? = some task := htasks ▸ ht
  by_cases mounts : task.goal.Mounts
  · refine .shared (resolution_of_mounted hp ?_)
    rw [he]
    exact conclude_provider (c := { c₁ with tokens := (Gate.project c₁.tokens now).2 }) mounts _
  · have ended := stage?_project task.goal now task₁
    cases hgoal : task.goal with
    | resolve =>
      rw [hgoal] at ended he
      exact .own ht hgoal hs (by rw [he, ended]; rfl)
    | mount | visit path =>
      rw [hgoal] at mounts
      exact absurd trivial mounts
    | _ =>
      rw [hgoal] at hf
      exact hf.elim

theorem Judges.ended {tokens : TokenStore} (ht : c.tasks[t]? = some task)
    (hj : Judges t task.goal now tokens c c') : ∃ r, c'.stage? t = some (.ended r) := by
  obtain ⟨c₁, htasks, -, -, rfl⟩ := hj
  exact ⟨_, stage?_project task.goal now (htasks ▸ ht)⟩

theorem mount_of_held (h : (c.provider.enter t).isHeldBy t = true) (goal : Goal) :
    c.mount t goal = ({ c with provider := c.provider.enter t } : Console).resolve t goal := by
  obtain ⟨queue, running⟩ := Provider.isHeldBy_iff.1 h
  simp [mount, running]

theorem resume_of_gates (hg : c.gates t task = true) :
    ∃ p, (p = c.provider ∨ p = c.provider.enter t) ∧
      c.resume t task = ({ c with provider := p } : Console).resolve t task.goal := by
  obtain ⟨goal, stage, sent⟩ := task
  cases stage with
  | fresh =>
    cases goal with
    | resolve => exact ⟨_, .inl rfl, rfl⟩
    | mount | visit path => exact ⟨_, .inr rfl, mount_of_held hg _⟩
    | _ => cases hg
  | queued => exact ⟨_, .inr rfl, mount_of_held hg goal⟩
  | _ => cases hg

theorem gates_stage (hg : c.gates t task = true) : task.stage = .fresh ∨ task.stage = .queued := by
  by_contra other
  rw [not_or] at other
  rw [gates_of_stage other.1 other.2] at hg
  cases hg

theorem not_over_of_gates (hg : c.gates t task = true) : task.stage.isOver = false := by
  obtain hstage | hstage := gates_stage hg <;> rw [hstage] <;> rfl

theorem fits_of_gates (hf : task.stage.Fits task.goal) (hg : c.gates t task = true) (now : UInt64) :
    (After.project now).Fits task.goal := by
  obtain ⟨goal, stage, sent⟩ := task
  cases stage with
  | fresh =>
    cases goal with
    | resolve | mount | visit path => exact trivial
    | _ => cases hg
  | queued =>
    have mounts : goal.Mounts := hf
    exact mounts.fits now
  | _ => cases hg

def CallsOver (c : Console) (t : Nat) (goal : Goal) (tokens : TokenStore) (now : UInt64) : Prop :=
  ∃ p, (p = c.provider ∨ p = c.provider.enter t) ∧ c.apply (.turn (.task t)) =
    ({ c.taking (.task t) with provider := p, tokens := tokens } : Console).join t goal (.project now)

theorem gate_looks (hr : .task t ∈ c.ready) (ht : c.tasks[t]? = some task)
    (hg : c.gates t task = true) :
    (Gate.inspect c.tokens c.now).1 = true ∧
        CallsOver c t task.goal (Gate.inspect c.tokens c.now).2 c.now ∨
      (Gate.inspect c.tokens c.now).1 = false ∧
        Judges t task.goal c.now (Gate.inspect c.tokens c.now).2 c (c.apply (.turn (.task t))) := by
  obtain ⟨p, hp, he⟩ := resume_of_gates (c := c.taking (.task t)) hg
  rw [CallsOver, apply_turn_task hr ht, he]
  unfold resolve
  dsimp only [taking]
  cases due : (Gate.inspect c.tokens c.now).1 with
  | true => exact .inl ⟨rfl, p, hp, rfl⟩
  | false => exact .inr ⟨rfl, { c.taking (.task t) with provider := p, tokens := _ }, rfl, hp, rfl, rfl⟩

theorem calls_of_inspect {tokens : TokenStore} (hr : .task t ∈ c.ready)
    (ht : c.tasks[t]? = some task) (hg : c.gates t task = true)
    (hi : Gate.inspect c.tokens c.now = (true, tokens)) : CallsOver c t task.goal tokens c.now := by
  obtain ⟨-, calls⟩ | ⟨due, -⟩ := gate_looks hr ht hg
  · rwa [hi] at calls
  · rw [hi] at due
    cases due

theorem judges_of_inspect {tokens : TokenStore} (hr : .task t ∈ c.ready)
    (ht : c.tasks[t]? = some task) (hg : c.gates t task = true)
    (hi : Gate.inspect c.tokens c.now = (false, tokens)) :
    Judges t task.goal c.now tokens c (c.apply (.turn (.task t))) := by
  obtain ⟨due, -⟩ | ⟨-, hj⟩ := gate_looks hr ht hg
  · rw [hi] at due
    cases due
  · rwa [hi] at hj

theorem CallsOver.cases {tokens : TokenStore} (ho : Orderly none c)
    (ht : c.tasks[t]? = some task) (hc : CallsOver c t task.goal tokens now) :
    (c.refresher.pending = none ∨ c.refresher.isLive c.given = true) ∧
        (c.apply (.turn (.task t))).tasks[t]? =
          some { task with stage := .joined c.given (.project now) } ∧
        (c.apply (.turn (.task t))).tokens = tokens ∧
        (c.apply (.turn (.task t))).provider.published = c.provider.published ∨
      c.refresher.phase? c.given = some .crashed ∧
        Judges t task.goal now tokens c (c.apply (.turn (.task t))) := by
  obtain ⟨p, hp, he⟩ := hc
  have same : p.published = c.provider.published := by
    obtain rfl | rfl := hp
    · rfl
    · exact enter_published _ _
  rw [he]
  obtain ⟨hn, hj⟩ | ⟨k, hk, hl, hj⟩ | ⟨k, hk, hcr, hj⟩ := join_cases (c := { c.taking (.task t) with
    provider := p, tokens := tokens }) ho.sound t task.goal (.project now)
  · have idle : c.refresher.pending = none := hn
    have hg : c.given = c.refresher.operations.length := by simp [given, idle]
    left
    rw [hj, startFor, waitFor_task, hg]
    exact ⟨.inl idle, by simp [taking, ht], rfl, same⟩
  · have busy : c.refresher.pending = some k := hk
    have hg : c.given = k := by simp [given, busy]
    left
    rw [hj, waitFor_task, hg]
    exact ⟨.inr hl, by simp [taking, ht], rfl, same⟩
  · have busy : c.refresher.pending = some k := hk
    have hg : c.given = k := by simp [given, busy]
    right
    rw [hj, hg]
    exact ⟨hcr, { c.taking (.task t) with
      provider := p, tokens := tokens, refresher := c.refresher.release k }, rfl, hp, rfl, rfl⟩

theorem first_look (ho : Orderly none c) (hr : .task t ∈ c.ready) (ht : c.tasks[t]? = some task)
    (hg : c.gates t task = true) :
    ((Gate.inspect c.tokens c.now).1 = true ∧
      (c.apply (.turn (.task t))).tasks[t]? =
        some { task with stage := .joined c.given (.project c.now) } ∧
      (c.apply (.turn (.task t))).provider.published = c.provider.published) ∨
    Judges t task.goal c.now (Gate.inspect c.tokens c.now).2 c (c.apply (.turn (.task t))) := by
  obtain ⟨due, calls⟩ | ⟨-, hj⟩ := gate_looks hr ht hg
  · obtain ⟨-, waits, -, hp⟩ | ⟨-, hj⟩ := calls.cases ho ht
    · exact .inl ⟨due, waits, hp⟩
    · exact .inr hj
  · exact .inr hj

theorem Judges.resolves_of_gates {tokens : TokenStore} (hf : c.Fits) (ht : c.tasks[t]? = some task)
    (hg : c.gates t task = true)
    (hj : Judges t task.goal c.now tokens c (c.apply (.turn (.task t)))) :
    Resolves c t (Gate.project tokens c.now).1 :=
  hj.resolves ht (not_over_of_gates hg) (fits_of_gates (hf t task ht) hg c.now)

theorem waiting_turn (ho : Orderly none c) (ht : c.tasks[t]? = some task)
    (hs : task.stage = .joined k (.project now)) :
    (c.refresher.isLive k = false ∧ .task t ∈ c.ready ∧
      Judges t task.goal now c.tokens c (c.apply (.turn (.task t)))) ∨
    (c.refresher.isLive k = true ∧ (c.apply (.turn (.task t))).tokens = c.tokens ∧
      (c.apply (.turn (.task t))).provider = c.provider ∧
      (c.apply (.turn (.task t))).tasks[t]? = some task) := by
  cases hl : c.refresher.isLive k with
  | false =>
    have hw : c.awaited? t = some k := by
      rw [awaited?_of_task ht, hs]
      rfl
    obtain ⟨hr, o, r, hc⟩ := ho.finds hw hl
    rw [turn_told hr ht hs hc]
    exact .inl ⟨rfl, hr, { c.taking (.task t) with refresher := r }, rfl, .inl rfl, rfl, rfl⟩
  | true =>
    right
    by_cases hr : .task t ∈ c.ready
    · have rests : (c.taking (.task t)).resume t task = c.taking (.task t) := by
        simp [resume, hs, look, taking, Refresher.collect_of_isLive hl]
      rw [apply_turn_task hr ht, rests]
      exact ⟨rfl, rfl, rfl, ht⟩
    · rw [apply_turn_idle hr]
      exact ⟨rfl, rfl, rfl, ht⟩

theorem over_turn (ht : c.tasks[t]? = some task) (hs : task.stage.isOver = true) :
    (c.apply (.turn (.task t))).provider = c.provider := by
  by_cases hr : .task t ∈ c.ready
  · rw [apply_turn_task hr ht]
    obtain ⟨goal, stage, sent⟩ := task
    cases stage with
    | ended r => rfl
    | dropped => rfl
    | _ => cases hs
  · rw [apply_turn_idle hr]

theorem Resolves.of_gates (ho : Orderly none c) (hf : c.Fits) (hr : .task t ∈ c.ready)
    (ht : c.tasks[t]? = some task) (hg : c.gates t task = true) (hs : Resolves c t s) :
    s = (Gate.project (Gate.inspect c.tokens c.now).2 c.now).1 ∧
      (c.apply (.turn (.task t))).tokens =
        (Gate.project (Gate.inspect c.tokens c.now).2 c.now).2 := by
  obtain ⟨-, waits, hp⟩ | hj := first_look ho hr ht hg
  · refine absurd hs (not_resolves hp (fun _ r _ _ ended => ?_) s)
    rw [stage?, waits] at ended
    cases ended
  · exact ⟨hs.unique ho hf (hj.resolves_of_gates hf ht hg), hj.tokens⟩

theorem Resolves.of_waiting (ho : Orderly none c) (hf : c.Fits) (ht : c.tasks[t]? = some task)
    (hstage : task.stage = .joined k (.project now)) (hs : Resolves c t s) :
    s = (Gate.project c.tokens now).1 ∧
      (c.apply (.turn (.task t))).tokens = (Gate.project c.tokens now).2 := by
  have fits : task.stage.Fits task.goal := hf t task ht
  rw [hstage] at fits
  obtain ⟨-, -, hj⟩ | ⟨-, -, hp, rests⟩ := waiting_turn ho ht hstage
  · exact ⟨hs.unique ho hf (hj.resolves ht (by rw [hstage]; rfl) fits), hj.tokens⟩
  · refine absurd hs (not_resolves (congrArg _ hp) (fun _ r _ _ ended => ?_) s)
    rw [stage?, rests, Option.map_some, hstage] at ended
    cases ended

theorem Resolves.not_over (ht : c.tasks[t]? = some task) (hs : Resolves c t s) :
    task.stage.isOver = false := by
  cases hover : task.stage.isOver with
  | false => rfl
  | true =>
    refine absurd hs (not_resolves (congrArg _ (over_turn ht hover)) (fun task' r ht' hn => ?_) s)
    cases ht.symm.trans ht'
    rw [hover] at hn
    cases hn

variable {a : Nat} {pre es : List Event}

theorem Fresh.over_append (h : c₀.Fresh) {stage : Stage} (hs : stage.isOver = true)
    (hu : (c₀.run es).stage? t = some stage) (fs : List Event) :
    (c₀.run (es ++ fs)).stage? t = some stage := by
  induction fs using List.reverseRecOn with
  | nil => rwa [List.append_nil]
  | append_singleton fs e ih =>
    rw [← List.append_assoc, run_snoc]
    exact over_apply (h.orderly_run _) e hs ih

theorem Fresh.gate_stands (h : c₀.Fresh) (hr : .task a ∈ (c₀.run pre).ready)
    (ht : (c₀.run pre).tasks[a]? = some task) (hg : (c₀.run pre).gates a task = true)
    (mid : List Event) :
    let c := c₀.run pre
    let d := c₀.run (pre ++ .turn (.task a) :: mid)
    (Gate.inspect c.tokens c.now).1 = true ∧
        d.tasks[a]? = some { task with stage := .joined c.given (.project c.now) } ∨
      ∃ s : Stage, s.isOver = true ∧ d.stage? a = some s := by
  intro c d
  have same : d = c₀.run (pre ++ [.turn (.task a)] ++ mid) := by rw [← List.append_cons]
  rw [same]
  obtain ⟨due, waits, -⟩ | hj := first_look (h.orderly_run pre) hr ht hg
  · rw [← run_snoc] at waits
    obtain stays | left := gate_waiting_run h _ waits rfl mid
    · exact .inl ⟨due, stays⟩
    · exact .inr left
  · obtain ⟨r, ended⟩ := hj.ended ht
    rw [← run_snoc] at ended
    exact .inr ⟨_, rfl, h.over_append rfl ended mid⟩

/-- The run `es` stands at the step `e` that followed `pre`, or somewhere after it. -/
def Since (pre : List Event) (e : Event) (es : List Event) : Prop :=
  es = pre ∨ ∃ mid, es = pre ++ e :: mid

theorem Fresh.judges_of_resolves (h : c₀.Fresh) (hr : .task a ∈ (c₀.run pre).ready)
    (ht : (c₀.run pre).tasks[a]? = some task) (hg : (c₀.run pre).gates a task = true)
    (hes : Since pre (.turn (.task a)) es) (hs : Resolves (c₀.run es) a s) :
    let c := c₀.run pre
    let d := c₀.run es
    ∃ tokens, (es = pre ∧ tokens = (Gate.inspect c.tokens c.now).2 ∨
        (Gate.inspect c.tokens c.now).1 = true ∧ tokens = d.tokens) ∧
      s = (Gate.project tokens c.now).1 ∧
      (d.apply (.turn (.task a))).tokens = (Gate.project tokens c.now).2 := by
  intro c d
  have ho := h.orderly_run es
  have hf := h.fits_run es
  obtain rfl | ⟨mid, rfl⟩ := hes
  · exact ⟨_, .inl ⟨rfl, rfl⟩, hs.of_gates ho hf hr ht hg⟩
  · obtain ⟨due, waits⟩ | ⟨stage, hover, hstage⟩ := h.gate_stands hr ht hg mid
    · exact ⟨_, .inr ⟨due, rfl⟩, hs.of_waiting ho hf waits rfl⟩
    · obtain ⟨task', ht', rfl⟩ := Option.map_eq_some_iff.1 hstage
      exact absurd (hs.not_over ht') (by rw [hover]; simp)

/-- A gate has come to a state, or was dropped, or waits for a refresh, with the reading it took. -/
theorem Fresh.gate_settles (h : c₀.Fresh) (hr : .task a ∈ (c₀.run pre).ready)
    (ht : (c₀.run pre).tasks[a]? = some task) (hg : (c₀.run pre).gates a task = true)
    (mid : List Event) :
    let start : Event := .turn (.task a)
    let c := c₀.run pre
    (∃ es rest s, pre ++ start :: mid = es ++ start :: rest ∧ Since pre start es ∧
      Resolves (c₀.run es) a s) ∨
    .drop a ∈ mid ∨
    (c₀.run (pre ++ start :: mid)).tasks[a]? =
      some { task with stage := .joined c.given (.project c.now) } := by
  intro start c
  have fits := fits_of_gates (h.fits_run pre a task ht) hg c.now
  induction mid using List.reverseRecOn with
  | nil =>
    rw [run_snoc]
    obtain ⟨-, waits, -⟩ | hj := first_look (h.orderly_run pre) hr ht hg
    · exact .inr (.inr waits)
    · exact .inl ⟨pre, [], _, rfl, .inl rfl, hj.resolves_of_gates (h.fits_run pre) ht hg⟩
  | append_singleton mid e ih =>
    have ho := h.orderly_run (pre ++ start :: mid)
    have longer : pre ++ start :: (mid ++ [e]) = pre ++ start :: mid ++ [e] := by simp
    rw [longer, run_snoc]
    obtain ⟨es, rest, s, hes, since, hs⟩ | dropped | waits := ih
    · exact .inl ⟨es, rest ++ [e], s, by rw [hes]; simp, since, hs⟩
    · exact .inr (.inl (List.mem_append_left _ dropped))
    · obtain stays | ⟨rfl, -⟩ | ⟨o, r, rfl, hready, hc, -⟩ := waiting_apply ho e waits rfl
      · exact .inr (.inr stays)
      · exact .inr (.inl (List.mem_append_right _ (List.mem_singleton_self _)))
      · -- the task has found what it waited for, so the operation is not live
        obtain ⟨-, -, hj⟩ | ⟨hl, -⟩ := waiting_turn ho waits rfl
        · exact .inl ⟨_, [], _, rfl, .inr ⟨mid, rfl⟩, hj.resolves waits rfl fits⟩
        · rw [Refresher.collect_of_isLive hl] at hc
          cases hc

end Console

end ConsoleSession
