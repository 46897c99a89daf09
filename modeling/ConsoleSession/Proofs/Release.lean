import ConsoleSession.Proofs.SingleFlight
import ConsoleSession.Proofs.Stages

/-!
# When the slot is free again

An operation whose call was answered leaves the slot at once. One whose call crashed leaves it when
the first of its callers is told so. If all of them were dropped the slot stays taken, and the next
to want a refresh is handed what became of the old call. In no other way is the slot taken without a
call being out.
-/

namespace ConsoleSession.Console

variable {c c₀ : Console} {t k : Nat}

def callersOf (k : Nat) (c : Console) (e : Event) : List Nat :=
  if c.given = k then (c.asks e).toList else []

def callers (k : Nat) : Console → List Event → List Nat
  | _, [] => []
  | c, e :: es => callersOf k c e ++ callers k (c.apply e) es

/-- The call of operation `k` has crashed, and no caller of the operation has been told. -/
def Untaken (c₀ : Console) (es : List Event) (k : Nat) : Prop :=
  (c₀.run es).refresher.phase? k = some .crashed ∧
    ∀ t ∈ callers k c₀ es, ∀ r, (c₀.run es).stage? t ≠ some (.ended r)

/-- The call of operation `k` has crashed, and every caller of the operation was dropped. -/
def Deserted (c₀ : Console) (es : List Event) (k : Nat) : Prop :=
  (c₀.run es).refresher.phase? k = some .crashed ∧
    ∀ t ∈ callers k c₀ es, (c₀.run es).stage? t = some .dropped

theorem callers_snoc (k : Nat) (c : Console) (es : List Event) (e : Event) :
    callers k c (es ++ [e]) = callers k c es ++ callersOf k (c.run es) e := by
  induction es generalizing c with
  | nil => exact List.append_nil _
  | cons f es ih =>
    show callersOf k c f ++ callers k (c.apply f) (es ++ [e]) = _
    rw [ih, ← List.append_assoc]
    rfl

theorem mem_callersOf {e : Event} : t ∈ callersOf k c e ↔ c.given = k ∧ c.asks e = some t := by
  unfold callersOf
  split <;> simp_all

/-- What is known of the callers of operation `k`. -/
structure Accounted (k : Nat) (callers : List Nat) (c : Console) : Prop where
  started : ∀ t ∈ callers, k < c.refresher.operations.length
  waiting : ∀ t, c.awaited? t = some k → t ∈ callers
  pending : c.refresher.pending = some k → ∀ t ∈ callers,
    c.awaited? t = some k ∨ c.stage? t = some .dropped
  released : c.refresher.phase? k = some .crashed → c.refresher.pending ≠ some k →
    ∃ t ∈ callers, ∃ r, c.stage? t = some (.ended r)

theorem given_lt (h : Orderly none c) {e : Event} (ha : c.asks e = some t) :
    c.given < (c.apply e).refresher.operations.length := by
  rw [length_apply h e]
  rcases hp : c.refresher.pending with _ | k
  · simp [given, hp, starts, ha]
  · simp [given, hp, h.sound.last k hp]
    omega

theorem Accounted.pending_of_apply {l : List Nat} (h : Accounted k l c) (ho : Orderly none c)
    {e : Event} (ht : t ∈ l) (hp : (c.apply e).refresher.pending = some k) :
    c.refresher.pending = some k := by
  obtain he | ⟨_, -, he⟩ | ⟨_, _, -, -, -, he⟩ | ⟨_, _, _, -, -, -, -, he⟩ := pending_apply ho e
  · exact he ▸ hp
  · rw [hp] at he
    rcases hn : c.refresher.pending with _ | j
    · -- an operation that starts in the step has had no caller before
      have hlt := h.started t ht
      simp [given, hn] at he
      omega
    · simpa [given, hn, eq_comm] using he
  · rw [hp] at he
    cases he
  · rw [hp] at he
    cases he

theorem Accounted.caller_apply {l : List Nat} (h : Accounted k l c) (ho : Orderly none c)
    {e : Event} (ht : t ∈ l) (hp : (c.apply e).refresher.pending = some k) :
    (c.apply e).awaited? t = some k ∨ (c.apply e).stage? t = some .dropped := by
  have hpend := h.pending_of_apply ho ht hp
  rcases h.pending hpend t ht with hw | hd
  · obtain ⟨after, hst⟩ := awaited?_eq_some.1 hw
    obtain ⟨task, htk, hs⟩ := Option.map_eq_some_iff.1 hst
    obtain hstay | ⟨-, hdrop⟩ | ⟨o, r, -, -, hc, he⟩ := waiting_apply ho e htk hs
    · exact .inl (by rw [awaited?_of_task hstay, hs]; rfl)
    · exact .inr (by simp [stage?, hdrop])
    · obtain ⟨o', hset, -⟩ | ⟨-, hk⟩ | ⟨-, hk⟩ := c.refresher.collect_cases k
      · exact absurd hset (ho.sound.unsettled k o' hpend)
      · rw [hk] at hc
        cases hc
        rw [he, (proceed_onward _ _ after).refresher] at hp
        simp [Refresher.pending_release, hpend] at hp
      · rw [hk] at hc
        cases hc
  · exact .inr (over_apply ho e rfl hd)

theorem Accounted.released_apply {l : List Nat} (h : Accounted k l c) (ho : Orderly none c)
    {e : Event} (hc : (c.apply e).refresher.phase? k = some .crashed)
    (hp : (c.apply e).refresher.pending ≠ some k) :
    ∃ t ∈ l ++ callersOf k c e, ∃ r, (c.apply e).stage? t = some (.ended r) := by
  have hlive : ∀ j, c.refresher.phase? j = some .calling → c.refresher.pending = some j :=
    fun j hj => ho.sound.live j (c.refresher.isLive_of_phase? j hj)
  have hgiven : c.refresher.pending = some k → c.given = k := fun hk => by simp [given, hk]
  have hpend := pending_apply ho e
  obtain hs | ⟨-, -, hs⟩ | ⟨-, -, -, hs⟩ | ⟨a, epoch, rfl, hcall, -, -⟩ := phase?_apply ho e k
  · -- the crash is older than the step: the operation leaves the slot now, or has left it before
    rw [hc] at hs
    by_cases hk : c.refresher.pending = some k
    · obtain he | ⟨_, -, he⟩ | ⟨j, _, -, hj, -, -⟩ | ⟨j, t, r, hj, -, hwho, hr, -⟩ := hpend
      · exact absurd (he.trans hk) hp
      · exact absurd (hgiven hk ▸ he) hp
      · cases Option.some.inj ((hlive j hj).symm.trans hk)
        rw [hj] at hs
        cases hs
      · cases Option.some.inj (hj.symm.trans hk)
        refine ⟨t, List.mem_append.2 ?_, r, hr⟩
        rcases hwho with ⟨ha, hg⟩ | hw
        · exact .inr (mem_callersOf.2 ⟨hg, ha⟩)
        · exact .inl (h.waiting t hw)
    · obtain ⟨t, ht, r, hr⟩ := h.released hs.symm hk
      exact ⟨t, List.mem_append_left _ ht, r, over_apply ho e rfl hr⟩
  · rw [hc] at hs
    cases hs
  · rw [hc] at hs
    cases hs
  · -- the call crashes in the step, which leaves the slot as it is
    have hk := hlive k hcall
    obtain he | ⟨_, ha, -⟩ | ⟨j, _, hj, -, hn, -⟩ | ⟨j, _, _, hj, hcr, -⟩ := hpend
    · exact absurd (he.trans hk) hp
    · cases ha
    · cases hj
      exact absurd hc hn
    · cases Option.some.inj (hj.symm.trans hk)
      rw [hcall] at hcr
      cases hcr

theorem Accounted.apply {l : List Nat} (h : Accounted k l c) (ho : Orderly none c) (e : Event) :
    Accounted k (l ++ callersOf k c e) (c.apply e) := by
  have hmono : c.refresher.operations.length ≤ (c.apply e).refresher.operations.length := by
    rw [length_apply ho e]
    omega
  refine ⟨fun t ht => ?_, fun t hw => ?_, fun hp t ht => ?_, h.released_apply ho⟩
  · rcases List.mem_append.1 ht with ht | ht
    · exact Nat.lt_of_lt_of_le (h.started t ht) hmono
    · obtain ⟨rfl, ha⟩ := mem_callersOf.1 ht
      exact given_lt ho ha
  · obtain hw | ⟨ha, rfl⟩ := awaited?_apply ho hw
    · exact List.mem_append_left _ (h.waiting t hw)
    · exact List.mem_append_right _ (mem_callersOf.2 ⟨rfl, ha⟩)
  · rcases List.mem_append.1 ht with ht | ht
    · exact h.caller_apply ho ht hp
    · obtain ⟨rfl, ha⟩ := mem_callersOf.1 ht
      obtain ⟨-, hw, -⟩ | ⟨-, -, hn, -⟩ := asks_awaits ho ha
      · exact .inl hw
      · rw [hp] at hn
        cases hn

theorem Fresh.accounted (h : c₀.Fresh) (k : Nat) (es : List Event) :
    Accounted k (callers k c₀ es) (c₀.run es) := by
  induction es using List.reverseRecOn with
  | nil =>
    have hn : ∀ t, c₀.awaited? t = none := by simp [awaited?, stage?, h.tasks]
    refine ⟨by simp [callers], by simp [run, hn], by simp [callers], fun hc => ?_⟩
    simp [run, h.refresher, Refresher.phase?] at hc
  | append_singleton es e ih =>
    rw [callers_snoc, run_snoc]
    exact ih.apply (h.orderly_run es) e

theorem Fresh.untaken_iff (h : c₀.Fresh) (es : List Event) (k : Nat) :
    Untaken c₀ es k ↔ (c₀.run es).refresher.pending = some k ∧
      (c₀.run es).refresher.phase? k = some .crashed := by
  have ha := h.accounted k es
  constructor
  · rintro ⟨hc, hn⟩
    refine ⟨Classical.byContradiction fun hp => ?_, hc⟩
    obtain ⟨t, ht, r, hr⟩ := ha.released hc hp
    exact hn t ht r hr
  · rintro ⟨hp, hc⟩
    refine ⟨hc, fun t ht r hr => ?_⟩
    rcases ha.pending hp t ht with hw | hd
    · simp [awaited?, hr, Stage.operation?] at hw
    · rw [hr] at hd
      cases hd

theorem Fresh.deserted_iff (h : c₀.Fresh) {es : List Event} (hr : (c₀.run es).ready = []) (k : Nat) :
    Deserted c₀ es k ↔ Untaken c₀ es k := by
  constructor
  · rintro ⟨hc, hd⟩
    refine ⟨hc, fun t ht r he => ?_⟩
    rw [hd t ht] at he
    cases he
  · intro hu
    obtain ⟨hp, hc⟩ := (h.untaken_iff es k).1 hu
    refine ⟨hc, fun t ht => ?_⟩
    rcases (h.accounted k es).pending hp t ht with hw | hd
    · have hl : (c₀.run es).refresher.isLive k = false := Refresher.isLive_of_phase? _ k hc
      have hmem := (h.orderly_run es).woken t k (by simp) hw hl
      rw [hr] at hmem
      cases hmem
    · exact hd

theorem Fresh.isPending_iff (h : c₀.Fresh) (es : List Event) :
    (c₀.run es).refresher.isPending = true ↔
      (∃ k, (c₀.run es).refresher.isLive k = true) ∨ ∃ k, Untaken c₀ es k := by
  have hs := (h.orderly_run es).sound
  rw [Refresher.isPending, Option.isSome_iff_exists]
  constructor
  · rintro ⟨k, hk⟩
    rcases hs.pending_cases hk with hl | hc
    · exact .inl ⟨k, hl⟩
    · exact .inr ⟨k, (h.untaken_iff es k).2 ⟨hk, hc⟩⟩
  · rintro (⟨k, hl⟩ | ⟨k, hu⟩)
    · exact ⟨k, hs.live k hl⟩
    · exact ⟨k, ((h.untaken_iff es k).1 hu).1⟩

theorem Orderly.isLive_iff_calling (h : Orderly none c) (hr : c.ready = []) (k : Nat) :
    c.refresher.isLive k = true ↔ c.calling k = true := by
  rw [Refresher.isLive_iff, calling_iff]
  refine or_iff_right fun hs => ?_
  have hmem := h.spawned k hs
  rw [hr] at hmem
  cases hmem

theorem ended_of_pending_crashed (h : Orderly none c) {e : Event} (ha : c.asks e = some t)
    (hp : c.refresher.pending = some k) (hc : c.refresher.phase? k = some .crashed) :
    (c.apply e).refresher.operations.length = c.refresher.operations.length ∧
      (c.apply e).refresher.pending = none ∧ ∃ r, (c.apply e).stage? t = some (.ended r) := by
  have hg : c.given = k := by simp [given, hp]
  obtain ⟨hn | hl, -⟩ | ⟨-, -, hn, r, hr⟩ := asks_awaits h ha
  · rw [hp] at hn
    cases hn
  · rw [hg] at hl
    rw [c.refresher.isLive_of_phase? k hc] at hl
    cases hl
  · exact ⟨by rw [length_apply h e]; simp [starts, hp], hn, r, hr⟩

theorem stage?_of_crashed (h : Orderly none c) {task : Task} (hmem : .task t ∈ c.ready)
    (ht : c.tasks[t]? = some task) (hf : task.stage = .fresh) (hg : task.goal = .refresh)
    (hp : c.refresher.pending = some k) (hc : c.refresher.phase? k = some .crashed) :
    (c.apply (.turn (.task t))).stage? t = some (.ended (.refreshed (.error .aborted))) := by
  have he : c.apply (.turn (.task t)) = (c.taking (.task t)).join t .refresh .report := by
    rw [apply_turn_task hmem ht]
    simp [resume, hf, hg, begin]
  have hp' : (c.taking (.task t)).refresher.pending = some k := hp
  obtain ⟨hn, -⟩ | ⟨j, hj, hl, -⟩ | ⟨j, hj, -, hjoin⟩ :=
    join_cases (c := c.taking (.task t)) h.sound t .refresh .report
  · rw [hp'] at hn
    cases hn
  · cases Option.some.inj (hj.symm.trans hp')
    have hl' : c.refresher.isLive k = true := hl
    rw [c.refresher.isLive_of_phase? k hc] at hl'
    cases hl'
  · rw [he, hjoin, proceed, finish, stage?_setStage, if_pos rfl]
    simp [stage?, taking, ht]

/-- When nothing can run, the slot is taken while a call is out, and else exactly when a call has
crashed all of whose callers were dropped. Then the next to want a refresh starts none: it empties
the slot and is told that the old operation was aborted. In every other state without a live
operation it starts a new one. -/
theorem pending_iff (h : c₀.Fresh) (es : List Event) :
    let c := c₀.run es
    (c.refresher.isPending = true ↔
      (∃ k, c.refresher.isLive k = true) ∨ ∃ k, Untaken c₀ es k) ∧
    (c.ready = [] →
      (c.refresher.isPending = true ↔ (∃ k, c.calling k = true) ∨ ∃ k, Deserted c₀ es k) ∧
      ∀ j k, c.calling j = true → ¬ Deserted c₀ es k) ∧
    (∀ e t, c.asks e = some t → (∀ k, c.refresher.isLive k = false) → (∀ k, ¬ Untaken c₀ es k) →
      (c.apply e).refresher.phase? c.refresher.operations.length = some .spawned ∧
      (c.apply e).awaited? t = some c.refresher.operations.length) ∧
    (∀ e t k, c.asks e = some t → Untaken c₀ es k →
      (c.apply e).refresher.operations.length = c.refresher.operations.length ∧
      (c.apply e).refresher.pending = none ∧
      ∃ r, (c.apply e).stage? t = some (.ended r)) ∧
    (∀ t task k, .task t ∈ c.ready → c.tasks[t]? = some task → task.stage = .fresh →
      task.goal = .refresh → Untaken c₀ es k →
      (c.apply (.turn (.task t))).stage? t = some (.ended (.refreshed (.error .aborted)))) := by
  intro c
  have ho : Orderly none c := h.orderly_run es
  have hiff := h.isPending_iff es
  refine ⟨hiff, fun hr => ⟨?_, fun j k hj hd => ?_⟩, fun e t ha hl hu => ?_, fun e t k ha hu => ?_,
    fun t task k hmem ht hf hg hu => ?_⟩
  · rw [hiff]
    exact or_congr (exists_congr (ho.isLive_iff_calling hr))
      (exists_congr fun k => (h.deserted_iff hr k).symm)
  · obtain ⟨hp, hc⟩ := (h.untaken_iff es k).1 ((h.deserted_iff hr k).1 hd)
    have hlive := (ho.isLive_iff_calling hr j).2 hj
    cases Option.some.inj ((ho.sound.live j hlive).symm.trans hp)
    rw [calling_iff, hc] at hj
    cases hj
  · have hn : c.refresher.pending = none := by
      have hnot : ¬ c.refresher.isPending = true := by
        rw [hiff]
        rintro (⟨k, hk⟩ | ⟨k, hk⟩)
        · rw [hl k] at hk
          cases hk
        · exact hu k hk
      simpa [Refresher.isPending] using hnot
    exact ⟨phase?_of_starts ho ha hn, by simpa [given, hn] using awaited?_of_idle ho ha hn⟩
  · obtain ⟨hp, hc⟩ := (h.untaken_iff es k).1 hu
    exact ended_of_pending_crashed ho ha hp hc
  · obtain ⟨hp, hc⟩ := (h.untaken_iff es k).1 hu
    exact stage?_of_crashed ho hmem ht hf hg hp hc

/-- A crash that nobody is there to be told of. -/
theorem pending_of_deserted :
    let c := blank.run
      [.spawn .refresh, .turn (.task 0), .turn (.operation 0), .drop 0, .refreshed 0 .crash]
    c.ready = [] ∧ c.refresher.isPending = true ∧ ∀ k, c.calling k = false := by
  intro c
  obtain ⟨-, hrest, -⟩ := pending_iff fresh_blank
    [.spawn .refresh, .turn (.task 0), .turn (.operation 0), .drop 0, .refreshed 0 .crash]
  obtain ⟨hiff, hcalls⟩ := hrest rfl
  have hd : Deserted blank
      [.spawn .refresh, .turn (.task 0), .turn (.operation 0), .drop 0, .refreshed 0 .crash] 0 :=
    ⟨rfl, fun t ht => by cases List.mem_singleton.1 ht; rfl⟩
  exact ⟨rfl, hiff.2 (.inr ⟨0, hd⟩), fun k => Bool.not_eq_true _ ▸ fun hk => hcalls k 0 hk hd⟩

end ConsoleSession.Console
