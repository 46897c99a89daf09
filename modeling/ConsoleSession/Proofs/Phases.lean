import ConsoleSession.Proofs.Runs

/-!
# What a step does to the operations

An operation is started only by a task that wants a refresh and finds none pending. From then on it
takes three steps at most: it calls the backend, and the backend's answer ends it.
-/

namespace ConsoleSession.Console

variable {c c' : Console} {t k : Nat}

def starts (c : Console) (e : Event) : Bool :=
  (c.asks e).isSome && c.refresher.pending.isNone

theorem refresher_join (h : c.refresher.Sound) (t : Nat) (goal : Goal) (after : After) :
    (c.refresher.pending = none ∧ (c.join t goal after).refresher =
      (c.refresher.start c.tokens.epoch).wait c.refresher.operations.length t) ∨
    (∃ k, c.refresher.pending = some k ∧ c.refresher.isLive k = true ∧
      (c.join t goal after).refresher = c.refresher.wait k t) ∨
    (∃ k, c.refresher.pending = some k ∧ c.refresher.phase? k = some .crashed ∧
      (c.join t goal after).refresher = c.refresher.release k) := by
  obtain ⟨hp, hj⟩ | ⟨k, hp, hl, hj⟩ | ⟨k, hp, hc, hj⟩ := join_cases h t goal after
  · exact .inl ⟨hp, by rw [hj]; rfl⟩
  · exact .inr (.inl ⟨k, hp, hl, by rw [hj]; rfl⟩)
  · exact .inr (.inr ⟨k, hp, hc, by rw [hj, (proceed_onward goal _ after).refresher]⟩)

theorem length_join (h : c.refresher.Sound) (goal : Goal) (after : After) :
    (c.join t goal after).refresher.operations.length =
      c.refresher.operations.length + if c.refresher.pending.isNone then 1 else 0 := by
  obtain ⟨hp, hj⟩ | ⟨k, hp, -, hj⟩ | ⟨k, hp, -, hj⟩ := refresher_join h t goal after
  · simp [hj, hp, Refresher.wait, Refresher.start]
  · simp [hj, hp, Refresher.wait]
  · simp [hj, hp, Refresher.release_operations]

theorem phase?_join (h : c.refresher.Sound) (goal : Goal) (after : After) (k : Nat) :
    (c.join t goal after).refresher.phase? k =
      if c.refresher.pending = none ∧ k = c.refresher.operations.length then some .spawned
      else c.refresher.phase? k := by
  obtain ⟨hp, hj⟩ | ⟨j, hp, -, hj⟩ | ⟨j, hp, -, hj⟩ := refresher_join h t goal after
  · simp [hj, hp, Refresher.phase?_start]
  · simp [hj, hp]
  · simp [hj, hp]

theorem epoch?_join (h : c.refresher.Sound) (goal : Goal) (after : After) (k : Nat) :
    (c.join t goal after).refresher.epoch? k =
      if c.refresher.pending = none ∧ k = c.refresher.operations.length then
        some (c.join t goal after).tokens.epoch
      else c.refresher.epoch? k := by
  obtain ⟨hp, hj⟩ | ⟨j, hp, -, hj⟩ | ⟨j, hp, -, hj⟩ := join_cases h t goal after
  · rw [hj]
    simp [startFor, waitFor, setStage, hp, Refresher.epoch?_start]
  · rw [hj]
    simp [waitFor, setStage, hp]
  · rw [hj, (proceed_onward goal _ after).refresher]
    simp [hp]

theorem collect_operations (r : Refresher) (k : Nat) :
    (r.collect k).2.operations = r.operations := by
  obtain ⟨o, -, hc⟩ | ⟨-, hc⟩ | ⟨-, hc⟩ := r.collect_cases k
  · rw [hc]
  · rw [hc]
    exact r.release_operations k
  · rw [hc]

theorem operations_taskStep {task : Task} (hs : TaskStep c t task c') :
    (c.wants t task = false ∧ c'.refresher.operations = c.refresher.operations) ∨
    (c.wants t task = true ∧ ∃ (c₁ : Console) (goal : Goal) (after : After),
      c₁.refresher = c.refresher ∧ c₁.tasks = c.tasks ∧ c' = c₁.join t goal after) := by
  cases hs with
  | rest hw _ _ => exact .inl ⟨hw, rfl⟩
  | pass hw _ _ ho _ _ => exact .inl ⟨hw, by rw [ho.refresher]⟩
  | judge p hw _ _ _ _ => exact .inl ⟨hw, by rw [(project_onward _ _).refresher]⟩
  | gate p tokens hw _ _ _ _ =>
    exact .inr ⟨hw, { c with provider := p, tokens := tokens }, _, _, rfl, rfl, rfl⟩
  | ask hw _ _ _ => exact .inr ⟨hw, c, _, _, rfl, rfl, rfl⟩
  | collect k after o r hw _ _ hc =>
    refine .inl ⟨hw, ?_⟩
    have hr := collect_operations c.refresher k
    rw [hc] at hr
    rw [(proceed_onward _ o after).refresher, hr]

theorem asks_of_run {task : Task} (h : .task t ∈ c.ready) (ht : c.tasks[t]? = some task) :
    c.asks (.turn (.task t)) = if c.wants t task = true then some t else none := by
  simp [asks, ht, h]

theorem phase?_congr {r r' : Refresher} (h : r'.operations = r.operations) (k : Nat) :
    r'.phase? k = r.phase? k := by
  simp [Refresher.phase?, h]

theorem epoch?_congr {r r' : Refresher} (h : r'.operations = r.operations) (k : Nat) :
    r'.epoch? k = r.epoch? k := by
  simp [Refresher.epoch?, h]

theorem length_apply (h : Orderly none c) (e : Event) :
    (c.apply e).refresher.operations.length =
      c.refresher.operations.length + if c.starts e = true then 1 else 0 := by
  have hm := apply_move c e
  generalize c.apply e = c' at hm
  unfold starts
  cases hm with
  | calm hr _ _ ha => simp [hr, ha]
  | spawn goal => simp [spawn, asks]
  | call k _ => simp [Refresher.call, asks]
  | run hmem ht hs =>
    rw [asks_of_run hmem ht]
    obtain ⟨hw, hr⟩ | ⟨hw, c₁, goal, after, hr, -, rfl⟩ := operations_taskStep hs
    · rw [if_neg (by rw [show c.wants _ _ = false from hw]; simp), hr]
      rfl
    · rw [if_pos (show c.wants _ _ = true from hw), length_join (hr ▸ h.sound), hr]
      rfl
  | vain _ ht => simp [asks, ht, taking]
  | drop _ _ hd =>
    obtain ⟨hr, -⟩ | ⟨k, -, hr⟩ := hd.refresher
    · simp [hr, asks]
    · simp [hr, asks, Refresher.leave]
  | answer k a hp => simp [refreshed, hp, Refresher.length_answer, asks]
  | onward _ _ _ ho ha => simp [ho.refresher, ha]
  | retry _ _ ha => simp [length_join h.sound, ha]

theorem phase?_apply (h : Orderly none c) (e : Event) (k : Nat) :
    (c.apply e).refresher.phase? k = c.refresher.phase? k ∨
    (c.starts e = true ∧ k = c.refresher.operations.length ∧
      (c.apply e).refresher.phase? k = some .spawned) ∨
    (e = .turn (.operation k) ∧ .operation k ∈ c.ready ∧
      c.refresher.phase? k = some .spawned ∧
      (c.apply e).refresher.phase? k = some .calling) ∨
    (∃ a epoch, e = .refreshed k a ∧ c.refresher.phase? k = some .calling ∧
      c.refresher.epoch? k = some epoch ∧
      (c.apply e).refresher.phase? k = some (Refresher.judge c.tokens epoch a).1) := by
  have hm := apply_move c e
  generalize c.apply e = c' at hm
  unfold starts
  cases hm with
  | calm hr _ _ _ => exact .inl (by rw [hr])
  | spawn goal => exact .inl rfl
  | call j hmem =>
    dsimp only [taking]
    rw [Refresher.phase?_call]
    by_cases hj : j = k ∧ c.refresher.phase? k = some .spawned
    · rw [if_pos hj]
      obtain ⟨rfl, hsp⟩ := hj
      exact .inr (.inr (.inl ⟨rfl, hmem, hsp, rfl⟩))
    · rw [if_neg hj]
      exact .inl rfl
  | run hmem ht hs =>
    rw [asks_of_run hmem ht]
    obtain ⟨-, hr⟩ | ⟨hw, c₁, goal, after, hr, -, rfl⟩ := operations_taskStep hs
    · exact .inl (phase?_congr hr k)
    · have hr' : c₁.refresher = c.refresher := hr
      rw [phase?_join (hr' ▸ h.sound), hr']
      by_cases hn : c.refresher.pending = none ∧ k = c.refresher.operations.length
      · rw [if_pos hn]
        exact .inr (.inl ⟨by simp [show c.wants _ _ = true from hw, hn.1], hn.2, rfl⟩)
      · rw [if_neg hn]
        exact .inl rfl
  | vain _ _ => exact .inl rfl
  | drop _ _ hd =>
    left
    obtain ⟨hr, -⟩ | ⟨j, -, hr⟩ := hd.refresher
    · rw [hr]
    · rw [hr, Refresher.phase?_leave]
  | answer j a hp =>
    obtain ⟨epoch, he⟩ := Refresher.exists_epoch?_of_phase? hp
    have hr : (c.refreshed j a).refresher = (c.refresher.answer j a c.tokens).1 := by
      simp [refreshed, hp]
    rw [hr, Refresher.phase?_answer hp he]
    by_cases hj : j = k
    · subst hj
      exact .inr (.inr (.inr ⟨a, epoch, rfl, hp, he, by simp⟩))
    · rw [if_neg hj]
      exact .inl rfl
  | onward _ _ _ ho _ => exact .inl (by rw [ho.refresher])
  | retry _ _ ha =>
    rw [phase?_join h.sound]
    by_cases hn : c.refresher.pending = none ∧ k = c.refresher.operations.length
    · rw [if_pos hn]
      exact .inr (.inl ⟨by simp [ha, hn.1], hn.2, rfl⟩)
    · rw [if_neg hn]
      exact .inl rfl

theorem phase?_apply_of_over (h : Orderly none c) (e : Event) {p : Phase}
    (hp : c.refresher.phase? k = some p) (hl : p.isLive = false) :
    (c.apply e).refresher.phase? k = some p := by
  obtain he | ⟨-, rfl, -⟩ | ⟨-, -, hs, -⟩ | ⟨-, -, -, hs, -, -⟩ := phase?_apply h e k
  · rwa [he]
  · exact absurd (c.refresher.lt_of_phase? _ hp) (Nat.lt_irrefl _)
  · cases Option.some.inj (hp.symm.trans hs)
    cases hl
  · cases Option.some.inj (hp.symm.trans hs)
    cases hl

theorem epoch?_apply (h : Orderly none c) (e : Event) (k : Nat) :
    (c.apply e).refresher.epoch? k =
      if c.starts e = true ∧ k = c.refresher.operations.length then
        some (c.apply e).tokens.epoch
      else c.refresher.epoch? k := by
  have hm := apply_move c e
  generalize c.apply e = c' at hm
  unfold starts
  cases hm with
  | calm hr _ _ ha => simp [hr, ha]
  | spawn goal => simp [spawn, asks]
  | call k _ => simp [asks]
  | run hmem ht hs =>
    rw [asks_of_run hmem ht]
    obtain ⟨hw, hr⟩ | ⟨hw, c₁, goal, after, hr, -, rfl⟩ := operations_taskStep hs
    · rw [epoch?_congr hr, if_neg (by rw [show c.wants _ _ = false from hw]; simp)]
      rfl
    · have hr' : c₁.refresher = c.refresher := hr
      rw [epoch?_join (hr' ▸ h.sound), hr', show c.wants _ _ = true from hw]
      simp
  | vain _ ht => simp [asks, ht, taking]
  | drop _ _ hd =>
    obtain ⟨hr, -⟩ | ⟨k, -, hr⟩ := hd.refresher
    · simp [hr, asks]
    · simp [hr, asks]
  | answer k a hp => simp [refreshed, hp, Refresher.epoch?_answer, asks]
  | onward _ _ _ ho ha => simp [ho.refresher, ha]
  | retry _ _ ha => simp [epoch?_join h.sound, ha]

/-- The operation that a call for a refresh is given: the pending one, or the next to start. -/
def given (c : Console) : Nat :=
  c.refresher.pending.getD c.refresher.operations.length

theorem join_awaits (h : c.refresher.Sound) (goal : Goal) (after : After) {task : Task}
    (ht : c.tasks[t]? = some task) :
    ((c.refresher.pending = none ∨ c.refresher.isLive c.given = true) ∧
      (c.join t goal after).awaited? t = some c.given ∧
      (c.join t goal after).refresher.pending = some c.given) ∨
    (c.refresher.pending = some c.given ∧ c.refresher.phase? c.given = some .crashed ∧
      (c.join t goal after).refresher.pending = none ∧
      ∃ r, (c.join t goal after).stage? t = some (.ended r)) := by
  have hst : c.stage? t = some task.stage := by simp [stage?, ht]
  obtain ⟨hp, hj⟩ | ⟨k, hp, hl, hj⟩ | ⟨k, hp, hc, hj⟩ := join_cases h t goal after
  · have hg : c.given = c.refresher.operations.length := by simp [given, hp]
    refine .inl ⟨.inl hp, ?_, ?_⟩
    · rw [hj, startFor, waitFor_awaited?, if_pos rfl, hg]
      have : ({ c with
          refresher := c.refresher.start c.tokens.epoch
          ready := c.ready ++ [.operation c.refresher.operations.length] } : Console).stage? t =
          some task.stage := hst
      rw [this]
      rfl
    · rw [hj, hg]
      rfl
  · have hg : c.given = k := by simp [given, hp]
    refine .inl ⟨.inr (hg ▸ hl), ?_, ?_⟩
    · rw [hj, waitFor_awaited?, if_pos rfl, hst, hg]
      rfl
    · rw [hj, hg]
      exact hp
  · have hg : c.given = k := by simp [given, hp]
    refine .inr ⟨hg ▸ hp, hg ▸ hc, ?_, ?_⟩
    · rw [hj, (proceed_onward goal _ after).refresher]
      simp [Refresher.pending_release, hp]
    · rw [hj]
      exact ⟨_, stage?_proceed_error (c := { c with refresher := c.refresher.release k }) goal _
        after ht⟩

theorem waitFor_task (c : Console) (t k : Nat) (after : After) :
    (c.waitFor t k after).tasks[t]? =
      c.tasks[t]?.map fun task => { task with stage := .joined k after } := by
  simp [waitFor, setStage]

theorem join_waits (h : c.refresher.Sound) {goal : Goal} {after : After} {task : Task}
    (ht : c.tasks[t]? = some task) (hw : (c.join t goal after).awaited? t = some k) :
    (c.join t goal after).tasks[t]? = some { task with stage := .joined k after } ∧
      (c.join t goal after).tokens = c.tokens := by
  have hst : c.stage? t = some task.stage := by simp [stage?, ht]
  obtain ⟨-, hj⟩ | ⟨j, -, -, hj⟩ | ⟨j, -, -, hj⟩ := join_cases h t goal after
  · rw [hj, startFor, waitFor_awaited?, if_pos rfl] at hw
    obtain ⟨_, -, rfl⟩ := Option.map_eq_some_iff.1 hw
    rw [hj, startFor, waitFor_task]
    exact ⟨by simp [ht], rfl⟩
  · rw [hj, waitFor_awaited?, if_pos rfl] at hw
    obtain ⟨_, -, rfl⟩ := Option.map_eq_some_iff.1 hw
    rw [hj, waitFor_task]
    exact ⟨by simp [ht], rfl⟩
  · rw [hj, (proceed_onward goal _ after).awaited?, if_pos rfl] at hw
    cases hw

theorem asks_awaits (h : Orderly none c) {e : Event} (ha : c.asks e = some t) :
    ((c.refresher.pending = none ∨ c.refresher.isLive c.given = true) ∧
      (c.apply e).awaited? t = some c.given ∧
      (c.apply e).refresher.pending = some c.given) ∨
    (c.refresher.pending = some c.given ∧ c.refresher.phase? c.given = some .crashed ∧
      (c.apply e).refresher.pending = none ∧
      ∃ r, (c.apply e).stage? t = some (.ended r)) := by
  have hm := apply_move c e
  generalize c.apply e = c' at hm
  cases hm with
  | calm _ _ _ hn => simp [hn] at ha
  | spawn goal => simp [asks] at ha
  | call k _ => simp [asks] at ha
  | run hmem ht hs =>
    rw [asks_of_run hmem ht] at ha
    obtain ⟨hw, -⟩ | ⟨hw, c₁, goal, after, hr, htk, rfl⟩ := operations_taskStep hs
    · rw [if_neg (by rw [show c.wants _ _ = false from hw]; simp)] at ha
      cases ha
    · rw [if_pos (show c.wants _ _ = true from hw)] at ha
      cases ha
      have hr' : c₁.refresher = c.refresher := hr
      have hgiven : c₁.given = c.given := by simp [given, hr']
      have hj := join_awaits (hr' ▸ h.sound) goal after (htk ▸ ht)
      rwa [hr', hgiven] at hj
  | vain _ ht => simp [asks, ht] at ha
  | drop _ _ _ => simp [asks] at ha
  | answer k a _ => simp [asks] at ha
  | onward _ _ _ _ hn => simp [hn] at ha
  | retry ht _ hr =>
    rw [hr] at ha
    cases ha
    exact join_awaits h.sound _ _ ht

theorem join_joined (h : c.refresher.Sound) (goal : Goal) (after : After) {u : Nat}
    {after' : After} (hu : (c.join t goal after).stage? u = some (.joined k after')) :
    c.stage? u = some (.joined k after') ∨ u = t ∧ k = c.given ∧ after' = after := by
  obtain ⟨hp, hj⟩ | ⟨j, hp, -, hj⟩ | ⟨j, -, -, hj⟩ := join_cases h t goal after
  · rw [hj, startFor, waitFor_stage?] at hu
    split at hu
    next e =>
      obtain ⟨_, -, hs⟩ := Option.map_eq_some_iff.1 hu
      cases hs
      exact .inr ⟨e.symm, by simp [given, hp], rfl⟩
    next => exact .inl hu
  · rw [hj, waitFor_stage?] at hu
    split at hu
    next e =>
      obtain ⟨_, -, hs⟩ := Option.map_eq_some_iff.1 hu
      cases hs
      exact .inr ⟨e.symm, by simp [given, hp], rfl⟩
    next => exact .inl hu
  · rw [hj] at hu
    have hu' := (proceed_onward goal _ after).joined hu
    exact .inl hu'

theorem joined_apply (h : Orderly none c) {e : Event} {u : Nat} {after : After}
    (hu : (c.apply e).stage? u = some (.joined k after)) :
    c.stage? u = some (.joined k after) ∨
      c.asks e = some u ∧ k = c.given ∧ ∀ now, after = .project now → c.clock? e = some now := by
  have hm := apply_move c e
  generalize c.apply e = c' at hm hu
  cases hm with
  | calm _ ht _ _ => exact .inl (by simpa [stage?, ht] using hu)
  | spawn goal =>
    obtain hs | ⟨-, hs⟩ := spawn_stage? c goal u
    · exact .inl (hs ▸ hu)
    · rw [hu] at hs
      cases hs
  | call j _ => exact .inl hu
  | @run t task c' hmem ht hs =>
    rw [asks_of_run hmem ht]
    cases hs with
    | rest _ _ _ => exact .inl hu
    | pass _ _ _ ho _ _ => exact .inl (ho.joined hu)
    | judge p _ _ _ _ _ =>
      have hu' := (project_onward _ _).joined hu
      exact .inl hu'
    | gate p tokens hw hg _ _ _ =>
      rw [if_pos (show c.wants _ _ = true from hw)]
      obtain hu | ⟨rfl, hk, rfl⟩ := join_joined (c := { c.taking (.task t) with
        provider := p, tokens := tokens }) h.sound _ _ hu
      · exact .inl hu
      · refine .inr ⟨rfl, hk, fun now hn => ?_⟩
        cases hn
        simp [clock?, ht, hmem, show c.gates _ _ = true from hg, taking]
    | ask hw _ _ _ =>
      rw [if_pos (show c.wants _ _ = true from hw)]
      obtain hu | ⟨rfl, hk, rfl⟩ := join_joined (c := c.taking (.task t)) h.sound _ _ hu
      · exact .inl hu
      · exact .inr ⟨rfl, hk, by simp⟩
    | collect j after o r _ _ _ _ =>
      have hu' := (proceed_onward _ o after).joined hu
      exact .inl hu'
  | vain _ _ => exact .inl hu
  | drop _ _ hd =>
    rw [hd.stage?] at hu
    split at hu
    next =>
      obtain ⟨_, -, hs⟩ := Option.map_eq_some_iff.1 hu
      cases hs
    next => exact .inl hu
  | answer j a hp => exact .inl (by simpa [refreshed, hp, stage?] using hu)
  | onward _ _ _ ho _ => exact .inl (ho.joined hu)
  | retry _ _ ha =>
    obtain hu | ⟨rfl, hk, rfl⟩ := join_joined h.sound _ _ hu
    · exact .inl hu
    · exact .inr ⟨ha, hk, by simp⟩

theorem awaited?_apply (h : Orderly none c) {e : Event} {u : Nat}
    (hu : (c.apply e).awaited? u = some k) :
    c.awaited? u = some k ∨ c.asks e = some u ∧ k = c.given := by
  obtain ⟨after, hu⟩ := awaited?_eq_some.1 hu
  obtain hu | ⟨ha, hk, -⟩ := joined_apply h hu
  · exact .inl (awaited?_eq_some.2 ⟨after, hu⟩)
  · exact .inr ⟨ha, hk⟩

end ConsoleSession.Console
