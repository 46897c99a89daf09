import ConsoleSession.Proofs.Moves

/-!
# Runs from a fresh console, and what holds all along them

A run may take the events of its console in any order. `Orderly` is the invariant of the refresh:
beside the soundness of the refresher, an operation not yet running is ready to, whoever waits for a
live operation sits in its line, and whoever waits for one that is over is ready to go on.
-/

namespace ConsoleSession.Console

/-- Nothing has happened yet; the token store may hold anything. -/
structure Fresh (c : Console) : Prop where
  refresher : c.refresher = {}
  provider : c.provider = {}
  tasks : c.tasks = []
  ready : c.ready = []

def blank : Console where
  now := 0
  base := ""
  loginBase := ""
  guard := ⟨"/login", [], none⟩
  redirects := .memory none

theorem fresh_blank : blank.Fresh :=
  ⟨rfl, rfl, rfl, rfl⟩

variable {c c' c₀ : Console} {t u k : Nat}

theorem run_append (c : Console) (es fs : List Event) : c.run (es ++ fs) = (c.run es).run fs :=
  List.foldl_append

theorem run_snoc (c : Console) (es : List Event) (e : Event) :
    c.run (es ++ [e]) = (c.run es).apply e :=
  run_append c es [e]

theorem run_invariant {P : Console → Prop} (h : P c) (step : ∀ c e, P c → P (c.apply e))
    (es : List Event) : P (c.run es) := by
  induction es generalizing c with
  | nil => exact h
  | cons e es ih => exact ih (step c e h)

def Along (P : Console → Event → Prop) (c : Console) : List Event → Prop
  | [] => True
  | e :: es => P c e ∧ Along P (c.apply e) es

instance decidableAlong (P : Console → Event → Prop) [∀ c e, Decidable (P c e)] :
    (c : Console) → (es : List Event) → Decidable (c.Along P es)
  | _, [] => instDecidableTrue
  | c, e :: es =>
    have := decidableAlong P (c.apply e) es
    inferInstanceAs (Decidable (P c e ∧ Along P (c.apply e) es))

theorem along_append (P : Console → Event → Prop) (c : Console) (es fs : List Event) :
    c.Along P (es ++ fs) ↔ c.Along P es ∧ (c.run es).Along P fs := by
  induction es generalizing c with
  | nil => exact (iff_of_eq (true_and _)).symm
  | cons e es ih =>
    show P c e ∧ Along P (c.apply e) (es ++ fs) ↔
      (P c e ∧ Along P (c.apply e) es) ∧ ((c.apply e).run es).Along P fs
    rw [ih, and_assoc]

theorem along_snoc (P : Console → Event → Prop) (c : Console) (es : List Event) (e : Event) :
    c.Along P (es ++ [e]) ↔ c.Along P es ∧ P (c.run es) e := by
  rw [along_append]
  exact and_congr_right fun _ => iff_of_eq (and_true _)

/-- `busy` is the task whose code runs, if any; it need not be ready. -/
structure Orderly (busy : Option Nat) (c : Console) : Prop where
  sound : c.refresher.Sound
  spawned : ∀ k, c.refresher.phase? k = some .spawned → .operation k ∈ c.ready
  started : ∀ t k, c.awaited? t = some k → k < c.refresher.operations.length
  seated : ∀ t k, c.awaited? t = some k → c.refresher.isLive k = true →
    t ∈ c.refresher.waiting k
  woken : ∀ t k, some t ≠ busy → c.awaited? t = some k → c.refresher.isLive k = false →
    .task t ∈ c.ready

theorem Fresh.orderly (h : c.Fresh) : Orderly none c := by
  have hn : ∀ t, c.awaited? t = none := by simp [awaited?, stage?, h.tasks]
  refine ⟨h.refresher ▸ Refresher.sound_nil, ?_, ?_, ?_, ?_⟩
  · simp [h.refresher, Refresher.phase?]
  all_goals simp [hn]

theorem Orderly.finds (h : Orderly none c) (hw : c.awaited? t = some k)
    (hl : c.refresher.isLive k = false) :
    .task t ∈ c.ready ∧ ∃ o r, c.refresher.collect k = (some o, r) := by
  refine ⟨h.woken t k (by simp) hw hl, ?_⟩
  rcases hc : c.refresher.collect k with ⟨_ | o, r⟩
  · rw [Refresher.isLive_of_collect (by rw [hc]) (h.started t k hw)] at hl
    cases hl
  · exact ⟨o, r, rfl⟩

theorem Orderly.busy {busy : Option Nat} (h : Orderly none c) : Orderly busy c :=
  ⟨h.sound, h.spawned, h.started, h.seated, fun t k _ => h.woken t k (by simp)⟩

theorem Orderly.congr {busy : Option Nat} (h : Orderly busy c) (hr : c'.refresher = c.refresher)
    (ht : c'.tasks = c.tasks) (hd : c'.ready = c.ready) : Orderly busy c' := by
  have ha : ∀ t, c'.awaited? t = c.awaited? t := by simp [awaited?, stage?, ht]
  refine ⟨hr ▸ h.sound, fun k => ?_, fun t k => ?_, fun t k => ?_, fun t k => ?_⟩
  · rw [hr, hd]; exact h.spawned k
  · rw [ha, hr]; exact h.started t k
  · rw [ha, hr]; exact h.seated t k
  · rw [ha, hr, hd]; exact h.woken t k

theorem Orderly.onward (h : Orderly (some t) c) (ho : Onward t c c') : Orderly none c' := by
  obtain ⟨ts, hts⟩ := ho.ready
  have ha : ∀ u k, c'.awaited? u = some k → u ≠ t ∧ c.awaited? u = some k := by
    intro u k hu
    rw [ho.awaited?] at hu
    split at hu
    · cases hu
    · exact ⟨‹_›, hu⟩
  refine ⟨ho.refresher ▸ h.sound, fun k hk => ?_, fun u k hu => ?_, fun u k hu => ?_,
    fun u k _ hu hl => ?_⟩
  · rw [hts]
    exact List.mem_append_left _ (h.spawned k (ho.refresher ▸ hk))
  · rw [ho.refresher]
    exact h.started u k (ha u k hu).2
  · rw [ho.refresher]
    exact h.seated u k (ha u k hu).2
  · rw [hts]
    rw [ho.refresher] at hl
    obtain ⟨hne, hu⟩ := ha u k hu
    exact List.mem_append_left _ (h.woken u k (by simpa using hne) hu hl)

theorem Orderly.release {busy : Option Nat} (h : Orderly busy c)
    (hk : c.refresher.isLive k = false) :
    Orderly busy { c with refresher := c.refresher.release k } := by
  refine ⟨h.sound.release hk, fun j hj => h.spawned j (by simpa using hj), fun u j hu => ?_,
    fun u j hu hl => ?_, fun u j hb hu hl => ?_⟩
  · simpa [Refresher.release_operations] using h.started u j hu
  · simpa using h.seated u j hu (by simpa [Refresher.isLive] using hl)
  · exact h.woken u j hb hu (by simpa [Refresher.isLive] using hl)

theorem Orderly.collect {busy : Option Nat} (h : Orderly busy c) (k : Nat) :
    Orderly busy { c with refresher := (c.refresher.collect k).2 } := by
  obtain ⟨o, -, hc⟩ | ⟨hp, hc⟩ | ⟨-, hc⟩ := c.refresher.collect_cases k
  · rw [hc]
    exact h
  · rw [hc]
    exact h.release (c.refresher.isLive_of_phase? k hp)
  · rw [hc]
    exact h

theorem waitFor_stage? (c : Console) (t k u : Nat) (after : After) :
    (c.waitFor t k after).stage? u =
      if t = u then (c.stage? u).map fun _ => .joined k after else c.stage? u :=
  stage?_setStage _

theorem waitFor_awaited? (c : Console) (t k u : Nat) (after : After) :
    (c.waitFor t k after).awaited? u =
      if t = u then (c.stage? u).map fun _ => k else c.awaited? u := by
  rw [awaited?, waitFor_stage?]
  by_cases hu : t = u
  · rcases c.stage? u with _ | s <;> simp [hu, Stage.operation?]
  · rw [if_neg hu, if_neg hu, awaited?]

theorem Orderly.waitFor (h : Orderly (some t) c) (hk : c.refresher.isLive k = true) (after : After) :
    Orderly none (c.waitFor t k after) := by
  have hlt : k < c.refresher.operations.length := c.refresher.lt_of_isLive k hk
  have ha : ∀ u j, (c.waitFor t k after).awaited? u = some j →
      (u = t ∧ j = k) ∨ (u ≠ t ∧ c.awaited? u = some j) := by
    intro u j hu
    rw [waitFor_awaited?] at hu
    split at hu
    next e =>
      obtain ⟨_, -, rfl⟩ := Option.map_eq_some_iff.1 hu
      exact .inl ⟨e.symm, rfl⟩
    next e => exact .inr ⟨fun h => e h.symm, hu⟩
  have hlive : ∀ j, (c.waitFor t k after).refresher.isLive j = c.refresher.isLive j := by
    intro j
    simp [Console.waitFor, setStage, Refresher.isLive]
  refine ⟨h.sound.wait, fun j hj => h.spawned j ?_, fun u j hu => ?_, fun u j hu hl => ?_,
    fun u j _ hu hl => ?_⟩
  · simpa [Console.waitFor, setStage] using hj
  · have : (c.waitFor t k after).refresher.operations.length = c.refresher.operations.length :=
      c.refresher.length_modify k _
    rw [this]
    obtain ⟨-, rfl⟩ | ⟨-, hu⟩ := ha u j hu
    · exact hlt
    · exact h.started u j hu
  · obtain ⟨rfl, rfl⟩ | ⟨-, hu⟩ := ha u j hu
    · exact Refresher.mem_waiting_wait_self h.sound hlt
    · exact Refresher.mem_waiting_wait h.sound (h.seated u j hu (hlive j ▸ hl))
  · rw [hlive] at hl
    obtain ⟨-, rfl⟩ | ⟨hne, hu⟩ := ha u j hu
    · rw [hk] at hl
      cases hl
    · exact h.woken u j (by simpa using hne) hu hl

theorem isLive_start (r : Refresher) (epoch : UInt64) (j : Nat) :
    (r.start epoch).isLive j = (decide (j = r.operations.length) || r.isLive j) := by
  rw [Refresher.isLive, Refresher.phase?_start]
  by_cases hj : j = r.operations.length
  · simp [hj, Phase.isLive]
  · simp [hj, Refresher.isLive]

theorem Orderly.startFor (h : Orderly (some t) c) (hp : c.refresher.pending = none)
    (after : After) : Orderly none (c.startFor t after) := by
  refine Orderly.waitFor ⟨h.sound.start hp, fun j hj => ?_, fun u j hu => ?_, fun u j hu hl => ?_,
    fun u j hb hu hl => ?_⟩ (by simp [isLive_start]) after
  · dsimp only at hj ⊢
    rw [Refresher.phase?_start] at hj
    split at hj
    next e => simp [e]
    next => exact List.mem_append_left _ (h.spawned j hj)
  · have : j < c.refresher.operations.length := h.started u j hu
    simp only [Refresher.start, List.length_append, List.length_singleton]
    omega
  · have hj := h.started u j hu
    have hl' : c.refresher.isLive j = true := by
      simpa [isLive_start, Nat.ne_of_lt hj] using hl
    simpa only [Refresher.waiting_start_of_lt _ hj] using h.seated u j hu hl'
  · have hl' : c.refresher.isLive j = false := by
      simp only [isLive_start, Bool.or_eq_false_iff] at hl
      exact hl.2
    exact List.mem_append_left _ (h.woken u j hb hu hl')

theorem Orderly.join (h : Orderly (some t) c) (goal : Goal) (after : After) :
    Orderly none (c.join t goal after) := by
  obtain ⟨hp, hj⟩ | ⟨k, -, hl, hj⟩ | ⟨k, -, hc, hj⟩ := join_cases h.sound t goal after
  · exact hj ▸ h.startFor hp after
  · exact hj ▸ h.waitFor hl after
  · rw [hj]
    have hr := h.release (c.refresher.isLive_of_phase? k hc)
    exact hr.onward (proceed_onward goal _ after)

theorem awaited?_of_task {task : Task} (ht : c.tasks[t]? = some task) :
    c.awaited? t = task.stage.operation? := by
  simp [awaited?, stage?, ht]

theorem Orderly.taking (h : Orderly none c) (t : Nat) :
    Orderly (some t) (c.taking (.task t)) := by
  refine ⟨h.sound, fun k hk => ?_, h.started, h.seated, fun u k hb hu hl => ?_⟩
  · exact (List.mem_erase_of_ne (by simp)).2 (h.spawned k hk)
  · refine (List.mem_erase_of_ne ?_).2 (h.woken u k (by simp) hu hl)
    simpa using hb

theorem Orderly.taskStep (h : Orderly (some t) c) {task : Task} (ht : c.tasks[t]? = some task)
    (hs : TaskStep c t task c') : Orderly none c' := by
  cases hs with
  | rest _ _ hcol =>
    refine ⟨h.sound, h.spawned, h.started, h.seated, fun u k _ hu hl => ?_⟩
    by_cases hut : u = t
    · -- it rests only while its operation is live, so it need not be ready
      subst hut
      have hnone := hcol k (awaited?_of_task ht ▸ hu)
      rw [Refresher.isLive_of_collect hnone (h.started u k hu)] at hl
      cases hl
    · exact h.woken u k (by simpa using hut) hu hl
  | pass _ _ _ ho _ _ => exact h.onward ho
  | judge p _ _ _ _ _ =>
    have h' : Orderly (some t) { c with provider := p } := h.congr rfl rfl rfl
    exact h'.onward (project_onward _ _)
  | gate p tokens _ _ _ _ _ =>
    have h' : Orderly (some t) { c with provider := p, tokens := tokens } := h.congr rfl rfl rfl
    exact h'.join _ _
  | ask _ _ _ _ => exact h.join _ _
  | collect k after o r _ _ _ hc =>
    have hr := h.collect k
    rw [hc] at hr
    exact hr.onward (proceed_onward _ o after)

theorem spawn_stage? (c : Console) (goal : Goal) (u : Nat) :
    (c.spawn goal).stage? u = c.stage? u ∨
      c.stage? u = none ∧ (c.spawn goal).stage? u = some .fresh := by
  rcases Nat.lt_trichotomy u c.tasks.length with hu | rfl | hu
  · exact .inl (by simp [stage?, spawn, List.getElem?_append_left hu])
  · exact .inr (by simp [stage?, spawn])
  · left
    have hn : c.tasks[u]? = none := List.getElem?_eq_none_iff.2 (Nat.le_of_lt hu)
    have hn' : (c.spawn goal).tasks[u]? = none := List.getElem?_eq_none_iff.2 (by simpa [spawn])
    simp [stage?, hn, hn']

theorem awaited?_spawn (c : Console) (goal : Goal) (u : Nat) :
    (c.spawn goal).awaited? u = c.awaited? u := by
  obtain hs | ⟨hn, hs⟩ := spawn_stage? c goal u
  · rw [awaited?, hs, awaited?]
  · rw [awaited?, hs, awaited?, hn]
    rfl

theorem Orderly.spawn (h : Orderly none c) (goal : Goal) : Orderly none (c.spawn goal) := by
  refine ⟨h.sound, fun k hk => List.mem_append_left _ (h.spawned k hk), fun u k hu => ?_,
    fun u k hu hl => ?_, fun u k hb hu hl => ?_⟩
  all_goals rw [awaited?_spawn] at hu
  · exact h.started u k hu
  · exact h.seated u k hu hl
  · exact List.mem_append_left _ (h.woken u k hb hu hl)

theorem Orderly.call (h : Orderly none c) (k : Nat) :
    Orderly none { c.taking (.operation k) with refresher := c.refresher.call k } := by
  have hlive : ∀ j, (c.refresher.call k).isLive j = c.refresher.isLive j := by
    intro j
    rw [Refresher.isLive, Refresher.phase?_call]
    split
    next e => exact (c.refresher.isLive_of_phase? j e.2).symm
    next => rfl
  refine ⟨h.sound.call, fun j hj => ?_, fun u j hu => ?_, fun u j hu hl => ?_,
    fun u j hb hu hl => ?_⟩
  · dsimp only at hj
    rw [Refresher.phase?_call] at hj
    split at hj
    next => cases hj
    next hne =>
      refine (List.mem_erase_of_ne ?_).2 (h.spawned j hj)
      rintro ⟨⟩
      exact hne ⟨rfl, hj⟩
  · simpa [Refresher.call] using h.started u j hu
  · rw [Refresher.waiting_call]
    exact h.seated u j hu (hlive j ▸ hl)
  · exact (List.mem_erase_of_ne (by simp)).2 (h.woken u j hb hu (hlive j ▸ hl))

theorem Orderly.answer (h : Orderly none c) {a : RefreshAnswer}
    (hp : c.refresher.phase? k = some .calling) : Orderly none (c.refreshed k a) := by
  obtain ⟨epoch, he⟩ := Refresher.exists_epoch?_of_phase? hp
  have hc : c.refreshed k a = { c with
      refresher := (c.refresher.answer k a c.tokens).1
      tokens := (c.refresher.answer k a c.tokens).2
      ready := c.ready ++ ((c.refresher.answer k a c.tokens).1.waiting k).map .task } := by
    simp [refreshed, hp]
  have hphase := fun j => Refresher.phase?_answer (j := j) (a := a) (s := c.tokens) hp he
  rw [hc]
  refine ⟨h.sound.answer, fun j hj => ?_, fun u j hu => ?_, fun u j hu hl => ?_,
    fun u j hb hu hl => ?_⟩
  · dsimp only at hj ⊢
    rw [hphase] at hj
    split at hj
    next =>
      have := Refresher.judge_isLive c.tokens epoch a
      rw [Option.some.inj hj] at this
      cases this
    next => exact List.mem_append_left _ (h.spawned j hj)
  · rw [Refresher.length_answer]
    exact h.started u j hu
  · rw [Refresher.waiting_answer]
    refine h.seated u j hu ?_
    simp only [Refresher.isLive, hphase] at hl
    split at hl
    next => simp [Refresher.judge_isLive] at hl
    next => exact hl
  · dsimp only
    by_cases hkj : k = j
    · subst hkj
      have hlive : c.refresher.isLive k = true := c.refresher.isLive_of_phase? k hp
      rw [Refresher.waiting_answer]
      exact List.mem_append_right _ (List.mem_map_of_mem (h.seated u k hu hlive))
    · refine List.mem_append_left _ (h.woken u j hb hu ?_)
      simpa [Refresher.isLive, hphase, hkj] using hl

theorem Dropped.stage? {task : Task} (hd : Dropped t task c c') :
    c'.stage? u = if t = u then (c.stage? u).map fun _ => .dropped else c.stage? u := by
  rw [stage?_modify _ hd.tasks]
  simp [Console.stage?, Function.comp_def]

theorem Dropped.awaited? {task : Task} (hd : Dropped t task c c') :
    c'.awaited? u = if u = t then none else c.awaited? u := by
  rw [Console.awaited?, hd.stage?]
  by_cases hu : u = t
  · rw [if_pos hu.symm, if_pos hu]
    rcases c.stage? u with _ | s <;> rfl
  · rw [if_neg fun e => hu e.symm, if_neg hu, Console.awaited?]

theorem Orderly.drop (h : Orderly none c) {task : Task} (hd : Dropped t task c c') :
    Orderly none c' := by
  obtain ⟨ts, hts⟩ := hd.ready
  have ha : ∀ u k, c'.awaited? u = some k → u ≠ t ∧ c.awaited? u = some k := by
    intro u k hu
    rw [hd.awaited?] at hu
    split at hu
    · cases hu
    · exact ⟨‹_›, hu⟩
  have hr : c'.refresher.Sound ∧ (∀ k, c'.refresher.phase? k = c.refresher.phase? k) ∧
      c'.refresher.operations.length = c.refresher.operations.length ∧
      ∀ u k, u ≠ t → u ∈ c.refresher.waiting k → u ∈ c'.refresher.waiting k := by
    obtain ⟨e, -⟩ | ⟨j, -, e⟩ := hd.refresher
    · rw [e]
      exact ⟨h.sound, fun _ => rfl, rfl, fun _ _ _ hu => hu⟩
    · rw [e]
      exact ⟨h.sound.leave, fun k => c.refresher.phase?_leave j k t, c.refresher.length_modify j _,
        fun u k hne hu => Refresher.mem_waiting_leave hne hu⟩
  obtain ⟨hsound, hphase, hlen, hwait⟩ := hr
  refine ⟨hsound, fun k hk => ?_, fun u k hu => ?_, fun u k hu hl => ?_, fun u k hb hu hl => ?_⟩
  · rw [hts]
    exact List.mem_append_left _
      ((List.mem_erase_of_ne (by simp)).2 (h.spawned k (hphase k ▸ hk)))
  · rw [hlen]
    exact h.started u k (ha u k hu).2
  · obtain ⟨hne, hu⟩ := ha u k hu
    exact hwait u k hne (h.seated u k hu (by simpa [Refresher.isLive, hphase] using hl))
  · obtain ⟨hne, hu⟩ := ha u k hu
    rw [hts]
    refine List.mem_append_left _ ((List.mem_erase_of_ne (by simpa using hne)).2 ?_)
    exact h.woken u k hb hu (by simpa [Refresher.isLive, hphase] using hl)

theorem Orderly.apply (h : Orderly none c) (e : Event) : Orderly none (c.apply e) := by
  have hm := apply_move c e
  generalize c.apply e = c' at hm
  cases hm with
  | calm hr ht hd _ => exact h.congr hr ht hd
  | spawn goal => exact h.spawn goal
  | call k _ => exact h.call k
  | run _ ht hs => exact (h.taking _).taskStep ht hs
  | @vain t _ ht =>
    have hn : c.awaited? t = none := by simp [awaited?, stage?, ht]
    have hb := h.taking t
    refine ⟨hb.sound, hb.spawned, hb.started, hb.seated, fun u k _ hu hl => ?_⟩
    refine hb.woken u k ?_ hu hl
    rintro ⟨⟩
    exact absurd (hn.symm.trans hu) (by simp)
  | drop _ _ hd => exact h.drop hd
  | answer k a hp => exact h.answer hp
  | onward _ _ _ ho _ => exact h.busy.onward ho
  | retry _ _ _ => exact h.busy.join _ _

theorem Fresh.orderly_run (h : c₀.Fresh) (es : List Event) : Orderly none (c₀.run es) :=
  run_invariant h.orderly (fun _ e hc => hc.apply e) es

end ConsoleSession.Console
