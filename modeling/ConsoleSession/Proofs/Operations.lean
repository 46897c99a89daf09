import ConsoleSession.Session.Refresher

/-!
# Lines of waiters and the slot of the pending operation

`Refresher.Sound` is what every step of a console keeps of its refresher: an operation that is live
is the pending one, the pending one is the last that was started, and it has not settled. Sound lines
never seat a newcomer on a seat that is taken.
-/

namespace ConsoleSession

namespace Line

/-- A seat marked free is empty, and is marked once. -/
structure Sound (l : Line) : Prop where
  empty : ∀ s ∈ l.free, l.seats[s]? = some none
  nodup : l.free.Nodup

theorem sound_nil : Sound {} := ⟨by simp, by simp⟩

theorem mem_members {l : Line} {t : Nat} : t ∈ l.members ↔ some t ∈ l.seats := by
  simp [members]

theorem Sound.join {l : Line} (h : l.Sound) (t : Nat) : (l.join t).Sound := by
  obtain ⟨seats, free⟩ := l
  cases free with
  | nil => exact ⟨by simp [Line.join], by simp [Line.join]⟩
  | cons s free =>
    have hn := List.nodup_cons.1 h.nodup
    refine ⟨fun r hr => ?_, hn.2⟩
    have hne : s ≠ r := fun e => hn.1 (e ▸ hr)
    simpa [Line.join, List.getElem?_set_ne hne] using h.empty r (List.mem_cons_of_mem s hr)

theorem mem_join_self (l : Line) (h : l.Sound) (t : Nat) : t ∈ (l.join t).members := by
  obtain ⟨seats, free⟩ := l
  cases free with
  | nil => simp [Line.join, mem_members]
  | cons s free =>
    have hs : seats[s]? = some none := h.empty s List.mem_cons_self
    obtain ⟨hlt, -⟩ := List.getElem?_eq_some_iff.1 hs
    exact mem_members.2 (List.mem_iff_getElem?.2 ⟨s, by simp [Line.join, hlt]⟩)

theorem mem_join_of_mem {l : Line} (h : l.Sound) {t u : Nat} (hu : u ∈ l.members) :
    u ∈ (l.join t).members := by
  rw [mem_members] at hu ⊢
  obtain ⟨seats, free⟩ := l
  cases free with
  | nil => exact List.mem_append_left _ hu
  | cons s free =>
    obtain ⟨i, hi⟩ := List.mem_iff_getElem?.1 hu
    have hne : s ≠ i := by
      intro e
      have hs : seats[s]? = some none := h.empty s List.mem_cons_self
      simp [e, hi] at hs
    exact List.mem_iff_getElem?.2 ⟨i, by simpa [Line.join, List.getElem?_set_ne hne] using hi⟩

theorem Sound.leave {l : Line} (h : l.Sound) (t : Nat) : (l.leave t).Sound := by
  unfold Line.leave
  split
  next => exact h
  next s hs =>
    obtain ⟨hlt, ht, -⟩ := List.findIdx?_eq_some_iff_getElem.1 hs
    refine ⟨fun r hr => ?_, List.nodup_cons.2 ⟨fun hmem => ?_, h.nodup⟩⟩
    · by_cases hne : s = r
      · simp [← hne, hlt]
      · rw [List.getElem?_set_ne hne]
        exact h.empty r ((List.mem_cons.1 hr).resolve_left fun e => hne e.symm)
    · have hnone := h.empty s hmem
      rw [List.getElem?_eq_getElem hlt] at hnone
      simp [Option.some.inj hnone] at ht

theorem mem_leave_of_ne {l : Line} {t u : Nat} (hne : u ≠ t) (hu : u ∈ l.members) :
    u ∈ (l.leave t).members := by
  unfold Line.leave
  split
  next => exact hu
  next s hs =>
    rw [mem_members] at hu ⊢
    obtain ⟨i, hi⟩ := List.mem_iff_getElem?.1 hu
    have hsi : s ≠ i := by
      intro e
      obtain ⟨hlt, ht, -⟩ := List.findIdx?_eq_some_iff_getElem.1 hs
      have : l.seats[s] = some u := Option.some.inj ((List.getElem?_eq_getElem hlt).symm.trans (e ▸ hi))
      rw [this] at ht
      exact hne (by simpa using ht)
    exact List.mem_iff_getElem?.2 ⟨i, by simpa [List.getElem?_set_ne hsi] using hi⟩

end Line

namespace Refresher

variable (r : Refresher) (k j t : Nat)

def isLive : Bool := (r.phase? k).any Phase.isLive

def epoch? : Option UInt64 := r.operations[k]?.map (·.epoch)

theorem isLive_iff : r.isLive k = true ↔ r.phase? k = some .spawned ∨ r.phase? k = some .calling := by
  unfold isLive
  rcases h : r.phase? k with _ | p
  · simp
  · cases p <;> simp [Phase.isLive]

theorem isLive_of_phase? {p : Phase} (h : r.phase? k = some p) : r.isLive k = p.isLive := by
  simp [isLive, h]

theorem phase?_eq_none : r.phase? k = none ↔ r.operations.length ≤ k := by
  simp [phase?]

theorem lt_of_phase? {p : Phase} (h : r.phase? k = some p) : k < r.operations.length := by
  refine Nat.lt_of_not_le fun hk => ?_
  rw [(r.phase?_eq_none k).2 hk] at h
  cases h

theorem lt_of_isLive (h : r.isLive k = true) : k < r.operations.length := by
  rcases (r.isLive_iff k).1 h with hp | hp <;> exact r.lt_of_phase? k hp

theorem phase?_modify (f : Operation → Operation) :
    (r.modify k f).phase? j =
      if k = j then r.operations[j]?.map fun o => (f o).phase else r.phase? j := by
  by_cases h : k = j <;> simp [phase?, modify, h, Function.comp_def]

theorem epoch?_modify (f : Operation → Operation) (hf : ∀ o, (f o).epoch = o.epoch) :
    (r.modify k f).epoch? j = r.epoch? j := by
  by_cases h : k = j <;> simp [epoch?, modify, h, hf, Function.comp_def]

@[simp] theorem length_modify (f : Operation → Operation) :
    (r.modify k f).operations.length = r.operations.length := by
  simp [modify]

@[simp] theorem phase?_wait : (r.wait k t).phase? j = r.phase? j := by
  rw [wait, phase?_modify]
  split <;> rfl

@[simp] theorem phase?_leave : (r.leave k t).phase? j = r.phase? j := by
  rw [leave, phase?_modify]
  split <;> rfl

@[simp] theorem epoch?_wait : (r.wait k t).epoch? j = r.epoch? j :=
  epoch?_modify r k j _ fun _ => rfl

@[simp] theorem epoch?_leave : (r.leave k t).epoch? j = r.epoch? j :=
  epoch?_modify r k j _ fun _ => rfl

theorem phase?_call :
    (r.call k).phase? j =
      if k = j ∧ r.phase? j = some .spawned then some .calling else r.phase? j := by
  rw [call, phase?_modify]
  by_cases h : k = j
  · subst h
    rcases ho : r.operations[k]? with _ | o
    · simp [phase?, ho]
    · by_cases hp : o.phase = .spawned <;> simp [phase?, ho, hp]
  · simp [h]

@[simp] theorem epoch?_call : (r.call k).epoch? j = r.epoch? j :=
  epoch?_modify r k j _ fun o => by split <;> rfl

theorem getElem?_start (epoch : UInt64) :
    (r.start epoch).operations[j]? =
      if j = r.operations.length then some { epoch := epoch } else r.operations[j]? := by
  by_cases h : j = r.operations.length
  · simp [start, h]
  · rw [if_neg h, start]
    rcases Nat.lt_or_gt_of_ne h with hlt | hgt
    · exact List.getElem?_append_left hlt
    · rw [List.getElem?_eq_none_iff.2 (by simpa using Nat.succ_le_of_lt hgt),
        List.getElem?_eq_none_iff.2 (by omega)]

theorem phase?_start (epoch : UInt64) :
    (r.start epoch).phase? j =
      if j = r.operations.length then some .spawned else r.phase? j := by
  rw [phase?, getElem?_start]
  split <;> rfl

theorem epoch?_start (epoch : UInt64) :
    (r.start epoch).epoch? j =
      if j = r.operations.length then some epoch else r.epoch? j := by
  rw [epoch?, getElem?_start]
  split <;> rfl

theorem release_operations : (r.release k).operations = r.operations := by
  unfold release
  split <;> rfl

@[simp] theorem phase?_release : (r.release k).phase? j = r.phase? j := by
  simp [phase?, release_operations]

@[simp] theorem epoch?_release : (r.release k).epoch? j = r.epoch? j := by
  simp [epoch?, release_operations]

theorem pending_release :
    (r.release k).pending = if r.pending = some k then none else r.pending := by
  unfold release
  split <;> rfl

theorem waiting_modify (f : Operation → Operation) :
    (r.modify k f).waiting j =
      if k = j then (r.operations[j]?.map fun o => (f o).line.members).getD [] else r.waiting j := by
  by_cases h : k = j <;> simp [waiting, modify, h, Function.comp_def]

@[simp] theorem waiting_call : (r.call k).waiting j = r.waiting j := by
  rw [call, waiting_modify]
  split
  · simp only [waiting]
    congr 2
    funext o
    split <;> rfl
  · rfl

@[simp] theorem waiting_release : (r.release k).waiting j = r.waiting j := by
  simp [waiting, release_operations]

variable {r k j t}

theorem mem_waiting {u : Nat} :
    u ∈ r.waiting k ↔ ∃ o, r.operations[k]? = some o ∧ u ∈ o.line.members := by
  rcases h : r.operations[k]? with _ | o <;> simp [waiting, h]

theorem waiting_start_of_lt (epoch : UInt64) (h : k < r.operations.length) :
    (r.start epoch).waiting k = r.waiting k := by
  rw [waiting, getElem?_start, if_neg (by omega), waiting]

theorem judge_isLive (s : TokenStore) (epoch : UInt64) (a : RefreshAnswer) :
    (judge s epoch a).1.isLive = false := by
  cases a with
  | token t =>
    by_cases h : s.accepts t epoch = true <;>
      simp [judge, TokenStore.setIfEpoch, h, Phase.isLive]
  | error e => rfl
  | crash => rfl

variable {a : RefreshAnswer} {s : TokenStore} {epoch : UInt64}

theorem answer_eq (hp : r.phase? k = some .calling) (he : r.epoch? k = some epoch) :
    r.answer k a s =
      (let r' := r.modify k fun o => { o with phase := (judge s epoch a).1 }
       if (judge s epoch a).1 = .crashed then r' else r'.release k, (judge s epoch a).2) := by
  obtain ⟨o, ho, hop⟩ := Option.map_eq_some_iff.1 hp
  have hoe : o.epoch = epoch := by simpa [epoch?, ho] using he
  simp [answer, ho, hop, hoe]

theorem phase?_answer (hp : r.phase? k = some .calling) (he : r.epoch? k = some epoch) :
    (r.answer k a s).1.phase? j = if k = j then some (judge s epoch a).1 else r.phase? j := by
  obtain ⟨o, ho, -⟩ := Option.map_eq_some_iff.1 hp
  have hm := r.phase?_modify k j fun o => { o with phase := (judge s epoch a).1 }
  rw [answer_eq hp he]
  by_cases h : k = j
  · subst h
    rw [if_pos rfl, ho] at hm
    split <;> simpa using hm
  · rw [if_neg h] at hm
    split <;> simpa [h] using hm

theorem pending_answer (hp : r.phase? k = some .calling) (he : r.epoch? k = some epoch) :
    (r.answer k a s).1.pending =
      if (judge s epoch a).1 ≠ .crashed ∧ r.pending = some k then none else r.pending := by
  rw [answer_eq hp he]
  by_cases h : (judge s epoch a).1 = .crashed
  · simp [h, modify]
  · simp [h, pending_release, modify]

theorem answer_of_not_calling (hp : r.phase? k ≠ some .calling) : r.answer k a s = (r, s) := by
  rcases ho : r.operations[k]? with _ | o
  · simp [answer, ho]
  · have hop : o.phase ≠ .calling := by simpa [phase?, ho] using hp
    simp [answer, ho, hop]

theorem exists_epoch?_of_phase? {p : Phase} (hp : r.phase? k = some p) :
    ∃ epoch, r.epoch? k = some epoch := by
  obtain ⟨o, ho, -⟩ := Option.map_eq_some_iff.1 hp
  exact ⟨o.epoch, by simp [epoch?, ho]⟩

theorem epoch?_answer : (r.answer k a s).1.epoch? j = r.epoch? j := by
  by_cases hp : r.phase? k = some .calling
  · obtain ⟨epoch, he⟩ := exists_epoch?_of_phase? hp
    rw [answer_eq hp he]
    dsimp only
    split <;> simp [epoch?_modify]
  · rw [answer_of_not_calling hp]

theorem length_answer : (r.answer k a s).1.operations.length = r.operations.length := by
  by_cases hp : r.phase? k = some .calling
  · obtain ⟨epoch, he⟩ := exists_epoch?_of_phase? hp
    rw [answer_eq hp he]
    dsimp only
    split <;> simp [release_operations]
  · rw [answer_of_not_calling hp]

theorem waiting_answer : (r.answer k a s).1.waiting j = r.waiting j := by
  by_cases hp : r.phase? k = some .calling
  · obtain ⟨epoch, he⟩ := exists_epoch?_of_phase? hp
    have hm := r.waiting_modify k j fun o => { o with phase := (judge s epoch a).1 }
    have hw : (r.modify k fun o => { o with phase := (judge s epoch a).1 }).waiting j = r.waiting j := by
      rw [hm]
      split <;> rfl
    rw [answer_eq hp he]
    dsimp only
    split <;> simp [hw]
  · rw [answer_of_not_calling hp]

theorem collect_cases (r : Refresher) (k : Nat) :
    (∃ o, r.phase? k = some (.settled o) ∧ r.collect k = (some o, r)) ∨
    (r.phase? k = some .crashed ∧ r.collect k = (some (.error .aborted), r.release k)) ∨
    ((r.phase? k = none ∨ r.isLive k = true) ∧ r.collect k = (none, r)) := by
  unfold collect
  rcases h : r.phase? k with _ | p
  · simp
  · cases p <;> simp [isLive_iff, h]

theorem isLive_of_collect (h : (r.collect k).1 = none) (hk : k < r.operations.length) :
    r.isLive k = true := by
  obtain ⟨o, -, hc⟩ | ⟨-, hc⟩ | ⟨hn | hl, -⟩ := collect_cases r k
  · simp [hc] at h
  · simp [hc] at h
  · rw [phase?_eq_none] at hn
    omega
  · exact hl

/-- A live operation is the pending one; the pending one is the last and has not settled. -/
structure Sound (r : Refresher) : Prop where
  live : ∀ k, r.isLive k = true → r.pending = some k
  last : ∀ k, r.pending = some k → r.operations.length = k + 1
  unsettled : ∀ k o, r.pending = some k → r.phase? k ≠ some (.settled o)
  lines : ∀ o ∈ r.operations, o.line.Sound

theorem sound_nil : Sound {} :=
  ⟨by simp [isLive, phase?], by simp, by simp, by simp⟩

theorem Sound.pending_cases (h : r.Sound) (hp : r.pending = some k) :
    r.isLive k = true ∨ r.phase? k = some .crashed := by
  rw [isLive_iff]
  rcases hk : r.phase? k with _ | p
  · rw [phase?_eq_none, h.last k hp] at hk
    omega
  · cases p with
    | spawned => simp
    | calling => simp
    | settled o => exact absurd hk (h.unsettled k o hp)
    | crashed => simp

theorem lines_modify {f : Operation → Operation} (hr : ∀ o ∈ r.operations, o.line.Sound)
    (hf : ∀ o, o.line.Sound → (f o).line.Sound) : ∀ o ∈ (r.modify k f).operations, o.line.Sound := by
  intro o ho
  obtain ⟨i, hi⟩ := List.mem_iff_getElem?.1 ho
  rw [modify, List.getElem?_modify] at hi
  obtain ⟨o', ho', rfl⟩ := Option.map_eq_some_iff.1 hi
  have hs := hr o' (List.mem_of_getElem? ho')
  split
  · exact hf o' hs
  · exact hs

theorem Sound.relined (h : r.Sound) {f : Operation → Operation} (hp : ∀ o, (f o).phase = o.phase)
    (hf : ∀ o, o.line.Sound → (f o).line.Sound) : (r.modify k f).Sound := by
  have hphase : ∀ j, (r.modify k f).phase? j = r.phase? j := by
    intro j
    rw [phase?_modify]
    split <;> simp [phase?, hp]
  refine ⟨fun j hj => h.live j ?_, fun j hj => ?_, fun j o hj => ?_, lines_modify h.lines hf⟩
  · simpa only [isLive, hphase] using hj
  · simpa using h.last j hj
  · simpa only [hphase] using h.unsettled j o hj

theorem Sound.wait (h : r.Sound) : (r.wait k t).Sound :=
  h.relined (fun _ => rfl) fun _ ho => ho.join t

theorem Sound.leave (h : r.Sound) : (r.leave k t).Sound :=
  h.relined (fun _ => rfl) fun _ ho => ho.leave t

theorem Sound.start (h : r.Sound) (hn : r.pending = none) : (r.start epoch).Sound := by
  refine ⟨fun j hj => ?_, fun j hj => ?_, fun j o hj => ?_, fun o ho => ?_⟩
  · rw [isLive, phase?_start] at hj
    split at hj
    next e => rw [e]; rfl
    next => exact absurd (h.live j hj) (by simp [hn])
  · simpa [Refresher.start] using hj
  · have hj' : j = r.operations.length := by simpa [Refresher.start, eq_comm] using hj
    simp [phase?_start, hj']
  · rcases List.mem_append.1 ho with ho | ho
    · exact h.lines o ho
    · rw [List.mem_singleton.1 ho]
      exact Line.sound_nil

theorem Sound.call (h : r.Sound) : (r.call k).Sound := by
  refine ⟨fun j hj => h.live j ?_, fun j hj => ?_, fun j o hj => ?_, lines_modify h.lines fun o ho => ?_⟩
  · rw [isLive_iff, phase?_call] at hj
    rw [isLive_iff]
    split at hj
    next hs => exact .inl hs.2
    next => exact hj
  · simpa [Refresher.call] using h.last j hj
  · rw [phase?_call]
    split
    · simp
    · exact h.unsettled j o hj
  · split <;> exact ho

theorem Sound.release (h : r.Sound) (hk : r.isLive k = false) : (r.release k).Sound := by
  refine ⟨fun j hj => ?_, fun j hj => ?_, fun j o hj => ?_, ?_⟩
  · have hj' : r.isLive j = true := by simpa [isLive] using hj
    rw [pending_release, if_neg, h.live j hj']
    rw [h.live j hj']
    rintro ⟨⟩
    simp [hj'] at hk
  · rw [pending_release] at hj
    rw [release_operations]
    split at hj
    · cases hj
    · exact h.last j hj
  · rw [pending_release] at hj
    rw [phase?_release]
    split at hj
    · cases hj
    · exact h.unsettled j o hj
  · rw [release_operations]
    exact h.lines

theorem Sound.answer (h : r.Sound) : (r.answer k a s).1.Sound := by
  by_cases hp : r.phase? k = some .calling
  · obtain ⟨epoch, he⟩ := exists_epoch?_of_phase? hp
    have hlive : ∀ j, (r.answer k a s).1.isLive j = true → r.isLive j = true ∧ k ≠ j := by
      intro j hj
      rw [isLive, phase?_answer hp he] at hj
      split at hj
      · simp [judge_isLive] at hj
      · exact ⟨hj, ‹_›⟩
    have hpend : r.pending = some k := h.live k (r.isLive_of_phase? k hp)
    refine ⟨fun j hj => ?_, fun j hj => ?_, fun j o hj => ?_, ?_⟩
    · obtain ⟨hj, hne⟩ := hlive j hj
      exact absurd (Option.some.inj (hpend.symm.trans (h.live j hj))) hne
    · rw [pending_answer hp he] at hj
      rw [length_answer]
      split at hj
      · cases hj
      · exact h.last j hj
    · rw [pending_answer hp he, hpend] at hj
      split at hj
      · cases hj
      · next hc =>
          cases hj
          have : (judge s epoch a).1 = .crashed := by simpa using hc
          simp [phase?_answer hp he, this]
    · have hl : ∀ o ∈ (r.modify k fun o => { o with phase := (judge s epoch a).1 }).operations,
          o.line.Sound := lines_modify h.lines fun _ ho => ho
      rw [answer_eq hp he]
      dsimp only
      split
      · exact hl
      · rw [release_operations]
        exact hl
  · rw [answer_of_not_calling hp]
    exact h

theorem mem_waiting_wait_self (h : r.Sound) (hk : k < r.operations.length) :
    t ∈ (r.wait k t).waiting k := by
  rw [wait, waiting_modify, if_pos rfl, List.getElem?_eq_getElem hk]
  exact Line.mem_join_self _ (h.lines _ (List.getElem_mem hk)) t

theorem mem_waiting_wait (h : r.Sound) {u : Nat} (hu : u ∈ r.waiting j) :
    u ∈ (r.wait k t).waiting j := by
  rw [wait, waiting_modify]
  split
  · obtain ⟨o, ho, hmem⟩ := mem_waiting.1 hu
    simpa [ho] using Line.mem_join_of_mem (h.lines o (List.mem_of_getElem? ho)) hmem
  · exact hu

theorem mem_waiting_leave {u : Nat} (hne : u ≠ t) (hu : u ∈ r.waiting j) :
    u ∈ (r.leave k t).waiting j := by
  rw [leave, waiting_modify]
  split
  · obtain ⟨o, ho, hmem⟩ := mem_waiting.1 hu
    simpa [ho] using Line.mem_leave_of_ne hne hmem
  · exact hu

end Refresher

end ConsoleSession
