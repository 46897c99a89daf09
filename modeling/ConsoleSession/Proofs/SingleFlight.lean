import ConsoleSession.Proofs.Phases
import ConsoleSession.Session.Outgoing
import Mathlib.Data.List.Induction

/-!
# One refresh at a time

Along every run at most one operation is live, the slot names it, and the backend is called once for
each operation, never while an earlier call is out. The invariant behind it is `Refresher.Sound`: a
settling operation only ever empties a slot that names it.
-/

namespace ConsoleSession.Console

variable {c c₀ : Console} {k : Nat}

def calling (c : Console) (k : Nat) : Bool :=
  (c.outgoing (.operation k)).isSome

theorem calling_iff : c.calling k = true ↔ c.refresher.phase? k = some .calling := by
  by_cases h : c.refresher.phase? k = some .calling <;> simp [calling, outgoing, h]

def callsOf (c : Console) (e : Event) : List Nat :=
  (List.range (c.apply e).refresher.operations.length).filter fun k =>
    !c.calling k && (c.apply e).calling k

/-- The calls for refreshes that go out in a run, each by its operation. -/
def callLog : Console → List Event → List Nat
  | _, [] => []
  | c, e :: es => c.callsOf e ++ (c.apply e).callLog es

theorem callLog_snoc (c : Console) (es : List Event) (e : Event) :
    c.callLog (es ++ [e]) = c.callLog es ++ (c.run es).callsOf e := by
  induction es generalizing c with
  | nil => exact List.append_nil _
  | cons f es ih =>
    show c.callsOf f ++ (c.apply f).callLog (es ++ [e]) = _
    rw [ih, ← List.append_assoc]
    rfl

theorem mem_callsOf (h : Orderly none c) (e : Event) :
    k ∈ c.callsOf e ↔
      e = .turn (.operation k) ∧ .operation k ∈ c.ready ∧
        c.refresher.phase? k = some .spawned := by
  have hlen : (c.apply e).refresher.phase? k = some .calling →
      k < (c.apply e).refresher.operations.length := Refresher.lt_of_phase? _ _
  simp only [callsOf, List.mem_filter, List.mem_range, Bool.and_eq_true, Bool.not_eq_true',
    ← Bool.not_eq_true, calling_iff]
  constructor
  · rintro ⟨-, hn, hc⟩
    obtain hp | ⟨-, -, hp⟩ | ⟨he, hr, hs, -⟩ | ⟨a, epoch, -, hp, -, -⟩ := phase?_apply h e k
    · exact absurd (hp ▸ hc) hn
    · rw [hc] at hp
      cases hp
    · exact ⟨he, hr, hs⟩
    · exact absurd hp hn
  · rintro ⟨rfl, hr, hs⟩
    have hc : (c.apply (.turn (.operation k))).refresher.phase? k = some .calling := by
      simp [apply, turn, hr, Refresher.phase?_call, hs]
    exact ⟨hlen hc, by simp [hs], hc⟩

theorem nodup_callsOf (c : Console) (e : Event) : (c.callsOf e).Nodup :=
  List.nodup_range.filter _

theorem count_callLog (h : c₀.Fresh) (es : List Event) (k : Nat) :
    (c₀.callLog es).count k =
      if (c₀.run es).refresher.phase? k = none ∨
        (c₀.run es).refresher.phase? k = some .spawned then 0 else 1 := by
  induction es using List.reverseRecOn with
  | nil => simp [callLog, run, h.refresher, Refresher.phase?]
  | append_singleton es e ih =>
    have ho := h.orderly_run es
    have hmem := mem_callsOf (k := k) ho e
    rw [callLog_snoc, List.count_append, ih, (nodup_callsOf _ e).count, run_snoc]
    -- either the call goes out in the last step, or that step leaves no trace of a call
    by_cases hk : k ∈ (c₀.run es).callsOf e
    · obtain ⟨rfl, hr, hs⟩ := hmem.1 hk
      have hc : ((c₀.run es).apply (.turn (.operation k))).refresher.phase? k = some .calling := by
        simp [apply, turn, hr, Refresher.phase?_call, hs]
      simp [hk, hs, hc]
    · rw [if_neg hk, Nat.add_zero]
      obtain hp | ⟨-, rfl, hp⟩ | ⟨he, hr, hs, -⟩ | ⟨a, epoch, -, hs, -, hp⟩ := phase?_apply ho e k
      · rw [hp]
      · have hn := ((c₀.run es).refresher.phase?_eq_none _).2 (Nat.le_refl _)
        rw [hp, hn]
        rfl
      · exact absurd (hmem.2 ⟨he, hr, hs⟩) hk
      · have hj := Refresher.judge_isLive (c₀.run es).tokens epoch a
        rw [hp, hs]
        rcases hph : (Refresher.judge (c₀.run es).tokens epoch a).1 <;> simp_all [Phase.isLive]

theorem phase?_of_starts (h : Orderly none c) {e : Event} {t : Nat} (ha : c.asks e = some t)
    (hp : c.refresher.pending = none) :
    (c.apply e).refresher.phase? c.refresher.operations.length = some .spawned := by
  have hs : c.starts e = true := by simp [starts, ha, hp]
  have hn := (c.refresher.phase?_eq_none c.refresher.operations.length).2 (Nat.le_refl _)
  obtain he | ⟨-, -, he⟩ | ⟨-, -, he, -⟩ | ⟨a, epoch, -, he, -⟩ := phase?_apply h e _
  · have hlt := length_apply h e
    rw [hn, Refresher.phase?_eq_none, hlt, if_pos hs] at he
    omega
  · exact he
  · rw [hn] at he
    cases he
  · rw [hn] at he
    cases he

theorem awaited?_of_idle (h : Orderly none c) {e : Event} {t : Nat} (ha : c.asks e = some t)
    (hp : c.refresher.pending = none) : (c.apply e).awaited? t = some c.given := by
  obtain ⟨-, hw, -⟩ | ⟨hg, -⟩ := asks_awaits h ha
  · exact hw
  · rw [hp] at hg
    cases hg

/-- At most one operation is live, and the slot names it. An operation is started by a task that
wants a refresh and finds the slot idle, and by no other step; who finds an operation pending is
given that one. The backend is called once for each operation, as its first step, and only while no
other call is out. -/
theorem single_flight (h : c₀.Fresh) (es : List Event) :
    let c := c₀.run es
    (∀ k, c.refresher.isLive k = true → c.refresher.pending = some k) ∧
    (∀ j k, c.refresher.isLive j = true → c.refresher.isLive k = true → j = k) ∧
    (∀ e, (c.apply e).refresher.operations.length =
      c.refresher.operations.length +
        if (c.asks e).isSome ∧ c.refresher.pending = none then 1 else 0) ∧
    (∀ e t, c.asks e = some t → c.refresher.pending = none →
      (c.apply e).refresher.phase? c.refresher.operations.length = some .spawned ∧
      (c.apply e).awaited? t = some c.refresher.operations.length) ∧
    (∀ e t k, c.asks e = some t → c.refresher.isLive k = true →
      (c.apply e).awaited? t = some k) ∧
    (∀ k, (c₀.callLog es).count k =
      if c.refresher.phase? k = none ∨ c.refresher.phase? k = some .spawned then 0 else 1) ∧
    (∀ k, c.refresher.phase? k = some .spawned →
      .operation k ∈ c.ready ∧ c.callsOf (.turn (.operation k)) = [k]) ∧
    (∀ e k, k ∈ c.callsOf e → ∀ j, c.calling j = false ∧ (j ∈ c.callsOf e → j = k)) := by
  intro c
  have ho : Orderly none c := h.orderly_run es
  have huniq : ∀ j k, c.refresher.isLive j = true → c.refresher.isLive k = true → j = k :=
    fun j k hj hk => Option.some.inj ((ho.sound.live j hj).symm.trans (ho.sound.live k hk))
  refine ⟨ho.sound.live, huniq, fun e => ?_, fun e t ha hp => ?_, fun e t k ha hl => ?_,
    count_callLog h es, fun k hk => ?_, fun e k hk j => ?_⟩
  · rw [length_apply ho e]
    simp [starts]
  · exact ⟨phase?_of_starts ho ha hp, by simpa [given, hp] using awaited?_of_idle ho ha hp⟩
  · have hg : c.given = k := by simp [given, ho.sound.live k hl]
    obtain ⟨-, hw, -⟩ | ⟨-, hc, -⟩ := asks_awaits ho ha
    · exact hg ▸ hw
    · rw [hg] at hc
      rw [c.refresher.isLive_of_phase? k hc] at hl
      cases hl
  · refine ⟨ho.spawned k hk, List.perm_singleton.1 ?_⟩
    refine (List.perm_ext_iff_of_nodup (nodup_callsOf c _) (by simp)).2 fun j => ?_
    rw [mem_callsOf ho, List.mem_singleton]
    constructor
    · rintro ⟨⟨⟩, -, -⟩
      rfl
    · rintro rfl
      exact ⟨rfl, ho.spawned j hk, hk⟩
  · obtain ⟨rfl, -, hs⟩ := (mem_callsOf ho e).1 hk
    have hlk : c.refresher.isLive k = true := c.refresher.isLive_of_phase? k hs
    refine ⟨?_, fun hj => ?_⟩
    · rw [← Bool.not_eq_true, calling_iff]
      intro hj
      cases huniq j k (c.refresher.isLive_of_phase? j hj) hlk
      rw [hs] at hj
      cases hj
    · obtain ⟨⟨⟩, -, -⟩ := (mem_callsOf ho _).1 hj
      rfl

/-- A direct call and a gate share one operation and one call. -/
theorem one_call_for_two :
    let es := [.spawn .refresh, .spawn .resolve, .turn (.task 0), .turn (.task 1),
      .turn (.operation 0)]
    (blank.callLog es).count 0 = 1 ∧
      ∀ k, (blank.run es).refresher.isLive k = true → k = 0 := by
  intro es
  obtain ⟨-, huniq, -, -, -, hcount, -⟩ := single_flight fresh_blank es
  have hp : (blank.run es).refresher.phase? 0 = some .calling := rfl
  refine ⟨by simpa [hp] using hcount 0, fun k hk => huniq k 0 hk rfl⟩

end ConsoleSession.Console
