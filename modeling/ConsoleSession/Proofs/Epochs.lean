import ConsoleSession.Proofs.SingleFlight
import ConsoleSession.Proofs.Tokens

/-!
# Counting the clearings

The epoch of the store has moved on, since an operation was started, by as many steps as the store
was cleared. So the answer to an operation is written exactly if no clearing came since its start, as
long as their number does not run over.
-/

namespace ConsoleSession

variable {c c₀ : Console} {k : Nat} {epoch : UInt64}

namespace Console

def clears (c : Console) (e : Event) : Nat :=
  ((c.apply e).tokens.epoch - c.tokens.epoch).toNat

def clearsDuring (k : Nat) : Console → List Event → Nat
  | _, [] => 0
  | c, e :: es =>
    (if c.refresher.isLive k = true then c.clears e else 0) + clearsDuring k (c.apply e) es

theorem clears_of_epoch_eq {e : Event} (h : (c.apply e).tokens.epoch = c.tokens.epoch) :
    c.clears e = 0 := by
  rw [clears, h, show c.tokens.epoch - c.tokens.epoch = 0 by grind]
  rfl

theorem clears_of_clear {e : Event} (h : (c.apply e).tokens = c.tokens.clear) : c.clears e = 1 := by
  rw [clears, h]
  show (c.tokens.epoch + 1 - c.tokens.epoch).toNat = 1
  rw [show c.tokens.epoch + 1 - c.tokens.epoch = 1 by grind]
  rfl

theorem clears_of_clear_clear {e : Event} (h : (c.apply e).tokens = c.tokens.clear.clear) :
    c.clears e = 2 := by
  rw [clears, h]
  show (c.tokens.epoch + 1 + 1 - c.tokens.epoch).toNat = 2
  rw [show c.tokens.epoch + 1 + 1 - c.tokens.epoch = 2 by grind]
  rfl

theorem epoch_apply (c : Console) (e : Event) :
    (c.apply e).tokens.epoch = c.tokens.epoch + UInt64.ofNat (c.clears e) := by
  rw [clears, UInt64.ofNat_toNat]
  grind

theorem clearsDuring_append (k : Nat) (c : Console) (es fs : List Event) :
    clearsDuring k c (es ++ fs) = clearsDuring k c es + clearsDuring k (c.run es) fs := by
  induction es generalizing c with
  | nil => exact (Nat.zero_add _).symm
  | cons e es ih =>
    show _ + clearsDuring k (c.apply e) (es ++ fs) = _ + clearsDuring k (c.apply e) es + _
    rw [ih, Nat.add_assoc]
    rfl

theorem clearsDuring_le_append (k : Nat) (c : Console) (es fs : List Event) :
    clearsDuring k c es ≤ clearsDuring k c (es ++ fs) := by
  rw [clearsDuring_append]
  exact Nat.le_add_right _ _

theorem clearsDuring_snoc (k : Nat) (c : Console) (es : List Event) (e : Event) :
    clearsDuring k c (es ++ [e]) =
      clearsDuring k c es + if (c.run es).refresher.isLive k = true then (c.run es).clears e else 0 :=
  clearsDuring_append k c es [e]

theorem phase?_eq_none_of_apply (h : Orderly none c) {e : Event}
    (hn : (c.apply e).refresher.phase? k = none) : c.refresher.phase? k = none := by
  have hlen := length_apply h e
  rw [Refresher.phase?_eq_none] at hn ⊢
  omega

theorem clearsDuring_of_unstarted (h : c₀.Fresh) {es : List Event}
    (hn : (c₀.run es).refresher.phase? k = none) : clearsDuring k c₀ es = 0 := by
  induction es using List.reverseRecOn with
  | nil => rfl
  | append_singleton es e ih =>
    rw [run_snoc] at hn
    have hn' := phase?_eq_none_of_apply (h.orderly_run es) hn
    rw [clearsDuring_snoc, ih hn']
    simp [Refresher.isLive, hn']

theorem isLive_apply (h : Orderly none c) {e : Event} (hl : (c.apply e).refresher.isLive k = true) :
    c.refresher.isLive k = true ∨ (c.starts e = true ∧ k = c.refresher.operations.length) := by
  rw [Refresher.isLive_iff] at hl ⊢
  obtain he | ⟨hs, hk, -⟩ | ⟨-, -, hs, -⟩ | ⟨-, -, -, hs, -, -⟩ := phase?_apply h e k
  · exact .inl (he ▸ hl)
  · exact .inr ⟨hs, hk⟩
  · exact .inl (.inl hs)
  · exact .inl (.inr hs)

theorem Fresh.epoch_eq (h : c₀.Fresh) {es : List Event}
    (hl : (c₀.run es).refresher.isLive k = true) (he : (c₀.run es).refresher.epoch? k = some epoch) :
    (c₀.run es).tokens.epoch = epoch + UInt64.ofNat (clearsDuring k c₀ es) := by
  induction es using List.reverseRecOn with
  | nil => simp [run, h.refresher, Refresher.epoch?] at he
  | append_singleton es e ih =>
    have ho := h.orderly_run es
    rw [run_snoc] at hl he ⊢
    rw [epoch?_apply ho e k] at he
    rw [clearsDuring_snoc]
    obtain hl' | ⟨hs, hk⟩ := isLive_apply ho hl
    · have hlt : k ≠ (c₀.run es).refresher.operations.length :=
        Nat.ne_of_lt (Refresher.lt_of_isLive _ k hl')
      rw [if_neg fun hn => hlt hn.2] at he
      rw [if_pos hl', epoch_apply, ih hl' he, UInt64.ofNat_add]
      grind
    · -- what starts in the step takes its epoch from the store after it
      have hn : (c₀.run es).refresher.phase? k = none :=
        (Refresher.phase?_eq_none _ k).2 (Nat.le_of_eq hk.symm)
      rw [if_pos ⟨hs, hk⟩] at he
      rw [clearsDuring_of_unstarted h hn]
      simp [Refresher.isLive, hn, Option.some.inj he]

theorem Fresh.accepts_iff (h : c₀.Fresh) {es : List Event}
    (hl : (c₀.run es).refresher.isLive k = true) (he : (c₀.run es).refresher.epoch? k = some epoch)
    (hn : clearsDuring k c₀ es < UInt64.size) (token : String) :
    (c₀.run es).tokens.accepts token epoch = true ↔
      clearsDuring k c₀ es = 0 ∧ token.isEmpty = false := by
  have hzero : epoch + UInt64.ofNat (clearsDuring k c₀ es) = epoch ↔ clearsDuring k c₀ es = 0 := by
    constructor
    · intro hs
      have hz : UInt64.ofNat (clearsDuring k c₀ es) = 0 := by grind
      have hm := congrArg UInt64.toNat hz
      rwa [UInt64.toNat_ofNat', Nat.mod_eq_of_lt hn] at hm
    · intro hs
      simp [hs]
  simp [TokenStore.accepts, h.epoch_eq hl he, hzero]

theorem Fresh.tokens_refreshed_run (h : c₀.Fresh) {es : List Event}
    (hp : (c₀.run es).refresher.phase? k = some .calling)
    (hn : clearsDuring k c₀ es < UInt64.size) (a : RefreshAnswer) :
    (∃ token, a = .token token ∧ token.isEmpty = false ∧ clearsDuring k c₀ es = 0 ∧
      ((c₀.run es).apply (.refreshed k a)).tokens.token = some token) ∨
    (∀ token, a = .token token → token.isEmpty = true ∨ 0 < clearsDuring k c₀ es) ∧
      ((c₀.run es).apply (.refreshed k a)).tokens = (c₀.run es).tokens := by
  obtain ⟨epoch, he⟩ := Refresher.exists_epoch?_of_phase? hp
  have hl := Refresher.isLive_of_phase? _ k hp
  have accepts := h.accepts_iff hl he hn
  have htokens : ((c₀.run es).apply (.refreshed k a)).tokens =
      (Refresher.judge (c₀.run es).tokens epoch a).2 := tokens_refreshed hp he a
  rw [htokens]
  obtain ⟨token, rfl, hacc, hj⟩ | ⟨hj, hsettled⟩ := Refresher.judge_cases (c₀.run es).tokens epoch a
  · obtain ⟨hz, hfull⟩ := (accepts token).1 hacc
    exact .inl ⟨token, rfl, hfull, hz, by rw [hj]⟩
  · refine .inr ⟨?_, hj⟩
    rintro token rfl
    by_contra hcon
    simp only [not_or, Nat.not_lt, Nat.le_zero, Bool.not_eq_true] at hcon
    have hacc := (accepts token).2 hcon.symm
    simp [Refresher.judge, TokenStore.setIfEpoch, hacc] at hsettled

end Console

end ConsoleSession
