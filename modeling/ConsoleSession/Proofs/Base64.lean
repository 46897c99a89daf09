import ConsoleSession.Text.Base64Url

/-!
# Base-64 texts

Whatever octets are encoded are decoded again: every symbol has the value that it was written for,
three octets come back from four groups of six bits, and the bits left over at the end are zero.
Nothing else is decoded, for each of these steps can be undone only in one way.
-/

namespace ConsoleSession.Base64Url

open ConsoleSession (Utf8.Octets)

theorem value?_symbol : ∀ v < 64, value? (symbol v) = some v := by decide

theorem group_lt (bs : Utf8.Octets) : ∀ v ∈ groups bs, v < 64 := by
  fun_induction groups bs with
  | case1 a b c rest ih =>
    have := a.toNat_lt
    have := b.toNat_lt
    have := c.toNat_lt
    simp only [List.forall_mem_cons]
    exact ⟨by omega, by omega, by omega, by omega, ih⟩
  | case2 a b =>
    have := a.toNat_lt
    have := b.toNat_lt
    simp only [List.forall_mem_cons]
    exact ⟨by omega, by omega, by omega, List.forall_mem_nil _⟩
  | case3 a =>
    have := a.toNat_lt
    simp only [List.forall_mem_cons]
    exact ⟨by omega, by omega, List.forall_mem_nil _⟩
  | case4 => exact List.forall_mem_nil _

theorem length_groups (bs : Utf8.Octets) : (groups bs).length % 4 ≠ 1 := by
  fun_induction groups bs with
  | case1 a b c rest ih =>
    simp only [List.length_cons]
    omega
  | case2 a b => exact (by decide : 3 % 4 ≠ 1)
  | case3 a => exact (by decide : 2 % 4 ≠ 1)
  | case4 => exact (by decide : 0 % 4 ≠ 1)

theorem octet_eq {b : UInt8} {n : Nat} (h : n = b.toNat) : UInt8.ofNat n = b := by
  rw [h, UInt8.ofNat_toNat]

theorem ungroup_groups (bs : Utf8.Octets) : ungroup (groups bs) = some bs := by
  fun_induction groups bs with
  | case1 a b c rest ih =>
    have := b.toNat_lt
    have := c.toNat_lt
    have first : a.toNat / 4 * 4 + (a.toNat % 4 * 16 + b.toNat / 16) / 16 = a.toNat := by omega
    have second : (a.toNat % 4 * 16 + b.toNat / 16) % 16 * 16 +
        (b.toNat % 16 * 4 + c.toNat / 64) / 4 = b.toNat := by omega
    have third : (b.toNat % 16 * 4 + c.toNat / 64) % 4 * 64 + c.toNat % 64 = c.toNat := by omega
    rw [ungroup, ih, Option.map_some, octet_eq first, octet_eq second, octet_eq third]
  | case2 a b =>
    have := b.toNat_lt
    have first : a.toNat / 4 * 4 + (a.toNat % 4 * 16 + b.toNat / 16) / 16 = a.toNat := by omega
    have second : (a.toNat % 4 * 16 + b.toNat / 16) % 16 * 16 + b.toNat % 16 * 4 / 4 = b.toNat := by
      omega
    rw [ungroup, if_pos (by omega), octet_eq first, octet_eq second]
  | case3 a =>
    have first : a.toNat / 4 * 4 + a.toNat % 4 * 16 / 16 = a.toNat := by omega
    rw [ungroup, if_pos (by omega), octet_eq first]
  | case4 => rfl

theorem values_symbols (i : Nat) {vs : List Nat} (h : ∀ v ∈ vs, v < 64) :
    values i (vs.map symbol) = .ok vs := by
  induction vs generalizing i with
  | nil => rfl
  | cons v vs ih =>
    obtain ⟨small, more⟩ := List.forall_mem_cons.mp h
    rw [List.map_cons, values, value?_symbol v small]
    simp only [ih (i + 1) more]
    rfl

theorem decode_encode (bs : Utf8.Octets) : decode (encode bs) = .ok bs := by
  have length : ¬ (encode bs).length % 4 = 1 := by
    rw [encode, List.length_map]
    exact length_groups bs
  have values : values 0 (encode bs) = .ok (groups bs) := values_symbols 0 (group_lt bs)
  simp only [decode, length, false_and, if_false, values, ungroup_groups]

theorem symbol_of_mem_encode {bs : Utf8.Octets} {b : UInt8} (h : b ∈ encode bs) :
    ∃ v < 64, b = symbol v := by
  obtain ⟨v, hv, rfl⟩ := List.mem_map.mp h
  exact ⟨v, group_lt bs v hv, rfl⟩

theorem eq_symbol_of_value? {b : UInt8} {v : Nat} (h : value? b = some v) :
    v < 64 ∧ b = symbol v := by
  have all : ∀ n < 256, ∀ v ∈ value? (UInt8.ofNat n), v < 64 ∧ UInt8.ofNat n = symbol v := by
    decide +kernel
  have found := all b.toNat b.toNat_lt v
  rw [UInt8.ofNat_toNat] at found
  exact found h

theorem eq_symbols_of_values {i : Nat} {bs : Utf8.Octets} {vs : List Nat}
    (h : values i bs = .ok vs) : (∀ v ∈ vs, v < 64) ∧ bs = vs.map symbol := by
  induction bs generalizing i vs with
  | nil =>
    cases h
    exact ⟨List.forall_mem_nil _, rfl⟩
  | cons b bs ih =>
    rw [values] at h
    cases found : value? b with
    | none =>
      rw [found] at h
      cases h
    | some v =>
      rw [found] at h
      cases more : values (i + 1) bs with
      | error e =>
        rw [more] at h
        cases h
      | ok ws =>
        rw [more] at h
        cases h
        obtain ⟨small, rfl⟩ := eq_symbol_of_value? found
        obtain ⟨rest, rfl⟩ := ih more
        exact ⟨List.forall_mem_cons.mpr ⟨small, rest⟩, rfl⟩

theorem toNat_octet {n : Nat} (h : n < 256) : (UInt8.ofNat n).toNat = n :=
  UInt8.toNat_ofNat_of_lt h

theorem groups_of_ungroup {vs : List Nat} {bs : Utf8.Octets} (small : ∀ v ∈ vs, v < 64)
    (h : ungroup vs = some bs) : groups bs = vs := by
  fun_induction ungroup vs generalizing bs with
  | case1 p q r s rest ih =>
    obtain ⟨bs, read, rfl⟩ := Option.map_eq_some_iff.mp h
    simp only [List.forall_mem_cons] at small
    obtain ⟨hp, hq, hr, hs, more⟩ := small
    rw [groups, ih more read, toNat_octet (by omega), toNat_octet (by omega),
      toNat_octet (by omega)]
    simp only [List.cons.injEq, and_true]
    omega
  | case2 p q r zero =>
    cases h
    simp only [List.forall_mem_cons] at small
    obtain ⟨hp, hq, hr, -⟩ := small
    rw [groups, toNat_octet (by omega), toNat_octet (by omega)]
    simp only [List.cons.injEq, and_true]
    omega
  | case4 p q zero =>
    cases h
    simp only [List.forall_mem_cons] at small
    obtain ⟨hp, hq, -⟩ := small
    rw [groups, toNat_octet (by omega)]
    simp only [List.cons.injEq, and_true]
    omega
  | case3 => cases h
  | case5 => cases h
  | case6 => cases h
  | case7 =>
    cases h
    rfl

theorem decode_eq_ok_iff {bs out : Utf8.Octets} : decode bs = .ok out ↔ bs = encode out := by
  refine ⟨fun h => ?_, fun h => h ▸ decode_encode out⟩
  dsimp only [decode] at h
  split at h
  next => cases h
  split at h
  next => cases h
  next vs read =>
    split at h
    next => cases h
    split at h
    next out' whole =>
      cases h
      obtain ⟨small, rfl⟩ := eq_symbols_of_values read
      rw [encode, groups_of_ungroup small whole]
    next => cases h

end ConsoleSession.Base64Url
