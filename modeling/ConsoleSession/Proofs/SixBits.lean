import ConsoleSession.Proofs.TokenTexts

/-!
# Octets written six bits at a time

A text spells octets if its characters are of the alphabet and their places in it, six bits each and
one after another, are the bits of the octets and then fewer than six zeros. Every run of octets is
spelled by one text, the one that encoding gives. The texts that spell something are known by their
length and by the bits that the last character has left over.
-/

namespace ConsoleSession.Base64Url

open ConsoleSession (Utf8.Octets)

variable {text text' : List Char} {octets : Utf8.Octets} {vs ws : List Nat} {ch : Char}

def alphabet : List Char :=
  ['A', 'B', 'C', 'D', 'E', 'F', 'G', 'H', 'I', 'J', 'K', 'L', 'M', 'N', 'O', 'P', 'Q', 'R', 'S',
    'T', 'U', 'V', 'W', 'X', 'Y', 'Z', 'a', 'b', 'c', 'd', 'e', 'f', 'g', 'h', 'i', 'j', 'k', 'l',
    'm', 'n', 'o', 'p', 'q', 'r', 's', 't', 'u', 'v', 'w', 'x', 'y', 'z', '0', '1', '2', '3', '4',
    '5', '6', '7', '8', '9', '-', '_']

def place (ch : Char) : Nat := alphabet.idxOf ch

def bits : Nat → Nat → List Nat
  | 0, _ => []
  | w + 1, n => bits w (n / 2) ++ [n % 2]

structure Spells (text : List Char) (octets : Utf8.Octets) : Prop where
  symbols : ∀ ch ∈ text, ch ∈ alphabet
  bits : ∃ k < 6, text.flatMap (fun ch => bits 6 (place ch)) =
    octets.flatMap (fun b => bits 8 b.toNat) ++ List.replicate k 0

/-- No character stands alone at the end, and the last one has no bits that no octet takes up. -/
structure Tidy (text : List Char) : Prop where
  symbols : ∀ ch ∈ text, ch ∈ alphabet
  length : text.length % 4 ≠ 1
  spare : ∀ ch, text.getLast? = some ch →
    (text.length % 4 = 2 → place ch % 16 = 0) ∧ (text.length % 4 = 3 → place ch % 4 = 0)

def letter (v : Nat) : Char := Char.ofNat (symbol v).toNat

theorem alphabet_eq : alphabet = (List.range 64).map letter := by decide +kernel

theorem places : (List.range 64).map (fun v => place (letter v)) = List.range 64 := by
  decide +kernel

theorem letter_mem {v : Nat} (h : v < 64) : letter v ∈ alphabet := by
  rw [alphabet_eq]
  exact List.mem_map_of_mem (List.mem_range.mpr h)

theorem place_letter {v : Nat} (h : v < 64) : place (letter v) = v :=
  List.map_inj_left.mp (places.trans (List.map_id _).symm) v (List.mem_range.mpr h)

theorem exists_letter (h : ch ∈ alphabet) : ∃ v < 64, letter v = ch := by
  rw [alphabet_eq] at h
  obtain ⟨v, small, same⟩ := List.mem_map.mp h
  exact ⟨v, List.mem_range.mp small, same⟩

theorem segment_eq (octets : Utf8.Octets) : Claims.segment octets = (groups octets).map letter := by
  rw [Claims.segment, encode, List.map_map]
  rfl

theorem map_place (h : ∀ v ∈ vs, v < 64) : (vs.map letter).map place = vs := by
  rw [List.map_map]
  exact (List.map_congr_left fun v hv => place_letter (h v hv)).trans (List.map_id vs)

theorem exists_map_letter (h : ∀ ch ∈ text, ch ∈ alphabet) :
    ∃ vs : List Nat, (∀ v ∈ vs, v < 64) ∧ text = vs.map letter := by
  induction text with
  | nil => exact ⟨[], List.forall_mem_nil _, rfl⟩
  | cons ch text ih =>
    obtain ⟨first, more⟩ := List.forall_mem_cons.mp h
    obtain ⟨v, small, rfl⟩ := exists_letter first
    obtain ⟨vs, rest, rfl⟩ := ih more
    exact ⟨v :: vs, List.forall_mem_cons.mpr ⟨small, rest⟩, rfl⟩

theorem length_bits (w n : Nat) : (bits w n).length = w := by
  induction w generalizing n with
  | zero => rfl
  | succ w ih => rw [bits, List.length_append, ih, List.length_singleton]

theorem length_flatMap_bits {α : Type} (w : Nat) (f : α → Nat) (xs : List α) :
    (xs.flatMap fun x => bits w (f x)).length = xs.length * w := by
  induction xs with
  | nil => exact (Nat.zero_mul w).symm
  | cons x xs ih =>
    rw [List.flatMap_cons, List.length_append, length_bits, ih, List.length_cons, Nat.succ_mul,
      Nat.add_comm]

theorem number_of_bits : ∀ v < 64, (bits 6 v).foldl (fun n b => 2 * n + b) 0 = v := by decide

theorem bits_inj {v w : Nat} (hv : v < 64) (hw : w < 64) (h : bits 6 v = bits 6 w) : v = w := by
  rw [← number_of_bits v hv, h, number_of_bits w hw]

theorem flatMap_bits_inj (hv : ∀ v ∈ vs, v < 64) (hw : ∀ w ∈ ws, w < 64)
    (h : vs.flatMap (bits 6) = ws.flatMap (bits 6)) : vs = ws := by
  have long (n : Nat) (ns : List Nat) : [] ≠ (n :: ns).flatMap (bits 6) := by
    rw [List.flatMap_cons, bits]
    simp
  induction vs generalizing ws with
  | nil =>
    cases ws with
    | nil => rfl
    | cons w ws => exact absurd h (long w ws)
  | cons v vs ih =>
    cases ws with
    | nil => exact absurd h.symm (long v vs)
    | cons w ws =>
      rw [List.flatMap_cons, List.flatMap_cons] at h
      obtain ⟨first, rest⟩ := List.append_inj h (by rw [length_bits, length_bits])
      obtain ⟨hv, hvs⟩ := List.forall_mem_cons.mp hv
      obtain ⟨hw, hws⟩ := List.forall_mem_cons.mp hw
      rw [bits_inj hv hw first, ih hvs hws rest]

theorem bits_append (w v high : Nat) {low : Nat} (h : low < Nat.pow 2 v) :
    bits (w + v) (high * Nat.pow 2 v + low) = bits w high ++ bits v low := by
  induction v generalizing low with
  | zero =>
    obtain rfl : low = 0 := Nat.lt_one_iff.mp h
    rw [Nat.add_zero, bits, List.append_nil, Nat.add_zero]
    exact congrArg (bits w) (Nat.mul_one high)
  | succ v ih =>
    have double : Nat.pow 2 (v + 1) = 2 * Nat.pow 2 v := Nat.mul_comm _ _
    rw [double] at h ⊢
    have half : (high * (2 * Nat.pow 2 v) + low) / 2 = high * Nat.pow 2 v + low / 2 := by
      rw [Nat.mul_left_comm, Nat.mul_add_div Nat.two_pos]
    have parity : (high * (2 * Nat.pow 2 v) + low) % 2 = low % 2 := by
      rw [Nat.mul_left_comm, Nat.mul_add_mod]
    rw [← Nat.add_assoc, bits, half, parity, ih (Nat.div_lt_of_lt_mul h), bits, List.append_assoc]

theorem bits_cut (w v n : Nat) :
    bits (w + v) n = bits w (n / Nat.pow 2 v) ++ bits v (n % Nat.pow 2 v) := by
  have positive : 0 < Nat.pow 2 v := Nat.pow_pos Nat.two_pos
  rw [← bits_append w v _ (Nat.mod_lt n positive), Nat.mul_comm, Nat.div_add_mod]

theorem bits_groups (octets : Utf8.Octets) : ∃ k < 6, (groups octets).flatMap (bits 6) =
    octets.flatMap (fun b => bits 8 b.toNat) ++ List.replicate k 0 := by
  -- An octet is cut after its sixth bit, its fourth or its second; a group joins two such pieces.
  have cut₁ (n : Nat) : bits 8 n = bits 6 (n / 4) ++ bits 2 (n % 4) := bits_cut 6 2 n
  have cut₂ (n : Nat) : bits 8 n = bits 4 (n / 16) ++ bits 4 (n % 16) := bits_cut 4 4 n
  have cut₃ (n : Nat) : bits 8 n = bits 2 (n / 64) ++ bits 6 (n % 64) := bits_cut 2 6 n
  have join₁ (m : Nat) {n : Nat} (h : n < 16) : bits 6 (m * 16 + n) = bits 2 m ++ bits 4 n :=
    bits_append 2 4 m h
  have join₂ (m : Nat) {n : Nat} (h : n < 4) : bits 6 (m * 4 + n) = bits 4 m ++ bits 2 n :=
    bits_append 4 2 m h
  have fill₁ (m : Nat) : bits 6 (m * 16) = bits 2 m ++ List.replicate 4 0 :=
    join₁ m (n := 0) (by decide)
  have fill₂ (m : Nat) : bits 6 (m * 4) = bits 4 m ++ List.replicate 2 0 :=
    join₂ m (n := 0) (by decide)
  fun_induction groups octets with
  | case1 a b c rest ih =>
    obtain ⟨k, small, same⟩ := ih
    have high_b : b.toNat / 16 < 16 := by have := b.toNat_lt; omega
    have high_c : c.toNat / 64 < 4 := by have := c.toNat_lt; omega
    refine ⟨k, small, ?_⟩
    simp only [List.flatMap_cons, same, join₁ _ high_b, join₂ _ high_c, cut₁ a.toNat, cut₂ b.toNat,
      cut₃ c.toNat, List.append_assoc]
  | case2 a b =>
    have high_b : b.toNat / 16 < 16 := by have := b.toNat_lt; omega
    refine ⟨2, by decide, ?_⟩
    simp only [List.flatMap_cons, List.flatMap_nil, join₁ _ high_b, fill₂, cut₁ a.toNat,
      cut₂ b.toNat, List.append_assoc, List.append_nil]
  | case3 a =>
    refine ⟨4, by decide, ?_⟩
    simp only [List.flatMap_cons, List.flatMap_nil, fill₁, cut₁ a.toNat, List.append_assoc,
      List.append_nil]
  | case4 => exact ⟨0, by decide, rfl⟩

theorem flatMap_letter (h : ∀ v ∈ vs, v < 64) :
    (vs.map letter).flatMap (fun ch => bits 6 (place ch)) = vs.flatMap (bits 6) := by
  rw [← List.flatMap_map place, map_place h]

theorem spells_segment (octets : Utf8.Octets) : Spells (Claims.segment octets) octets := by
  have small := group_lt octets
  obtain ⟨k, few, same⟩ := bits_groups octets
  refine ⟨fun ch hc => ?_, k, few, ?_⟩
  · rw [segment_eq] at hc
    obtain ⟨v, hv, rfl⟩ := List.mem_map.mp hc
    exact letter_mem (small v hv)
  · rw [← same, segment_eq, flatMap_letter small]

theorem Spells.unique (h : Spells text octets) (h' : Spells text' octets) : text = text' := by
  obtain ⟨symbols, k, few, same⟩ := h
  obtain ⟨symbols', k', few', same'⟩ := h'
  have lengths := congrArg List.length same
  have lengths' := congrArg List.length same'
  rw [length_flatMap_bits, List.length_append, length_flatMap_bits, List.length_replicate] at lengths
  rw [length_flatMap_bits, List.length_append, length_flatMap_bits, List.length_replicate] at lengths'
  -- Fewer than six zeros are too few for one more character.
  obtain rfl : k = k' := by omega
  obtain ⟨vs, small, rfl⟩ := exists_map_letter symbols
  obtain ⟨ws, small', rfl⟩ := exists_map_letter symbols'
  have values : vs = ws := by
    refine flatMap_bits_inj small small' ?_
    rw [← flatMap_letter small, ← flatMap_letter small', same, same']
  rw [values]

theorem spells_iff : Spells text octets ↔ text = Claims.segment octets := by
  constructor
  · exact fun h => h.unique (spells_segment octets)
  · rintro rfl
    exact spells_segment octets

/-- No group stands alone at the end, and what the last one has left over is zero. -/
def Whole (vs : List Nat) : Prop :=
  vs.length % 4 ≠ 1 ∧ ∀ v, vs.getLast? = some v →
    (vs.length % 4 = 2 → v % 16 = 0) ∧ (vs.length % 4 = 3 → v % 4 = 0)

theorem whole_four (p q r s : Nat) (rest : List Nat) :
    Whole (p :: q :: r :: s :: rest) ↔ Whole rest := by
  cases rest with
  | nil => simp [Whole]
  | cons v rest =>
    have turn : (p :: q :: r :: s :: v :: rest).length % 4 = (v :: rest).length % 4 :=
      Nat.add_mod_right _ 4
    rw [Whole, Whole, turn]
    simp only [List.getLast?_cons_cons]

theorem ungroup_isSome_iff : (ungroup vs).isSome = true ↔ Whole vs := by
  fun_induction ungroup vs with
  | case1 p q r s rest ih => rw [whole_four, Option.isSome_map, ih]
  | case2 p q r zero => simp [Whole, zero]
  | case3 p q r spare => simp [Whole, spare]
  | case4 p q zero => simp [Whole, zero]
  | case5 p q spare => simp [Whole, spare]
  | case6 => simp [Whole]
  | case7 => simp [Whole]

theorem tidy_iff : Tidy text ↔ (∀ ch ∈ text, ch ∈ alphabet) ∧ Whole (text.map place) := by
  have last : (∀ v, (text.map place).getLast? = some v →
      (text.length % 4 = 2 → v % 16 = 0) ∧ (text.length % 4 = 3 → v % 4 = 0)) ↔
      ∀ ch, text.getLast? = some ch →
        (text.length % 4 = 2 → place ch % 16 = 0) ∧ (text.length % 4 = 3 → place ch % 4 = 0) := by
    simp [List.getLast?_map]
  rw [Whole, List.length_map, last]
  exact ⟨fun h => ⟨h.symbols, h.length, h.spare⟩, fun h => ⟨h.1, h.2.1, h.2.2⟩⟩

theorem exists_spells_iff : (∃ octets, Spells text octets) ↔ Tidy text := by
  rw [tidy_iff]
  constructor
  · rintro ⟨octets, spelled⟩
    have places : text.map place = groups octets := by
      rw [spells_iff.mp spelled, segment_eq, map_place (group_lt octets)]
    refine ⟨spelled.symbols, ?_⟩
    rw [places, ← ungroup_isSome_iff, ungroup_groups]
    rfl
  · rintro ⟨symbols, whole⟩
    obtain ⟨vs, small, rfl⟩ := exists_map_letter symbols
    rw [map_place small] at whole
    obtain ⟨octets, read⟩ := Option.isSome_iff_exists.mp (ungroup_isSome_iff.mpr whole)
    refine ⟨octets, spells_iff.mpr ?_⟩
    rw [segment_eq, groups_of_ungroup small read]

end ConsoleSession.Base64Url
