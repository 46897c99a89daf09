import ConsoleSession.Text.Utf8

/-!
Reading back what was written: every text decodes from its own octets, and no text from any others.
A character is taken by the number of octets it is written with, and its lead octet says which they
must be.
-/

namespace ConsoleSession.Utf8

theorem encode_append (cs ds : List Char) : encode (cs ++ ds) = encode cs ++ encode ds :=
  List.flatMap_append

theorem owed_one {a : Nat} (h : a < 0x80) : owed a = some (0, 0, 0) := if_pos h

theorem owed_two {a : Nat} (low : 0xC2 ≤ a) (high : a < 0xE0) : owed a = some (1, 0x80, 0xBF) := by
  unfold owed
  rw [if_neg (by omega), if_neg (by omega), if_pos high]

theorem owed_three {a : Nat} (low : 0xE0 ≤ a) (high : a < 0xF0) :
    owed a = some (2, if a = 0xE0 then 0xA0 else 0x80, if a = 0xED then 0x9F else 0xBF) := by
  unfold owed
  rw [if_neg (by omega), if_neg (by omega), if_neg (by omega)]
  by_cases first : a = 0xE0
  · subst first
    rfl
  by_cases surrogates : a = 0xED
  · subst surrogates
    rfl
  simp only [if_neg first, if_neg surrogates, if_pos high]

theorem owed_four {a : Nat} (low : 0xF0 ≤ a) (high : a < 0xF5) :
    owed a = some (3, if a = 0xF0 then 0x90 else 0x80, if a = 0xF4 then 0x8F else 0xBF) := by
  unfold owed
  rw [if_neg (by omega), if_neg (by omega), if_neg (by omega), if_neg (by omega),
    if_neg (by omega), if_neg (by omega)]
  by_cases first : a = 0xF0
  · subst first
    rfl
  by_cases last : a = 0xF4
  · subst last
    rfl
  simp only [if_neg first, if_neg last, if_pos (show a < 0xF4 by omega)]

theorem tail_cons {k lo hi acc n : Nat} {rest : Octets} (hn : n < 256) (low : lo ≤ n)
    (high : n ≤ hi) : tail (k + 1) lo hi acc (UInt8.ofNat n :: rest) =
      tail k 0x80 0xBF (acc * 64 + n % 64) rest := by
  have same : (UInt8.ofNat n).toNat = n := UInt8.toNat_ofNat_of_lt hn
  simp only [tail, same, low, high, and_self, if_true]

theorem scalar_cases (c : Char) :
    c.toNat < 0xD800 ∨ (0xDFFF < c.toNat ∧ c.toNat < 0x110000) := c.valid

theorem next_of_owed {n k lo hi : Nat} {rest : Octets} (hn : n < 256)
    (h : owed n = some (k, lo, hi)) :
    next (UInt8.ofNat n) rest =
      (tail k lo hi (leadBits n) rest).map fun (m, r) => (Char.ofNat m, r) := by
  have same : (UInt8.ofNat n).toNat = n := UInt8.toNat_ofNat_of_lt hn
  simp only [next, same, h]

theorem next_encode (c : Char) (rest : Octets) :
    ∃ a more, String.utf8EncodeChar c = a :: more ∧ next a (more ++ rest) = .ok (c, rest) := by
  have range := scalar_cases c
  have back : Char.ofNat c.toNat = c := Char.ofNat_toNat c
  simp only [String.utf8EncodeChar, show c.val.toNat = c.toNat from rfl]
  generalize c.toNat = v at range back
  have landed (n : Nat) (h : n = v) : (Except.ok (Char.ofNat n, rest) : Except Octets _) =
      .ok (c, rest) := by rw [h, back]
  by_cases one : v ≤ 127
  · refine ⟨_, _, if_pos one, ?_⟩
    rw [next_of_owed (by omega) (owed_one (by omega))]
    exact landed _ (if_pos (by omega))
  by_cases two : v ≤ 2047
  · refine ⟨_, _, by rw [if_neg one, if_pos two], ?_⟩
    rw [next_of_owed (by omega) (owed_two (by omega) (by omega))]
    simp only [List.cons_append, List.nil_append]
    rw [tail_cons (by omega) (by omega) (by omega)]
    refine landed _ ?_
    rw [leadBits, if_neg (by omega), if_pos (by omega)]
    omega
  by_cases three : v ≤ 65535
  · refine ⟨_, _, by rw [if_neg one, if_neg two, if_pos three], ?_⟩
    rw [next_of_owed (by omega) (owed_three (by omega) (by omega))]
    simp only [List.cons_append, List.nil_append]
    rw [tail_cons (by omega) (by split <;> omega) (by split <;> omega),
      tail_cons (by omega) (by omega) (by omega)]
    refine landed _ ?_
    rw [leadBits, if_neg (by omega), if_neg (by omega), if_pos (by omega)]
    omega
  · refine ⟨_, _, by rw [if_neg one, if_neg two, if_neg three], ?_⟩
    rw [next_of_owed (by omega) (owed_four (by omega) (by omega))]
    simp only [List.cons_append, List.nil_append]
    rw [tail_cons (by omega) (by split <;> omega) (by split <;> omega),
      tail_cons (by omega) (by omega) (by omega), tail_cons (by omega) (by omega) (by omega)]
    refine landed _ ?_
    rw [leadBits, if_neg (by omega), if_neg (by omega), if_neg (by omega)]
    omega

theorem decodeWithin_encode (cs : List Char) (fuel : Nat) (h : (encode cs).length ≤ fuel) :
    decodeWithin fuel (encode cs) = some cs := by
  induction cs generalizing fuel with
  | nil => cases fuel <;> rfl
  | cons c cs ih =>
    obtain ⟨a, more, spelled, read⟩ := next_encode c (encode cs)
    have split : encode (c :: cs) = a :: (more ++ encode cs) := by
      simp only [encode, List.flatMap_cons, spelled, List.cons_append]
    rw [split] at h ⊢
    cases fuel with
    | zero => simp at h
    | succ fuel =>
      have enough : (encode cs).length ≤ fuel := by
        simp only [List.length_cons, List.length_append] at h
        omega
      simp only [decodeWithin, read, ih fuel enough, Option.map_some]

theorem decode_encode (cs : List Char) : decode (encode cs) = some cs :=
  decodeWithin_encode cs _ (Nat.le_refl _)

theorem encode_inj {cs ds : List Char} : encode cs = encode ds ↔ cs = ds := by
  refine ⟨fun h => ?_, congrArg encode⟩
  have same := congrArg decode h
  rwa [decode_encode, decode_encode, Option.some_inj] at same

theorem owed_cases {a k lo hi : Nat} (h : owed a = some (k, lo, hi)) :
    (k = 0 ∧ a < 0x80) ∨
    (0x80 ≤ lo ∧ hi ≤ 0xBF ∧
      ((k = 1 ∧ 0xC2 ≤ a ∧ a < 0xE0) ∨
      (k = 2 ∧ 0xE0 ≤ a ∧ a < 0xF0 ∧ (a = 0xE0 → 0xA0 ≤ lo) ∧ (a = 0xED → hi ≤ 0x9F)) ∨
      (k = 3 ∧ 0xF0 ≤ a ∧ a < 0xF5 ∧ (a = 0xF0 → 0x90 ≤ lo) ∧ (a = 0xF4 → hi ≤ 0x8F)))) := by
  unfold owed at h
  repeat' split at h
  all_goals cases h
  all_goals omega

theorem tail_zero {lo hi acc n : Nat} {bs r : Octets} (h : tail 0 lo hi acc bs = .ok (n, r)) :
    acc = n ∧ bs = r := by
  rw [tail] at h
  cases h
  exact ⟨rfl, rfl⟩

theorem tail_succ {k lo hi acc n : Nat} {bs r : Octets}
    (h : tail (k + 1) lo hi acc bs = .ok (n, r)) :
    ∃ b rest, bs = b :: rest ∧ lo ≤ b.toNat ∧ b.toNat ≤ hi ∧
      tail k 0x80 0xBF (acc * 64 + b.toNat % 64) rest = .ok (n, r) := by
  cases bs with
  | nil => cases h
  | cons b rest =>
    rw [tail] at h
    split at h
    next within => exact ⟨b, rest, rfl, within.1, within.2, h⟩
    next => cases h

theorem ofNat_of_toNat {b : UInt8} {n : Nat} (h : b.toNat = n) : UInt8.ofNat n = b := by
  rw [← h, UInt8.ofNat_toNat]

theorem utf8EncodeChar_ofNat {n : Nat} (scalar : n < 0xD800 ∨ (0xDFFF < n ∧ n < 0x110000)) :
    String.utf8EncodeChar (Char.ofNat n) =
      if n ≤ 0x7F then [UInt8.ofNat n]
      else if n ≤ 0x7FF then [UInt8.ofNat (n / 64 % 32 + 0xC0), UInt8.ofNat (n % 64 + 0x80)]
      else if n ≤ 0xFFFF then
        [UInt8.ofNat (n / 4096 % 16 + 0xE0), UInt8.ofNat (n / 64 % 64 + 0x80),
          UInt8.ofNat (n % 64 + 0x80)]
      else
        [UInt8.ofNat (n / 262144 % 8 + 0xF0), UInt8.ofNat (n / 4096 % 64 + 0x80),
          UInt8.ofNat (n / 64 % 64 + 0x80), UInt8.ofNat (n % 64 + 0x80)] := by
  have valid : n.isValidChar := scalar
  have number : (Char.ofNat n).val.toNat = n := by
    rw [Char.ofNat, dif_pos valid]
    rfl
  unfold String.utf8EncodeChar
  rw [number]

theorem utf8EncodeChar_of_next {a : UInt8} {rest r : Octets} {c : Char}
    (h : next a rest = .ok (c, r)) : a :: rest = String.utf8EncodeChar c ++ r := by
  have small := a.toNat_lt
  unfold next at h
  split at h
  next => cases h
  next k lo hi asks =>
    cases found : tail k lo hi (leadBits a.toNat) rest with
    | error left =>
      rw [found] at h
      cases h
    | ok p =>
      obtain ⟨n, left⟩ := p
      rw [found] at h
      cases h
      unfold leadBits at found
      -- The bounds on the second octet keep the number in the range of so many octets.
      obtain ⟨rfl, one⟩ | ⟨bl, bh, ⟨rfl, low, high⟩ | ⟨rfl, low, high, first, surrogate⟩ |
        ⟨rfl, low, high, first, last⟩⟩ := owed_cases asks
      · obtain ⟨rfl, rfl⟩ := tail_zero found
        rw [if_pos one, utf8EncodeChar_ofNat (by omega), if_pos (by omega), UInt8.ofNat_toNat]
        rfl
      · obtain ⟨b, _, rfl, _, _, found⟩ := tail_succ found
        obtain ⟨rfl, rfl⟩ := tail_zero found
        rw [if_neg (by omega), if_pos (by omega), utf8EncodeChar_ofNat (by omega),
          if_neg (by omega), if_pos (by omega), ofNat_of_toNat (b := a) (by omega),
          ofNat_of_toNat (b := b) (by omega)]
        rfl
      · obtain ⟨b, _, rfl, _, _, found⟩ := tail_succ found
        obtain ⟨c, _, rfl, _, _, found⟩ := tail_succ found
        obtain ⟨rfl, rfl⟩ := tail_zero found
        rw [if_neg (by omega), if_neg (by omega), if_pos (by omega),
          utf8EncodeChar_ofNat (by omega), if_neg (by omega), if_neg (by omega),
          if_pos (by omega), ofNat_of_toNat (b := a) (by omega),
          ofNat_of_toNat (b := b) (by omega), ofNat_of_toNat (b := c) (by omega)]
        rfl
      · obtain ⟨b, _, rfl, _, _, found⟩ := tail_succ found
        obtain ⟨c, _, rfl, _, _, found⟩ := tail_succ found
        obtain ⟨d, _, rfl, _, _, found⟩ := tail_succ found
        obtain ⟨rfl, rfl⟩ := tail_zero found
        rw [if_neg (by omega), if_neg (by omega), if_neg (by omega),
          utf8EncodeChar_ofNat (by omega), if_neg (by omega), if_neg (by omega),
          if_neg (by omega), ofNat_of_toNat (b := a) (by omega),
          ofNat_of_toNat (b := b) (by omega), ofNat_of_toNat (b := c) (by omega),
          ofNat_of_toNat (b := d) (by omega)]
        rfl

theorem encode_of_decodeWithin {fuel : Nat} {bs : Octets} {cs : List Char}
    (h : decodeWithin fuel bs = some cs) : bs = encode cs := by
  fun_induction decodeWithin fuel bs generalizing cs with
  | case1 fuel =>
    cases h
    rfl
  | case2 => cases h
  | case3 fuel a rest c r read ih =>
    obtain ⟨ds, found, rfl⟩ := Option.map_eq_some_iff.mp h
    rw [utf8EncodeChar_of_next read, ih found]
    rfl
  | case4 => cases h

theorem decode_eq_some_iff {bs : Octets} {cs : List Char} :
    decode bs = some cs ↔ bs = encode cs := by
  constructor
  · exact encode_of_decodeWithin
  · rintro rfl
    exact decode_encode cs

theorem toString?_eq_some_iff {bs : Octets} {s : String} :
    toString? bs = some s ↔ bs = ofString s := by
  rw [toString?, ofString, ← decode_eq_some_iff, Option.map_eq_some_iff]
  constructor
  · rintro ⟨cs, read, rfl⟩
    rw [read, String.toList_ofList]
  · exact fun read => ⟨_, read, String.ofList_toList⟩

end ConsoleSession.Utf8
