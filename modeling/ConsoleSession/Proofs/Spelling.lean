import ConsoleSession.Proofs.Grammar
import ConsoleSession.Proofs.Unicode
import Mathlib.Data.List.Basic

/-!
# Reading strings and integers

Blanks in front of anything are passed over. A string is read piece by piece, each piece spelling
one character: the character's own octets, or an escape of it. An integer is read digit by digit up
to an octet that no number goes on with, and stays whole within the bounds of 64 bits.
-/

namespace ConsoleSession.Json

open ConsoleSession (Utf8.Octets)

theorem skipBlanks_append {blanks : Utf8.Octets} (h : Blanks blanks) (rest : Utf8.Octets) :
    skipBlanks (blanks ++ rest) = skipBlanks rest :=
  List.dropWhile_append_of_pos h

theorem skipBlanks_cons {b : UInt8} (h : isBlank b = false) (rest : Utf8.Octets) :
    skipBlanks (b :: rest) = b :: rest :=
  List.dropWhile_cons_of_neg (ne_true_of_eq_false h)

theorem skipBlanks_front {front : Utf8.Octets} (h : Blanks front) {b : UInt8}
    (solid : isBlank b = false) (rest : Utf8.Octets) :
    skipBlanks (front ++ b :: rest) = b :: rest := by
  rw [skipBlanks_append h, skipBlanks_cons solid]

theorem isBlank_of_isDigit {b : UInt8} (h : isDigit b = true) : isBlank b = false := by
  by_contra blank
  simp only [isBlank, Bool.not_eq_false, Bool.or_eq_true, beq_iff_eq] at blank
  obtain ((rfl | rfl) | rfl) | rfl := blank <;> exact absurd h (by decide)

namespace Reader

/-- Octets inside a string that the reader takes for the character `c`. -/
def Spells (bs : Utf8.Octets) (c : Char) : Prop :=
  ∀ fuel acc rest, (bs ++ rest).length < fuel → ∃ fuel', rest.length < fuel' ∧
    textOctets fuel acc (bs ++ rest) =
      textOctets fuel' ((String.utf8EncodeChar c).reverse ++ acc) rest

theorem textOctets_plain {bs : Utf8.Octets} (plain : ∀ b ∈ bs, Plain b) :
    ∀ fuel acc rest, (bs ++ rest).length < fuel → ∃ fuel', rest.length < fuel' ∧
      textOctets fuel acc (bs ++ rest) = textOctets fuel' (bs.reverse ++ acc) rest := by
  induction bs with
  | nil => exact fun fuel acc rest h => ⟨fuel, h, rfl⟩
  | cons b bs ih =>
    intro fuel acc rest h
    obtain ⟨fuel, rfl⟩ := Nat.exists_eq_add_one_of_ne_zero (Nat.ne_zero_of_lt h)
    obtain ⟨noQuote, noEscape, noControl⟩ := plain b List.mem_cons_self
    obtain ⟨fuel', enough, read⟩ := ih (fun x hx => plain x (List.mem_cons_of_mem _ hx)) fuel
      (b :: acc) rest (by simp only [List.cons_append, List.length_cons] at h; omega)
    refine ⟨fuel', enough, ?_⟩
    rw [List.cons_append, textOctets, if_neg noQuote, if_neg noEscape, if_neg noControl, read,
      List.reverse_cons, List.append_assoc, List.singleton_append]

theorem spells_of_escape {bs : Utf8.Octets} {c : Char}
    (h : ∀ rest, escape (bs ++ rest) = .ok (c, rest)) : Spells (ascii '\\' :: bs) c := by
  intro fuel acc rest enough
  obtain ⟨fuel, rfl⟩ := Nat.exists_eq_add_one_of_ne_zero (Nat.ne_zero_of_lt enough)
  refine ⟨fuel, ?_, ?_⟩
  · simp only [List.cons_append, List.length_cons, List.length_append] at enough
    omega
  · rw [List.cons_append, textOctets, if_neg (by decide), if_pos rfl, h]
    rfl

theorem textOctets_spelled {pieces : List Utf8.Octets} {cs : List Char}
    (h : List.Forall₂ Spells pieces cs) (fuel : Nat) (acc rest : Utf8.Octets)
    (enough : (pieces.flatten ++ ascii '"' :: rest).length < fuel) :
    textOctets fuel acc (pieces.flatten ++ ascii '"' :: rest) =
      .ok (acc.reverse ++ Utf8.encode cs, rest) := by
  -- on the pieces; what has been read of the string so far is the accumulator
  induction h generalizing fuel acc with
  | nil =>
    obtain ⟨fuel, rfl⟩ := Nat.exists_eq_add_one_of_ne_zero (Nat.ne_zero_of_lt enough)
    rw [List.flatten_nil, List.nil_append, textOctets, if_pos rfl, Utf8.encode, List.flatMap_nil,
      List.append_nil]
  | @cons bs c pieces cs head _ ih =>
    rw [List.flatten_cons, List.append_assoc] at enough ⊢
    obtain ⟨fuel', enough', read⟩ := head fuel acc _ enough
    rw [read, ih fuel' _ enough', List.reverse_append, List.reverse_reverse, List.append_assoc]
    rfl

theorem text_spelled {pieces : List Utf8.Octets} {cs : List Char}
    (h : List.Forall₂ Spells pieces cs) (rest : Utf8.Octets) :
    text (pieces.flatten ++ ascii '"' :: rest) = .ok (String.ofList cs, rest) := by
  simp only [text, textOctets_spelled h _ _ _ (Nat.lt_succ_self _), List.reverse_nil,
    List.nil_append, Utf8.toString?, Utf8.decode_encode, Option.map_some, bind, Except.bind]

theorem hexValue?_hexDigit : ∀ n < 16, hexValue? (ascii (hexDigit n)) = some n ∧
    hexValue? (ascii (hexDigit n).toUpper) = some n := by decide

theorem hexValue?_of_hexDigit {n : Nat} {b : UInt8} (h : HexDigit n b) : hexValue? b = some n := by
  obtain ⟨small, rfl | rfl⟩ := h
  · exact (hexValue?_hexDigit n small).1
  · exact (hexValue?_hexDigit n small).2

theorem hexUnit_read {n : Nat} {u : Utf8.Octets} (h : HexUnit n u) (rest : Utf8.Octets) :
    hexUnit (u ++ rest) = .ok (n, rest) := by
  obtain ⟨first, second, third, fourth⟩ := h
  simp only [List.cons_append, List.nil_append, hexUnit, hexValue?_of_hexDigit first,
    hexValue?_of_hexDigit second, hexValue?_of_hexDigit third, hexValue?_of_hexDigit fourth]

theorem no_surrogate (c : Char) : isLeading c.toNat = false ∧ isTrailing c.toNat = false := by
  have range := Utf8.scalar_cases c
  simp only [isLeading, isTrailing, Bool.and_eq_false_iff, decide_eq_false_iff_not]
  omega

theorem letterEscape?_unit : letterEscape? (ascii 'u') = none := by decide

theorem spells_unit {c : Char} {u : Utf8.Octets} (h : HexUnit c.toNat u) :
    Spells (ascii '\\' :: ascii 'u' :: u) c := by
  refine spells_of_escape fun rest => ?_
  obtain ⟨leading, trailing⟩ := no_surrogate c
  rw [List.cons_append, escape, letterEscape?_unit]
  simp only [if_true, unitEscape, hexUnit_read h, trailing, leading, Char.ofNat_toNat, bind,
    Except.bind, Bool.false_eq_true, if_false]

theorem spells_pair {c : Char} {n m : Nat} {u v : Utf8.Octets} (leading : HexUnit (0xD800 + n) u)
    (trailing : HexUnit (0xDC00 + m) v) (high : n < 0x400) (low : m < 0x400)
    (number : c.toNat = 0x10000 + n * 0x400 + m) :
    Spells (ascii '\\' :: ascii 'u' :: (u ++ ascii '\\' :: ascii 'u' :: v)) c := by
  refine spells_of_escape fun rest => ?_
  have first : isTrailing (0xD800 + n) = false ∧ isLeading (0xD800 + n) = true := by
    simp only [isLeading, isTrailing, Bool.and_eq_false_iff, Bool.and_eq_true, decide_eq_true_eq,
      decide_eq_false_iff_not]
    omega
  have second : isTrailing (0xDC00 + m) = true := by
    simp only [isTrailing, Bool.and_eq_true, decide_eq_true_eq]
    omega
  have joined : joinUnits (0xD800 + n) (0xDC00 + m) = c := by
    rw [joinUnits, Nat.add_sub_cancel_left, Nat.add_sub_cancel_left, ← number, Char.ofNat_toNat]
  rw [List.cons_append, escape, letterEscape?_unit, List.append_assoc]
  simp only [if_true, unitEscape, hexUnit_read leading, first, List.cons_append, trailingUnit,
    ne_eq, not_true_eq_false, hexUnit_read trailing, second, joined, bind, Except.bind,
    Bool.false_eq_true, if_false]

theorem letterEscape?_of_mem : ∀ p ∈ letterEscapes, letterEscape? (ascii p.1) = some p.2 := by
  decide

theorem encode_cons {c : Char} (h : c.toNat < 0x80) (cs : List Char) :
    Utf8.encode (c :: cs) = ascii c :: Utf8.encode cs := by
  have low : c.val.toNat ≤ 127 := Nat.le_of_lt_succ h
  have one : String.utf8EncodeChar c = [ascii c] := if_pos low
  rw [Utf8.encode, List.flatMap_cons, one]
  rfl

theorem encode_ascii {cs : List Char} (h : ∀ c ∈ cs, c.toNat < 0x80) :
    Utf8.encode cs = cs.map ascii := by
  induction cs with
  | nil => rfl
  | cons c cs ih =>
    have head : c.toNat < 0x80 := h c List.mem_cons_self
    rw [encode_cons head, List.map_cons, ih fun x hx => h x (List.mem_cons_of_mem _ hx)]

theorem plain_ofNat {n : Nat} (hn : n < 256) (control : 0x20 ≤ n) (quote : n ≠ 0x22)
    (backslash : n ≠ 0x5C) : Plain (UInt8.ofNat n) := by
  have same : (UInt8.ofNat n).toNat = n := UInt8.toNat_ofNat_of_lt hn
  refine ⟨fun h => quote ?_, fun h => backslash ?_, fun h => ?_⟩
  · rw [← same, h]
    rfl
  · rw [← same, h]
    rfl
  · have low : n < 0x20 := same ▸ UInt8.lt_iff_toNat_lt.mp h
    omega

theorem plain_encode {c : Char} (quote : c ≠ '"') (backslash : c ≠ '\\')
    (control : ¬ c.toNat < 0x20) : ∀ b ∈ String.utf8EncodeChar c, Plain b := by
  have quote : c.toNat ≠ 0x22 := fun h => quote (Char.toNat_inj.mp h)
  have backslash : c.toNat ≠ 0x5C := fun h => backslash (Char.toNat_inj.mp h)
  simp only [String.utf8EncodeChar, show c.val.toNat = c.toNat from rfl]
  have high (n : Nat) (low : 0x80 ≤ n) (hn : n < 256) : Plain (UInt8.ofNat n) :=
    plain_ofNat hn (by omega) (by omega) (by omega)
  split
  · exact List.forall_mem_singleton.mpr (plain_ofNat (by omega) (by omega) quote backslash)
  split
  · refine List.forall_mem_cons.mpr ⟨high _ ?_ ?_, List.forall_mem_singleton.mpr (high _ ?_ ?_)⟩
      <;> omega
  split
  · refine List.forall_mem_cons.mpr ⟨high _ ?_ ?_, List.forall_mem_cons.mpr ⟨high _ ?_ ?_,
      List.forall_mem_singleton.mpr (high _ ?_ ?_)⟩⟩ <;> omega
  · refine List.forall_mem_cons.mpr ⟨high _ ?_ ?_, List.forall_mem_cons.mpr ⟨high _ ?_ ?_,
      List.forall_mem_cons.mpr ⟨high _ ?_ ?_, List.forall_mem_singleton.mpr (high _ ?_ ?_)⟩⟩⟩
      <;> omega

theorem spells_encode {c : Char} (quote : c ≠ '"') (backslash : c ≠ '\\')
    (control : ¬ c.toNat < 0x20) : Spells (Utf8.encode [c]) c := by
  intro fuel acc rest enough
  rw [Utf8.encode, List.flatMap_singleton] at enough ⊢
  exact textOctets_plain (plain_encode quote backslash control) fuel acc rest enough

theorem spells_letter {b : UInt8} {c : Char} (h : letterEscape? b = some c) :
    Spells [ascii '\\', b] c :=
  spells_of_escape fun rest => by simp only [List.singleton_append, escape, h]

theorem spells_of_charSpelling {bs : Utf8.Octets} {c : Char} (h : CharSpelling bs c) :
    Spells bs c := by
  cases h with
  | plain quote backslash control => exact spells_encode quote backslash control
  | letter known => exact spells_letter (letterEscape?_of_mem _ known)
  | unit digits => exact spells_unit digits
  | pair leading trailing high low number => exact spells_pair leading trailing high low number

theorem text_taken {s : String} {bs : Utf8.Octets} (h : TextSpelling s bs) (rest : Utf8.Octets) :
    ∃ body, bs ++ rest = ascii '"' :: body ∧ text body = .ok (s, rest) := by
  obtain ⟨chars⟩ := h
  have read := text_spelled (chars.imp fun _ _ => spells_of_charSpelling) rest
  rw [String.ofList_toList] at read
  exact ⟨_, by rw [List.cons_append, List.append_assoc, List.singleton_append], read⟩

structure Ends (rest : Utf8.Octets) : Prop where
  digit : startsWithDigit rest = false
  exponent : startsWithExponent rest = false
  point : rest.head? ≠ some (ascii '.')

theorem ends_cons {b : UInt8}
    (h : isDigit b = false ∧ startsWithExponent [b] = false ∧ b ≠ ascii '.') (rest : Utf8.Octets) :
    Ends (b :: rest) :=
  ⟨h.1, h.2.1, fun point => h.2.2 (Option.some_inj.mp point)⟩

theorem ends_append {blanks rest : Utf8.Octets} (h : Blanks blanks) (ends : Ends rest) :
    Ends (blanks ++ rest) := by
  cases blanks with
  | nil => exact ends
  | cons b blanks =>
    have blank := h b List.mem_cons_self
    simp only [isBlank, Bool.or_eq_true, beq_iff_eq] at blank
    obtain ((rfl | rfl) | rfl) | rfl := blank <;> exact ends_cons (by decide) _

theorem digit_range {d : Char} (h : d.isDigit) : 0x30 ≤ d.toNat ∧ d.toNat ≤ 0x39 :=
  Char.isDigit_iff_toNat.mp h

theorem toNat_ascii {c : Char} (h : c.toNat < 0x80) : (ascii c).toNat = c.toNat :=
  UInt8.toNat_ofNat_of_lt (Nat.lt_trans h (by decide))

theorem isDigit_ascii {d : Char} (h : d.isDigit) : isDigit (ascii d) = true := by
  obtain ⟨low, high⟩ := digit_range h
  have same := toNat_ascii (c := d) (by omega)
  have above : ascii '0' ≤ ascii d := UInt8.le_iff_toNat_le.mpr (same ▸ low)
  have below : ascii d ≤ ascii '9' := UInt8.le_iff_toNat_le.mpr (same ▸ high)
  simp only [isDigit, above, below, decide_true, Bool.and_self]

theorem digitOf_ascii {d : Char} (h : d.isDigit) : digitOf (ascii d) = d.toNat - '0'.toNat := by
  obtain ⟨low, high⟩ := digit_range h
  rw [digitOf, toNat_ascii (by omega)]
  rfl

theorem le_ofDigitChars (s : Nat) (ds : List Char) : s ≤ Nat.ofDigitChars 10 ds s := by
  have grows : s ≤ 10 ^ ds.length * s := Nat.le_mul_of_pos_left s (Nat.pow_pos (by decide))
  rw [Nat.ofDigitChars_eq_ofDigitChars_zero]
  omega

theorem takeDigits_spelled {ds : List Char} (digits : ∀ d ∈ ds, d.isDigit) {s : Nat} (k : Nat)
    {rest : Utf8.Octets} (stop : startsWithDigit rest = false)
    (small : Nat.ofDigitChars 10 ds s < bound64) :
    takeDigits s k (ds.map ascii ++ rest) = (Nat.ofDigitChars 10 ds s, k + ds.length, rest) := by
  induction ds generalizing s k with
  | nil =>
    cases rest with
    | nil => rfl
    | cons b rest =>
      have noDigit : ¬ (isDigit b ∧ s * 10 + digitOf b < bound64) := by
        rw [show isDigit b = false from stop]
        exact fun h => Bool.noConfusion h.1
      rw [List.map_nil, List.nil_append, takeDigits, if_neg noDigit, Nat.ofDigitChars_nil]
      rfl
  | cons d ds ih =>
    have digit := digits d List.mem_cons_self
    have next : s * 10 + digitOf (ascii d) = 10 * s + (d.toNat - '0'.toNat) := by
      rw [digitOf_ascii digit, Nat.mul_comm]
    rw [Nat.ofDigitChars_cons, ← next] at small ⊢
    -- the number of the digits so far is at most the whole one, so this digit fits too
    have fits := Nat.lt_of_le_of_lt (le_ofDigitChars _ ds) small
    rw [List.map_cons, List.cons_append, takeDigits, if_pos ⟨isDigit_ascii digit, fits⟩,
      ih (fun x hx => digits x (List.mem_cons_of_mem _ hx)) (k + 1) small, List.length_cons]
    congr 2
    omega

theorem takeWhile_isDigit {rest : Utf8.Octets} (stop : startsWithDigit rest = false) :
    rest.takeWhile isDigit = [] := by
  cases rest with
  | nil => rfl
  | cons b rest =>
    have noDigit : ¬ isDigit b = true := ne_true_of_eq_false stop
    exact List.takeWhile_cons_of_neg noDigit

theorem afterDigits_of_ends {rest : Utf8.Octets} (h : Ends rest) (negative : Bool) (s dropped : Nat)
    (finish : Except Fault (Number × Utf8.Octets)) :
    afterDigits negative s dropped finish rest = finish := by
  cases rest with
  | nil => rfl
  | cons b rest =>
    have point : b ≠ ascii '.' := fun same => h.point (by rw [same]; rfl)
    rw [afterDigits, if_neg point, h.exponent]
    rfl

theorem head_toDigits (n : Nat) (h : (Nat.toDigits 10 n).head? = some '0') : n = 0 := by
  induction n using Nat.strongRecOn with
  | _ n ih =>
    by_cases small : n < 10
    · rw [Nat.toDigits_of_lt_base small, List.head?_cons, Option.some_inj] at h
      exact Nat.digitChar_eq_zero.mp h
    · rw [Nat.toDigits_of_base_le (by decide) (by omega),
        List.head?_append_of_ne_nil _ Nat.toDigits_ne_nil] at h
      have := ih (n / 10) (by omega) h
      omega

theorem isDigit_of_mem_toDigits {n : Nat} {d : Char} (h : d ∈ Nat.toDigits 10 n) : d.isDigit :=
  Nat.isDigit_of_mem_toDigits (by decide) (by decide) h

theorem number_toDigits (negative : Bool) {n : Nat} (small : n < UInt64.size) {rest : Utf8.Octets}
    (h : Ends rest) :
    number negative ((Nat.toDigits 10 n).map ascii ++ rest) = wholeNumber negative n rest := by
  have digits : ∀ d ∈ Nat.toDigits 10 n, d.isDigit := fun _ => isDigit_of_mem_toDigits
  have front := head_toDigits n
  have whole : Nat.ofDigitChars 10 (Nat.toDigits 10 n) 0 = n := Nat.ofDigitChars_ten_toDigits
  cases spelled : Nat.toDigits 10 n with
  | nil => exact absurd spelled Nat.toDigits_ne_nil
  | cons d ds =>
    rw [spelled] at digits front whole
    have digit := digits d List.mem_cons_self
    rw [List.map_cons, List.cons_append, number, if_neg (not_not_intro (isDigit_ascii digit))]
    -- the reader takes no digit after a leading zero, so that zero must be the whole number
    by_cases zero : ascii d = ascii '0'
    · have zero : d = '0' := by
        obtain ⟨low, high⟩ := digit_range digit
        exact Char.toNat_inj.mp (by rw [← toNat_ascii (c := d) (by omega), zero]; rfl)
      subst zero
      obtain rfl : n = 0 := front rfl
      rw [Nat.toDigits_zero, List.cons_inj_right] at spelled
      subst spelled
      have stop : ¬ startsWithDigit rest = true := by rw [h.digit]; exact Bool.false_ne_true
      rw [if_pos rfl, List.map_nil, List.nil_append, if_neg stop, afterDigits_of_ends h]
    · rw [Nat.ofDigitChars_cons, Nat.mul_zero, Nat.zero_add, ← digitOf_ascii digit] at whole
      have taken := takeDigits_spelled (fun x hx => digits x (List.mem_cons_of_mem _ hx)) 0 h.digit
        (lt_of_eq_of_lt whole small)
      rw [if_neg zero, taken, whole]
      simp only [takeWhile_isDigit h.digit, List.length_nil, if_true, afterDigits_of_ends h]

theorem integerText_natural (n : Nat) : integerText n = (Nat.toDigits 10 n).map ascii :=
  congrArg (List.map ascii) Nat.toList_repr

theorem integerText_negative {n : Nat} (h : 0 < n) :
    integerText (-n) = ascii '-' :: (Nat.toDigits 10 n).map ascii := by
  obtain ⟨n, rfl⟩ := Nat.exists_eq_add_one_of_ne_zero (Nat.ne_zero_of_lt h)
  have text : toString (-((n + 1 : Nat) : Int)) = "-" ++ (n + 1).repr := rfl
  rw [integerText, text, String.toList_append, Nat.toList_repr]
  rfl

end Reader

end ConsoleSession.Json
