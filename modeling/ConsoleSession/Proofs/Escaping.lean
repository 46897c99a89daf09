import ConsoleSession.Proofs.Unicode
import ConsoleSession.Text.Percent

/-!
# Percent-encoded texts

A percent-encoded text is made of unreserved characters and of escapes, and of nothing else, so that
no mark of a URL can come from the text that was encoded. Decoding gives that text back, whatever is
in it: each escape stands for one octet of the text, and a character that stands for itself is no
percent sign.
-/

namespace ConsoleSession.Percent

open ConsoleSession (Utf8.Octets)

variable {c : Char} {cs : List Char}

def unreserved : List Char := ['-', '_', '.', '~']

def digits : List Char :=
  ['0', '1', '2', '3', '4', '5', '6', '7', '8', '9', 'A', 'B', 'C', 'D', 'E', 'F']

inductive Escaped : List Char → Prop
  | nil : Escaped []
  | plain {c : Char} {cs : List Char} (h : c.isAlphanum = true ∨ c ∈ unreserved)
      (rest : Escaped cs) : Escaped (c :: cs)
  | octet {h l : Char} {cs : List Char} (high : h ∈ digits) (low : l ∈ digits)
      (rest : Escaped cs) : Escaped ('%' :: h :: l :: cs)

theorem isUnreserved_iff : isUnreserved c = true ↔ c.isAlphanum = true ∨ c ∈ unreserved := by
  simp [isUnreserved, unreserved, or_assoc]

theorem digit_spec : ∀ n < 16, digit n ∈ digits ∧ digitValue? (digit n) = some n := by decide

theorem isAlphanum_of_mem_digits : ∀ c ∈ digits, c.isAlphanum = true :=
  List.all_eq_true.mp (by decide)

theorem Escaped.append {ds : List Char} (h : Escaped cs) (h' : Escaped ds) :
    Escaped (cs ++ ds) := by
  induction h with
  | nil => exact h'
  | plain h _ ih => exact .plain h ih
  | octet high low _ ih => exact .octet high low ih

theorem Escaped.mem (h : Escaped cs) (hc : c ∈ cs) :
    c.isAlphanum = true ∨ c ∈ '%' :: unreserved := by
  induction h with
  | nil => cases hc
  | plain h _ ih =>
    obtain rfl | hc := List.mem_cons.mp hc
    · exact h.imp_right (List.mem_cons_of_mem _)
    · exact ih hc
  | octet high low _ ih =>
    obtain rfl | hc := List.mem_cons.mp hc
    · exact .inr List.mem_cons_self
    obtain rfl | hc := List.mem_cons.mp hc
    · exact .inl (isAlphanum_of_mem_digits _ high)
    obtain rfl | hc := List.mem_cons.mp hc
    · exact .inl (isAlphanum_of_mem_digits _ low)
    · exact ih hc

theorem Escaped.free {marks : List Char} (h : Escaped cs)
    (apart : ∀ c ∈ marks, c.isAlphanum = false ∧ c ∉ '%' :: unreserved) : ∀ c ∈ marks, c ∉ cs := by
  intro c hc inside
  obtain ⟨symbol, other⟩ := apart c hc
  obtain letter | mark := h.mem inside
  · rw [symbol] at letter
    cases letter
  · exact other mark

theorem escaped_octets (bs : Utf8.Octets) : Escaped (bs.flatMap octet) := by
  induction bs with
  | nil => exact .nil
  | cons b bs ih =>
    have := b.toNat_lt
    exact .octet (digit_spec _ (by omega)).1 (digit_spec _ (by omega)).1 ih

theorem escaped_encode (cs : List Char) : Escaped (encode cs) := by
  induction cs with
  | nil => exact .nil
  | cons c cs ih =>
    rw [encode, List.flatMap_cons]
    refine Escaped.append ?_ ih
    rw [encodeChar]
    split
    next h => exact .plain (isUnreserved_iff.mp h) .nil
    next => exact escaped_octets _

theorem decodeOctets_octet (b : UInt8) (rest : List Char) :
    decodeOctets (octet b ++ rest) = b :: decodeOctets rest := by
  have := b.toNat_lt
  have high := (digit_spec (b.toNat / 16) (by omega)).2
  have low := (digit_spec (b.toNat % 16) (by omega)).2
  have whole : b.toNat / 16 * 16 + b.toNat % 16 = b.toNat := by omega
  rw [octet, List.cons_append, List.cons_append, List.cons_append, List.nil_append, decodeOctets,
    high, low]
  simp only [whole, UInt8.ofNat_toNat]

theorem decodeOctets_octets (bs : Utf8.Octets) (rest : List Char) :
    decodeOctets (bs.flatMap octet ++ rest) = bs ++ decodeOctets rest := by
  induction bs with
  | nil => rfl
  | cons b bs ih =>
    rw [List.flatMap_cons, List.append_assoc, decodeOctets_octet, ih, List.cons_append]

theorem decodeOctets_plain (h : c ≠ '%') (rest : List Char) :
    decodeOctets (c :: rest) = String.utf8EncodeChar c ++ decodeOctets rest := by
  rw [decodeOctets]
  exact fun _ _ _ percent _ => h percent

theorem decodeOctets_encode (cs : List Char) : decodeOctets (encode cs) = Utf8.encode cs := by
  induction cs with
  | nil => rfl
  | cons c cs ih =>
    rw [encode, List.flatMap_cons, Utf8.encode, List.flatMap_cons, ← encode, ← Utf8.encode, ← ih,
      encodeChar]
    split
    next h =>
      have plain : c ≠ '%' := fun percent => by
        rw [percent] at h
        exact absurd h (by decide)
      exact decodeOctets_plain plain _
    next => exact decodeOctets_octets _ _

theorem decode_encode (cs : List Char) : decode (encode cs) = some cs := by
  rw [decode, decodeOctets_encode, Utf8.decode_encode]

theorem decode_component (s : String) : decode (component s).toList = some s.toList := by
  rw [component, String.toList_ofList, decode_encode]

theorem escaped_component (s : String) : Escaped (component s).toList := by
  rw [component, String.toList_ofList]
  exact escaped_encode _

theorem component_inj {s s' : String} : component s = component s' ↔ s = s' := by
  refine ⟨fun h => ?_, congrArg component⟩
  have same := congrArg (fun s => decode s.toList) h
  simp only [decode_component, Option.some_inj] at same
  exact String.toList_inj.mp same

end ConsoleSession.Percent
