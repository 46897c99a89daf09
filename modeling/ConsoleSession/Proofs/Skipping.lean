import ConsoleSession.Json.Skip
import ConsoleSession.Proofs.Spelling
import Mathlib.Data.List.DropRight

/-!
# Passing over well-formed values

A well-formed value of any depth is passed over exactly, whatever brackets are open around it. The
skipper keeps a stack where the grammar nests, so the statement that an induction on the grammar
carries is about every stack: with enough fuel for the octets that are left, the skipper comes out
behind the value with the stack as it was and enough fuel for the rest.
-/

namespace ConsoleSession.Json.Reader

open ConsoleSession (Utf8.Octets)

theorem skipText_body {bs : Utf8.Octets} (h : StringBody bs) (fuel : Nat) (rest : Utf8.Octets)
    (enough : (bs ++ ascii '"' :: rest).length < fuel) :
    skipText fuel (bs ++ ascii '"' :: rest) = .ok rest := by
  induction h generalizing fuel with
  | nil =>
    obtain ⟨fuel, rfl⟩ := Nat.exists_eq_add_one_of_ne_zero (Nat.ne_zero_of_lt enough)
    rw [List.nil_append, skipText.eq_def]
    exact if_pos rfl
  | plain itself more ih =>
    obtain ⟨fuel, rfl⟩ := Nat.exists_eq_add_one_of_ne_zero (Nat.ne_zero_of_lt enough)
    obtain ⟨noQuote, noEscape, noControl⟩ := itself
    rw [List.cons_append, skipText.eq_def]
    simp only [if_neg noQuote, if_neg noEscape, if_neg noControl]
    exact ih fuel (by simp only [List.cons_append, List.length_cons] at enough; omega)
  | letter known more ih =>
    obtain ⟨fuel, rfl⟩ := Nat.exists_eq_add_one_of_ne_zero (Nat.ne_zero_of_lt enough)
    have letter := letterEscape?_of_mem _ known
    rw [List.cons_append, List.cons_append, skipText.eq_def]
    simp only [if_neg (show ascii '\\' ≠ ascii '"' by decide), if_true, letter, Option.isSome_some]
    exact ih fuel (by simp only [List.cons_append, List.length_cons] at enough; omega)
  | unit digits more ih =>
    obtain ⟨fuel, rfl⟩ := Nat.exists_eq_add_one_of_ne_zero (Nat.ne_zero_of_lt enough)
    rw [List.cons_append, List.cons_append, List.append_assoc, skipText.eq_def]
    simp only [if_neg (show ascii '\\' ≠ ascii '"' by decide), if_true, letterEscape?_unit,
      Option.isSome_none, Bool.false_eq_true, if_false, hexUnit_read digits, bind, Except.bind]
    refine ih fuel ?_
    simp only [List.cons_append, List.length_cons, List.length_append] at enough ⊢
    omega

theorem skipText_taken {bs : Utf8.Octets} (h : StringText bs) (rest : Utf8.Octets) :
    ∃ body, bs ++ rest = ascii '"' :: body ∧ skipText (body.length + 1) body = .ok rest := by
  obtain ⟨body⟩ := h
  exact ⟨_, by rw [List.cons_append, List.append_assoc, List.singleton_append],
    skipText_body body _ rest (Nat.lt_succ_self _)⟩

theorem startsWithDigit_append {ds : Utf8.Octets} (h : Digits ds) (rest : Utf8.Octets) :
    startsWithDigit (ds ++ rest) = true := by
  cases ds with
  | nil => exact absurd rfl h.nonempty
  | cons d ds => exact h.digits d List.mem_cons_self

theorem dropWhile_digits {ds : Utf8.Octets} (h : ∀ b ∈ ds, isDigit b) {rest : Utf8.Octets}
    (stop : startsWithDigit rest = false) : (ds ++ rest).dropWhile isDigit = rest := by
  rw [List.dropWhile_append_of_pos h]
  cases rest with
  | nil => rfl
  | cons b rest => exact List.dropWhile_cons_of_neg (ne_true_of_eq_false stop)

theorem skipExponent_taken {sign ds : Utf8.Octets}
    (signed : sign = [] ∨ sign = [ascii '+'] ∨ sign = [ascii '-']) (h : Digits ds)
    {rest : Utf8.Octets} (stop : startsWithDigit rest = false) :
    skipExponent (sign ++ ds ++ rest) = .ok rest := by
  have digits : (if startsWithDigit (ds ++ rest) then
      (.ok ((ds ++ rest).dropWhile isDigit) : Except Fault Utf8.Octets)
      else .error .badNumber) = .ok rest := by
    rw [if_pos (startsWithDigit_append h rest), dropWhile_digits h.digits stop]
  obtain rfl | rfl | rfl := signed
  · obtain ⟨d, more, rfl⟩ := List.exists_cons_of_ne_nil h.nonempty
    have digit := h.digits d List.mem_cons_self
    have noSign : ¬ (d = ascii '+' ∨ d = ascii '-') := by
      rintro (rfl | rfl) <;> exact absurd digit (by decide)
    simp only [List.nil_append, List.cons_append, skipExponent, if_neg noSign]
    exact digits
  · exact digits
  · exact digits

theorem skipExponent_perhaps {e rest : Utf8.Octets} (h : ExponentPart e) (ends : Ends rest) :
    (if startsWithExponent (e ++ rest) then skipExponent ((e ++ rest).drop 1) else .ok (e ++ rest))
      = .ok rest := by
  cases h with
  | none => rw [List.nil_append, ends.exponent, if_neg Bool.false_ne_true]
  | @some e sign ds letter signed digits =>
    have marked : startsWithExponent (e :: (sign ++ ds ++ rest)) = true := by
      obtain rfl | rfl := letter <;> rfl
    rw [List.cons_append, if_pos marked]
    exact skipExponent_taken signed digits ends.digit

theorem no_digit_of_exponent {e rest : Utf8.Octets} (h : ExponentPart e) (ends : Ends rest) :
    startsWithDigit (e ++ rest) = false := by
  cases h with
  | none => exact ends.digit
  | some letter signed digits => obtain rfl | rfl := letter <;> rfl

theorem no_digit_of_fraction {f e rest : Utf8.Octets} (fraction : FractionPart f)
    (exponent : ExponentPart e) (ends : Ends rest) :
    startsWithDigit (f ++ (e ++ rest)) = false := by
  cases fraction with
  | none =>
    rw [List.nil_append]
    exact no_digit_of_exponent exponent ends
  | some digits => rfl

theorem skipNumber_tail {f e rest : Utf8.Octets} (fraction : FractionPart f)
    (exponent : ExponentPart e) (ends : Ends rest) :
    (match f ++ (e ++ rest) with
      | [] => .ok []
      | c :: rest =>
        if c = ascii '.' then skipFraction rest
        else if startsWithExponent (c :: rest) then skipExponent rest
        else .ok (c :: rest) : Except Fault Utf8.Octets) = .ok rest := by
  have perhaps := skipExponent_perhaps exponent ends
  cases fraction with
  | none =>
    rw [List.nil_append]
    cases behind : e ++ rest with
    | nil =>
      obtain ⟨-, rfl⟩ := List.append_eq_nil_iff.mp behind
      rfl
    | cons c more =>
      have noPoint : c ≠ ascii '.' := by
        rintro rfl
        cases exponent with
        | none => exact ends.point (by rw [← List.nil_append rest, behind]; rfl)
        | some letter signed digits =>
          obtain rfl | rfl := letter <;> exact absurd (List.cons.inj behind).1 (by decide)
      rw [behind] at perhaps
      simp only [if_neg noPoint]
      exact perhaps
  | @some ds digits =>
    simp only [List.cons_append, if_true, skipFraction, startsWithDigit_append digits,
      dropWhile_digits digits.digits (no_digit_of_exponent exponent ends)]
    exact perhaps

theorem digit_of_wholePart {w : Utf8.Octets} (h : WholePart w) :
    ∃ d more, w = d :: more ∧ ∀ b ∈ w, isDigit b = true := by
  obtain rfl | ⟨digits, -⟩ := h
  · exact ⟨_, _, rfl, List.forall_mem_singleton.mpr (by decide)⟩
  · obtain ⟨d, more, spelled⟩ := List.exists_cons_of_ne_nil digits.nonempty
    exact ⟨d, more, spelled, digits.digits⟩

theorem skipNumber_taken {w f e rest : Utf8.Octets} (whole : WholePart w)
    (fraction : FractionPart f) (exponent : ExponentPart e) (ends : Ends rest) :
    skipNumber (w ++ (f ++ (e ++ rest))) = .ok rest := by
  have stop := no_digit_of_fraction fraction exponent ends
  obtain ⟨d, more, rfl, digits⟩ := digit_of_wholePart whole
  have dropped := dropWhile_digits digits stop
  have digit := digits d List.mem_cons_self
  have lone : ¬ (d = ascii '0' ∧ startsWithDigit (more ++ (f ++ (e ++ rest)))) := by
    rintro ⟨rfl, digit⟩
    obtain same | ⟨-, noZero⟩ := whole
    · obtain rfl := (List.cons.inj same).2
      exact absurd digit (ne_true_of_eq_false stop)
    · exact noZero rfl
  rw [List.cons_append] at dropped ⊢
  rw [skipNumber, if_neg (not_not_intro digit), if_neg lone, dropped]
  exact skipNumber_tail fraction exponent ends

/-- The skipper passes over these octets, whatever is open around them. -/
def Skips (bs : Utf8.Octets) : Prop :=
  ∀ fuel stack front rest, Blanks front → Ends rest → (front ++ (bs ++ rest)).length < fuel →
    ∃ fuel', rest.length < fuel' ∧ skipWithin fuel true stack (front ++ (bs ++ rest)) =
      skipWithin fuel' false stack rest

theorem skips_scalar {b : UInt8} {bs : Utf8.Octets} (solid : isBlank b = false)
    (noBracket : openedBy b = none)
    (h : ∀ rest, Ends rest → skipScalar b (bs ++ rest) = .ok rest) : Skips (b :: bs) := by
  intro fuel stack front rest blank ends enough
  obtain ⟨fuel, rfl⟩ := Nat.exists_eq_add_one_of_ne_zero (Nat.ne_zero_of_lt enough)
  refine ⟨fuel, ?_, ?_⟩
  · simp only [List.length_append, List.length_cons] at enough
    omega
  · rw [List.cons_append, skipWithin.eq_def]
    simp only [skipBlanks_front blank solid, noBracket, h rest ends, bind, Except.bind]

theorem word_taken (cs : List Char) (rest : Utf8.Octets) :
    word cs (cs.map ascii ++ rest) = .ok rest := by
  induction cs with
  | nil => rfl
  | cons c cs ih => rw [List.map_cons, List.cons_append, word, if_pos rfl, ih]

theorem ne_of_isDigit {d : UInt8} (h : isDigit d = true) {c : Char}
    (noDigit : isDigit (ascii c) = false) : d ≠ ascii c := by
  rintro rfl
  exact absurd h (ne_true_of_eq_false noDigit)

theorem skips_number {bs : Utf8.Octets} (h : NumberText bs) : Skips bs := by
  obtain @⟨sign, w, f, e, signed, whole, fraction, exponent⟩ := h
  have taken (rest : Utf8.Octets) (ends : Ends rest) :
      skipNumber (w ++ (f ++ e) ++ rest) = .ok rest := by
    rw [List.append_assoc, List.append_assoc]
    exact skipNumber_taken whole fraction exponent ends
  obtain rfl | rfl := signed
  · obtain ⟨d, more, rfl, digits⟩ := digit_of_wholePart whole
    have digit := digits d List.mem_cons_self
    have other {c : Char} (noDigit : isDigit (ascii c) = false) := ne_of_isDigit digit noDigit
    refine skips_scalar (isBlank_of_isDigit digit) ?_ fun rest ends => ?_
    · rw [openedBy, if_neg (other (by decide)), if_neg (other (by decide))]
    · rw [skipScalar, if_neg (other (by decide)), if_neg (other (by decide)),
        if_neg (other (by decide)), if_neg (other (by decide)), if_pos digit]
      exact taken rest ends
  · exact skips_scalar (by decide) (by decide) taken

theorem skips_text {bs : Utf8.Octets} (h : StringText bs) : Skips bs := by
  obtain ⟨body⟩ := h
  refine skips_scalar (by decide) (by decide) fun rest _ => ?_
  rw [List.append_assoc, List.singleton_append]
  exact skipText_body body _ rest (Nat.lt_succ_self _)

def enclosed {α : Type} (k : Bracket) (octets : α → Utf8.Octets) (first : Bool) (ps : List α)
    (rest : Utf8.Octets) : Utf8.Octets :=
  sequence first (ps.map octets) ++ k.close :: rest

section
variable {α : Type} (k : Bracket) (octets : α → Utf8.Octets)

@[simp] theorem enclosed_nil (first : Bool) (rest : Utf8.Octets) :
    enclosed k octets first [] rest = k.close :: rest := rfl

@[simp] theorem enclosed_true (p : α) (ps : List α) (rest : Utf8.Octets) :
    enclosed k octets true (p :: ps) rest = octets p ++ enclosed k octets false ps rest := by
  rw [enclosed, List.map_cons, sequence_true, List.append_assoc, enclosed]

@[simp] theorem enclosed_false (p : α) (ps : List α) (rest : Utf8.Octets) :
    enclosed k octets false (p :: ps) rest =
      ascii ',' :: (octets p ++ enclosed k octets false ps rest) := by
  rw [enclosed, List.map_cons, sequence_false, List.cons_append, List.append_assoc, enclosed]

theorem enclosed_append (first : Bool) (ps : List α) (rest : Utf8.Octets) :
    enclosed k octets first ps [] ++ rest = enclosed k octets first ps rest := by
  rw [enclosed, List.append_assoc, List.cons_append, List.nil_append, enclosed]

theorem ends_enclosed (ps : List α) (rest : Utf8.Octets) :
    Ends (enclosed k octets false ps rest) := by
  cases ps with
  | nil => cases k <;> exact ends_cons (by decide) _
  | cons p ps =>
    rw [enclosed_false]
    exact ends_cons (by decide) _

end

def skipLead : Bracket → Utf8.Octets → Except Fault Utf8.Octets
  | .list, input => .ok input
  | .object, input => skipKey input

def ledOctets (p : Utf8.Octets × Item) : Utf8.Octets := p.1 ++ p.2.octets

structure Passed (k : Bracket) (lead : Utf8.Octets) (i : Item) : Prop where
  led : ∀ rest, skipLead k (lead ++ rest) = .ok rest
  value : Skips i.value
  starts : ∀ rest, ∃ b more, skipBlanks (lead ++ (i.octets ++ rest)) = b :: more ∧ b ≠ k.close

theorem close_solid (k : Bracket) : isBlank k.close = false := by cases k <;> decide

theorem advance_close (k : Bracket) {blanks : Utf8.Octets} (blank : Blanks blanks)
    (rest : Utf8.Octets) : advance k (blanks ++ k.close :: rest) = .ok (false, rest) := by
  rw [advance, skipBlanks_front blank (close_solid k)]
  cases k <;> rfl

theorem advance_comma (k : Bracket) {blanks : Utf8.Octets} (blank : Blanks blanks)
    {input rest : Utf8.Octets} (lead : skipLead k input = .ok rest) :
    advance k (blanks ++ ascii ',' :: input) = .ok (true, rest) := by
  rw [advance, skipBlanks_front blank (by decide)]
  cases k with
  | list => exact congrArg (fun rest => Except.ok (true, rest)) (Except.ok.inj lead)
  | object =>
    simp only [if_true, show skipKey input = .ok rest from lead]
    rfl

theorem skipWithin_enclosed (k : Bracket) {ps : List (Utf8.Octets × Item)}
    (h : ∀ p ∈ ps, Passed k p.1 p.2) (fuel : Nat) (stack : List Bracket) (blanks rest : Utf8.Octets)
    (blank : Blanks blanks)
    (enough : (blanks ++ enclosed k ledOctets false ps rest).length < fuel) :
    ∃ fuel', rest.length < fuel' ∧ skipWithin fuel false (k :: stack)
      (blanks ++ enclosed k ledOctets false ps rest) = skipWithin fuel' false stack rest := by
  -- On the values; the fuel left by one value still exceeds what remains, so it does for the next.
  induction ps generalizing fuel blanks with
  | nil =>
    obtain ⟨fuel, rfl⟩ := Nat.exists_eq_add_one_of_ne_zero (Nat.ne_zero_of_lt enough)
    rw [enclosed_nil] at enough ⊢
    rw [List.length_append, List.length_cons] at enough
    refine ⟨fuel, by omega, ?_⟩
    rw [skipWithin, advance_close k blank]
    rfl
  | cons p ps ih =>
    obtain ⟨lead, i⟩ := p
    obtain ⟨fuel, rfl⟩ := Nat.exists_eq_add_one_of_ne_zero (Nat.ne_zero_of_lt enough)
    obtain ⟨passed, more⟩ := List.forall_mem_cons.mp h
    have behind := ends_append i.back_blank (ends_enclosed k ledOctets ps rest)
    rw [enclosed_false, ledOctets, List.append_assoc, i.octets_append] at enough ⊢
    have step := advance_comma k blank
      (passed.led (i.front ++ (i.value ++ (i.back ++ enclosed k ledOctets false ps rest))))
    simp only [List.length_append, List.length_cons] at enough
    obtain ⟨fuel₁, enough₁, skipped⟩ := passed.value fuel (k :: stack) i.front _ i.front_blank
      behind (by simp only [List.length_append]; omega)
    obtain ⟨fuel₂, enough₂, closed⟩ := ih more fuel₁ i.back i.back_blank enough₁
    refine ⟨fuel₂, enough₂, ?_⟩
    rw [skipWithin, step]
    exact skipped.trans closed

def Bracket.opening : Bracket → UInt8
  | .list => ascii '['
  | .object => ascii '\x7b'

theorem openedBy_opening (k : Bracket) : openedBy k.opening = some k := by cases k <;> decide

theorem enter_append (k : Bracket) {blanks : Utf8.Octets} (blank : Blanks blanks)
    (input : Utf8.Octets) : enter k (blanks ++ input) = enter k input := by
  rw [enter, enter, skipBlanks_append blank]

theorem enter_close (k : Bracket) (rest : Utf8.Octets) :
    enter k (k.close :: rest) = .ok (false, rest) := by
  rw [enter, skipBlanks_cons (close_solid k)]
  exact if_pos rfl

theorem skipBlanks_idem (input : Utf8.Octets) : skipBlanks (skipBlanks input) = skipBlanks input :=
  List.dropWhile_idempotent isBlank input

theorem skipWithin_skipBlanks (fuel : Nat) (stack : List Bracket) (input : Utf8.Octets) :
    skipWithin fuel true stack (skipBlanks input) = skipWithin fuel true stack input := by
  cases fuel with
  | zero => rfl
  | succ fuel => simp only [skipWithin, skipBlanks_idem]

theorem skipWithin_enter (k : Bracket) {input inside more : Utf8.Octets} {b : UInt8}
    (begins : skipBlanks input = b :: more) (goesOn : b ≠ k.close)
    (lead : skipLead k input = .ok inside) (fuel : Nat) (stack : List Bracket) :
    (do let (wanted, rest) ← enter k input
        skipWithin fuel wanted (if wanted then k :: stack else stack) rest) =
      skipWithin fuel true (k :: stack) inside := by
  rw [enter, begins]
  simp only [if_neg goesOn]
  cases k with
  | list =>
    obtain rfl : input = inside := Except.ok.inj lead
    rw [← skipWithin_skipBlanks fuel _ input, begins]
    rfl
  | object =>
    have keyed : skipKey (b :: more) = .ok inside := by
      rw [← begins, ← lead, skipLead, skipKey, skipKey, skipBlanks_idem]
    rw [keyed]
    rfl

theorem skips_bracket (k : Bracket) {blanks : Utf8.Octets} (blank : Blanks blanks)
    {ps : List (Utf8.Octets × Item)} (h : ∀ p ∈ ps, Passed k p.1 p.2) :
    Skips (k.opening :: (blanks ++ enclosed k ledOctets true ps [])) := by
  intro fuel stack front rest frontBlank ends enough
  obtain ⟨fuel, rfl⟩ := Nat.exists_eq_add_one_of_ne_zero (Nat.ne_zero_of_lt enough)
  have whole : blanks ++ enclosed k ledOctets true ps [] ++ rest =
      blanks ++ enclosed k ledOctets true ps rest := by
    rw [List.append_assoc, enclosed_append]
  have solid : isBlank k.opening = false := by cases k <;> decide
  rw [List.cons_append, whole] at enough ⊢
  rw [skipWithin.eq_def]
  simp only [skipBlanks_front frontBlank solid, openedBy_opening, enter_append k blank]
  cases ps with
  | nil =>
    rw [enclosed_nil] at enough ⊢
    simp only [List.length_append, List.length_cons] at enough
    refine ⟨fuel, by omega, ?_⟩
    rw [enter_close]
    rfl
  | cons p ps =>
    obtain ⟨lead, i⟩ := p
    obtain ⟨passed, more⟩ := List.forall_mem_cons.mp h
    rw [enclosed_true, ledOctets, List.append_assoc] at enough ⊢
    -- No comma comes before the first value, so `skipWithin_enclosed` applies only behind it.
    obtain ⟨b, _, begins, goesOn⟩ := passed.starts (enclosed k ledOctets false ps rest)
    have inside := skipWithin_enter k begins goesOn (passed.led _) fuel stack
    rw [i.octets_append] at enough inside ⊢
    simp only [List.length_append, List.length_cons] at enough
    obtain ⟨fuel₁, enough₁, skipped⟩ := passed.value fuel (k :: stack) i.front _ i.front_blank
      (ends_append i.back_blank (ends_enclosed k ledOctets ps rest))
      (by simp only [List.length_append]; omega)
    obtain ⟨fuel₂, enough₂, closed⟩ :=
      skipWithin_enclosed k more fuel₁ stack i.back rest i.back_blank enough₁
    exact ⟨fuel₂, enough₂, inside.trans (skipped.trans closed)⟩

theorem skipKey_taken {key : Item} (h : StringText key.value) (rest : Utf8.Octets) :
    skipKey (key.octets ++ ascii ':' :: rest) = .ok rest := by
  obtain ⟨body, spelled, skipped⟩ := skipText_taken h (key.back ++ ascii ':' :: rest)
  rw [key.octets_append, spelled, skipKey, skipBlanks_front key.front_blank (by decide)]
  simp only [ne_eq, not_true_eq_false, if_false, skipped,
    skipBlanks_front key.back_blank (show isBlank (ascii ':') = false by decide), if_true, bind,
    Except.bind]

def Starts (bs : Utf8.Octets) : Prop :=
  ∃ b more, bs = b :: more ∧ isBlank b = false ∧ b ≠ ascii ']'

theorem starts_of_isDigit {d : UInt8} (h : isDigit d = true) (rest : Utf8.Octets) :
    Starts (d :: rest) :=
  ⟨d, rest, rfl, isBlank_of_isDigit h, ne_of_isDigit h (by decide)⟩

theorem starts_of_wellFormed {bs : Utf8.Octets} (h : WellFormed bs) : Starts bs := by
  cases h with
  | number h =>
    obtain ⟨rfl | rfl, whole, fraction, exponent⟩ := h
    · obtain ⟨d, more, rfl, digits⟩ := digit_of_wholePart whole
      exact starts_of_isDigit (digits d List.mem_cons_self) _
    · exact ⟨_, _, rfl, by decide, by decide⟩
  | text h =>
    obtain ⟨body⟩ := h
    exact ⟨_, _, rfl, by decide, by decide⟩
  | null => exact ⟨_, _, rfl, by decide, by decide⟩
  | true => exact ⟨_, _, rfl, by decide, by decide⟩
  | false => exact ⟨_, _, rfl, by decide, by decide⟩
  | list => exact ⟨_, _, rfl, by decide, by decide⟩
  | object => exact ⟨_, _, rfl, by decide, by decide⟩

theorem skips_list {blanks : Utf8.Octets} {items : List Item} (blank : Blanks blanks)
    (values : ∀ i ∈ items, Starts i.value ∧ Skips i.value) : Skips (listText blanks items) := by
  have passed : ∀ p ∈ items.map fun i => (([] : Utf8.Octets), i), Passed .list p.1 p.2 := by
    refine List.forall_mem_map.mpr fun i hi => ⟨fun rest => rfl, (values i hi).2, fun rest => ?_⟩
    obtain ⟨⟨b, more, spelled, solid, inside⟩, -⟩ := values i hi
    refine ⟨b, more ++ (i.back ++ rest), ?_, inside⟩
    rw [List.nil_append, i.octets_append, spelled, List.cons_append,
      skipBlanks_front i.front_blank solid]
  have skipped := skips_bracket .list blank passed
  rw [enclosed, List.map_map] at skipped
  exact skipped

theorem skips_object {blanks : Utf8.Octets} {members : List Member} (blank : Blanks blanks)
    (keys : ∀ m ∈ members, StringText m.key.value) (values : ∀ m ∈ members, Skips m.item.value) :
    Skips (objectText blanks members) := by
  have passed : ∀ p ∈ members.map fun m => (m.key.octets ++ [ascii ':'], m.item),
      Passed .object p.1 p.2 := by
    refine List.forall_mem_map.mpr fun m hm => ⟨fun rest => ?_, values m hm, fun rest => ?_⟩
    · rw [List.append_assoc]
      exact skipKey_taken (keys m hm) rest
    · obtain ⟨body, spelled, -⟩ := skipText_taken (keys m hm)
        (m.key.back ++ ([ascii ':'] ++ (m.item.octets ++ rest)))
      refine ⟨ascii '"', body, ?_, by decide⟩
      rw [List.append_assoc, m.key.octets_append, spelled,
        skipBlanks_front m.key.front_blank (by decide)]
  have member : Member.octets = fun m => m.key.octets ++ [ascii ':'] ++ m.item.octets :=
    funext fun m => by rw [Member.octets, List.append_assoc, List.singleton_append]
  have skipped := skips_bracket .object blank passed
  rw [enclosed, List.map_map] at skipped
  rw [objectText, member]
  exact skipped

theorem skips_of_wellFormed {bs : Utf8.Octets} (h : WellFormed bs) : Skips bs := by
  -- `Skips` says nothing of what is open around a value, so the hypotheses serve inside a bracket.
  induction h with
  | null => exact skips_scalar (by decide) (by decide) fun rest _ => word_taken ['u', 'l', 'l'] rest
  | true => exact skips_scalar (by decide) (by decide) fun rest _ => word_taken ['r', 'u', 'e'] rest
  | false =>
    exact skips_scalar (by decide) (by decide) fun rest _ => word_taken ['a', 'l', 's', 'e'] rest
  | number h => exact skips_number h
  | text h => exact skips_text h
  | list blank values ih =>
    exact skips_list blank fun i hi => ⟨starts_of_wellFormed (values i hi), ih i hi⟩
  | object blank keys values ih => exact skips_object blank keys ih

theorem skip_taken {bs : Utf8.Octets} (h : WellFormed bs) {front rest : Utf8.Octets}
    (blank : Blanks front) (ends : Ends rest) : skip (front ++ (bs ++ rest)) = .ok rest := by
  obtain ⟨fuel, enough, skipped⟩ := skips_of_wellFormed h
    ((front ++ (bs ++ rest)).length + 2) [] front rest blank ends (by omega)
  obtain ⟨fuel, rfl⟩ := Nat.exists_eq_add_one_of_ne_zero (Nat.ne_zero_of_lt enough)
  rw [skip, skipped]
  rfl

end ConsoleSession.Json.Reader
