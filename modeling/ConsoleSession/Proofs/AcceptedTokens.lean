import ConsoleSession.Proofs.SixBits

/-!
# Which token texts decode

A token decodes exactly if it has two dots and what stands between them, without the padding behind
it, spells octets that read as claims with an expiry. The octets have one spelling, so nothing in the
middle of a token can be changed, its padding apart, without changing the payload.
-/

namespace ConsoleSession.Claims

open Base64Url (Spells Tidy spells_iff exists_spells_iff)
open ConsoleSession (Utf8.Octets)

variable {token header middle signature : List Char} {octets : Utf8.Octets}

theorem length_splitOn (cs : List Char) : (cs.splitOn '.').length = cs.count '.' + 1 := by
  induction cs with
  | nil => rfl
  | cons c cs ih =>
    rw [List.splitOn_cons_eq_if_modifyHead]
    by_cases dot : c = '.'
    · rw [if_pos (beq_iff_eq.mpr dot), List.length_cons, ih, dot, List.count_cons_self]
    · rw [if_neg (mt beq_iff_eq.mp dot), List.length_modifyHead, ih, List.count_cons_of_ne dot]

theorem splitOn_eq_iff : token.splitOn '.' = [header, middle, signature] ↔
    token.count '.' = 2 ∧ token = header ++ '.' :: (middle ++ '.' :: signature) := by
  constructor
  · intro parts
    have joined : ['.'].intercalate (token.splitOn '.') = token := List.intercalate_splitOn '.'
    have dots := length_splitOn token
    rw [parts] at joined dots
    refine ⟨(Nat.succ.inj dots).symm, ?_⟩
    rw [← joined]
    simp [List.intercalate]
  · rintro ⟨dots, rfl⟩
    simp only [List.count_append, List.count_cons_self] at dots
    have plain (cs : List Char) (h : cs.count '.' = 0) : cs.splitOn '.' = [cs] :=
      List.splitOn_eq_singleton (List.count_eq_zero.mp h)
    rw [List.splitOn_append_cons_self, List.splitOn_append_cons_self, plain header (by omega),
      plain middle (by omega), plain signature (by omega)]
    rfl

theorem payload_eq_ok_iff : payload middle = .ok octets ↔
    ∃ n, middle = segment octets ++ List.replicate n '=' := by
  refine ⟨fun read => ?_, fun ⟨n, padded⟩ => padded ▸ payload_segment octets n⟩
  have spelled : Text.trimEnd (· == '=') middle = segment octets := by
    rw [← Utf8.encode_inj, encode_segment]
    exact Base64Url.decode_eq_ok_iff.mp read
  exact (Text.trimEnd_eq_iff.mp spelled).1

/-- The text has exactly two dots, and `text` between them, with padding. What `text` spells reads as
the claims, and they have an expiry of their own or in the subject. -/
structure Carries (token : String) (text : List Char) (octets : Utf8.Octets) (c : Claims) : Prop where
  dots : token.toList.count '.' = 2
  middle : ∃ header n signature,
    token.toList = header ++ '.' :: (text ++ List.replicate n '=' ++ '.' :: signature)
  bare : text.getLast? ≠ some '='
  spelled : Spells text octets
  parsed : parse octets = .ok c
  expires : c.expiry ≠ none ∨ c.subject.expiry ≠ none

theorem isNone_expiresAt {c : Claims} :
    c.expiresAt.isNone = false ↔ c.expiry ≠ none ∨ c.subject.expiry ≠ none := by
  rw [expiresAt, Option.isNone_eq_false_iff, Option.isSome_iff_ne_none, ← not_and_or, not_iff_not]
  cases c.expiry <;> simp

theorem decodeSegment_eq_ok_iff {c : Claims} : decodeSegment middle = .ok c ↔
    ∃ octets, payload middle = .ok octets ∧ parse octets = .ok c ∧
      (c.expiry ≠ none ∨ c.subject.expiry ≠ none) := by
  simp only [← isNone_expiresAt]
  constructor
  · intro h
    rw [decodeSegment] at h
    split at h
    next => cases h
    next octets read =>
      split at h
      next => cases h
      next c' parsed =>
        split at h
        next => cases h
        next known =>
          cases h
          exact ⟨octets, read, parsed, Bool.eq_false_iff.mpr known⟩
  · rintro ⟨octets, read, parsed, known⟩
    simp only [decodeSegment, read, parsed, known]
    rfl

theorem decode_eq_ok_iff {token : String} {c : Claims} :
    decode token = .ok c ↔ ∃ text octets, Carries token text octets c := by
  constructor
  · intro h
    rw [decode] at h
    split at h
    next header middle signature parts =>
      obtain ⟨dots, whole⟩ := splitOn_eq_iff.mp parts
      obtain ⟨octets, read, parsed, expires⟩ := decodeSegment_eq_ok_iff.mp h
      obtain ⟨n, rfl⟩ := payload_eq_ok_iff.mp read
      exact ⟨segment octets, octets, dots, ⟨header, n, signature, whole⟩, bare_segment octets,
        spells_iff.mpr rfl, parsed, expires⟩
    next => cases h
  · rintro ⟨text, octets, dots, ⟨header, n, signature, whole⟩, -, spelled, parsed, expires⟩
    have read : payload (text ++ List.replicate n '=') = .ok octets :=
      payload_eq_ok_iff.mpr ⟨n, by rw [spells_iff.mp spelled]⟩
    rw [decode, splitOn_eq_iff.mpr ⟨dots, whole⟩]
    exact decodeSegment_eq_ok_iff.mpr ⟨octets, read, parsed, expires⟩

/-- A token decodes to claims exactly if it has two dots and between them, up to padding, a text that
spells octets which read as these claims, with an expiry. A text spells something if it is of the
alphabet, leaves no character over and no bits but zeros. Tokens that differ there carry different
payloads, and what is read from a token is spelled, when it is encoded again, as it was. -/
theorem accepted_iff_spelled (token : String) :
    (∀ c, decode token = .ok c ↔ ∃ text octets, Carries token text octets c) ∧
    (∀ text, (∃ octets, Spells text octets) ↔ Tidy text) ∧
    (∀ (token' : String) c c' text text' octets octets', Carries token text octets c →
      Carries token' text' octets' c' → text ≠ text' → octets ≠ octets') ∧
    ∀ c text octets, Carries token text octets c →
      (∀ n, payload (text ++ List.replicate n '=') = .ok octets) ∧ segment octets = text := by
  refine ⟨fun c => decode_eq_ok_iff, fun text => exists_spells_iff, ?_, ?_⟩
  · rintro token' c c' text text' octets _ here there apart rfl
    exact apart (here.spelled.unique there.spelled)
  · intro c text octets here
    obtain rfl := spells_iff.mp here.spelled
    exact ⟨payload_segment octets, rfl⟩

/-- Two tokens of different claims carry different payloads, whatever padding they have. A last
character with a bit to spare spells nothing. -/
theorem tokens_carry_apart :
    (∃ text octets text' octets', Carries (quoted.token "h" (padding 2) "s") text octets quoted ∧
      Carries (numbered.token "h" (padding 0) "s") text' octets' numbered ∧
      text ≠ text' ∧ octets ≠ octets' ∧ segment octets = text) ∧
    (∃ octets, Spells "QQ".toList octets) ∧ ¬ ∃ octets, Spells "QR".toList octets := by
  have first : decode (quoted.token "h" (padding 2) "s") = .ok quoted :=
    decode_tokenOf (parse_spelling quoted.spelling_json) (by decide) (by decide) (by decide) 2
  have second : decode (numbered.token "h" (padding 0) "s") = .ok numbered :=
    decode_tokenOf (parse_spelling numbered.spelling_json) (by decide) (by decide) (by decide) 0
  obtain ⟨accepted, tidy, apart, again⟩ := accepted_iff_spelled (quoted.token "h" (padding 2) "s")
  obtain ⟨accepted', -, -, again'⟩ := accepted_iff_spelled (numbered.token "h" (padding 0) "s")
  obtain ⟨text, octets, here⟩ := (accepted _).mp first
  obtain ⟨text', octets', there⟩ := (accepted' _).mp second
  have differ : text ≠ text' := by
    rintro rfl
    have same := ((again _ _ _ here).1 0).symm.trans ((again' _ _ _ there).1 0)
    cases same
    exact absurd (here.parsed.symm.trans there.parsed) (by decide)
  refine ⟨⟨text, octets, text', octets', here, there, differ,
    apart _ _ _ _ _ _ _ here there differ, (again _ _ _ here).2⟩, ?_, ?_⟩
  · refine (tidy _).mpr ⟨List.forall_mem_cons.mpr ⟨?_, List.forall_mem_singleton.mpr ?_⟩, ?_, ?_⟩
    · decide
    · decide
    · decide
    · rintro _ ⟨⟩
      exact ⟨fun _ => by decide, nofun⟩
  · rw [tidy]
    rintro ⟨-, -, spare⟩
    exact absurd ((spare 'R' rfl).1 rfl) (by decide)

end ConsoleSession.Claims
