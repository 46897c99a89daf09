import ConsoleSession.Proofs.Records

/-!
# What the printer writes

The printer writes one of the spellings of a value. For a record it writes the parts in order,
absent ones left out; since no two parts share a name, that is a spelling of the record.
-/

namespace ConsoleSession.Json

open ConsoleSession (Utf8.Octets)

theorem escapedChar_cases (c : Char) :
    (∃ e, (e, c) ∈ letterEscapes ∧ escapedChar c = ['\\', e]) ∨
    (c.toNat < 0x20 ∧ escapedChar c =
      ['\\', 'u', '0', '0', hexDigit (c.toNat / 16), hexDigit (c.toNat % 16)]) ∨
    (c ≠ '"' ∧ c ≠ '\\' ∧ ¬ c.toNat < 0x20 ∧ escapedChar c = [c]) := by
  by_cases quote : c = '"'
  · exact .inl ⟨'"', by subst quote; decide⟩
  by_cases backslash : c = '\\'
  · exact .inl ⟨'\\', by subst backslash; decide⟩
  by_cases back : c = '\x08'
  · exact .inl ⟨'b', by subst back; decide⟩
  by_cases feed : c = '\x0c'
  · exact .inl ⟨'f', by subst feed; decide⟩
  by_cases line : c = '\n'
  · exact .inl ⟨'n', by subst line; decide⟩
  by_cases carriage : c = '\r'
  · exact .inl ⟨'r', by subst carriage; decide⟩
  by_cases tab : c = '\t'
  · exact .inl ⟨'t', by subst tab; decide⟩
  unfold escapedChar
  rw [if_neg quote, if_neg backslash, if_neg back, if_neg feed, if_neg line, if_neg carriage,
    if_neg tab]
  by_cases control : c.toNat < 0x20
  · exact .inr (.inl ⟨control, if_pos control⟩)
  · exact .inr (.inr ⟨quote, backslash, control, if_neg control⟩)

theorem toNat_hexDigit : ∀ n < 16, (hexDigit n).toNat < 0x80 := by decide

theorem toNat_letterEscape : ∀ p ∈ letterEscapes, p.1.toNat < 0x80 := by decide

theorem hexUnit_control {n : Nat} (h : n < 0x20) :
    HexUnit n [ascii '0', ascii '0', ascii (hexDigit (n / 16)), ascii (hexDigit (n % 16))] := by
  have zero : HexDigit 0 (ascii '0') := ⟨by decide, .inl rfl⟩
  have whole : ((0 * 16 + 0) * 16 + n / 16) * 16 + n % 16 = n := by omega
  have unit := HexUnit.mk zero zero ⟨(by omega : n / 16 < 16), .inl rfl⟩
    ⟨(by omega : n % 16 < 16), .inl rfl⟩
  rwa [whole] at unit

theorem charSpelling_escapedChar (c : Char) : CharSpelling (Utf8.encode (escapedChar c)) c := by
  obtain ⟨e, known, printed⟩ | ⟨control, printed⟩ | ⟨quote, backslash, control, printed⟩ :=
    escapedChar_cases c
  · have low := toNat_letterEscape _ known
    rw [printed, Reader.encode_ascii (by simp [low])]
    exact .letter known
  · have high := toNat_hexDigit (c.toNat / 16) (by omega)
    have low := toNat_hexDigit (c.toNat % 16) (by omega)
    rw [printed, Reader.encode_ascii (by simp [high, low])]
    exact .unit (hexUnit_control control)
  · rw [printed]
    exact .plain quote backslash control

theorem textSpelling_renderText (s : String) : TextSpelling s (Utf8.encode (renderText s)) := by
  have chars : List.Forall₂ CharSpelling (s.toList.map fun c => Utf8.encode (escapedChar c))
      s.toList := by
    induction s.toList with
    | nil => exact .nil
    | cons c cs ih => exact .cons (charSpelling_escapedChar c) ih
  have inner : Utf8.encode (s.toList.flatMap escapedChar) =
      (s.toList.map fun c => Utf8.encode (escapedChar c)).flatten := by
    rw [Utf8.encode, List.flatMap_assoc, List.flatMap_def]
    rfl
  have spelled := TextSpelling.mk chars
  rw [← inner] at spelled
  rw [renderText, List.cons_append, Reader.encode_cons (by decide), Utf8.encode_append]
  exact spelled

theorem encode_natural (n : Nat) :
    Utf8.encode (renderChars (.number (.integer n))) = integerText n := by
  have digits : renderChars (.number (.integer n)) = Nat.toDigits 10 n := Nat.toList_repr
  rw [digits, Reader.integerText_natural]
  refine Reader.encode_ascii fun d hd => ?_
  exact Nat.lt_of_le_of_lt (Reader.digit_range (Reader.isDigit_of_mem_toDigits hd)).2 (by decide)

def printedEntry (m : String × Json) : Entry where
  name := m.1
  key := .bare (Utf8.encode (renderText m.1))
  item := .bare (Utf8.encode m.2.renderChars)
  spelled := textSpelling_renderText m.1

theorem printedEntry_octets (m : String × Json) : (printedEntry m).octets =
    Utf8.encode (renderText m.1) ++ ascii ':' :: Utf8.encode m.2.renderChars := by
  rw [Entry.octets, Member.octets, printedEntry, Item.bare_octets, Item.bare_octets]

theorem encode_renderMembers (ms : List (String × Json)) : Utf8.encode (renderMembers ms) =
    sequence true (ms.map fun m => (printedEntry m).octets) := by
  have colon (cs : List Char) : Utf8.encode (':' :: cs) = ascii ':' :: Utf8.encode cs :=
    Reader.encode_cons (by decide) cs
  have comma (cs : List Char) : Utf8.encode (',' :: cs) = ascii ',' :: Utf8.encode cs :=
    Reader.encode_cons (by decide) cs
  induction ms with
  | nil => rfl
  | cons m ms ih =>
    obtain ⟨k, v⟩ := m
    cases ms with
    | nil =>
      rw [renderMembers, Utf8.encode_append, colon, List.map_singleton, sequence_true, sequence_nil,
        List.append_nil, printedEntry_octets]
    | cons m ms =>
      have next : sequence false ((m :: ms).map fun m => (printedEntry m).octets) =
          ascii ',' :: Utf8.encode (renderMembers (m :: ms)) := ih ▸ rfl
      rw [renderMembers, Utf8.encode_append, Utf8.encode_append, colon, comma, List.map_cons,
        sequence_true, next, printedEntry_octets, List.append_assoc, List.cons_append]
      exact List.cons_ne_nil _ _

inductive Written : List Part → List (String × Json) → Prop
  | nil : Written [] []
  | part {parts : List Part} {ms : List (String × Json)} (p : Part) {v : Json}
      (spelled : p.spelled (Utf8.encode v.renderChars)) (more : Written parts ms) :
      Written (p :: parts) ((p.name, v) :: ms)
  | absent {parts : List Part} {ms : List (String × Json)} {p : Part} (optional : p.optional = true)
      (more : Written parts ms) : Written (p :: parts) ms

namespace Written

variable {parts : List Part} {ms : List (String × Json)}

theorem perhaps {α : Type} {spelling : α → Utf8.Octets → Prop} (json : α → Json)
    (spelled : ∀ a, spelling a (Utf8.encode (json a).renderChars)) (name : String) (a? : Option α)
    (more : Written parts ms) : Written (Part.perhaps name spelling a? :: parts)
      ((a?.map fun a => (name, json a)).toList ++ ms) := by
  cases a? with
  | none => exact .absent rfl more
  | some a => exact .part (Part.perhaps name spelling (some a)) (spelled a) more

theorem part_of_mem (h : Written parts ms) :
    ∀ m ∈ ms, ∃ p ∈ parts, m.1 = p.name ∧ p.spelled (Utf8.encode m.2.renderChars) := by
  induction h with
  | nil => exact List.forall_mem_nil _
  | part p spelled more ih =>
    refine List.forall_mem_cons.mpr ⟨⟨p, List.mem_cons_self, rfl, spelled⟩, fun m hm => ?_⟩
    obtain ⟨q, hq, rest⟩ := ih m hm
    exact ⟨q, List.mem_cons_of_mem _ hq, rest⟩
  | absent optional more ih =>
    intro m hm
    obtain ⟨q, hq, rest⟩ := ih m hm
    exact ⟨q, List.mem_cons_of_mem _ hq, rest⟩

theorem mem_of_part (h : Written parts ms) :
    ∀ p ∈ parts, p.optional = false → ∃ m ∈ ms, m.1 = p.name := by
  induction h with
  | nil => exact List.forall_mem_nil _
  | part p spelled more ih =>
    refine List.forall_mem_cons.mpr ⟨fun _ => ⟨_, List.mem_cons_self, rfl⟩, fun q hq needed => ?_⟩
    obtain ⟨m, hm, same⟩ := ih q hq needed
    exact ⟨m, List.mem_cons_of_mem _ hm, same⟩
  | absent optional more ih =>
    exact List.forall_mem_cons.mpr
      ⟨fun needed => absurd (optional.symm.trans needed) (by decide), ih⟩

theorem sublist (h : Written parts ms) : (ms.map Prod.fst).Sublist (parts.map Part.name) := by
  induction h with
  | nil => exact .slnil
  | part p spelled more ih => exact ih.cons_cons _
  | absent optional more ih => exact ih.cons _

theorem named (h : Written parts ms) (distinct : Distinct parts) :
    Named parts (ms.map printedEntry) := by
  have fits : ∀ m ∈ ms, (printedEntry m).Fits parts := by
    intro m hm
    obtain ⟨p, hp, name, spelled⟩ := h.part_of_mem m hm
    have called : m.1 ∈ p.names := name ▸ List.mem_cons_self
    exact distinct.fits hp called spelled
  have names : (parts.map Part.name).Pairwise (· ≠ ·) := by
    refine List.pairwise_map.mpr ((List.pairwise_map.mp distinct).imp fun disjoint same => ?_)
    exact disjoint _ List.mem_cons_self (same ▸ List.mem_cons_self)
  -- `Distinct` speaks of parts, so each of two members is traced to its part first.
  have once : ms.Pairwise fun m m' => ∀ p ∈ parts, m.1 ∈ p.names → m'.1 ∉ p.names := by
    refine (List.pairwise_map.mp (names.sublist h.sublist)).imp_of_mem ?_
    intro m m' hm hm' other p hp called called'
    obtain ⟨q, hq, name, -⟩ := h.part_of_mem m hm
    obtain ⟨q', hq', name', -⟩ := h.part_of_mem m' hm'
    have same := distinct.same hp hq called (name ▸ List.mem_cons_self)
    have same' := distinct.same hp hq' called' (name' ▸ List.mem_cons_self)
    exact other (by rw [name, name', ← same, ← same'])
  refine ⟨List.forall_mem_map.mpr fits, List.pairwise_map.mpr once, fun p hp needed => ?_⟩
  obtain ⟨m, hm, name⟩ := h.mem_of_part p hp needed
  have called : m.1 ∈ p.names := name ▸ List.mem_cons_self
  exact ⟨printedEntry m, List.mem_map_of_mem hm, called⟩

theorem spelling (h : Written parts ms) (distinct : Distinct parts) :
    RecordSpelling parts (Utf8.encode (renderChars (.object ms))) := by
  have brace (cs : List Char) : Utf8.encode ('\x7b' :: cs) = ascii '\x7b' :: Utf8.encode cs :=
    Reader.encode_cons (by decide) cs
  have printed : Utf8.encode (renderChars (.object ms)) =
      objectText [] ((ms.map printedEntry).map Entry.toMember) := by
    rw [renderChars, List.cons_append, brace, Utf8.encode_append, encode_renderMembers, objectText,
      List.map_map, List.map_map]
    rfl
  rw [printed]
  exact .object (List.forall_mem_nil _) (h.named distinct)

end Written

end ConsoleSession.Json
