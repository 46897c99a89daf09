import ConsoleSession.Proofs.Base64
import ConsoleSession.Proofs.Payloads
import ConsoleSession.Proofs.Spans
import ConsoleSession.Token.Store

/-!
# Token texts

A payload of any octets between a header and a signature without dots, padded at will, comes out of
the token as it went in. So a token decodes to the claims that its payload spells, however it spells
them, and a store that the token is set to decodes to them too.
-/

namespace ConsoleSession

open Json
open ConsoleSession (Utf8.Octets)

namespace Claims

def segment (payload : Utf8.Octets) : List Char :=
  (Base64Url.encode payload).map fun b => Char.ofNat b.toNat

def padding (n : Nat) : String := String.ofList (List.replicate n '=')

def tokenOf (payload : Utf8.Octets) (header padding signature : String) : String :=
  header ++ "." ++ String.ofList (segment payload) ++ padding ++ "." ++ signature

theorem tokenOf_json (c : Claims) (header padding signature : String) :
    tokenOf (Utf8.encode c.json.renderChars) header padding signature =
      c.token header padding signature := rfl

theorem symbol_char : ∀ v < 64, ascii (Char.ofNat (Base64Url.symbol v).toNat) = Base64Url.symbol v ∧
    (Char.ofNat (Base64Url.symbol v).toNat).toNat < 0x80 ∧
    Char.ofNat (Base64Url.symbol v).toNat ≠ '.' ∧ Char.ofNat (Base64Url.symbol v).toNat ≠ '=' := by
  decide

variable {payload : Utf8.Octets}

theorem char_of_mem_segment {ch : Char} (h : ch ∈ segment payload) :
    ch.toNat < 0x80 ∧ ch ≠ '.' ∧ ch ≠ '=' := by
  obtain ⟨b, hb, rfl⟩ := List.mem_map.mp h
  obtain ⟨v, small, rfl⟩ := Base64Url.symbol_of_mem_encode hb
  exact (symbol_char v small).2

theorem encode_segment (payload : Utf8.Octets) :
    Utf8.encode (segment payload) = Base64Url.encode payload := by
  have same : ∀ b ∈ Base64Url.encode payload, ascii (Char.ofNat b.toNat) = b := by
    intro b hb
    obtain ⟨v, small, rfl⟩ := Base64Url.symbol_of_mem_encode hb
    exact (symbol_char v small).1
  rw [Reader.encode_ascii fun ch h => (char_of_mem_segment h).1, segment, List.map_map]
  exact (List.map_congr_left same).trans (List.map_id _)

theorem bare_segment (octets : Utf8.Octets) : (segment octets).getLast? ≠ some '=' := fun last =>
  (char_of_mem_segment (List.mem_of_getLast? last)).2.2 rfl

theorem payload_segment (payload : Utf8.Octets) (n : Nat) :
    Claims.payload (segment payload ++ List.replicate n '=') = .ok payload := by
  have trimmed : Text.trimEnd (· == '=') (segment payload ++ List.replicate n '=') =
      segment payload := Text.trimEnd_eq_iff.mpr ⟨⟨n, rfl⟩, bare_segment payload⟩
  rw [Claims.payload, ← Text.trimEnd, trimmed, encode_segment, Base64Url.decode_encode]

theorem decode_tokenOf {c : Claims} (parsed : parse payload = .ok c) (expires : c.expiresAt ≠ none)
    {header signature : String} (plainHeader : '.' ∉ header.toList)
    (plainSignature : '.' ∉ signature.toList) (n : Nat) :
    decode (tokenOf payload header (padding n) signature) = .ok c := by
  have segments : (tokenOf payload header (padding n) signature).toList = ['.'].intercalate
      [header.toList, segment payload ++ List.replicate n '=', signature.toList] := by
    simp [tokenOf, padding, List.intercalate]
  have plainPayload : '.' ∉ segment payload ++ List.replicate n '=' := by
    intro dot
    obtain inside | behind := List.mem_append.mp dot
    · exact (char_of_mem_segment inside).2.1 rfl
    · exact absurd (List.eq_of_mem_replicate behind) (by decide)
  have plain : ∀ l ∈ [header.toList, segment payload ++ List.replicate n '=', signature.toList],
      '.' ∉ l :=
    List.forall_mem_cons.mpr ⟨plainHeader, List.forall_mem_cons.mpr ⟨plainPayload,
      List.forall_mem_singleton.mpr plainSignature⟩⟩
  have known : c.expiresAt.isNone = false := Option.isNone_eq_false_iff.mpr
    (Option.isSome_iff_ne_none.mpr expires)
  rw [decode, segments, List.splitOn_intercalate '.' plain (List.cons_ne_nil _ _)]
  simp only [decodeSegment, payload_segment, parsed, known]
  rfl

end Claims

theorem TokenStore.decode_set {token : String} {c : Claims} (h : Claims.decode token = .ok c)
    (s : TokenStore) : (s.set token).decode = .ok c := by
  have given : ¬ token.isEmpty = true := by
    intro empty
    rw [String.isEmpty_iff.mp empty] at h
    exact nomatch h
  rw [set, if_neg given, decode]
  simp only [h]
  rfl

namespace Claims

/-- Claims survive being written into a token and read again. -/
theorem minted_decodes (c : Claims) (expires : c.expiresAt ≠ none) {header signature : String}
    (plainHeader : '.' ∉ header.toList) (plainSignature : '.' ∉ signature.toList) (n : Nat) :
    decode (c.token header (padding n) signature) = .ok c ∧
      ∀ s : TokenStore, (s.set (c.token header (padding n) signature)).decode = .ok c := by
  have read := decode_tokenOf (parse_spelling c.spelling_json) expires plainHeader plainSignature n
  rw [tokenOf_json] at read
  exact ⟨read, TokenStore.decode_set read⟩

def quoted : Claims := ⟨{ id := "\"\\\x01😀", expiry := some 18446744073709551615 }, none⟩

theorem minted_decodes_quoted : quoted.expiresAt ≠ none ∧
    decode (quoted.token "h" (padding 2) "s") = .ok quoted ∧
      ∀ s : TokenStore, (s.set (quoted.token "h" (padding 2) "s")).decode = .ok quoted :=
  ⟨by decide, minted_decodes quoted (by decide) (by decide) (by decide) 2⟩

/-- However a payload spells claims, its token decodes to them. -/
theorem spellings_decode_alike (c : Claims) (expires : c.expiresAt ≠ none) {payload : Utf8.Octets}
    (spelled : c.Spelling payload) {header signature : String} (plainHeader : '.' ∉ header.toList)
    (plainSignature : '.' ∉ signature.toList) (n : Nat) :
    decode (tokenOf payload header (padding n) signature) = .ok c :=
  decode_tokenOf (parse_spelling spelled) expires plainHeader plainSignature n

def numbered : Claims := ⟨{ id := "-5", displayName := some "D" }, some 7⟩

def numberedPayload : Utf8.Octets :=
  Utf8.ofString (" \x7b\"x\":[1e5,\x7b\"\\ud800\":null\x7d]," ++
    "\"\\u0075ser\":[-5, null,\"D\"],\"exp\" : 7 \x7d\n")

def foreignEntry : Entry where
  name := "x"
  key := .bare (Utf8.encode (renderText "x"))
  item := .bare (listText [] [.bare [ascii '1', ascii 'e', ascii '5'], .bare (objectText []
    [⟨.bare (['"', '\\', 'u', 'd', '8', '0', '0', '"'].map ascii),
      .bare (['n', 'u', 'l', 'l'].map ascii)⟩])])
  spelled := textSpelling_renderText "x"

def subjectEntry : Entry where
  name := "user"
  key := .bare (['"', '\\', 'u', '0', '0', '7', '5', 's', 'e', 'r', '"'].map ascii)
  item := .bare (listText [] [.bare (integerText (-5)),
    ⟨[ascii ' '], ['n', 'u', 'l', 'l'].map ascii, [], by decide, by decide⟩,
    .bare (Utf8.encode (renderText "D"))])
  spelled := by
    have u : HexUnit 'u'.toNat (['0', '0', '7', '5'].map ascii) :=
      @HexUnit.mk 0 0 7 5 _ _ _ _ ⟨by decide, .inl rfl⟩ ⟨by decide, .inl rfl⟩
        ⟨by decide, .inl rfl⟩ ⟨by decide, .inl rfl⟩
    have plain (c : Char) (h : c ≠ '"' ∧ c ≠ '\\' ∧ ¬ c.toNat < 0x20) :
        CharSpelling (Utf8.encode [c]) c := .plain h.1 h.2.1 h.2.2
    have chars : List.Forall₂ CharSpelling _ "user".toList :=
      .cons (.unit u) (.cons (plain 's' (by decide)) (.cons (plain 'e' (by decide))
        (.cons (plain 'r' (by decide)) .nil)))
    exact .mk chars

def expiryEntry : Entry where
  name := "exp"
  key := ⟨[], Utf8.encode (renderText "exp"), [ascii ' '], by decide, by decide⟩
  item := ⟨[ascii ' '], integerText 7, [ascii ' '], by decide, by decide⟩
  spelled := textSpelling_renderText "exp"

theorem foreignEntry_wellFormed : WellFormed foreignEntry.item.value := by
  have one : Digits [ascii '1'] := ⟨by decide, List.forall_mem_singleton.mpr (by decide)⟩
  have five : Digits [ascii '5'] := ⟨by decide, List.forall_mem_singleton.mpr (by decide)⟩
  have number : NumberText [ascii '1', ascii 'e', ascii '5'] :=
    @NumberText.mk [] [ascii '1'] [] [ascii 'e', ascii '5'] (.inl rfl) (.inr ⟨one, by decide⟩) .none
      (@ExponentPart.some (ascii 'e') [] [ascii '5'] (.inl rfl) (.inl rfl) five)
  have half : HexUnit 0xD800 (['d', '8', '0', '0'].map ascii) :=
    @HexUnit.mk 13 8 0 0 _ _ _ _ ⟨by decide, .inl rfl⟩ ⟨by decide, .inl rfl⟩ ⟨by decide, .inl rfl⟩
      ⟨by decide, .inl rfl⟩
  have key : StringText (['"', '\\', 'u', 'd', '8', '0', '0', '"'].map ascii) :=
    .mk (.unit half .nil)
  refine .list (by decide) (List.forall_mem_cons.mpr ⟨.number number,
    List.forall_mem_singleton.mpr (.object (by decide) ?_ ?_)⟩)
  · exact List.forall_mem_singleton.mpr key
  · exact List.forall_mem_singleton.mpr .null

theorem subjectEntry_spelling : RecordSpelling numbered.subject.parts subjectEntry.item.value := by
  have id : IdSpelling "-5" (integerText (-5)) := .integer (-5) (by decide)
  exact .list (by decide) (.item id (.item rfl (.item (textSpelling_renderText "D")
    (.rest (by decide)))))

theorem numberedPayload_spelling : numbered.Spelling numberedPayload := by
  have fits : ∀ e ∈ [foreignEntry, subjectEntry, expiryEntry], e.Fits numbered.parts := by
    have foreign : foreignEntry.Fits numbered.parts :=
      ⟨fun p hp known => absurd known (by revert p; decide), fun _ => foreignEntry_wellFormed⟩
    have subject : subjectEntry.Fits numbered.parts :=
      numbered.distinct_parts.fits (.head _) (by decide) subjectEntry_spelling
    have expiry : expiryEntry.Fits numbered.parts :=
      numbered.distinct_parts.fits (.tail _ (.head _)) (by decide) rfl
    exact List.forall_mem_cons.mpr ⟨foreign, List.forall_mem_cons.mpr ⟨subject,
      List.forall_mem_singleton.mpr expiry⟩⟩
  have named : Named numbered.parts [foreignEntry, subjectEntry, expiryEntry] :=
    ⟨fits, by decide, by decide⟩
  have spelled : RecordSpelling numbered.parts _ := .object (by decide : Blanks []) named
  have whole := @Spelling.mk numbered ⟨[ascii ' '], _, [ascii '\n'], by decide, by decide⟩ spelled
  exact whole

theorem numberedPayload_decodes : numbered.Spelling numberedPayload ∧
    decode (tokenOf numberedPayload "h" (padding 1) "s") = .ok numbered :=
  ⟨numberedPayload_spelling, spellings_decode_alike numbered (by decide) numberedPayload_spelling
    (by decide) (by decide) 1⟩

end Claims

end ConsoleSession
