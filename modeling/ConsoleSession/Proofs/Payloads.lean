import ConsoleSession.Proofs.Printed
import ConsoleSession.Token.Claims

/-!
# Payloads

Which JSON texts spell given claims, and that every one of them is read as these claims. What the
printer writes for claims is one of these texts.
-/

namespace ConsoleSession

open Json
open ConsoleSession (Utf8.Octets)

/-- An identifier as a string or, where it is the decimal text of an integer of 64 bits with sign,
as that integer. -/
inductive IdSpelling (id : String) : Utf8.Octets → Prop
  | text {bs : Utf8.Octets} (spelled : TextSpelling id bs) : IdSpelling id bs
  | integer (n : Int64) (decimal : id = toString n.toInt) : IdSpelling id (integerText n.toInt)

namespace Subject

def parts (s : Subject) : List Part :=
  [Part.always "id" (IdSpelling s.id),
    Part.perhaps "identifier" TextSpelling s.identifier,
    Part.perhaps "display_name" TextSpelling s.displayName,
    Part.perhaps "first_name" TextSpelling s.firstName,
    Part.perhaps "last_name" TextSpelling s.lastName,
    Part.perhaps "email" TextSpelling s.email,
    Part.perhaps "exp" NaturalSpelling s.expiry]

end Subject

namespace Claims

def parts (c : Claims) : List Part :=
  [⟨"pld", some "user", false, RecordSpelling c.subject.parts⟩,
    Part.perhaps "exp" NaturalSpelling c.expiry]

/-- A JSON text that says these claims and nothing else that a reader of claims knows. -/
inductive Spelling (c : Claims) : Utf8.Octets → Prop
  | mk {text : Item} (spelled : RecordSpelling c.parts text.value) : Spelling c text.octets

end Claims

theorem value_scalar (depth : Nat) {front : Utf8.Octets} (blank : Blanks front) {b : UInt8}
    (solid : isBlank b = false) (noList : b ≠ ascii '[') (noObject : b ≠ ascii '\x7b')
    (rest : Utf8.Octets) : Reader.value depth (front ++ b :: rest) = Reader.scalar b rest := by
  cases depth <;>
    rw [Reader.value, Reader.valueOver, skipBlanks_front blank solid] <;>
    simp only [if_neg noList, if_neg noObject]

theorem scalar_digit {d : UInt8} (h : isDigit d = true) (rest : Utf8.Octets) :
    Reader.scalar d rest =
      (Reader.number false (d :: rest)).map fun (n, rest) => (.number n, rest) := by
  have other {c : Char} (noDigit : isDigit (ascii c) = false) := Reader.ne_of_isDigit h noDigit
  rw [Reader.scalar, if_neg (other (by decide)), if_neg (other (by decide)),
    if_neg (other (by decide)), if_neg (other (by decide)), if_pos h]

theorem value_natural (depth : Nat) {n : Nat} (small : n < UInt64.size) :
    Takes (Reader.value depth) (· = integerText n) (.number (.integer n)) := by
  rintro _ rfl front rest blank ends
  obtain ⟨d, more, spelled, digit⟩ := integerText_cons n
  have read := Reader.number_toDigits false small ends
  rw [← Reader.integerText_natural, spelled, List.cons_append] at read
  rw [spelled, List.cons_append, value_scalar depth blank (isBlank_of_isDigit digit)
    (Reader.ne_of_isDigit digit (by decide)) (Reader.ne_of_isDigit digit (by decide)),
    scalar_digit digit, read]
  rfl

theorem value_negative (depth : Nat) {n : Nat} (pos : 0 < n) (small : n ≤ Reader.bound63) :
    Takes (Reader.value depth) (· = integerText (-n)) (.number (.integer (-n))) := by
  rintro _ rfl front rest blank ends
  have read : Reader.number true ((Nat.toDigits 10 n).map ascii ++ rest) =
      .ok (.integer (-n), rest) := by
    rw [Reader.number_toDigits true (Nat.lt_of_le_of_lt small (by decide)) ends, Reader.wholeNumber,
      if_neg (by decide), if_pos ⟨pos, small⟩]
  rw [Reader.integerText_negative pos, List.cons_append,
    value_scalar depth blank (by decide) (by decide) (by decide), Reader.scalar, if_neg (by decide),
    if_neg (by decide), if_neg (by decide), if_pos rfl, read]
  rfl

theorem integer_cases (i : Int) : (∃ n : Nat, i = n) ∨ ∃ n : Nat, 0 < n ∧ i = -n := by
  cases i with
  | ofNat n => exact .inl ⟨n, rfl⟩
  | negSucc n => exact .inr ⟨n + 1, n.succ_pos, rfl⟩

theorem value_integer (depth : Nat) {i : Int} (low : -(Reader.bound63 : Int) ≤ i)
    (high : i < Reader.bound63) :
    Takes (Reader.value depth) (· = integerText i) (.number (.integer i)) := by
  -- The reader has a path for each sign, with its own bound.
  obtain ⟨n, rfl⟩ | ⟨n, pos, rfl⟩ := integer_cases i
  · have small : n < UInt64.size := Nat.lt_trans (Int.ofNat_lt.mp high) (by decide)
    exact value_natural depth small
  · exact value_negative depth pos (Int.ofNat_le.mp (Int.neg_le_neg_iff.mp low))

theorem value_text (depth : Nat) (s : String) :
    Takes (Reader.value depth) (TextSpelling s) (.text s) := by
  intro bs spells front rest blank _
  obtain ⟨body, spelled, read⟩ := Reader.text_taken spells rest
  rw [spelled, value_scalar depth blank (by decide) (by decide) (by decide), Reader.scalar,
    if_neg (by decide), if_neg (by decide), if_neg (by decide), if_neg (by decide),
    if_neg (by decide), if_pos rfl, read]
  rfl

theorem starts_of_id {id : String} {bs : Utf8.Octets} (h : IdSpelling id bs) :
    Reader.Starts bs := by
  obtain spelled | ⟨i, -⟩ := h
  · exact (starts_of_text spelled).1
  · obtain ⟨n, same⟩ | ⟨n, pos, same⟩ := integer_cases i.toInt <;> rw [same]
    · obtain ⟨d, more, spelled, digit⟩ := integerText_cons n
      rw [spelled]
      exact Reader.starts_of_isDigit digit more
    · rw [Reader.integerText_negative pos]
      exact ⟨_, _, rfl, by decide, by decide⟩

namespace Subject

theorem readId_takes (depth : Nat) (id : String) : Takes (readId depth) (IdSpelling id) id := by
  rintro _ (⟨spelled⟩ | ⟨i, rfl⟩) front rest blank ends
  · simp only [readId, value_text depth id _ spelled front rest blank ends, bind, Except.bind]
  · have low : -(Reader.bound63 : Int) ≤ i.toInt := i.le_toInt
    have high : i.toInt < Reader.bound63 := i.toInt_lt
    generalize i.toInt = i at low high
    have read := value_integer depth low high _ rfl front rest blank ends
    simp only [readId, read, if_pos high, bind, Except.bind]

end Subject

theorem textMember_written {parts : List Part} {ms : List (String × Json)} (name : String)
    (a? : Option String) (more : Written parts ms) :
    Written (Part.perhaps name TextSpelling a? :: parts) (textMember name a? ++ ms) := by
  have same : textMember name a? = (a?.map fun a => (name, Json.text a)).toList := by
    cases a? <;> rfl
  exact same ▸ more.perhaps Json.text textSpelling_renderText name a?

theorem naturalMember_written {parts : List Part} {ms : List (String × Json)} (name : String)
    (a? : Option UInt64) (more : Written parts ms) :
    Written (Part.perhaps name NaturalSpelling a? :: parts) (naturalMember name a? ++ ms) := by
  have same : naturalMember name a? =
      (a?.map fun a => (name, Json.number (.integer a.toNat))).toList := by cases a? <;> rfl
  exact same ▸ more.perhaps (fun a => Json.number (.integer a.toNat))
    (fun a => encode_natural a.toNat) name a?

namespace Subject

def draftOf (s : Subject) (held : List String) : Draft where
  id := ifHeld held "id" s.id
  identifier := ifHeld held "identifier" s.identifier
  displayName := ifHeld held "display_name" s.displayName
  firstName := ifHeld held "first_name" s.firstName
  lastName := ifHeld held "last_name" s.lastName
  email := ifHeld held "email" s.email
  expiry := ifHeld held "exp" s.expiry

theorem distinct_parts (s : Subject) : Distinct s.parts :=
  (by decide : [["id"], ["identifier"], ["display_name"], ["first_name"], ["last_name"], ["email"],
    ["exp"]].Pairwise fun ks ls => ∀ k ∈ ks, k ∉ ls)

theorem textField_takes (s : Subject) (depth : Nat) (name : String) (a? : Option String)
    {get : Draft → Option (Option String)} {set : Draft → Option String → Draft}
    (gets : ∀ held, get (s.draftOf held) = ifHeld held name a?)
    (sets : ∀ held, set (s.draftOf held) a? = s.draftOf (name :: held)) :
    FieldTakes depth s.draftOf (textField name get set) (Part.perhaps name TextSpelling a?) := by
  refine .of_optional set name a? ⟨rfl, rfl⟩ rfl (fun held => ?_) (fun _ _ => starts_of_text)
    wantText_takes (fun _ => rfl) sets
  exact (congrArg Option.isSome (gets held)).trans (ifHeld_isSome held name a?)

theorem shape_takes (s : Subject) (depth : Nat) : ShapeTakes shape depth s.draftOf s.parts s where
  fields := by
    refine .cons ?_ (.cons ?_ (.cons ?_ (.cons ?_ (.cons ?_ (.cons ?_ (.cons ?_ .nil))))))
    · exact .of_set (fun d id => { d with id := some id }) rfl rfl (fun _ => rfl)
        (fun held => ifHeld_isSome held _ _) (fun _ => starts_of_id) (readId_takes depth s.id)
        (fun _ => rfl) (fun held => by simp [draftOf, Part.always])
    · exact textField_takes s depth _ _ (fun _ => rfl) fun held => by simp [draftOf]
    · exact textField_takes s depth _ _ (fun _ => rfl) fun held => by simp [draftOf]
    · exact textField_takes s depth _ _ (fun _ => rfl) fun held => by simp [draftOf]
    · exact textField_takes s depth _ _ (fun _ => rfl) fun held => by simp [draftOf]
    · exact textField_takes s depth _ _ (fun _ => rfl) fun held => by simp [draftOf]
    · exact .of_optional (fun d n => { d with expiry := some n }) "exp" s.expiry ⟨rfl, rfl⟩ rfl
        (fun held => ifHeld_isSome held _ _) (fun _ _ => starts_of_natural) wantNatural_takes
        (fun _ => rfl) (fun held => by simp [draftOf])
  distinct := s.distinct_parts
  draft := rfl
  built held holds := by
    have id : "id" ∈ held := holds _ List.mem_cons_self rfl
    have identifier : (ifHeld held "identifier" s.identifier).join = s.identifier :=
      ifHeld_join (holds (.perhaps _ TextSpelling s.identifier) (by simp [parts]))
    have displayName : (ifHeld held "display_name" s.displayName).join = s.displayName :=
      ifHeld_join (holds (.perhaps _ TextSpelling s.displayName) (by simp [parts]))
    have firstName : (ifHeld held "first_name" s.firstName).join = s.firstName :=
      ifHeld_join (holds (.perhaps _ TextSpelling s.firstName) (by simp [parts]))
    have lastName : (ifHeld held "last_name" s.lastName).join = s.lastName :=
      ifHeld_join (holds (.perhaps _ TextSpelling s.lastName) (by simp [parts]))
    have email : (ifHeld held "email" s.email).join = s.email :=
      ifHeld_join (holds (.perhaps _ TextSpelling s.email) (by simp [parts]))
    have expiry : (ifHeld held "exp" s.expiry).join = s.expiry :=
      ifHeld_join (holds (.perhaps _ NaturalSpelling s.expiry) (by simp [parts]))
    have held : ifHeld held "id" s.id = some s.id := if_pos id
    simp only [shape, build, draftOf, held, identifier, displayName, firstName, lastName, email,
      expiry]

theorem spelling_json (s : Subject) : RecordSpelling s.parts (Utf8.encode s.json.renderChars) := by
  have id : IdSpelling s.id (Utf8.encode (Json.text s.id).renderChars) :=
    .text (textSpelling_renderText s.id)
  have written := Written.part (Part.always "id" (IdSpelling s.id)) id
    (textMember_written "identifier" s.identifier (textMember_written "display_name" s.displayName
      (textMember_written "first_name" s.firstName (textMember_written "last_name" s.lastName
        (textMember_written "email" s.email (naturalMember_written "exp" s.expiry .nil))))))
  have spelled := written.spelling s.distinct_parts
  simp only [← List.append_assoc, ← List.cons_append, List.append_nil] at spelled
  exact spelled

end Subject

namespace Claims

def draftOf (c : Claims) (held : List String) : Draft where
  subject := ifHeld held "pld" c.subject
  expiry := ifHeld held "exp" c.expiry

theorem distinct_parts (c : Claims) : Distinct c.parts :=
  (by decide : [["pld", "user"], ["exp"]].Pairwise fun ks ls => ∀ k ∈ ks, k ∉ ls)

theorem shape_takes (c : Claims) : ShapeTakes shape 126 c.draftOf c.parts c where
  fields := by
    refine .cons ?_ (.cons ?_ .nil)
    · exact .of_set (fun d s => { d with subject := some s }) rfl rfl (fun _ => rfl)
        (fun held => ifHeld_isSome held _ _) (fun _ => starts_of_record)
        (read_takes (c.subject.shape_takes 125)) (fun _ => rfl) (fun held => by simp [draftOf])
    · exact .of_optional (fun d n => { d with expiry := some n }) "exp" c.expiry ⟨rfl, rfl⟩ rfl
        (fun held => ifHeld_isSome held _ _) (fun _ _ => starts_of_natural) wantNatural_takes
        (fun _ => rfl) (fun held => by simp [draftOf])
  distinct := c.distinct_parts
  draft := rfl
  built held holds := by
    have subject : "pld" ∈ held := holds _ List.mem_cons_self rfl
    have expiry : (ifHeld held "exp" c.expiry).join = c.expiry :=
      ifHeld_join (holds (.perhaps _ NaturalSpelling c.expiry) (by simp [parts]))
    have held : ifHeld held "pld" c.subject = some c.subject := if_pos subject
    simp only [shape, build, draftOf, held, expiry]

theorem parse_spelling {c : Claims} {payload : Utf8.Octets} (h : c.Spelling payload) :
    parse payload = .ok c := by
  obtain @⟨text, spelled⟩ := h
  exact parse_takes c.shape_takes text spelled

theorem spelling_json (c : Claims) : c.Spelling (Utf8.encode c.json.renderChars) := by
  have written := Written.part ⟨"pld", some "user", false, RecordSpelling c.subject.parts⟩
    c.subject.spelling_json (naturalMember_written "exp" c.expiry .nil)
  have spelled := written.spelling c.distinct_parts
  rw [List.append_nil] at spelled
  have whole := @Spelling.mk c (.bare _) spelled
  rwa [Item.bare_octets] at whole

end Claims

end ConsoleSession
