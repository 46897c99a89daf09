import ConsoleSession.Json.Printer
import ConsoleSession.Json.Scan
import Mathlib.Data.List.Forall2

/-!
# JSON texts

Which octets are a JSON text, and which of them spell a given string, integer or record, said
without the readers. A value that nobody wants need only be well-formed. A record is spelled by the
parts that it has: each part has its name, perhaps an alias, and octets that may stand for it. As an
object the parts come in any order among members of other names, as a list they come in theirs;
parts that are optional may be left out.
-/

namespace ConsoleSession.Json

open ConsoleSession (Utf8.Octets)

def Blanks (bs : Utf8.Octets) : Prop := ∀ b ∈ bs, isBlank b

instance (bs : Utf8.Octets) : Decidable (Blanks bs) :=
  List.decidableBAll (fun b => isBlank b = true) bs

def Plain (b : UInt8) : Prop := b ≠ ascii '"' ∧ b ≠ ascii '\\' ∧ ¬ b < 0x20

def letterEscapes : List (Char × Char) :=
  [('"', '"'), ('\\', '\\'), ('/', '/'), ('b', '\x08'), ('f', '\x0c'), ('n', '\n'), ('r', '\r'),
    ('t', '\t')]

def HexDigit (n : Nat) (b : UInt8) : Prop :=
  n < 16 ∧ (b = ascii (hexDigit n) ∨ b = ascii (hexDigit n).toUpper)

inductive HexUnit : Nat → Utf8.Octets → Prop
  | mk {p q r s : Nat} {a b c d : UInt8} (first : HexDigit p a) (second : HexDigit q b)
      (third : HexDigit r c) (fourth : HexDigit s d) :
      HexUnit (((p * 16 + q) * 16 + r) * 16 + s) [a, b, c, d]

/-- Octets that stand for one character inside a string. Past 16 bits a character is escaped as two
units. -/
inductive CharSpelling : Utf8.Octets → Char → Prop
  | plain {c : Char} (quote : c ≠ '"') (backslash : c ≠ '\\') (control : ¬ c.toNat < 0x20) :
      CharSpelling (Utf8.encode [c]) c
  | letter {e c : Char} (known : (e, c) ∈ letterEscapes) : CharSpelling [ascii '\\', ascii e] c
  | unit {c : Char} {u : Utf8.Octets} (digits : HexUnit c.toNat u) :
      CharSpelling (ascii '\\' :: ascii 'u' :: u) c
  | pair {c : Char} {n m : Nat} {u v : Utf8.Octets} (leading : HexUnit (0xD800 + n) u)
      (trailing : HexUnit (0xDC00 + m) v) (high : n < 0x400) (low : m < 0x400)
      (number : c.toNat = 0x10000 + n * 0x400 + m) :
      CharSpelling (ascii '\\' :: ascii 'u' :: (u ++ ascii '\\' :: ascii 'u' :: v)) c

inductive TextSpelling (s : String) : Utf8.Octets → Prop
  | mk {pieces : List Utf8.Octets} (chars : List.Forall₂ CharSpelling pieces s.toList) :
      TextSpelling s (ascii '"' :: (pieces.flatten ++ [ascii '"']))

/-- The inside of a string, whether or not it is a Unicode text. -/
inductive StringBody : Utf8.Octets → Prop
  | nil : StringBody []
  | plain {b : UInt8} {bs : Utf8.Octets} (itself : Plain b) (more : StringBody bs) :
      StringBody (b :: bs)
  | letter {e c : Char} {bs : Utf8.Octets} (known : (e, c) ∈ letterEscapes) (more : StringBody bs) :
      StringBody (ascii '\\' :: ascii e :: bs)
  | unit {n : Nat} {u bs : Utf8.Octets} (digits : HexUnit n u) (more : StringBody bs) :
      StringBody (ascii '\\' :: ascii 'u' :: (u ++ bs))

inductive StringText : Utf8.Octets → Prop
  | mk {bs : Utf8.Octets} (body : StringBody bs) :
      StringText (ascii '"' :: (bs ++ [ascii '"']))

def integerText (i : Int) : Utf8.Octets := (toString i).toList.map ascii

def NaturalSpelling (n : UInt64) (bs : Utf8.Octets) : Prop := bs = integerText n.toNat

structure Digits (bs : Utf8.Octets) : Prop where
  nonempty : bs ≠ []
  digits : ∀ b ∈ bs, isDigit b

def WholePart (bs : Utf8.Octets) : Prop :=
  bs = [ascii '0'] ∨ (Digits bs ∧ bs.head? ≠ some (ascii '0'))

inductive FractionPart : Utf8.Octets → Prop
  | none : FractionPart []
  | some {ds : Utf8.Octets} (digits : Digits ds) : FractionPart (ascii '.' :: ds)

inductive ExponentPart : Utf8.Octets → Prop
  | none : ExponentPart []
  | some {e : UInt8} {sign ds : Utf8.Octets} (letter : e = ascii 'e' ∨ e = ascii 'E')
      (signed : sign = [] ∨ sign = [ascii '+'] ∨ sign = [ascii '-']) (digits : Digits ds) :
      ExponentPart (e :: (sign ++ ds))

inductive NumberText : Utf8.Octets → Prop
  | mk {sign whole fraction exponent : Utf8.Octets} (signed : sign = [] ∨ sign = [ascii '-'])
      (wholePart : WholePart whole) (fractionPart : FractionPart fraction)
      (exponentPart : ExponentPart exponent) :
      NumberText (sign ++ (whole ++ (fraction ++ exponent)))

structure Item where
  front : Utf8.Octets
  value : Utf8.Octets
  back : Utf8.Octets
  front_blank : Blanks front
  back_blank : Blanks back

def Item.octets (i : Item) : Utf8.Octets := i.front ++ (i.value ++ i.back)

def Item.bare (value : Utf8.Octets) : Item :=
  ⟨[], value, [], List.forall_mem_nil _, List.forall_mem_nil _⟩

theorem Item.bare_octets (value : Utf8.Octets) : (bare value).octets = value := value.append_nil

theorem Item.octets_append (i : Item) (rest : Utf8.Octets) :
    i.octets ++ rest = i.front ++ (i.value ++ (i.back ++ rest)) := by
  rw [octets, List.append_assoc, List.append_assoc]

structure Member where
  key : Item
  item : Item

def Member.octets (m : Member) : Utf8.Octets := m.key.octets ++ ascii ':' :: m.item.octets

def sequence : Bool → List Utf8.Octets → Utf8.Octets
  | _, [] => []
  | first, p :: ps => (if first then [] else [ascii ',']) ++ (p ++ sequence false ps)

@[simp] theorem sequence_nil (first : Bool) : sequence first [] = [] := rfl

@[simp] theorem sequence_true (p : Utf8.Octets) (ps : List Utf8.Octets) :
    sequence true (p :: ps) = p ++ sequence false ps := rfl

@[simp] theorem sequence_false (p : Utf8.Octets) (ps : List Utf8.Octets) :
    sequence false (p :: ps) = ascii ',' :: (p ++ sequence false ps) := rfl

def listText (blanks : Utf8.Octets) (items : List Item) : Utf8.Octets :=
  ascii '[' :: (blanks ++ (sequence true (items.map Item.octets) ++ [ascii ']']))

def objectText (blanks : Utf8.Octets) (members : List Member) : Utf8.Octets :=
  ascii '\x7b' :: (blanks ++ (sequence true (members.map Member.octets) ++ [ascii '\x7d']))

inductive WellFormed : Utf8.Octets → Prop
  | null : WellFormed (['n', 'u', 'l', 'l'].map ascii)
  | true : WellFormed (['t', 'r', 'u', 'e'].map ascii)
  | false : WellFormed (['f', 'a', 'l', 's', 'e'].map ascii)
  | number {bs : Utf8.Octets} (h : NumberText bs) : WellFormed bs
  | text {bs : Utf8.Octets} (h : StringText bs) : WellFormed bs
  | list {blanks : Utf8.Octets} {items : List Item} (blank : Blanks blanks)
      (values : ∀ i ∈ items, WellFormed i.value) : WellFormed (listText blanks items)
  | object {blanks : Utf8.Octets} {members : List Member} (blank : Blanks blanks)
      (keys : ∀ m ∈ members, StringText m.key.value)
      (values : ∀ m ∈ members, WellFormed m.item.value) : WellFormed (objectText blanks members)

/-- A part of a record: what it is called and which octets may stand for it. -/
structure Part where
  name : String
  alias? : Option String
  optional : Bool
  spelled : Utf8.Octets → Prop

def Part.names (p : Part) : List String := p.name :: p.alias?.toList

def Part.always (name : String) (spelled : Utf8.Octets → Prop) : Part :=
  ⟨name, none, false, spelled⟩

def Part.perhaps {α : Type} (name : String) (spelling : α → Utf8.Octets → Prop) (a? : Option α) :
    Part where
  name := name
  alias? := none
  optional := a?.isNone
  spelled bs :=
    match a? with
    | none => bs = ['n', 'u', 'l', 'l'].map ascii
    | some a => spelling a bs

structure Entry extends Member where
  name : String
  spelled : TextSpelling name key.value

/-- The member stands for a part of its name, if there is one, and for nothing otherwise. -/
structure Entry.Fits (parts : List Part) (e : Entry) : Prop where
  known : ∀ p ∈ parts, e.name ∈ p.names → p.spelled e.item.value
  unknown : (∀ p ∈ parts, e.name ∉ p.names) → WellFormed e.item.value

structure Named (parts : List Part) (entries : List Entry) : Prop where
  fits : ∀ e ∈ entries, e.Fits parts
  once : entries.Pairwise fun e e' => ∀ p ∈ parts, e.name ∈ p.names → e'.name ∉ p.names
  complete : ∀ p ∈ parts, p.optional = false → ∃ e ∈ entries, e.name ∈ p.names

/-- The items of a list that spells a record: its parts in order, optional ones at the end left off
at will. -/
inductive InOrder : List Part → List Item → Prop
  | rest {parts : List Part} (absent : ∀ p ∈ parts, p.optional = true) : InOrder parts []
  | item {p : Part} {parts : List Part} {i : Item} {items : List Item} (spelled : p.spelled i.value)
      (more : InOrder parts items) : InOrder (p :: parts) (i :: items)

inductive RecordSpelling (parts : List Part) : Utf8.Octets → Prop
  | object {blanks : Utf8.Octets} {entries : List Entry} (blank : Blanks blanks)
      (named : Named parts entries) :
      RecordSpelling parts (objectText blanks (entries.map Entry.toMember))
  | list {blanks : Utf8.Octets} {items : List Item} (blank : Blanks blanks)
      (inOrder : InOrder parts items) : RecordSpelling parts (listText blanks items)

end ConsoleSession.Json
