import ConsoleSession.Json.Record
import ConsoleSession.Proofs.Skipping
import Mathlib.Data.List.Pairwise

/-!
# Reading records

Whatever spells a record is read as the record. A draft is known by the names of the parts that it
holds: every field, reading a spelling of its part, adds the part's name and nothing else, and the
record can be built once the parts that must be there are held. What is true of one member then
carries over to all of them in whichever order they come, and to the items of a list.
-/

namespace ConsoleSession.Json

open ConsoleSession (Utf8.Octets)
open Reader (Starts Ends enclosed enclosed_nil enclosed_true enclosed_false ends_enclosed)

variable {σ α β : Type}

/-- The reader takes whatever is spelled so as `a`, behind blanks and up to where it ends. -/
def Takes (read : Reader α) (spelled : Utf8.Octets → Prop) (a : α) : Prop :=
  ∀ bs, spelled bs → ∀ front rest, Blanks front → Ends rest →
    read (front ++ (bs ++ rest)) = .ok (a, rest)

theorem Takes.map {read : Reader α} {spelled : Utf8.Octets → Prop} {a : α}
    (h : Takes read spelled a) (f : α → β) :
    Takes (fun input => (read input).map fun (a, rest) => (f a, rest)) spelled (f a) := by
  intro bs spells front rest blank ends
  simp only [h bs spells front rest blank ends]
  rfl

theorem starts_of_text {s : String} {bs : Utf8.Octets} (h : TextSpelling s bs) :
    Starts bs ∧ bs.head? ≠ some (ascii 'n') := by
  obtain ⟨chars⟩ := h
  exact ⟨⟨_, _, rfl, by decide, by decide⟩, (by decide : some (ascii '"') ≠ some (ascii 'n'))⟩

theorem wantText_takes (s : String) : Takes Reader.wantText (TextSpelling s) s := by
  intro bs spells front rest blank _
  obtain ⟨body, spelled, read⟩ := Reader.text_taken spells rest
  rw [spelled, Reader.wantText, skipBlanks_front blank (by decide)]
  exact (if_pos rfl).trans read

theorem starts_of_record {parts : List Part} {bs : Utf8.Octets} (h : RecordSpelling parts bs) :
    Starts bs := by
  cases h <;> exact ⟨_, _, rfl, by decide, by decide⟩

theorem integerText_cons (n : Nat) :
    ∃ d more, integerText n = d :: more ∧ isDigit d = true := by
  rw [Reader.integerText_natural]
  cases spelled : Nat.toDigits 10 n with
  | nil => exact absurd spelled Nat.toDigits_ne_nil
  | cons d ds =>
    have digit : d.isDigit := Reader.isDigit_of_mem_toDigits (spelled ▸ List.mem_cons_self)
    exact ⟨ascii d, ds.map ascii, rfl, Reader.isDigit_ascii digit⟩

theorem starts_of_natural {n : UInt64} {bs : Utf8.Octets} (h : NaturalSpelling n bs) :
    Starts bs ∧ bs.head? ≠ some (ascii 'n') := by
  obtain ⟨d, more, spelled, digit⟩ := integerText_cons n.toNat
  rw [show bs = integerText n.toNat from h, spelled]
  exact ⟨Reader.starts_of_isDigit digit more,
    fun same => Reader.ne_of_isDigit digit (by decide) (Option.some_inj.mp same)⟩

theorem wantNatural_takes (n : UInt64) :
    Takes Reader.wantNatural (NaturalSpelling n) n := by
  rintro _ rfl front rest blank ends
  obtain ⟨d, more, spelled, digit⟩ := integerText_cons n.toNat
  have read : Reader.number false (integerText n.toNat ++ rest) = .ok (.integer n.toNat, rest) := by
    rw [Reader.integerText_natural, Reader.number_toDigits false n.toNat_lt ends]
    rfl
  have noSign : d ≠ ascii '-' := Reader.ne_of_isDigit digit (by decide)
  rw [spelled, List.cons_append] at read ⊢
  rw [Reader.wantNatural, skipBlanks_front blank (isBlank_of_isDigit digit)]
  simp only [if_neg noSign, digit, if_true, read, bind, Except.bind]
  exact congrArg (fun m => Except.ok (m, rest)) UInt64.ofNat_toNat

theorem starts_of_perhaps {spelling : α → Utf8.Octets → Prop}
    (starts : ∀ a bs, spelling a bs → Starts bs ∧ bs.head? ≠ some (ascii 'n')) (name : String)
    (a? : Option α) (bs : Utf8.Octets) (h : (Part.perhaps name spelling a?).spelled bs) :
    Starts bs := by
  cases a? with
  | none =>
    obtain rfl : bs = ['n', 'u', 'l', 'l'].map ascii := h
    exact ⟨_, _, rfl, by decide, by decide⟩
  | some a => exact (starts a bs h).1

theorem optional_takes {read : Reader α} {spelling : α → Utf8.Octets → Prop}
    (takes : ∀ a, Takes read (spelling a) a)
    (starts : ∀ a bs, spelling a bs → Starts bs ∧ bs.head? ≠ some (ascii 'n')) (name : String)
    (a? : Option α) : Takes (Reader.optional read) (Part.perhaps name spelling a?).spelled a? := by
  intro bs spells front rest blank ends
  cases a? with
  | none =>
    obtain rfl : bs = ['n', 'u', 'l', 'l'].map ascii := spells
    have word := Reader.word_taken ['u', 'l', 'l'] rest
    rw [List.map_cons, List.cons_append, Reader.optional, skipBlanks_front blank (by decide)]
    simp only [if_true, Reader.readWord, word, bind, Except.bind]
  | some a =>
    have taken := takes a bs spells [] rest (List.forall_mem_nil _) ends
    obtain ⟨⟨b, more, rfl, solid, -⟩, noNull⟩ := starts a bs spells
    have noNull : b ≠ ascii 'n' := fun same => noNull (congrArg some same)
    rw [List.nil_append, List.cons_append] at taken
    rw [List.cons_append, Reader.optional, skipBlanks_front blank solid]
    simp only [if_neg noNull, taken]
    rfl

def Distinct (parts : List Part) : Prop :=
  (parts.map Part.names).Pairwise fun ks ls => ∀ k ∈ ks, k ∉ ls

theorem Distinct.same {parts : List Part} (h : Distinct parts) {p q : Part} (hp : p ∈ parts)
    (hq : q ∈ parts) {key : String} (inP : key ∈ p.names) (inQ : key ∈ q.names) : p = q := by
  by_contra other
  have : Std.Symm fun p q : Part => ∀ k ∈ p.names, k ∉ q.names :=
    ⟨fun _ _ disjoint k inQ inP => disjoint k inP inQ⟩
  exact (List.pairwise_map.mp h).forall hp hq other key inP inQ

theorem Distinct.fits {parts : List Part} (h : Distinct parts) {p : Part} (hp : p ∈ parts)
    {e : Entry} (called : e.name ∈ p.names) (spelled : p.spelled e.item.value) : e.Fits parts where
  known q hq known := by rwa [h.same hq hp known called]
  unknown unknown := absurd called (unknown p hp)

/-- The field reads the part into drafts that are known by the names they hold. -/
structure FieldTakes (depth : Nat) (draftOf : List String → σ) (f : Field σ) (p : Part) : Prop where
  name : f.name = p.name
  aliases : f.alias? = p.alias?
  required : f.required = true → p.optional = false
  filled : ∀ held, f.filled (draftOf held) = decide (p.name ∈ held)
  starts : ∀ bs, p.spelled bs → Starts bs
  reads : ∀ held, Takes (f.read depth (draftOf held)) p.spelled (draftOf (p.name :: held))

structure ShapeTakes (shape : Shape σ α) (depth : Nat) (draftOf : List String → σ)
    (parts : List Part) (a : α) : Prop where
  fields : List.Forall₂ (FieldTakes depth draftOf) shape.fields parts
  distinct : Distinct parts
  draft : shape.draft = draftOf []
  built : ∀ held, (∀ p ∈ parts, p.optional = false → p.name ∈ held) →
    shape.build (draftOf held) = .ok a

def Field.called (key : String) (f : Field σ) : Bool :=
  f.name == key || f.alias? == some key

theorem FieldTakes.called_iff {depth : Nat} {draftOf : List String → σ} {f : Field σ} {p : Part}
    (h : FieldTakes depth draftOf f p) (key : String) : f.called key = true ↔ key ∈ p.names := by
  rw [Field.called, h.name, h.aliases, Part.names, List.mem_cons, Option.mem_toList,
    Bool.or_eq_true, beq_iff_eq, beq_iff_eq, @eq_comm _ key]

theorem find?_called {depth : Nat} {draftOf : List String → σ} {fs : List (Field σ)}
    {parts : List Part} (h : List.Forall₂ (FieldTakes depth draftOf) fs parts) (key : String) :
    (∀ p ∈ parts, key ∉ p.names) ∧ fs.find? (Field.called key) = none ∨
      ∃ p ∈ parts, key ∈ p.names ∧ ∃ f, FieldTakes depth draftOf f p ∧
        fs.find? (Field.called key) = some f := by
  induction h with
  | nil => exact .inl ⟨List.forall_mem_nil _, rfl⟩
  | @cons f p fs parts head _ ih =>
    by_cases found : key ∈ p.names
    · exact .inr ⟨p, List.mem_cons_self, found, f, head,
        List.find?_cons_of_pos ((head.called_iff key).mpr found)⟩
    · rw [List.find?_cons_of_neg (mt (head.called_iff key).mp found)]
      obtain ⟨unknown, none⟩ | ⟨q, hq, known, g, takes, some⟩ := ih
      · exact .inl ⟨List.forall_mem_cons.mpr ⟨found, unknown⟩, none⟩
      · exact .inr ⟨q, List.mem_cons_of_mem _ hq, known, g, takes, some⟩

variable {shape : Shape σ α} {depth : Nat} {draftOf : List String → σ} {parts : List Part} {a : α}

theorem colon_read {blanks : Utf8.Octets} (blank : Blanks blanks) (rest : Utf8.Octets) :
    Reader.colon (blanks ++ ascii ':' :: rest) = .ok rest := by
  rw [Reader.colon, skipBlanks_front blank (by decide)]
  exact if_pos rfl

theorem member_read (h : ShapeTakes shape depth draftOf parts a) {e : Entry} (fits : e.Fits parts)
    {held : List String} (free : ∀ p ∈ parts, e.name ∈ p.names → p.name ∉ held) :
    ∃ held', (∀ p ∈ parts, p.name ∈ held' ↔ e.name ∈ p.names ∨ p.name ∈ held) ∧
      ∀ rest, Ends rest → shape.member depth (draftOf held) e.name
        (e.key.back ++ ascii ':' :: (e.item.front ++ (e.item.value ++ rest))) =
          .ok (draftOf held', rest) := by
  obtain ⟨unknown, none⟩ | ⟨p, hp, known, f, takes, some⟩ := find?_called h.fields e.name
  · refine ⟨held, fun p hp => by simp only [unknown p hp, false_or], fun rest ends => ?_⟩
    have skipped := Reader.skip_taken (fits.unknown unknown) e.item.front_blank ends
    have field : shape.field? e.name = Option.none := none
    simp only [Shape.member, field, colon_read e.key.back_blank, skipped, bind, Except.bind]
  · refine ⟨p.name :: held, fun q hq => ?_, fun rest ends => ?_⟩
    · have same : q.name = p.name ↔ e.name ∈ q.names := by
        constructor
        · intro same
          rwa [h.distinct.same hq hp (same ▸ List.mem_cons_self) List.mem_cons_self]
        · intro called
          rw [h.distinct.same hq hp called known]
      rw [List.mem_cons, same]
    · have read := takes.reads held _ (fits.known p hp known) _ rest e.item.front_blank ends
      have empty : f.filled (draftOf held) = false := by
        rw [takes.filled, decide_eq_false (free p hp known)]
      have field : shape.field? e.name = Option.some f := some
      simp only [Shape.member, field, empty, Bool.false_eq_true, if_false,
        colon_read e.key.back_blank, bind, Except.bind]
      exact read

def Entry.octets (e : Entry) : Utf8.Octets := e.toMember.octets

theorem nextKey_close (first : Bool) {blanks : Utf8.Octets} (blank : Blanks blanks)
    (rest : Utf8.Octets) :
    Reader.nextKey first (blanks ++ enclosed .object Entry.octets first [] rest) =
      .ok (none, ascii '\x7d' :: rest) := by
  rw [enclosed_nil, Reader.nextKey, skipBlanks_front blank (by decide)]
  exact if_pos rfl

theorem nextKey_entry (first : Bool) {blanks : Utf8.Octets} (blank : Blanks blanks) (e : Entry)
    (es : List Entry) (rest : Utf8.Octets) :
    Reader.nextKey first (blanks ++ enclosed .object Entry.octets first (e :: es) rest) =
      .ok (some e.name, e.key.back ++ ascii ':' :: (e.item.front ++ (e.item.value ++
        (e.item.back ++ enclosed .object Entry.octets false es rest)))) := by
  generalize behind : enclosed .object Entry.octets false es rest = more
  obtain ⟨body, spelled, read⟩ := Reader.text_taken e.spelled
    (e.key.back ++ ascii ':' :: (e.item.front ++ (e.item.value ++ (e.item.back ++ more))))
  have member : e.octets ++ more = e.key.front ++ ascii '"' :: body := by
    rw [Entry.octets, Member.octets, List.append_assoc, List.cons_append, e.key.octets_append,
      e.item.octets_append, spelled]
  have key : Reader.nextKey.key body = .ok (some e.name, e.key.back ++ ascii ':' ::
      (e.item.front ++ (e.item.value ++ (e.item.back ++ more)))) := by
    rw [Reader.nextKey.key, read]
    rfl
  have quote : isBlank (ascii '"') = false := by decide
  cases first with
  | true =>
    rw [enclosed_true, behind, member, Reader.nextKey, skipBlanks_append blank,
      skipBlanks_front e.key.front_blank quote]
    exact key
  | false =>
    rw [enclosed_false, behind, member, Reader.nextKey, skipBlanks_front blank (by decide)]
    simp only [skipBlanks_front e.key.front_blank quote]
    exact key

theorem members_read (h : ShapeTakes shape depth draftOf parts a) {es : List Entry}
    (fits : ∀ e ∈ es, e.Fits parts)
    (once : es.Pairwise fun e e' => ∀ p ∈ parts, e.name ∈ p.names → e'.name ∉ p.names)
    {held : List String} (free : ∀ e ∈ es, ∀ p ∈ parts, e.name ∈ p.names → p.name ∉ held)
    (first : Bool) (fuel : Nat) {blanks : Utf8.Octets} (blank : Blanks blanks) (rest : Utf8.Octets)
    (enough : es.length < fuel) :
    ∃ held', (∀ p ∈ parts, p.name ∈ held' ↔ (∃ e ∈ es, e.name ∈ p.names) ∨ p.name ∈ held) ∧
      Reader.members (shape.member depth) fuel first (draftOf held)
        (blanks ++ enclosed .object Entry.octets first es rest) =
          .ok (draftOf held', ascii '\x7d' :: rest) := by
  -- On the members. A part of a member to come is never held: `free` says so of those before the
  -- first member here, `once` of the first one.
  induction es generalizing held first fuel blanks with
  | nil =>
    obtain ⟨fuel, rfl⟩ := Nat.exists_eq_add_one_of_ne_zero (Nat.ne_zero_of_lt enough)
    refine ⟨held, fun p _ => by simp, ?_⟩
    rw [Reader.members, nextKey_close first blank]
    rfl
  | cons e es ih =>
    obtain ⟨fuel, rfl⟩ := Nat.exists_eq_add_one_of_ne_zero (Nat.ne_zero_of_lt enough)
    obtain ⟨fitsHead, fitsMore⟩ := List.forall_mem_cons.mp fits
    obtain ⟨onceHead, onceMore⟩ := List.pairwise_cons.mp once
    obtain ⟨freeHead, freeMore⟩ := List.forall_mem_cons.mp free
    obtain ⟨held₁, holds₁, one⟩ := member_read h fitsHead freeHead
    have free₁ : ∀ e' ∈ es, ∀ p ∈ parts, e'.name ∈ p.names → p.name ∉ held₁ := by
      intro e' he' p hp called holds
      obtain same | before := (holds₁ p hp).mp holds
      · exact onceHead e' he' p hp same called
      · exact freeMore e' he' p hp called before
    obtain ⟨held₂, holds₂, more⟩ := ih fitsMore onceMore free₁ false fuel e.item.back_blank
      (Nat.lt_of_succ_lt_succ enough)
    refine ⟨held₂, fun p hp => ?_, ?_⟩
    · rw [holds₂ p hp, holds₁ p hp, List.exists_mem_cons_iff, or_left_comm, ← or_assoc]
    · have step := one _
        (Reader.ends_append e.item.back_blank (ends_enclosed .object Entry.octets es rest))
      rw [Reader.members, nextKey_entry first blank]
      simp only [bind, Except.bind, step]
      exact more

theorem length_le_enclosed (first : Bool) (es : List Entry) (rest : Utf8.Octets) :
    es.length ≤ (enclosed .object Entry.octets first es rest).length := by
  induction es generalizing first with
  | nil => exact Nat.zero_le _
  | cons e es ih =>
    have more := ih false
    have colon : 0 < e.octets.length := by
      rw [Entry.octets, Member.octets, List.length_append, List.length_cons]
      omega
    cases first with
    | true =>
      simp only [enclosed_true, List.length_append, List.length_cons]
      omega
    | false =>
      simp only [enclosed_false, List.length_append, List.length_cons]
      omega

theorem nextItem_close (first : Bool) {blanks : Utf8.Octets} (blank : Blanks blanks)
    (rest : Utf8.Octets) :
    Reader.nextItem first (blanks ++ enclosed .list Item.octets first [] rest) =
      .ok (false, ascii ']' :: rest) := by
  rw [enclosed_nil, Reader.nextItem, skipBlanks_front blank (by decide)]
  exact if_pos rfl

theorem nextItem_item (first : Bool) {blanks : Utf8.Octets} (blank : Blanks blanks) {i : Item}
    (starts : Starts i.value) (items : List Item) (rest : Utf8.Octets) :
    Reader.nextItem first (blanks ++ enclosed .list Item.octets first (i :: items) rest) =
      .ok (true, i.value ++ (i.back ++ enclosed .list Item.octets false items rest)) := by
  obtain ⟨b, more, spelled, solid, inside⟩ := starts
  cases first with
  | true =>
    rw [enclosed_true, i.octets_append, spelled, List.cons_append, Reader.nextItem,
      skipBlanks_append blank, skipBlanks_front i.front_blank solid]
    simp only [if_neg inside, if_true]
  | false =>
    rw [enclosed_false, i.octets_append, spelled, List.cons_append, Reader.nextItem,
      skipBlanks_front blank (by decide)]
    have comma : ascii ',' ≠ ascii ']' := by decide
    simp only [if_neg comma, Bool.false_eq_true, if_false, ne_eq, not_true_eq_false,
      skipBlanks_front i.front_blank solid, if_neg inside]

theorem elements_read (shape : Shape σ α) {fs : List (Field σ)}
    (h : List.Forall₂ (FieldTakes depth draftOf) fs parts)
    {items : List Item} (inOrder : InOrder parts items) (n : Nat) (held : List String)
    {blanks : Utf8.Octets} (blank : Blanks blanks) (rest : Utf8.Octets) :
    ∃ held' blanks', Blanks blanks' ∧ held ⊆ held' ∧
      (∀ p ∈ parts, p.optional = false → p.name ∈ held') ∧
      shape.elements depth fs n (draftOf held)
          (blanks ++ enclosed .list Item.octets (n == 0) items rest) =
        .ok (draftOf held', blanks' ++ ascii ']' :: rest) := by
  -- On the fields, which may outlast the items: each spare field finds the bracket again.
  induction h generalizing items n held blanks with
  | nil =>
    cases inOrder
    exact ⟨held, blanks, blank, List.Subset.refl _, List.forall_mem_nil _, rfl⟩
  | @cons f p fs parts head _ ih =>
    cases inOrder with
    | rest absent =>
      obtain ⟨here, more⟩ := List.forall_mem_cons.mp absent
      obtain ⟨held', blanks', blank', grows, holds, read⟩ :=
        ih (.rest more) (n + 1) held (List.forall_mem_nil _)
      refine ⟨held', blanks', blank', grows, ?_, ?_⟩
      · exact List.forall_mem_cons.mpr ⟨fun needed => absurd (here.symm.trans needed) (by decide),
          holds⟩
      · have spare : ¬ f.required = true := fun needed =>
          absurd (here.symm.trans (head.required needed)) (by decide)
        rw [Shape.elements, nextItem_close _ blank]
        simp only [bind, Except.bind, Bool.false_eq_true, if_false, if_neg spare]
        exact read
    | @item _ _ i items spelled more =>
      obtain ⟨held', blanks', blank', grows, holds, read⟩ :=
        ih more (n + 1) (p.name :: held) i.back_blank
      refine ⟨held', blanks', blank', List.Subset.trans (List.subset_cons_self _ _) grows, ?_, ?_⟩
      · exact List.forall_mem_cons.mpr ⟨fun _ => grows List.mem_cons_self, holds⟩
      · have one := head.reads held _ spelled [] _ (List.forall_mem_nil _)
          (Reader.ends_append i.back_blank (ends_enclosed .list Item.octets items rest))
        rw [List.nil_append] at one
        rw [Shape.elements, nextItem_item _ blank (head.starts _ spelled)]
        simp only [bind, Except.bind, if_true, one]
        exact read

theorem read_takes (h : ShapeTakes shape depth draftOf parts a) :
    Takes (shape.read (depth + 1)) (RecordSpelling parts) a := by
  intro bs spells front rest blank _
  cases spells with
  | @object blanks es inner named =>
    have spelled : objectText blanks (es.map Entry.toMember) ++ rest =
        ascii '\x7b' :: (blanks ++ enclosed .object Entry.octets true es rest) := by
      simp only [objectText, enclosed, List.map_map, List.cons_append, List.append_assoc,
        List.nil_append]
      rfl
    have enough := length_le_enclosed true es rest
    obtain ⟨held, holds, read⟩ := members_read h named.fits named.once
      (fun _ _ _ _ _ => List.not_mem_nil) true
      ((blanks ++ enclosed .object Entry.octets true es rest).length + 1) inner rest
      (by rw [List.length_append]; omega)
    have built := h.built held fun p hp needed =>
      (holds p hp).mpr (.inl (named.complete p hp needed))
    have close : Reader.endObject (ascii '\x7d' :: rest) = .ok rest := by
      rw [Reader.endObject, skipBlanks_cons (by decide)]
      rfl
    have noList : ascii '\x7b' ≠ ascii '[' := by decide
    rw [spelled, Shape.read, skipBlanks_front blank (by decide), h.draft]
    simp only [if_neg noList, if_true, Reader.object, read, close, built, bind, Except.bind]
  | @list blanks items inner inOrder =>
    have spelled : listText blanks items ++ rest =
        ascii '[' :: (blanks ++ enclosed .list Item.octets true items rest) := by
      simp only [listText, enclosed, List.cons_append, List.append_assoc, List.nil_append]
      rfl
    obtain ⟨held, blanks', blank', -, holds, read⟩ :=
      elements_read shape h.fields inOrder 0 [] inner rest
    rw [beq_self_eq_true] at read
    have close : Reader.endList (blanks' ++ ascii ']' :: rest) = .ok rest := by
      rw [Reader.endList, skipBlanks_front blank' (by decide)]
      rfl
    rw [spelled, Shape.read, skipBlanks_front blank (by decide), h.draft]
    simp only [if_true, read, close, h.built held holds, bind, Except.bind]

theorem parse_takes (h : ShapeTakes shape 126 draftOf parts a) (text : Item)
    (spelled : RecordSpelling parts text.value) : shape.parse text.octets = .ok a := by
  have ends : Ends text.back :=
    text.back.append_nil ▸ Reader.ends_append text.back_blank ⟨rfl, rfl, by decide⟩
  have rest : skipBlanks text.back = [] := by
    rw [← text.back.append_nil, skipBlanks_append text.back_blank]
    rfl
  have read := read_takes h _ spelled _ _ text.front_blank ends
  rw [Shape.parse, Reader.finish, Item.octets, Reader.deepest, read]
  simp only [rest, bind, Except.bind]
  rfl

def ifHeld (held : List String) (name : String) (a : α) : Option α :=
  if name ∈ held then some a else none

theorem ifHeld_isSome (held : List String) (name : String) (a : α) :
    (ifHeld held name a).isSome = decide (name ∈ held) := by
  by_cases h : name ∈ held <;> simp only [ifHeld, h, if_true, if_false] <;> rfl

@[simp] theorem ifHeld_self (held : List String) (name : String) (a : α) :
    ifHeld (name :: held) name a = some a := if_pos List.mem_cons_self

@[simp] theorem ifHeld_other {name other : String} (h : name ≠ other) (held : List String) (a : α) :
    ifHeld (other :: held) name a = ifHeld held name a := by
  simp only [ifHeld, List.mem_cons, h, false_or]

theorem FieldTakes.of_set {f : Field σ} {p : Part} {read : Reader β} {b : β} (set : σ → β → σ)
    (name : f.name = p.name) (aliases : f.alias? = p.alias?)
    (required : f.required = true → p.optional = false)
    (filled : ∀ held, f.filled (draftOf held) = decide (p.name ∈ held))
    (starts : ∀ bs, p.spelled bs → Starts bs) (takes : Takes read p.spelled b)
    (reads : ∀ d, f.read depth d = fun input => (read input).map fun (b, rest) => (set d b, rest))
    (sets : ∀ held, set (draftOf held) b = draftOf (p.name :: held)) :
    FieldTakes depth draftOf f p where
  name := name
  aliases := aliases
  required := required
  filled := filled
  starts := starts
  reads held := by
    rw [reads, ← sets]
    exact takes.map (set (draftOf held))

theorem FieldTakes.of_optional {f : Field σ} {read : Reader β} {spelling : β → Utf8.Octets → Prop}
    (set : σ → Option β → σ) (name : String) (b? : Option β)
    (named : f.name = name ∧ f.alias? = none) (spare : f.required = false)
    (filled : ∀ held, f.filled (draftOf held) = decide (name ∈ held))
    (starts : ∀ b bs, spelling b bs → Starts bs ∧ bs.head? ≠ some (ascii 'n'))
    (takes : ∀ b, Takes read (spelling b) b)
    (reads : ∀ d, f.read depth d = fun input =>
      (Reader.optional read input).map fun (b?, rest) => (set d b?, rest))
    (sets : ∀ held, set (draftOf held) b? = draftOf (name :: held)) :
    FieldTakes depth draftOf f (Part.perhaps name spelling b?) :=
  .of_set set named.1 named.2 (fun needed => absurd (spare.symm.trans needed) (by decide)) filled
    (starts_of_perhaps starts name b?) (optional_takes takes starts name b?) reads sets

theorem ifHeld_join {held : List String} {name : String} {a? : Option α}
    (h : a?.isNone = false → name ∈ held) : (ifHeld held name a?).join = a? := by
  cases a? with
  | none => by_cases known : name ∈ held <;> simp only [ifHeld, known, if_true, if_false] <;> rfl
  | some a =>
    rw [ifHeld, if_pos (h rfl)]
    rfl

end ConsoleSession.Json
