import ConsoleSession.Proofs.BaseUrl
import Mathlib.Data.List.Forall2
import Mathlib.Data.Nat.Digits.Defs

/-!
# What the texts of settings mean

A setting is a number, a list of paths or the address of the backend. Each is given here by what its
text is made of: digits behind one plus sign or none, pieces between commas, an address with slashes
behind it. Blanks around any of them do not count.
-/

namespace ConsoleSession

open Text (Trims trimBlank trimBlank_eq_iff)

/-- Decimal digits, and the number that they write: from the right, each is worth ten times what
the one before it is. -/
structure Digits (ds : List Char) (n : Nat) : Prop where
  nonempty : ds ≠ []
  decimal : ∀ d ∈ ds, '0' ≤ d ∧ d ≤ '9'
  value : n = Nat.ofDigits 10 (ds.reverse.map fun d => d.toNat - '0'.toNat)

def Writes (raw : String) (n : Nat) : Prop :=
  ∃ sign ds, (sign = [] ∨ sign = ['+']) ∧ Trims raw.toList (sign ++ ds) ∧ Digits ds n

namespace Config

variable {ds cs : List Char} {n : UInt64}

def readUnsigned (ds : List Char) : Option UInt64 :=
  let n := ds.foldl (fun n c => n * 10 + (c.toNat - 0x30)) 0
  if !ds.isEmpty && ds.all Char.isDigit && n < UInt64.size then some (UInt64.ofNat n) else none

theorem foldl_digits (ds : List Char) :
    ds.foldl (fun n c => n * 10 + (c.toNat - 0x30)) 0 =
      Nat.ofDigits 10 (ds.reverse.map fun d => d.toNat - '0'.toNat) := by
  induction ds using List.reverseRecOn with
  | nil => rfl
  | append_singleton ds d ih =>
    rw [List.foldl_append, ih, List.reverse_append, List.reverse_singleton, List.singleton_append,
      List.map_cons, Nat.ofDigits_cons, List.foldl_cons, List.foldl_nil, Nat.mul_comm, Nat.add_comm]
    rfl

theorem isDigit_iff {d : Char} : d.isDigit = true ↔ '0' ≤ d ∧ d ≤ '9' := by
  rw [Char.isDigit, Bool.and_eq_true, decide_eq_true_iff, decide_eq_true_iff]
  rfl

theorem readUnsigned_eq_some_iff : readUnsigned ds = some n ↔ Digits ds n.toNat := by
  have fits : n.toNat < UInt64.size := n.toNat_lt
  unfold readUnsigned
  rw [foldl_digits]
  constructor
  · intro h
    dsimp only at h
    split at h
    next checks =>
      cases h
      simp only [Bool.and_eq_true, Bool.not_eq_true', decide_eq_true_eq] at checks
      obtain ⟨⟨nonempty, decimal⟩, small⟩ := checks
      refine ⟨List.isEmpty_eq_false_iff.mp nonempty, fun d hd => ?_, ?_⟩
      · exact isDigit_iff.mp (List.all_eq_true.mp decimal d hd)
      · exact UInt64.toNat_ofNat_of_lt' small
    next => cases h
  · rintro ⟨nonempty, decimal, value⟩
    have all : ds.all Char.isDigit = true :=
      List.all_eq_true.mpr fun d hd => isDigit_iff.mpr (decimal d hd)
    dsimp only
    rw [← value, all, List.isEmpty_eq_false_iff.mpr nonempty, if_pos (by simpa using fits),
      UInt64.ofNat_toNat]

theorem readDigits_eq_some_iff : readDigits cs = some n ↔
    ∃ sign ds, (sign = [] ∨ sign = ['+']) ∧ cs = sign ++ ds ∧ Digits ds n.toNat := by
  have noSign {ds : List Char} (h : Digits ('+' :: ds) n.toNat) : False :=
    absurd (h.decimal '+' List.mem_cons_self) (by decide)
  by_cases signed : ∃ rest, cs = '+' :: rest
  · obtain ⟨rest, rfl⟩ := signed
    rw [show readDigits ('+' :: rest) = readUnsigned rest from rfl, readUnsigned_eq_some_iff]
    constructor
    · exact fun digits => ⟨_, rest, .inr rfl, rfl, digits⟩
    · rintro ⟨_, ds, rfl | rfl, same, digits⟩
      · obtain rfl : ds = '+' :: rest := same.symm
        exact (noSign digits).elim
      · exact (List.cons.inj same).2 ▸ digits
  · have bare : readDigits cs = readUnsigned cs := by
      unfold readDigits readUnsigned
      split
      next rest => exact absurd ⟨rest, rfl⟩ signed
      next => rfl
    rw [bare, readUnsigned_eq_some_iff]
    constructor
    · exact fun digits => ⟨_, cs, .inl rfl, rfl, digits⟩
    · rintro ⟨_, ds, rfl | rfl, rfl, digits⟩
      · exact digits
      · exact absurd ⟨ds, rfl⟩ signed

theorem writes_iff {raw : String} :
    Writes raw n.toNat ↔ readDigits (trimBlank raw.toList) = some n := by
  rw [readDigits_eq_some_iff]
  simp only [Writes, ← trimBlank_eq_iff]

variable {raw : String} {ps : List String}

/-- The paths of a list: its pieces from comma to comma, trimmed, those left out of which nothing is
left. -/
def Lists (raw : String) (ps : List String) : Prop :=
  ∃ pieces trimmed, pieces ≠ [] ∧ (∀ piece ∈ pieces, ',' ∉ piece) ∧
    raw.toList = [','].intercalate pieces ∧ List.Forall₂ Trims pieces trimmed ∧
    ps.map String.toList = trimmed.filter fun cs => !cs.isEmpty

theorem not_mem_of_mem_splitOn {cs piece : List Char} (h : piece ∈ cs.splitOn ',') :
    ',' ∉ piece := by
  induction cs generalizing piece with
  | nil =>
    obtain rfl := List.mem_singleton.mp h
    exact List.not_mem_nil
  | cons c cs ih =>
    rw [List.splitOn_cons_eq_if_modifyHead] at h
    split at h
    next =>
      obtain rfl | h := List.mem_cons.mp h
      · exact List.not_mem_nil
      · exact ih h
    next other =>
      cases split : cs.splitOn ',' with
      | nil => exact absurd split (List.splitOn_ne_nil _ _)
      | cons first more =>
        rw [split] at h ih
        obtain rfl | h := List.mem_cons.mp h
        · have plain : ',' ≠ c := fun same => other (beq_iff_eq.mpr same.symm)
          exact List.not_mem_cons_of_ne_of_not_mem plain (ih List.mem_cons_self)
        · exact ih (List.mem_cons_of_mem _ h)

theorem forall₂_trims_iff {pieces trimmed : List (List Char)} :
    List.Forall₂ Trims pieces trimmed ↔ pieces.map trimBlank = trimmed := by
  rw [← List.forall₂_eq_eq_eq, List.forall₂_map_left_iff]
  simp only [trimBlank_eq_iff]

theorem map_toList_filled (css : List (List Char)) :
    (css.filterMap fun cs => if cs.isEmpty then none else some (String.ofList cs)).map
      String.toList = css.filter fun cs => !cs.isEmpty := by
  induction css with
  | nil => rfl
  | cons cs css ih =>
    cases cs with
    | nil => exact ih
    | cons c cs =>
      show (String.ofList (c :: cs) :: css.filterMap _).map String.toList = _
      rw [List.map_cons, ih, String.toList_ofList]
      rfl

theorem map_toList_inj {ps qs : List String} :
    ps.map String.toList = qs.map String.toList ↔ ps = qs :=
  (List.map_injective_iff.mpr fun _ _ => String.toList_inj.mp).eq_iff

theorem readList_eq_iff : readList raw = ps ↔ Lists raw ps := by
  rw [← map_toList_inj, readList, map_toList_filled]
  constructor
  · intro h
    exact ⟨_, _, List.splitOn_ne_nil _ _, fun _ => not_mem_of_mem_splitOn,
      (List.intercalate_splitOn ',').symm, forall₂_trims_iff.mpr rfl, h.symm⟩
  · rintro ⟨pieces, trimmed, some, bare, joined, trims, h⟩
    rw [joined, List.splitOn_intercalate ',' bare some, forall₂_trims_iff.mp trims, h]

structure Entry (p : String) : Prop where
  nonempty : p.toList ≠ []
  bare : ',' ∉ p.toList
  trimmed : Trims p.toList p.toList

theorem Lists.entry (h : Lists raw ps) : ∀ p ∈ ps, Entry p := by
  obtain ⟨pieces, trimmed, -, bare, -, trims, kept⟩ := h
  intro p hp
  have member : p.toList ∈ trimmed.filter fun cs => !cs.isEmpty :=
    kept ▸ List.mem_map_of_mem hp
  obtain ⟨member, filled⟩ := List.mem_filter.mp member
  obtain ⟨piece, hpiece, trims⟩ : ∃ piece ∈ pieces, Trims piece p.toList := by
    rw [forall₂_trims_iff] at trims
    obtain ⟨piece, hpiece, same⟩ := List.mem_map.mp (trims ▸ member)
    exact ⟨piece, hpiece, trimBlank_eq_iff.mp same⟩
  exact ⟨by simpa using filled, fun comma => bare piece hpiece (trims.mem comma), trims.self⟩

theorem lists_intercalate (h : ∀ p ∈ ps, Entry p) : Lists (",".intercalate ps) ps := by
  have joined : (",".intercalate ps).toList = [','].intercalate (ps.map String.toList) :=
    String.toList_intercalate
  by_cases none : ps = []
  · subst none
    exact ⟨[[]], [[]], List.cons_ne_nil _ _, by simp, joined, forall₂_trims_iff.mpr rfl, rfl⟩
  · refine ⟨_, ps.map String.toList, mt List.map_eq_nil_iff.mp none, ?_, joined, ?_, ?_⟩
    · exact List.forall_mem_map.mpr fun p hp => (h p hp).bare
    · exact List.forall₂_same.mpr (List.forall_mem_map.mpr fun p hp => (h p hp).trimmed)
    · refine (List.filter_eq_self.mpr (List.forall_mem_map.mpr fun p hp => ?_)).symm
      simpa using (h p hp).nonempty

variable {naming : Url.Naming} {base : String} {e : Error}

/-- The address that is kept of a setting: trimmed, and without the slashes that are at its end
then. -/
structure Kept (raw base : String) : Prop where
  trimmed : ∃ n, Trims raw.toList (base.toList ++ List.replicate n '/')
  bare : base.toList.getLast? ≠ some '/'

theorem kept_iff : Kept raw base ↔
    base.toList = Text.trimEnd (· == '/') (trimBlank raw.toList) := by
  rw [eq_comm, Text.trimEnd_eq_iff]
  simp only [trimBlank_eq_iff]
  exact ⟨fun h => ⟨h.trimmed, h.bare⟩, fun h => ⟨h.1, h.2⟩⟩

theorem Kept.unique {base' : String} (h : Kept raw base) (h' : Kept raw base') : base = base' :=
  String.toList_inj.mp ((kept_iff.mp h).trans (kept_iff.mp h').symm)

theorem readUrl_eq_error : readUrl naming raw = .error e ↔
    ∃ base reason, Kept raw base ∧ Url.parse naming base = .error reason ∧ e = .url raw reason := by
  have kept : Kept raw (Text.stripEnd '/' (Text.trimmed raw)) := by
    rw [kept_iff, Text.stripEnd, Text.trimmed, String.toList_ofList, String.toList_ofList]
  unfold readUrl
  dsimp only
  constructor
  · intro h
    split at h
    next => cases h
    next reason failed =>
      cases h
      exact ⟨_, reason, kept, failed, rfl⟩
  · rintro ⟨base, reason, kept', failed, rfl⟩
    rw [kept.unique kept', failed]

end Config

end ConsoleSession
