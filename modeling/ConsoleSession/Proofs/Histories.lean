import ConsoleSession.Proofs.Judgements
import Mathlib.Data.List.Induction

/-!
# A token store is its history

All handles of a store reach one slot, so what they do to it is one sequence of uses. Everything that
the store answers can be read off the uses before and their answers: it holds the last token that was
written since it was last cleared, and a write that is bound to an epoch is let in exactly if nothing
was cleared since that epoch was read.
-/

namespace ConsoleSession.TokenStore

inductive Access
  | set (token : String)
  | clear
  | setIfEpoch (token : String) (epoch : UInt64)
  | get
  | epoch
  | decode
  deriving DecidableEq, Repr

def Access.Answer : Access → Type
  | .set _ => Unit
  | .clear => Unit
  | .setIfEpoch _ _ => Bool
  | .get => Option String
  | .epoch => UInt64
  | .decode => Except DecodeError Claims

structure Entry where
  access : Access
  answer : access.Answer

variable {s : TokenStore} {h before rest mid : List Entry} {x : Entry} {token : String}

def access (s : TokenStore) : (a : Access) → a.Answer × TokenStore
  | .set token => ((), s.set token)
  | .clear => ((), s.clear)
  | .setIfEpoch token epoch => s.setIfEpoch token epoch
  | .get => (s.token, s)
  | .epoch => (s.epoch, s)
  | .decode => (s.decode, s)

def after (s : TokenStore) (as : List Access) : TokenStore :=
  as.foldl (fun s a => (s.access a).2) s

def log (s : TokenStore) : List Access → List Entry
  | [] => []
  | a :: as => ⟨a, (s.access a).1⟩ :: log (s.access a).2 as

def Access.clears : Access → Bool
  | .set token => token.isEmpty
  | .clear => true
  | _ => false

def Entry.writes? : Entry → Option String
  | ⟨.set token, _⟩ => some token
  | ⟨.setIfEpoch token _, true⟩ => some token
  | _ => none

/-- The token is the last one written in the history, and nothing was cleared after. -/
def Leaves (h : List Entry) (token : String) : Prop :=
  ∃ before x after, h = before ++ x :: after ∧ x.writes? = some token ∧ token.isEmpty = false ∧
    ∀ y ∈ after, y.writes? = none ∧ y.access.clears = false

def clearings (h : List Entry) : Nat := h.countP fun x => x.access.clears

theorem leaves_snoc : Leaves (h ++ [x]) token ↔ x.writes? = some token ∧ token.isEmpty = false ∨
    (x.writes? = none ∧ x.access.clears = false) ∧ Leaves h token := by
  constructor
  · rintro ⟨before, y, after, whole, written, full, quiet⟩
    obtain rfl | ⟨after, z, rfl⟩ := after.eq_nil_or_concat
    · obtain ⟨-, same⟩ := List.append_inj' whole rfl
      cases same
      exact .inl ⟨written, full⟩
    · rw [List.concat_eq_append] at whole quiet
      rw [← List.cons_append, ← List.append_assoc] at whole
      obtain ⟨rfl, same⟩ := List.append_inj' whole rfl
      cases same
      obtain ⟨quiet, last⟩ := List.forall_mem_append.mp quiet
      have still := last x (List.mem_singleton_self x)
      exact .inr ⟨still, before, y, after, rfl, written, full, quiet⟩
  · rintro (⟨written, full⟩ | ⟨still, before, y, after, rfl, written, full, quiet⟩)
    · exact ⟨h, x, [], rfl, written, full, List.forall_mem_nil _⟩
    · refine ⟨before, y, after ++ [x], by simp, written, full, ?_⟩
      exact List.forall_mem_append.mpr ⟨quiet, List.forall_mem_singleton.mpr still⟩

theorem not_leaves_nil (token : String) : ¬ Leaves [] token := by
  rintro ⟨before, x, after, whole, -⟩
  simp at whole

theorem clearings_append (h h' : List Entry) : clearings (h ++ h') = clearings h + clearings h' :=
  List.countP_append

theorem log_append (s : TokenStore) (as bs : List Access) :
    log s (as ++ bs) = log s as ++ log (s.after as) bs := by
  induction as generalizing s with
  | nil => rfl
  | cons a as ih => rw [List.cons_append, log, log, ih, List.cons_append]; rfl

theorem after_append (s : TokenStore) (as bs : List Access) :
    s.after (as ++ bs) = (s.after as).after bs := List.foldl_append

theorem clearings_log (s : TokenStore) (as : List Access) :
    clearings (log s as) = as.countP Access.clears := by
  induction as generalizing s with
  | nil => rfl
  | cons a as ih =>
    rw [log, List.countP_cons, ← ih (s.access a).2, clearings, List.countP_cons]
    rfl

theorem log_split {as : List Access} (whole : log s as = before ++ x :: rest) :
    ∃ as₁ as₂, as = as₁ ++ x.access :: as₂ ∧ log s as₁ = before ∧
      x.answer = ((s.after as₁).access x.access).1 := by
  induction before generalizing s as with
  | nil =>
    cases as with
    | nil => cases whole
    | cons a as =>
      rw [log, List.nil_append] at whole
      cases whole
      exact ⟨[], as, rfl, rfl, rfl⟩
  | cons y before ih =>
    cases as with
    | nil => cases whole
    | cons a as =>
      rw [log, List.cons_append] at whole
      obtain ⟨rfl, more⟩ := List.cons.inj whole
      obtain ⟨as₁, as₂, rfl, rfl, answered⟩ := ih more
      exact ⟨a :: as₁, as₂, rfl, rfl, answered⟩

def entry (s : TokenStore) (a : Access) : Entry := ⟨a, (s.access a).1⟩

theorem token_access (s : TokenStore) (a : Access) : (s.access a).2.token =
    if a.clears = true then none else (s.entry a).writes?.or s.token := by
  cases a with
  | set token =>
    rw [access, TokenStore.set]
    by_cases empty : token.isEmpty = true
    · rw [if_pos empty, if_pos (show Access.clears (.set token) = true from empty)]
      rfl
    · rw [if_neg empty, if_neg (show ¬ Access.clears (.set token) = true from empty)]
      rfl
  | setIfEpoch token epoch =>
    rw [entry, access, TokenStore.setIfEpoch]
    cases s.accepts token epoch <;> rfl
  | _ => rfl

theorem epoch_access (s : TokenStore) (a : Access) :
    (s.access a).2.epoch = s.epoch + UInt64.ofNat (if a.clears = true then 1 else 0) := by
  cases a with
  | set token =>
    rw [access, TokenStore.set]
    by_cases empty : token.isEmpty = true
    · rw [if_pos empty, if_pos (show Access.clears (.set token) = true from empty)]
      rfl
    · rw [if_neg empty, if_neg (show ¬ Access.clears (.set token) = true from empty)]
      exact (UInt64.add_zero _).symm
  | clear => rfl
  | setIfEpoch token epoch =>
    rw [access, TokenStore.setIfEpoch]
    cases s.accepts token epoch <;> exact (UInt64.add_zero _).symm
  | _ => exact (UInt64.add_zero _).symm

theorem isEmpty_of_writes? {a : Access} (h : (s.entry a).writes? = some token) :
    token.isEmpty = a.clears := by
  cases a with
  | set t =>
    cases h
    rfl
  | setIfEpoch t epoch =>
    rw [entry, access, TokenStore.setIfEpoch] at h
    cases accepted : s.accepts t epoch with
    | true =>
      rw [accepted] at h
      cases h
      rw [accepts, Bool.and_eq_true, Bool.not_eq_true'] at accepted
      exact accepted.2
    | false =>
      rw [accepted] at h
      cases h
  | _ => cases h

/-- The store is what the history makes of a new one. -/
structure Reflects (s : TokenStore) (h : List Entry) : Prop where
  token : ∀ token, s.token = some token ↔ Leaves h token
  epoch : s.epoch = UInt64.ofNat (clearings h)

theorem Reflects.access (hr : s.Reflects h) (a : Access) :
    (s.access a).2.Reflects (h ++ [s.entry a]) := by
  refine ⟨fun token => ?_, ?_⟩
  · rw [leaves_snoc, ← hr.token, token_access]
    show _ ↔ _ ∨ (_ ∧ a.clears = false) ∧ _
    cases written : (s.entry a).writes? with
    | none => cases a.clears <;> simp
    | some t =>
      have full := isEmpty_of_writes? written
      cases cleared : a.clears with
      | true =>
        refine iff_of_false nofun ?_
        rintro (⟨⟨⟩, given⟩ | ⟨⟨⟨⟩, -⟩, -⟩)
        rw [full, cleared] at given
        cases given
      | false =>
        rw [if_neg Bool.false_ne_true, Option.some_or, Option.some_inj]
        constructor
        · rintro rfl
          exact .inl ⟨rfl, full.trans cleared⟩
        · rintro (⟨same, -⟩ | ⟨⟨⟨⟩, -⟩, -⟩)
          exact same
  · have counted : clearings [s.entry a] = if a.clears = true then 1 else 0 :=
      List.countP_singleton
    rw [epoch_access, clearings_append, counted, UInt64.ofNat_add, hr.epoch]

theorem reflects_new : Reflects {} [] :=
  ⟨fun token => iff_of_false nofun (not_leaves_nil token), rfl⟩

theorem reflects_log (as : List Access) : (after {} as).Reflects (log {} as) := by
  induction as using List.reverseRecOn with
  | nil => exact reflects_new
  | append_singleton as a ih =>
    rw [after_append, log_append]
    exact ih.access a

theorem Reflects.nonempty (hr : s.Reflects h) : s.token ≠ some "" := by
  intro held
  obtain ⟨before, x, after, -, -, full, -⟩ := (hr.token _).mp held
  cases full

theorem Reflects.token_eq_none_iff (hr : s.Reflects h) :
    s.token = none ↔ ∀ token, ¬ Leaves h token := by
  rw [Option.eq_none_iff_forall_ne_some]
  exact forall_congr' fun token => not_congr (hr.token token)

theorem Reflects.decode_eq_missing_iff (hr : s.Reflects h) :
    s.decode = .error .missing ↔ ∀ token, ¬ Leaves h token := by
  rw [← hr.token_eq_none_iff]
  exact ⟨token_eq_none_of_decode, decode_of_none⟩

/-- Two readings of the epoch are the same if nothing was cleared in between, and only then while the
clearings can be counted. -/
theorem Reflects.epoch_eq_iff {s' : TokenStore} (hr : s.Reflects before)
    (hr' : s'.Reflects (before ++ mid)) (room : clearings (before ++ mid) < UInt64.size) :
    s'.epoch = s.epoch ↔ ∀ x ∈ mid, x.access.clears = false := by
  have none : clearings mid = 0 ↔ ∀ x ∈ mid, x.access.clears = false := by
    rw [clearings, List.countP_eq_zero]
    exact forall₂_congr fun _ _ => Bool.eq_false_iff.symm
  rw [clearings_append] at room
  rw [hr.epoch, hr'.epoch, clearings_append, ← none, ← UInt64.toNat_inj, UInt64.toNat_ofNat',
    UInt64.toNat_ofNat', Nat.mod_eq_of_lt room,
    Nat.mod_eq_of_lt (Nat.lt_of_le_of_lt (Nat.le_add_right _ _) room), Nat.add_eq_left]

theorem setIfEpoch_fst (s : TokenStore) (token : String) (epoch : UInt64) :
    (s.setIfEpoch token epoch).1 = s.accepts token epoch := by
  rw [setIfEpoch]
  cases s.accepts token epoch <;> rfl

theorem setIfEpoch_of_refused {epoch : UInt64} (h : (s.setIfEpoch token epoch).1 = false) :
    (s.setIfEpoch token epoch).2 = s := by
  rw [setIfEpoch_fst] at h
  rw [setIfEpoch, h]
  rfl

theorem length_log (s : TokenStore) (as : List Access) : (log s as).length = as.length := by
  induction as generalizing s with
  | nil => rfl
  | cons a as ih => rw [log, List.length_cons, ih, List.length_cons]

/-- What a new store answers in a sequence of accesses is what the accesses before say. A reading of
the token gives the last one written since the last clearing, if there is one, and never the empty
text. A write bound to an epoch that was read before is let in exactly if it brings a token and nothing
was cleared since the reading, and changes nothing otherwise. There is nothing to decode exactly if no
token is left. -/
theorem store_is_its_history (as : List Access) (room : as.countP Access.clears < UInt64.size) :
    (∀ before (held : Option String) rest, log {} as = before ++ ⟨.get, held⟩ :: rest →
      held ≠ some "" ∧ ∀ token, held = some token ↔ Leaves before token) ∧
    (∀ before (epoch : UInt64) mid token (accepted : Bool) rest, log {} as =
        (before ++ ⟨.epoch, epoch⟩ :: mid) ++ ⟨.setIfEpoch token epoch, accepted⟩ :: rest →
      (accepted = true ↔ token.isEmpty = false ∧ ∀ x ∈ mid, x.access.clears = false)) ∧
    (∀ before token epoch rest, log {} as = before ++ ⟨.setIfEpoch token epoch, false⟩ :: rest →
      after {} (as.take (before.length + 1)) = after {} (as.take before.length)) ∧
    (∀ before (read : Except DecodeError Claims) rest,
      log {} as = before ++ ⟨.decode, read⟩ :: rest →
      (read = .error .missing ↔ ∀ token, ¬ Leaves before token)) := by
  refine ⟨fun before held rest whole => ?_, fun before epoch mid token accepted rest whole => ?_,
    fun before token epoch rest whole => ?_, fun before read rest whole => ?_⟩
  · obtain ⟨as₁, as₂, rfl, rfl, answered⟩ := log_split whole
    obtain rfl : held = (after {} as₁).token := answered
    exact ⟨(reflects_log as₁).nonempty, (reflects_log as₁).token⟩
  · obtain ⟨as₁, as₂, rfl, upTo, answered⟩ := log_split whole
    obtain rfl : accepted = ((after {} as₁).setIfEpoch token epoch).1 := answered
    obtain ⟨bs₁, bs₂, hbs, rfl, answered⟩ := log_split upTo
    obtain rfl : epoch = (after {} bs₁).epoch := answered
    have now := reflects_log as₁
    rw [upTo] at now
    have counted : clearings (log {} bs₁ ++ ⟨.epoch, (after {} bs₁).epoch⟩ :: mid) < UInt64.size := by
      rw [← upTo, clearings_log]
      rw [List.countP_append] at room
      exact Nat.lt_of_le_of_lt (Nat.le_add_right _ _) room
    have same := (reflects_log bs₁).epoch_eq_iff now counted
    rw [List.forall_mem_cons] at same
    rw [setIfEpoch_fst, accepts, Bool.and_eq_true, beq_iff_eq, same, Bool.not_eq_true']
    exact ⟨fun h => ⟨h.2, h.1.2⟩, fun h => ⟨⟨rfl, h.2⟩, h.1⟩⟩
  · obtain ⟨as₁, as₂, rfl, rfl, answered⟩ := log_split whole
    have refused : ((after {} as₁).setIfEpoch token epoch).1 = false := answered.symm
    have here : (as₁ ++ .setIfEpoch token epoch :: as₂).take (as₁.length + 1) =
        as₁ ++ [.setIfEpoch token epoch] := by
      rw [List.take_length_add_append]
      rfl
    rw [length_log, here, List.take_left, after_append]
    exact setIfEpoch_of_refused refused
  · obtain ⟨as₁, as₂, rfl, rfl, answered⟩ := log_split whole
    obtain rfl : read = (after {} as₁).decode := answered
    exact (reflects_log as₁).decode_eq_missing_iff

def overtaken : List Access :=
  [.epoch, .set "a", .setIfEpoch "b" 0, .set "", .set "c", .setIfEpoch "d" 0, .get, .clear, .decode]

theorem overtaken_write_refused :
    overtaken.countP Access.clears < UInt64.size ∧
      Leaves (log {} (overtaken.take 6)) "c" ∧
      (∃ x ∈ log {} (overtaken.take 5), x.access.clears = true) ∧
      after {} (overtaken.take 6) = after {} (overtaken.take 5) ∧
      ∀ token, ¬ Leaves (log {} (overtaken.take 8)) token := by
  have room : overtaken.countP Access.clears < UInt64.size := by decide
  obtain ⟨reads, writes, refused, decodes⟩ := store_is_its_history overtaken room
  have left := (reads (log {} (overtaken.take 6)) (some "c") _ rfl).2 "c"
  have bound := writes [] 0 ((log {} (overtaken.take 5)).drop 1) "d" false _ rfl
  have missing := decodes (log {} (overtaken.take 8)) (.error .missing) _ rfl
  have kept := refused (log {} (overtaken.take 5)) "d" 0 _ rfl
  refine ⟨room, left.mp rfl, ?_, kept, missing.mp rfl⟩
  by_contra quiet
  refine Bool.false_ne_true (bound.mpr ⟨rfl, fun x hx => ?_⟩)
  exact Bool.eq_false_iff.mpr fun clears => quiet ⟨x, List.mem_of_mem_drop hx, clears⟩

end ConsoleSession.TokenStore
