import ConsoleSession.Text.Blank
import Mathlib.Data.List.Induction
import Mathlib.Data.List.TakeDrop
import Mathlib.Data.List.TakeWhile

/-!
# Runs of characters at either end of a text

Where a text is cut at the first character of a kind, or trimmed of a class at its end, it does not
matter what is on the far side of a character that stops the cut or the trimming. What one character
is trimmed off is known by what may follow it and by its own last character.
-/

namespace ConsoleSession.Text

variable {text rest xs : List Char} {p : Char → Bool} {c : Char}

theorem takeWhile_append_stop (h : p c = false) (xs ys : List Char) :
    (xs ++ c :: ys).takeWhile p = xs.takeWhile p := by
  induction xs with
  | nil => rw [List.nil_append, List.takeWhile_cons, if_neg (by simp [h]), List.takeWhile_nil]
  | cons x xs ih => rw [List.cons_append, List.takeWhile_cons, List.takeWhile_cons, ih]

theorem dropWhile_append_stop (h : p c = false) (xs ys : List Char) :
    (xs ++ c :: ys).dropWhile p = xs.dropWhile p ++ c :: ys := by
  induction xs with
  | nil => rw [List.nil_append, List.dropWhile_cons, if_neg (by simp [h]), List.dropWhile_nil,
      List.nil_append]
  | cons x xs ih =>
    rw [List.cons_append, List.dropWhile_cons, List.dropWhile_cons, ih]
    split <;> rfl

theorem span_append (h : ∀ c ∈ text, p c = true) (hr : ∀ c, rest.head? = some c → p c = false) :
    (text ++ rest).span p = (text, rest) := by
  rw [List.span_eq_takeWhile_dropWhile, List.takeWhile_append_of_pos h,
    List.dropWhile_append_of_pos h]
  cases rest with
  | nil => rw [List.takeWhile_nil, List.dropWhile_nil, List.append_nil]
  | cons c cs =>
    have hc : ¬ p c = true := by simp [hr c rfl]
    rw [List.takeWhile_cons, if_neg hc, List.dropWhile_cons, if_neg hc, List.append_nil]

theorem span_spec (p : Char → Bool) (xs : List Char) :
    ∃ text rest, xs = text ++ rest ∧ (∀ c ∈ text, p c = true) ∧
      (∀ c, rest.head? = some c → p c = false) ∧ xs.span p = (text, rest) := by
  refine ⟨_, _, (List.takeWhile_append_dropWhile (p := p) (l := xs)).symm,
    fun c hc => List.mem_takeWhile_imp hc, fun c hc => ?_, List.span_eq_takeWhile_dropWhile ..⟩
  have h := List.head?_dropWhile_not p xs
  rw [hc] at h
  simpa using h

theorem span_append_of_mem (h : ∃ c ∈ xs, p c = false) (ys : List Char) :
    (xs ++ ys).span p = ((xs.span p).1, (xs.span p).2 ++ ys) := by
  obtain ⟨text, rest, rfl, htext, hrest, hspan⟩ := span_spec p xs
  rw [hspan, List.append_assoc, span_append htext]
  cases rest with
  | nil =>
    obtain ⟨c, hc, hp⟩ := h
    rw [List.append_nil] at hc
    exact absurd (htext c hc) (by simp [hp])
  | cons d ds => exact hrest

theorem mem_dropWhile (hc : c ∈ xs) (h : p c = false) : c ∈ xs.dropWhile p := by
  rw [← List.takeWhile_append_dropWhile (p := p) (l := xs), List.mem_append] at hc
  refine hc.resolve_left fun hm => ?_
  rw [List.mem_takeWhile_imp hm] at h
  cases h

theorem trimEnd_append (h : p c = false) (xs cs : List Char) :
    trimEnd p (xs ++ c :: cs) = xs ++ c :: trimEnd p cs := by
  have hrev : (xs ++ c :: cs).reverse = cs.reverse ++ c :: xs.reverse := by simp
  rw [trimEnd, trimEnd, hrev, dropWhile_append_stop h]
  simp

theorem trimEnd_cons (h : p c = false) (cs : List Char) :
    trimEnd p (c :: cs) = c :: trimEnd p cs :=
  trimEnd_append h [] cs

theorem trimEnd_spec (p : Char → Bool) (xs : List Char) :
    ∃ ys, xs = trimEnd p xs ++ ys ∧ ∀ c ∈ ys, p c = true := by
  refine ⟨(xs.reverse.takeWhile p).reverse, ?_, fun c hc => ?_⟩
  · rw [trimEnd, ← List.reverse_append, List.takeWhile_append_dropWhile, List.reverse_reverse]
  · exact List.mem_takeWhile_imp (List.mem_reverse.1 hc)

theorem mem_trimEnd (hc : c ∈ xs) (h : p c = false) : c ∈ trimEnd p xs :=
  List.mem_reverse.2 (mem_dropWhile (List.mem_reverse.2 hc) h)

theorem trimEnd_eq_self (h : xs.getLast?.any p = false) : trimEnd p xs = xs := by
  induction xs using List.reverseRecOn with
  | nil => rfl
  | append_singleton xs c _ =>
    rw [List.getLast?_concat] at h
    exact trimEnd_append h xs []

theorem getLast?_trimEnd (p : Char → Bool) (xs : List Char) :
    (trimEnd p xs).getLast?.any p = false := by
  rw [trimEnd, List.getLast?_reverse, Option.any_eq_false]
  intro c hc
  have hnot := List.head?_dropWhile_not p xs.reverse
  rw [hc] at hnot
  simpa using hnot

theorem trimEnd_append_of_pos {ys : List Char} (xs : List Char) (h : ∀ c ∈ ys, p c = true) :
    trimEnd p (xs ++ ys) = trimEnd p xs := by
  have all : ∀ c ∈ ys.reverse, p c = true := fun c hc => h c (List.mem_reverse.mp hc)
  rw [trimEnd, trimEnd, List.reverse_append, List.dropWhile_append_of_pos all]

theorem eq_of_mem_replicate {n : Nat} : ∀ d ∈ List.replicate n c, (d == c) = true :=
  fun _ h => beq_iff_eq.mpr (List.eq_of_mem_replicate h)

theorem trimEnd_eq_iff {ys : List Char} : trimEnd (· == c) xs = ys ↔
    (∃ n, xs = ys ++ List.replicate n c) ∧ ys.getLast? ≠ some c := by
  have bare : ys.getLast?.any (· == c) = false ↔ ys.getLast? ≠ some c := by
    cases ys.getLast? <;> simp
  constructor
  · rintro rfl
    obtain ⟨cut, whole, all⟩ := trimEnd_spec (· == c) xs
    have same : cut = List.replicate cut.length c :=
      List.eq_replicate_of_mem fun d hd => beq_iff_eq.mp (all d hd)
    exact ⟨⟨cut.length, by rw [← same, ← whole]⟩, bare.mp (getLast?_trimEnd _ xs)⟩
  · rintro ⟨⟨n, rfl⟩, last⟩
    rw [trimEnd_append_of_pos ys eq_of_mem_replicate, trimEnd_eq_self (bare.mpr last)]

theorem dropWhile_eq_iff {ys : List Char} : xs.dropWhile (· == c) = ys ↔
    (∃ n, xs = List.replicate n c ++ ys) ∧ ys.head? ≠ some c := by
  constructor
  · rintro rfl
    have same : xs.takeWhile (· == c) = List.replicate (xs.takeWhile (· == c)).length c :=
      List.eq_replicate_of_mem fun d hd => by simpa using List.mem_takeWhile_imp hd
    refine ⟨⟨_, by rw [← same, List.takeWhile_append_dropWhile]⟩, fun first => ?_⟩
    have stops := List.head?_dropWhile_not (· == c) xs
    rw [first] at stops
    simp at stops
  · rintro ⟨⟨n, rfl⟩, first⟩
    rw [List.dropWhile_append_of_pos eq_of_mem_replicate]
    cases ys with
    | nil => rfl
    | cons d ds =>
      have other : ¬ (d == c) = true := fun same => first (congrArg some (beq_iff_eq.mp same))
      exact List.dropWhile_cons_of_neg other

theorem getLast?_dropWhile (h : xs.getLast?.any p = false) :
    (xs.dropWhile p).getLast? = xs.getLast? := by
  induction xs using List.reverseRecOn with
  | nil => rfl
  | append_singleton xs c _ =>
    rw [List.getLast?_concat] at h
    rw [dropWhile_append_stop h, List.getLast?_concat, List.getLast?_concat]

structure Trims (xs ys : List Char) : Prop where
  whole : ∃ front back, xs = front ++ ys ++ back ∧ (∀ c ∈ front, isBlank c = true) ∧
    ∀ c ∈ back, isBlank c = true
  first : ys.head?.any isBlank = false
  last : ys.getLast?.any isBlank = false

theorem head?_trimEnd (h : xs.head?.any p = false) : (trimEnd p xs).head?.any p = false := by
  cases xs with
  | nil => rfl
  | cons c cs => rwa [trimEnd_cons h]

theorem trims_trimBlank (xs : List Char) : Trims xs (trimBlank xs) := by
  obtain ⟨back, whole, blank⟩ := trimEnd_spec isBlank (xs.dropWhile isBlank)
  refine ⟨⟨xs.takeWhile isBlank, back, ?_, fun c hc => List.mem_takeWhile_imp hc, blank⟩, ?_, ?_⟩
  · rw [List.append_assoc, trimBlank, ← whole, List.takeWhile_append_dropWhile]
  · refine head?_trimEnd ((Option.any_eq_false _ _).mpr fun c hc => ?_)
    have stops := List.head?_dropWhile_not isBlank xs
    rw [hc] at stops
    exact Bool.eq_false_iff.mpr (by simp [stops])
  · exact getLast?_trimEnd _ _

theorem trimBlank_eq_iff {ys : List Char} : trimBlank xs = ys ↔ Trims xs ys := by
  refine ⟨fun h => h ▸ trims_trimBlank xs, ?_⟩
  rintro ⟨⟨front, back, rfl, hfront, hback⟩, first, last⟩
  rw [trimBlank, List.append_assoc, List.dropWhile_append_of_pos hfront]
  cases ys with
  | nil =>
    rw [List.nil_append, List.dropWhile_eq_nil_iff.mpr hback]
    rfl
  | cons c cs =>
    have solid : ¬ isBlank c = true := Bool.eq_false_iff.mp first
    rw [List.cons_append, List.dropWhile_cons_of_neg solid, ← List.cons_append,
      trimEnd_append_of_pos _ hback, trimEnd_eq_self last]

theorem Trims.mem {ys : List Char} (h : Trims xs ys) (hc : c ∈ ys) : c ∈ xs := by
  obtain ⟨⟨front, back, rfl, -⟩, -⟩ := h
  exact List.mem_append_left _ (List.mem_append_right _ hc)

theorem Trims.self {ys : List Char} (h : Trims xs ys) : Trims ys ys :=
  ⟨⟨[], [], by simp, nofun, nofun⟩, h.first, h.last⟩

end ConsoleSession.Text
