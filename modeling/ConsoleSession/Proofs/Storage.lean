import ConsoleSession.Proofs.TwoStores

/-!
# Stores that fail, and files that no intent can be read from

A store in a folder finds the place of its file in one of five states. In two of them something is in
the way: there every save and every take fails and leaves all as it was, and the guard answers as if
nothing were kept. In the others none fails: a save replaces whatever the file holds, and a take
removes it, readable or not. So at every use the store does what a store in memory does that began
with the intent read from the file.
-/

namespace ConsoleSession

namespace Folder

variable {f : Folder}

theorem save_of_blocked (h : f.Blocked) (i : Intent) : ∃ e, f.save i = (.error e, f) := by
  cases f with
  | plainFile => exact ⟨_, rfl⟩
  | occupied => exact ⟨_, rfl⟩
  | _ => exact h.elim

theorem take_of_blocked (h : f.Blocked) (ttl : Option UInt64) (now : UInt64) :
    ∃ e, f.take ttl now = (.error e, f) := by
  cases f with
  | plainFile => exact ⟨_, rfl⟩
  | occupied => exact ⟨_, rfl⟩
  | _ => exact h.elim

end Folder

namespace RedirectStore

variable {f : Folder}

theorem use_of_blocked (h : f.Blocked) (ttl : Option UInt64) (now : UInt64) (u : Use) :
    (∀ r, ((file f).use ttl now u).1 ≠ some (.ok r)) ∧ ((file f).use ttl now u).2 = file f := by
  cases u with
  | save path =>
    obtain ⟨e, failed⟩ := Folder.save_of_blocked h ⟨path, now⟩
    simp [RedirectStore.use, RedirectStore.save, failed, Except.map]
  | take =>
    obtain ⟨e, failed⟩ := Folder.take_of_blocked h ttl now
    simp [RedirectStore.use, RedirectStore.take, failed]
  | tick later => exact ⟨fun _ => (Option.some_ne_none _).symm, rfl⟩
  | renew => exact ⟨fun _ => (Option.some_ne_none _).symm, rfl⟩

theorem uses_of_blocked (h : f.Blocked) (ttl : Option UInt64) (now : UInt64) (us : List Use) :
    (∀ a ∈ answers ttl now (.file f) us, ∀ r, a ≠ some (.ok r)) ∧
      afterUses ttl now (.file f) us = .file f := by
  induction us generalizing now with
  | nil => exact ⟨nofun, rfl⟩
  | cons u us ih =>
    obtain ⟨failed, same⟩ := use_of_blocked h ttl now u
    obtain ⟨fail, last⟩ := ih (Use.clock now u)
    rw [answers, afterUses, same]
    exact ⟨List.forall_mem_cons.mpr ⟨failed, fail⟩, last⟩

end RedirectStore

namespace Guard

variable {f : Folder} {s : RedirectStore} {auth : AuthState} {requested : String} {now : UInt64}

theorem decide_of_vacant (g : Guard) (h : s.Vacant) (auth : AuthState) (requested : String)
    (now : UInt64) : (g.decide auth requested now s).1 =
      if g.isPublic requested then .render
      else
        match auth with
        | .loading _ => .placeholder
        | .authenticated _ => .render
        | .unauthenticated => .redirectToLogin (g.loginLocation requested) := by
  unfold decide
  split
  · rfl
  · cases auth with
    | authenticated u => obtain rfl | rfl | rfl := h <;> rfl
    | _ => rfl

theorem decide_of_blocked (g : Guard) (h : f.Blocked) (empty : s.Vacant) (auth : AuthState)
    (requested : String) (now : UInt64) : g.decide auth requested now (.file f) =
      ((g.decide auth requested now s).1, .file f) := by
  rw [decide_of_vacant g empty]
  unfold decide
  split
  · rfl
  · cases auth with
    | loading u => rfl
    | authenticated u =>
      obtain ⟨e, failed⟩ := Folder.take_of_blocked h g.ttl now
      simp only [RedirectStore.take, failed]
    | unauthenticated =>
      obtain ⟨e, failed⟩ := Folder.save_of_blocked h ⟨requested, now⟩
      simp only [RedirectStore.save, failed]

theorem after_of_blocked (g : Guard) (h : f.Blocked) (es : List Passage) :
    g.after (.file f) es = .file f := by
  induction es with
  | nil => rfl
  | cons e es ih =>
    cases e with
    | visit v =>
      rw [after, decide_of_blocked g h (.inl rfl)]
      exact ih
    | reopen => exact ih

end Guard

namespace RedirectStore

open Guard (visit?)

theorem blocked_of_failure {f : Folder} {i : Intent} {ttl : Option UInt64} {now : UInt64}
    (h : (∃ e, (f.take ttl now).1 = .error e) ∨ ∃ e, (f.save i).1 = .error e) : f.Blocked := by
  by_contra free
  obtain ⟨e, failed⟩ | ⟨e, failed⟩ := h
  · obtain ⟨f', taken, -⟩ := Folder.take_of_free free ttl now
    rw [taken] at failed
    cases failed
  · rw [Folder.save_of_free free] at failed
    cases failed

/-- Whatever state the place of the file is in: a take fails and changes nothing, or leaves no file
and gives out the path of the intent that the file read as, if there was one and it is not stale. A
save fails and changes nothing, or leaves exactly the new intent in the file. Of a sequence of uses
either all fail, and the place stays as it is, or none does, and all are answered as by a store in
memory that began with the intent read from the file. And wherever the store fails a guard answers
what it would over an empty one, at every point of a history. -/
theorem folder_all_or_nothing (f : Folder) (ttl : Option UInt64) (now : UInt64) :
    ((∃ e, f.take ttl now = (.error e, f)) ∨
      ∃ r f', f.take ttl now = (.ok r, f') ∧ f'.octets? = none ∧
        ∀ p, r = some p ↔ ∃ octets i, f.octets? = some octets ∧ Intent.decode octets = .ok i ∧
          (∀ t, ttl = some t → now.toNat - i.savedAt.toNat ≤ t.toNat) ∧ i.path = p) ∧
    (∀ path, (∃ e, f.save ⟨path, now⟩ = (.error e, f)) ∨
      ∃ f', f.save ⟨path, now⟩ = (.ok (), f') ∧
        f'.octets? = some (Intent.encode ⟨path, now⟩) ∧ f'.intent? = some ⟨path, now⟩) ∧
    (∀ us, let file := answers ttl now (.file f) us
      ((∀ a ∈ file, ∀ r, a ≠ some (.ok r)) ∧ afterUses ttl now (.file f) us = .file f) ∨
      ((∀ a ∈ file, ∀ e, a ≠ some (.error e)) ∧ file = answers ttl now (.memory f.intent?) us ∧
        afterUses ttl now (.memory f.intent?) us =
          .memory (afterUses ttl now (.file f) us).intent?)) ∧
    ∀ (g : Guard) (auth : AuthState) (requested : String),
      (∃ e, (f.take g.ttl now).1 = .error e) ∨ (∃ e, (f.save ⟨requested, now⟩).1 = .error e) →
      ∀ s : RedirectStore, s.Vacant →
        g.decide auth requested now (.file f) = ((g.decide auth requested now s).1, .file f) ∧
        ∀ es j v, visit? es j = some v →
          g.decision? (.file f) es j = some (g.decide v.auth v.path v.now s).1 := by
  refine ⟨?_, fun path => ?_, fun us => ?_, fun g auth requested fails s empty => ?_⟩
  · by_cases blocked : f.Blocked
    · exact .inl (Folder.take_of_blocked blocked ttl now)
    · obtain ⟨f', taken, -, gone⟩ := Folder.take_of_free blocked ttl now
      refine .inr ⟨_, f', taken, gone, fun p => ?_⟩
      simp only [Option.bind_eq_some_iff, Folder.intent?_eq_some, Guard.fresh_eq_some]
      constructor
      · rintro ⟨i, ⟨octets, held, read⟩, young, here⟩
        exact ⟨octets, i, held, read, young, here⟩
      · rintro ⟨octets, i, held, read, young, here⟩
        exact ⟨i, ⟨octets, held, read⟩, young, here⟩
  · by_cases blocked : f.Blocked
    · exact .inl (Folder.save_of_blocked blocked _)
    · exact .inr ⟨_, Folder.save_of_free blocked _, rfl, Folder.intent?_holding _⟩
  · by_cases blocked : f.Blocked
    · exact .inl (uses_of_blocked blocked ttl now us)
    · have works : (file f).Works := blocked
      have works' : (memory f.intent?).Works := trivial
      obtain ⟨alike, fine, last⟩ := works.uses works' rfl ttl now us
      refine .inr ⟨fine, alike, ?_⟩
      rw [last]
      exact eq_memory (isFile_afterUses ttl now us)
  · have blocked : f.Blocked := blocked_of_failure fails
    refine ⟨g.decide_of_blocked blocked empty auth requested now, fun es j v visited => ?_⟩
    rw [Guard.decision?, visited, g.after_of_blocked blocked, Option.map_some,
      g.decide_of_blocked blocked empty]

/-- A file that no intent can be read from is dropped by the first take, and does no harm after; a
visitor is sent to the login page also where a directory is in the place of the file. -/
theorem unreadable_file_dropped :
    answers (some 60) 100 (.file (.holding [255])) [.take, .save "/a", .tick 160, .take, .take] =
        [some (.ok none), some (.ok none), none, some (.ok (some "/a")), some (.ok none)] ∧
      Guard.tenMinutes.decide .unauthenticated "/a" 100 (.file .occupied) =
        (.redirectToLogin "/login?redirect=%2Fa", .file .occupied) := by
  have unreadable : (Folder.holding [255]).intent? = none := by decide +kernel
  obtain ⟨-, -, uses, -⟩ := folder_all_or_nothing (.holding [255]) (some 60) 100
  obtain ⟨-, -, -, guard⟩ := folder_all_or_nothing .occupied none 100
  have fails : ∃ e, (Folder.occupied.take Guard.tenMinutes.ttl 100).1 = .error e := ⟨_, rfl⟩
  obtain ⟨sent, -⟩ := guard Guard.tenMinutes .unauthenticated "/a" (.inl fails) _ (.inl rfl)
  refine ⟨?_, sent.trans (by decide +kernel)⟩
  obtain ⟨failed, -⟩ | ⟨-, same, -⟩ :=
    uses [.take, .save "/a", .tick 160, .take, .take]
  · exact absurd rfl (failed _ (List.mem_cons_of_mem _ List.mem_cons_self) none)
  · rw [same, unreadable]
    decide +kernel

end RedirectStore

end ConsoleSession
