import ConsoleSession.Proofs.Resuming

/-!
# A store in a folder beside one in memory

Both stores are put to the same uses, one after the other, while the clock goes back and forth and
the store in the folder is made anew now and then. They answer alike at every use, for both keep the
same intent all along: the file is there exactly while the memory is occupied. That they answer alike
holds of any two stores that nothing is in the way of, whatever the files hold.
-/

namespace ConsoleSession

namespace Folder

variable {f : Folder}

def Blocked : Folder → Prop
  | .plainFile | .occupied => True
  | _ => False

def octets? : Folder → Option Utf8.Octets
  | .holding octets => some octets
  | _ => none

def intent? (f : Folder) : Option Intent :=
  f.octets?.bind fun octets => (Intent.decode octets).toOption

theorem intent?_eq_some {i : Intent} :
    f.intent? = some i ↔ ∃ octets, f.octets? = some octets ∧ Intent.decode octets = .ok i := by
  rw [intent?, Option.bind_eq_some_iff]
  refine exists_congr fun octets => and_congr_right fun _ => ?_
  cases Intent.decode octets <;> simp [Except.toOption]

theorem intent?_holding (i : Intent) : (holding i.encode).intent? = some i :=
  intent?_eq_some.2 ⟨_, rfl, i.decode_encode⟩

theorem read_eq (octets : Utf8.Octets) (ttl : Option UInt64) (now : UInt64) :
    read octets ttl now = (Intent.decode octets).toOption.bind (·.fresh ttl now) := by
  rw [read]
  cases Intent.decode octets <;> rfl

theorem save_of_free (h : ¬ f.Blocked) (i : Intent) : f.save i = (.ok (), .holding i.encode) := by
  cases f with
  | plainFile => exact absurd trivial h
  | occupied => exact absurd trivial h
  | _ => rfl

theorem take_of_free (h : ¬ f.Blocked) (ttl : Option UInt64) (now : UInt64) :
    ∃ f', f.take ttl now = (.ok (f.intent?.bind (·.fresh ttl now)), f') ∧ ¬ f'.Blocked ∧
      f'.octets? = none := by
  cases f with
  | plainFile => exact absurd trivial h
  | occupied => exact absurd trivial h
  | absent => exact ⟨.absent, rfl, id, rfl⟩
  | empty => exact ⟨.empty, rfl, id, rfl⟩
  | holding octets => exact ⟨.empty, by rw [take, read_eq]; rfl, id, rfl⟩

end Folder

inductive Use
  | save (path : String)
  | take
  | tick (now : UInt64)
  | renew
  deriving DecidableEq, Repr

def Use.clock (now : UInt64) : Use → UInt64
  | .tick later => later
  | _ => now

namespace RedirectStore

variable {s s' : RedirectStore} {i : Option Intent}

abbrev Answer := Except StorageError (Option String)

def renewed (s : RedirectStore) : RedirectStore :=
  if s.isFile then s.reopened else s

def use (ttl : Option UInt64) (now : UInt64) (s : RedirectStore) : Use → Option Answer × RedirectStore
  | .save path => (s.save ⟨path, now⟩).map (fun r => some (r.map fun _ => none)) id
  | .take => (s.take ttl now).map some id
  | .tick _ => (none, s)
  | .renew => (none, s.renewed)

def answers (ttl : Option UInt64) : UInt64 → RedirectStore → List Use → List (Option Answer)
  | _, _, [] => []
  | now, s, u :: us => (s.use ttl now u).1 :: answers ttl (Use.clock now u) (s.use ttl now u).2 us

def afterUses (ttl : Option UInt64) : UInt64 → RedirectStore → List Use → RedirectStore
  | _, s, [] => s
  | now, s, u :: us => afterUses ttl (Use.clock now u) (s.use ttl now u).2 us

def Works : RedirectStore → Prop
  | .memory _ => True
  | .file f => ¬ f.Blocked

def intent? : RedirectStore → Option Intent
  | .memory slot => slot
  | .file f => f.intent?

theorem Works.save (h : s.Works) (i : Intent) :
    (s.save i).1 = .ok () ∧ (s.save i).2.Works ∧ (s.save i).2.intent? = some i := by
  cases s with
  | memory slot => exact ⟨rfl, trivial, rfl⟩
  | file f =>
    rw [RedirectStore.save, Folder.save_of_free h]
    exact ⟨rfl, id, Folder.intent?_holding i⟩

theorem Works.take (h : s.Works) (ttl : Option UInt64) (now : UInt64) :
    (s.take ttl now).1 = .ok (s.intent?.bind (·.fresh ttl now)) ∧ (s.take ttl now).2.Works ∧
      (s.take ttl now).2.intent? = none := by
  cases s with
  | memory slot => exact ⟨rfl, trivial, rfl⟩
  | file f =>
    obtain ⟨f', taken, free, gone⟩ := Folder.take_of_free h ttl now
    rw [RedirectStore.take, taken]
    exact ⟨rfl, free, by rw [intent?, Folder.intent?, gone]; rfl⟩

theorem Works.renewed (h : s.Works) : s.renewed.Works ∧ s.renewed.intent? = s.intent? := by
  cases s with
  | memory slot => exact ⟨trivial, rfl⟩
  | file f => exact ⟨h, rfl⟩

/-- Stores that work and keep the same intent answer alike and keep the same intent again. -/
theorem Works.use (h : s.Works) (h' : s'.Works) (same : s.intent? = s'.intent?)
    (ttl : Option UInt64) (now : UInt64) (u : Use) :
    (s.use ttl now u).1 = (s'.use ttl now u).1 ∧ (∀ e, (s.use ttl now u).1 ≠ some (.error e)) ∧
      (s.use ttl now u).2.Works ∧ (s'.use ttl now u).2.Works ∧
      (s.use ttl now u).2.intent? = (s'.use ttl now u).2.intent? := by
  cases u with
  | save path =>
    obtain ⟨saved, works, keeps⟩ := h.save ⟨path, now⟩
    obtain ⟨saved', works', keeps'⟩ := h'.save ⟨path, now⟩
    refine ⟨?_, fun e => ?_, works, works', keeps.trans keeps'.symm⟩
    · simp only [RedirectStore.use, Prod.map_fst, saved, saved']
    · simp [RedirectStore.use, saved, Except.map]
  | take =>
    obtain ⟨taken, works, keeps⟩ := h.take ttl now
    obtain ⟨taken', works', keeps'⟩ := h'.take ttl now
    refine ⟨?_, fun e => ?_, works, works', keeps.trans keeps'.symm⟩
    · simp only [RedirectStore.use, Prod.map_fst, taken, taken', same]
    · simp [RedirectStore.use, taken]
  | tick later => exact ⟨rfl, fun _ => (Option.some_ne_none _).symm, h, h', same⟩
  | renew =>
    obtain ⟨works, keeps⟩ := h.renewed
    obtain ⟨works', keeps'⟩ := h'.renewed
    exact ⟨rfl, fun _ => (Option.some_ne_none _).symm, works, works',
      keeps.trans (same.trans keeps'.symm)⟩

theorem Works.uses (h : s.Works) (h' : s'.Works) (same : s.intent? = s'.intent?)
    (ttl : Option UInt64) (now : UInt64) (us : List Use) :
    answers ttl now s us = answers ttl now s' us ∧
      (∀ a ∈ answers ttl now s us, ∀ e, a ≠ some (.error e)) ∧
      (afterUses ttl now s us).intent? = (afterUses ttl now s' us).intent? := by
  -- On the uses; the intent that both keep changes from one use to the next.
  induction us generalizing s s' now with
  | nil => exact ⟨rfl, nofun, same⟩
  | cons u us ih =>
    obtain ⟨alike, good, works, works', keeps⟩ := h.use h' same ttl now u
    obtain ⟨rest, fine, last⟩ := ih works works' keeps (Use.clock now u)
    refine ⟨?_, List.forall_mem_cons.mpr ⟨good, fine⟩, last⟩
    rw [answers, answers, alike, rest]

theorem Keeps.works (h : Keeps s i) : s.Works := by
  cases h with
  | memory => exact trivial
  | _ => exact id

theorem Keeps.intent?_eq (h : Keeps s i) : s.intent? = i := by
  cases h with
  | holding i => exact Folder.intent?_holding i
  | _ => rfl

theorem Keeps.renewed (h : Keeps s i) : Keeps s.renewed i := by
  cases h with
  | memory => exact .memory i
  | absent => exact .absent
  | empty => exact .empty
  | holding i => exact .holding i

theorem Keeps.exists_afterUses (h : Keeps s i) (ttl : Option UInt64) (now : UInt64) (us : List Use) :
    ∃ j, Keeps (afterUses ttl now s us) j := by
  induction us generalizing s i now with
  | nil => exact ⟨i, h⟩
  | cons u us ih =>
    cases u with
    | save path => exact ih (h.save ⟨path, now⟩) now
    | take =>
      obtain ⟨-, keeps⟩ := h.take ttl now
      exact ih keeps now
    | tick later => exact ih h later
    | renew => exact ih h.renewed now

theorem Keeps.uses (h : Keeps s i) (h' : Keeps s' i) (ttl : Option UInt64) (now : UInt64)
    (us : List Use) :
    answers ttl now s us = answers ttl now s' us ∧
      (∀ a ∈ answers ttl now s us, ∀ e, a ≠ some (.error e)) ∧
      ∃ j, Keeps (afterUses ttl now s us) j ∧ Keeps (afterUses ttl now s' us) j := by
  obtain ⟨alike, fine, last⟩ :=
    h.works.uses h'.works (h.intent?_eq.trans h'.intent?_eq.symm) ttl now us
  obtain ⟨j, keeps⟩ := h.exists_afterUses ttl now us
  obtain ⟨j', keeps'⟩ := h'.exists_afterUses ttl now us
  have same : j = j' := keeps.intent?_eq.symm.trans (last.trans keeps'.intent?_eq)
  exact ⟨alike, fine, j, keeps, same ▸ keeps'⟩

theorem isFile_use (ttl : Option UInt64) (now : UInt64) (u : Use) :
    (s.use ttl now u).2.isFile = s.isFile := by
  cases s <;> cases u <;> rfl

theorem isFile_afterUses (ttl : Option UInt64) (now : UInt64) (us : List Use) :
    (afterUses ttl now s us).isFile = s.isFile := by
  induction us generalizing s now with
  | nil => rfl
  | cons u us ih => rw [afterUses, ih, isFile_use]

theorem eq_memory (hm : s.isFile = false) : s = .memory s.intent? := by
  cases s with
  | memory slot => rfl
  | file f => cases hm

theorem Keeps.slot (h : Keeps s i) (hm : s.isFile = false) : s = .memory i :=
  h.intent?_eq ▸ eq_memory hm

theorem Keeps.folder (h : Keeps s i) (hf : s.isFile = true) :
    ∃ f, s = .file f ∧ ((∃ octets, f = .holding octets) ↔ i.isSome = true) ∧
      ∀ octets, f = .holding octets → ∃ j, Intent.decode octets = .ok j ∧ i = some j := by
  cases h with
  | memory => cases hf
  | absent => exact ⟨_, rfl, ⟨nofun, nofun⟩, nofun⟩
  | empty => exact ⟨_, rfl, ⟨nofun, nofun⟩, nofun⟩
  | holding i =>
    refine ⟨_, rfl, ⟨fun _ => rfl, fun _ => ⟨_, rfl⟩⟩, fun octets same => ⟨i, ?_, rfl⟩⟩
    rw [← Folder.holding.inj same, i.decode_encode]

/-- A store in a folder that is not there yet and an empty one in memory, put to the same uses: both
answer alike at every use and none fails; and after every use the file is there exactly if the memory
is occupied, and the intent that is read from it is the one in memory. -/
theorem file_answers_as_memory (ttl : Option UInt64) (now : UInt64) (us : List Use) :
    answers ttl now (.file .absent) us = answers ttl now (.memory none) us ∧
    (∀ a ∈ answers ttl now (.file .absent) us, ∀ e, a ≠ some (.error e)) ∧
    ∃ slot folder, afterUses ttl now (.memory none) us = .memory slot ∧
      afterUses ttl now (.file .absent) us = .file folder ∧
      ((∃ octets, folder = .holding octets) ↔ slot.isSome = true) ∧
      ∀ octets, folder = .holding octets → ∃ i, Intent.decode octets = .ok i ∧ slot = some i := by
  obtain ⟨alike, fine, i, file, memory⟩ := Keeps.absent.uses (.memory none) ttl now us
  obtain ⟨folder, inFolder, there, content⟩ := file.folder (isFile_afterUses ttl now us)
  exact ⟨alike, fine, i, folder, memory.slot (isFile_afterUses ttl now us), inFolder, there, content⟩

example : answers (some 60) 1000 (.file .absent) [.save "/a", .tick 900, .renew, .take, .save "/b",
    .tick 1000, .take] = [some (.ok none), none, none, some (.ok (some "/a")), some (.ok none), none,
    some (.ok none)] := by
  decide +kernel

end RedirectStore

end ConsoleSession
