import ConsoleSession.Proofs.Printed
import ConsoleSession.Redirect.Store

/-!
# What a redirect store keeps

An intent that was saved is read back as it was, whatever its path and its time. So a store in
memory and one in a folder that nobody else touches keep the same intent, and saving and taking do
the same to it.
-/

namespace ConsoleSession

open Json

namespace Intent

def parts (i : Intent) : List Part :=
  [Part.always "path" (TextSpelling i.path), Part.always "saved_at" (NaturalSpelling i.savedAt)]

def draftOf (i : Intent) (held : List String) : Draft where
  path := ifHeld held "path" i.path
  savedAt := ifHeld held "saved_at" i.savedAt

theorem distinct_parts (i : Intent) : Distinct i.parts :=
  (by decide : [["path"], ["saved_at"]].Pairwise fun ks ls => ∀ k ∈ ks, k ∉ ls)

theorem shape_takes (i : Intent) : ShapeTakes shape 126 i.draftOf i.parts i where
  fields := by
    refine .cons ?_ (.cons ?_ .nil)
    · exact .of_set (fun d s => { d with path := some s }) rfl rfl (fun _ => rfl)
        (fun held => ifHeld_isSome held _ _) (fun _ h => (starts_of_text h).1)
        (wantText_takes i.path) (fun _ => rfl) (fun held => by simp [draftOf, Part.always])
    · exact .of_set (fun d n => { d with savedAt := some n }) rfl rfl (fun _ => rfl)
        (fun held => ifHeld_isSome held _ _) (fun _ h => (starts_of_natural h).1)
        (wantNatural_takes i.savedAt) (fun _ => rfl) (fun held => by simp [draftOf, Part.always])
  distinct := i.distinct_parts
  draft := rfl
  built held holds := by
    have path : "path" ∈ held := holds _ List.mem_cons_self rfl
    have savedAt : "saved_at" ∈ held :=
      holds _ (List.mem_cons_of_mem _ List.mem_cons_self) rfl
    simp only [shape, build, draftOf, ifHeld, if_pos path, if_pos savedAt]

theorem written (i : Intent) : Written i.parts
    [("path", .text i.path), ("saved_at", .number (.integer i.savedAt.toNat))] :=
  .part _ (textSpelling_renderText i.path) (.part _ (encode_natural i.savedAt.toNat) .nil)

theorem decode_encode (i : Intent) : decode i.encode = .ok i := by
  have spelled : RecordSpelling i.parts i.encode := i.written.spelling i.distinct_parts
  have read := parse_takes i.shape_takes (.bare i.encode) spelled
  rwa [Item.bare_octets] at read

end Intent

namespace RedirectStore

variable {s : RedirectStore} {i : Option Intent}

/-- The store keeps the intent `i` and nothing is in the way of its files. -/
inductive Keeps : RedirectStore → Option Intent → Prop
  | memory (i : Option Intent) : Keeps (.memory i) i
  | absent : Keeps (.file .absent) none
  | empty : Keeps (.file .empty) none
  | holding (i : Intent) : Keeps (.file (.holding i.encode)) (some i)

theorem Keeps.save (h : Keeps s i) (j : Intent) : Keeps (s.save j).2 (some j) := by
  cases h with
  | memory => exact .memory _
  | absent => exact .holding j
  | empty => exact .holding j
  | holding => exact .holding j

theorem Keeps.take (h : Keeps s i) (ttl : Option UInt64) (now : UInt64) :
    (s.take ttl now).1 = .ok (i.bind (·.fresh ttl now)) ∧ Keeps (s.take ttl now).2 none := by
  cases h with
  | memory => exact ⟨rfl, .memory _⟩
  | absent => exact ⟨rfl, .absent⟩
  | empty => exact ⟨rfl, .empty⟩
  | holding i =>
    have read : Folder.read i.encode ttl now = i.fresh ttl now := by
      rw [Folder.read, i.decode_encode]
    exact ⟨congrArg Except.ok read, .empty⟩

end RedirectStore

end ConsoleSession
