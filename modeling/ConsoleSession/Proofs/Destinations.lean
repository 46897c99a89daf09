import ConsoleSession.Proofs.Escaping
import ConsoleSession.Proofs.TwoStores

/-!
# The destination in the location of the login page

A visitor who is turned away takes the destination along twice: in the query of the location they are
sent to, and in the store. Both are the path that was asked for. In the query it is one escaped text,
so nothing in the path can add to the location, and the path can be read back from it.
-/

namespace ConsoleSession.Guard

variable {g : Guard} {requested other : String}

def queryMarks : List Char := ['&', ';', '=', '?', '#', '+', ' ']

theorem not_mem_of_mark {text : List Char} (h : Percent.Escaped text) :
    ∀ c ∈ queryMarks, c ∉ text :=
  h.free (by simp [queryMarks, Percent.unreserved])

theorem loginLocation_inj : g.loginLocation requested = g.loginLocation other ↔
    requested = other := by
  rw [loginLocation, loginLocation, ← String.toList_inj]
  simp only [String.toList_append, List.append_cancel_left_eq, String.toList_inj,
    Percent.component_inj]

/-- The location that a visitor is sent to is the login path and a query whose one value is made of
unreserved characters and escapes. The value decodes to the path that was asked for, and a store that
works keeps the same path. So no two paths share a location. -/
theorem location_carries_path (g : Guard) (shut : g.isPublic requested = false) (now : UInt64)
    (s : RedirectStore) :
    let sent := fun path now s => g.decide .unauthenticated path now s
    (∃ text : String,
      (sent requested now s).1 = .redirectToLogin (g.loginPath ++ "?redirect=" ++ text) ∧
      Percent.Escaped text.toList ∧ (∀ c ∈ queryMarks, c ∉ text.toList) ∧
      Percent.decode text.toList = some requested.toList) ∧
    (s.Works → (sent requested now s).2.intent? = some ⟨requested, now⟩) ∧
    ∀ other now' s', g.isPublic other = false →
      (sent other now' s').1 = (sent requested now s).1 → other = requested := by
  intro sent
  have turned (path : String) (shut : g.isPublic path = false) (now : UInt64) (s : RedirectStore) :
      sent path now s = (.redirectToLogin (g.loginLocation path), (s.save ⟨path, now⟩).2) :=
    decide_of_denies (v := ⟨.unauthenticated, path, now⟩) ⟨shut, rfl⟩
  have escaped := Percent.escaped_component requested
  refine ⟨⟨Percent.component requested, ?_, escaped, not_mem_of_mark escaped,
    Percent.decode_component requested⟩, fun works => ?_, fun other now' s' shut' same => ?_⟩
  · rw [turned requested shut]
    rfl
  · rw [turned requested shut]
    exact (works.save _).2.2
  · rw [turned requested shut, turned other shut', Decision.redirectToLogin.injEq] at same
    exact loginLocation_inj.mp same

def marked : String := "/é?a=%26&b=1 2#c"

theorem marked_path_carried :
    tenMinutes.isPublic marked = false ∧
      tenMinutes.loginLocation marked =
        "/login?redirect=%2F%C3%A9%3Fa%3D%2526%26b%3D1%202%23c" ∧
      (∃ text : String, (tenMinutes.decide .unauthenticated marked 7 (.file .absent)).1 =
          .redirectToLogin ("/login" ++ "?redirect=" ++ text) ∧
        Percent.decode text.toList = some marked.toList) ∧
      (tenMinutes.decide .unauthenticated marked 7 (.file .absent)).2.intent? = some ⟨marked, 7⟩ ∧
      (tenMinutes.decide .unauthenticated "/é" 7 (.memory none)).1 ≠
        (tenMinutes.decide .unauthenticated marked 7 (.file .absent)).1 := by
  have shut : tenMinutes.isPublic marked = false := by decide +kernel
  have works : (RedirectStore.file .absent).Works := id
  obtain ⟨⟨text, sent, -, -, read⟩, kept, apart⟩ :=
    location_carries_path tenMinutes shut 7 (.file .absent)
  refine ⟨shut, by decide +kernel, ⟨text, sent, read⟩, kept works, fun same => ?_⟩
  have equal := apart "/é" 7 (.memory none) (by decide +kernel) same
  exact absurd equal (by decide)

end ConsoleSession.Guard
