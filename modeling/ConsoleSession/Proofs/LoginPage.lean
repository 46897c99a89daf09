import ConsoleSession.Config
import ConsoleSession.Proofs.Resuming
import ConsoleSession.Proofs.Spans
import Mathlib.Logic.Function.Iterate

/-!
# Where a visitor who is turned away comes to rest

The location of the login page appends a query to the login path, and a guard cuts the query off
before it looks for the page. What is left is the login path up to its own first mark. So the page
is recognized if the login path has no mark, and otherwise only a public prefix can end the round:
without one the visitor is turned away from the login page as well, again and again, and the store
forgets where they wanted to go.
-/

namespace ConsoleSession.Guard

variable {g : Guard} {path requested : String}

/-- The page is shown to everybody, and no visit to it bears on the store. -/
def Rests (g : Guard) (path : String) : Prop :=
  ∀ auth now s, g.decide auth path now s = (.render, s)

def Plain (path : String) : Prop := '?' ∉ path.toList ∧ '#' ∉ path.toList

theorem rests_iff : g.Rests path ↔ g.isPublic path = true := by
  constructor
  · intro rests
    by_contra shut
    have denies : g.Denies ⟨.unauthenticated, path, 0⟩ := ⟨Bool.eq_false_iff.mpr shut, rfl⟩
    have turned := (decide_of_denies (s := .memory none) denies).symm.trans (rests _ _ _)
    exact nomatch congrArg Prod.fst turned
  · intro shown auth now s
    unfold Guard.decide
    rw [if_pos shown]

theorem pathPart_eq_iff : pathPart path = path.toList ↔ Plain path := by
  rw [pathPart, List.takeWhile_eq_self_iff, Plain]
  constructor
  · exact fun h => ⟨fun hm => by simpa using h _ hm, fun hm => by simpa using h _ hm⟩
  · intro plain c hc
    have query : c ≠ '?' := fun h => plain.1 (h ▸ hc)
    have fragment : c ≠ '#' := fun h => plain.2 (h ▸ hc)
    simp [query, fragment]

theorem pathPart_loginLocation (g : Guard) (requested : String) :
    pathPart (g.loginLocation requested) = pathPart g.loginPath := by
  have spelled : (g.loginLocation requested).toList =
      g.loginPath.toList ++ '?' :: ("redirect=".toList ++ (Percent.component requested).toList) := by
    rw [loginLocation, String.toList_append, String.toList_append, List.append_assoc]
    rfl
  rw [pathPart, spelled, Text.takeWhile_append_stop rfl, pathPart]

theorem isPublic_loginLocation (g : Guard) (requested : String) :
    g.isPublic (g.loginLocation requested) = g.isPublic g.loginPath := by
  rw [isPublic, isPublic, pathPart_loginLocation]

theorem isPublic_loginPath_iff : g.isPublic g.loginPath = true ↔
    Plain g.loginPath ∨ ∃ p ∈ g.publicPaths, isUnder (pathPart g.loginPath) p.toList = true := by
  rw [isPublic, Bool.or_eq_true, beq_iff_eq, pathPart_eq_iff, List.any_eq_true]

/-- A visitor who is turned away comes to rest at the login page exactly if its path has no mark or
a public prefix covers what stands before the mark. Otherwise each redirect they follow only turns
them away again, and each takes the place of the destination that was kept. -/
theorem login_rests_iff (g : Guard) (shut : g.isPublic requested = false) :
    (∀ now s, g.decide .unauthenticated requested now s =
      (.redirectToLogin (g.loginLocation requested), (s.save ⟨requested, now⟩).2)) ∧
    (g.Rests (g.loginLocation requested) ↔
      Plain g.loginPath ∨ ∃ p ∈ g.publicPaths, isUnder (pathPart g.loginPath) p.toList = true) ∧
    (¬ g.Rests (g.loginLocation requested) → ∀ n now s,
      let location := g.loginLocation^[n] requested
      g.decide .unauthenticated location now s =
        (.redirectToLogin (g.loginLocation location), (s.save ⟨location, now⟩).2)) := by
  refine ⟨fun now s => decide_of_denies (v := ⟨_, requested, now⟩) ⟨shut, rfl⟩, ?_, ?_⟩
  · rw [rests_iff, isPublic_loginLocation, isPublic_loginPath_iff]
  · intro restless n now s location
    rw [rests_iff, isPublic_loginLocation, Bool.not_eq_true] at restless
    refine decide_of_denies (v := ⟨_, location, now⟩) ⟨?_, rfl⟩
    cases n with
    | zero => exact shut
    | succ n =>
      show g.isPublic (g.loginLocation^[n + 1] requested) = false
      rw [Function.iterate_succ_apply', isPublic_loginLocation, restless]

def loginAt (path : String) : Environment := fun name =>
  if name = Config.Variable.loginPath.name then some (path.toList.flatMap String.utf8EncodeChar)
  else none

/-- A login path with a query is accepted, and nobody comes to rest there. -/
theorem accepted_login_path_loops :
    ∃ c, (Config.ofEnvironment (loginAt "/login?x=1")).toOption = some c ∧
      c.guard.isPublic "/a" = false ∧ ¬ c.guard.Rests (c.guard.loginLocation "/a") ∧
      ∀ n, let location := c.guard.loginLocation^[n] "/a"
        c.guard.decide .unauthenticated location 0 (.memory none) =
          (.redirectToLogin (c.guard.loginLocation location), .memory (some ⟨location, 0⟩)) := by
  have shut : (Config.guard { loginPath := "/login?x=1" }).isPublic "/a" = false := by decide
  obtain ⟨-, rests, loops⟩ := login_rests_iff _ shut
  have restless := mt rests.mp (by simp [Plain, Config.guard])
  exact ⟨_, by decide +kernel, shut, restless, fun n => loops restless n 0 (.memory none)⟩

end ConsoleSession.Guard
