import ConsoleSession.Redirect.Store
import ConsoleSession.Text.Percent
import ConsoleSession.User

/-!
Guarding navigations. Visitors without a session are sent to the login page and their destination
is remembered; once they come back it is taken out of the store and replayed. Paths under a public
prefix, compared by whole segments, and the login page itself need no session.
-/

namespace ConsoleSession

inductive Navigation
  | navigate (target : String) (replace : Bool)
  | assign (url : String)
  deriving DecidableEq, Repr

inductive Decision
  | placeholder
  | render
  | resume (path : String)
  | redirectToLogin (location : String)
  deriving DecidableEq, Repr

def Decision.navigation : Decision → Option Navigation
  | .resume path => some (.navigate path true)
  | .redirectToLogin location => some (.navigate location false)
  | _ => none

structure Guard where
  loginPath : String
  publicPaths : List String
  ttl : Option UInt64
  deriving DecidableEq, Repr

namespace Guard

def pathPart (requested : String) : List Char :=
  requested.toList.takeWhile fun c => c != '?' && c != '#'

def dropPrefix? : List Char → List Char → Option (List Char)
  | [], cs => some cs
  | _ :: _, [] => none
  | p :: ps, c :: cs => if p = c then dropPrefix? ps cs else none

def isUnder (path pre : List Char) : Bool :=
  let pre := Text.trimEnd (· == '/') pre
  pre.isEmpty ||
    match dropPrefix? pre path with
    | none => false
    | some [] => true
    | some (c :: _) => c == '/'

def isPublic (g : Guard) (requested : String) : Bool :=
  let path := pathPart requested
  path == g.loginPath.toList || g.publicPaths.any fun p => isUnder path p.toList

def loginLocation (g : Guard) (requested : String) : String :=
  g.loginPath ++ "?redirect=" ++ Percent.component requested

/-- Saves or takes the intent along the way; a store that fails counts as empty. -/
def decide (g : Guard) (auth : AuthState) (requested : String) (now : UInt64)
    (store : RedirectStore) : Decision × RedirectStore :=
  if g.isPublic requested then (.render, store)
  else
    match auth with
    | .loading _ => (.placeholder, store)
    | .authenticated _ =>
      match store.take g.ttl now with
      | (.ok (some path), store) =>
        (if path = requested then .render else .resume path, store)
      | (_, store) => (.render, store)
    | .unauthenticated =>
      (.redirectToLogin (g.loginLocation requested), (store.save ⟨requested, now⟩).2)

end Guard

end ConsoleSession
