import ConsoleSession.User

/-!
The gate of a session. First it looks at the held token and says whether a refresh is due; after
that it makes the session's state of whatever token is held. A token that cannot be used is dropped
so that it is not tried again.
-/

namespace ConsoleSession.Gate

/-- Whether a refresh is due, and the store without a token that is no use. One that is only
expired stays. -/
def inspect (s : TokenStore) (now : UInt64) : Bool × TokenStore :=
  match s.decode with
  | .ok c =>
    if c.isExpired now then (true, s)
    else
      match c.subject.user with
      | .ok _ => (false, s)
      | .error _ => (true, s.clear)
  | .error .missing => (true, s)
  | .error (.malformed _) => (true, s.clear)

def project (s : TokenStore) (now : UInt64) : AuthState × TokenStore :=
  match s.userAt now with
  | .ok u => (.authenticated u, s)
  | .error .missing => (.unauthenticated, s)
  | .error (.malformed _) => (.unauthenticated, s.clear)

def adopt (s : TokenStore) (token : String) (now : UInt64) : AuthState × TokenStore :=
  let s := s.set token
  match s.userAt now with
  | .ok u => (.authenticated u, s)
  | .error _ => (.unauthenticated, s.clear)

end ConsoleSession.Gate
