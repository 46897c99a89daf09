import ConsoleSession.Text.Blank
import ConsoleSession.Token.Store

/-!
The signed-in user, and what is known of the session at a moment.
-/

namespace ConsoleSession

structure User where
  id : String
  identifier : String
  email : Option String
  deriving DecidableEq, Repr

def Subject.fullName (s : Subject) : Option String :=
  match s.firstName, s.lastName with
  | none, none => none
  | first, last => some (Text.trimmed (first.getD "" ++ " " ++ last.getD ""))

def Subject.identifier? (s : Subject) : Option String :=
  s.displayName <|> s.identifier <|> s.fullName

def Subject.user (s : Subject) : Except Malformed User :=
  match s.identifier? with
  | none => .error .noIdentifier
  | some name => .ok ⟨s.id, name, s.email⟩

def Claims.userAt (c : Claims) (now : UInt64) : Except Malformed User :=
  if c.isExpired now then .error .expired else c.subject.user

def TokenStore.userAt (s : TokenStore) (now : UInt64) : Except DecodeError User :=
  match s.decode with
  | .error e => .error e
  | .ok c => (c.userAt now).mapError .malformed

def User.json (u : User) : Json :=
  .object [("id", .text u.id), ("identifier", .text u.identifier),
    ("email", match u.email with | none => .null | some e => .text e)]

/-- What is known of the session. While it is being resolved the user known so far may be shown. -/
inductive AuthState
  | loading (user : Option User)
  | authenticated (user : User)
  | unauthenticated
  deriving DecidableEq, Repr

namespace AuthState

def user? : AuthState → Option User
  | .loading u => u
  | .authenticated u => some u
  | .unauthenticated => none

def ofParts (user : Option User) (loading : Bool) : AuthState :=
  if loading then .loading user
  else
    match user with
    | some u => .authenticated u
    | none => .unauthenticated

end AuthState

end ConsoleSession
