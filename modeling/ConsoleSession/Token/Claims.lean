import ConsoleSession.Json.Printer
import ConsoleSession.Json.Record

/-!
The payload of an access token: who it speaks for and until when. `Claims.parse` reads the payload's
JSON and `Claims.json` writes it. Identifiers written as integers are kept as decimal text.
-/

namespace ConsoleSession

open Json (Reader)

structure Subject where
  id : String
  identifier : Option String := none
  displayName : Option String := none
  firstName : Option String := none
  lastName : Option String := none
  email : Option String := none
  expiry : Option UInt64 := none
  deriving DecidableEq, Repr

structure Claims where
  subject : Subject
  expiry : Option UInt64 := none
  deriving DecidableEq, Repr

namespace Claims

def expiresAt (c : Claims) : Option UInt64 :=
  c.expiry <|> c.subject.expiry

/-- A token still holds in the second of its expiry; one without expiry never does. -/
def isExpired (c : Claims) (now : UInt64) : Bool :=
  match c.expiresAt with
  | none => true
  | some e => e < now

end Claims

namespace Subject

structure Draft where
  id : Option String := none
  identifier : Option (Option String) := none
  displayName : Option (Option String) := none
  firstName : Option (Option String) := none
  lastName : Option (Option String) := none
  email : Option (Option String) := none
  expiry : Option (Option UInt64) := none

def readId (depth : Nat) : Reader String := fun input => do
  let (v, rest) ← Reader.value depth input
  match v with
  | .text s => .ok (s, rest)
  | .number (.integer i) =>
    if i < Reader.bound63 then .ok (toString i, rest) else .error (.noVariant "Id")
  | _ => .error (.noVariant "Id")

def textField (name : String) (get : Draft → Option (Option String))
    (set : Draft → Option String → Draft) : Json.Field Draft where
  name := name
  alias? := none
  required := false
  filled d := (get d).isSome
  read _ d input := (Reader.optional Reader.wantText input).map fun (s, rest) => (set d s, rest)

def fields : List (Json.Field Draft) :=
  [{ name := "id", alias? := none, required := true
     filled := fun d => d.id.isSome
     read := fun depth d input =>
       (readId depth input).map fun (s, rest) => ({ d with id := some s }, rest) },
   textField "identifier" (·.identifier) fun d s => { d with identifier := some s },
   textField "display_name" (·.displayName) fun d s => { d with displayName := some s },
   textField "first_name" (·.firstName) fun d s => { d with firstName := some s },
   textField "last_name" (·.lastName) fun d s => { d with lastName := some s },
   textField "email" (·.email) fun d s => { d with email := some s },
   { name := "exp", alias? := none, required := false
     filled := fun d => d.expiry.isSome
     read := fun _ d input =>
       (Reader.optional Reader.wantNatural input).map fun (n, rest) =>
         ({ d with expiry := some n }, rest) }]

def build (d : Draft) : Except Json.Fault Subject :=
  match d.id with
  | none => .error (.missing "id")
  | some id =>
    .ok ⟨id, d.identifier.join, d.displayName.join, d.firstName.join, d.lastName.join,
      d.email.join, d.expiry.join⟩

def shape : Json.Shape Draft Subject :=
  ⟨"Subject", fields, {}, build⟩

end Subject

namespace Claims

structure Draft where
  subject : Option Subject := none
  expiry : Option (Option UInt64) := none

def fields : List (Json.Field Draft) :=
  [{ name := "pld", alias? := some "user", required := true
     filled := fun d => d.subject.isSome
     read := fun depth d input =>
       (Subject.shape.read depth input).map fun (s, rest) => ({ d with subject := some s }, rest) },
   { name := "exp", alias? := none, required := false
     filled := fun d => d.expiry.isSome
     read := fun _ d input =>
       (Reader.optional Reader.wantNatural input).map fun (n, rest) =>
         ({ d with expiry := some n }, rest) }]

def build (d : Draft) : Except Json.Fault Claims :=
  match d.subject with
  | none => .error (.missing "pld")
  | some s => .ok ⟨s, d.expiry.join⟩

def shape : Json.Shape Draft Claims :=
  ⟨"TokenClaims", fields, {}, build⟩

def parse (payload : Utf8.Octets) : Except Json.Fault Claims :=
  shape.parse payload

end Claims

def textMember (name : String) : Option String → List (String × Json)
  | none => []
  | some s => [(name, .text s)]

def naturalMember (name : String) : Option UInt64 → List (String × Json)
  | none => []
  | some n => [(name, .number (.integer n.toNat))]

def Subject.json (s : Subject) : Json :=
  .object (("id", .text s.id) :: textMember "identifier" s.identifier ++
    textMember "display_name" s.displayName ++ textMember "first_name" s.firstName ++
    textMember "last_name" s.lastName ++ textMember "email" s.email ++
    naturalMember "exp" s.expiry)

def Claims.json (c : Claims) : Json :=
  .object (("pld", c.subject.json) :: naturalMember "exp" c.expiry)

end ConsoleSession
