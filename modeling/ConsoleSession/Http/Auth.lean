import ConsoleSession.Http.Message
import ConsoleSession.Json.Record
import ConsoleSession.Session.Refresher

/-!
The backend's own endpoints of a session. They ride on cookies and carry no token; a refresh answers
a record with the new one.
-/

namespace ConsoleSession.AuthApi

open Json (Reader)

def refresh (base : String) : Attempt :=
  ⟨.get, Endpoint.refresh base, none, none⟩

def logout (base : String) : Attempt :=
  ⟨.get, Endpoint.logout base, none, none⟩

def fields : List (Json.Field (Option String)) :=
  [{ name := "token", alias? := none, required := true
     filled := Option.isSome
     read := fun _ _ input => (Reader.wantText input).map fun (s, rest) => (some s, rest) }]

def shape : Json.Shape (Option String) String :=
  ⟨"RefreshResponse", fields, none, fun d =>
    match d with
    | some t => .ok t
    | none => .error (.missing "token")⟩

def token (body : Option Utf8.Octets) : Except ApiError String :=
  match body.map shape.parse with
  | some (.ok t) => if t.isEmpty then .error (.parse "refresh returned an empty token") else .ok t
  | _ => .error undecodable

def answer (e : Exchange) : RefreshAnswer :=
  match e.accept.bind token with
  | .ok t => .token t
  | .error why => .error why

end ConsoleSession.AuthApi
