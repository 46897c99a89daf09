import ConsoleSession.Endpoint
import ConsoleSession.Json.Printer
import ConsoleSession.Json.Reader

/-!
Calls to the backend as the console makes them, what can come back, and how an answer is judged:
only a status in the two hundreds is a success, and only status 401 says that the credentials were
refused.
-/

namespace ConsoleSession

inductive Method
  | get
  | post
  | patch
  | delete
  deriving DecidableEq, Repr

def Method.name : Method → String
  | .get => "GET"
  | .post => "POST"
  | .patch => "PATCH"
  | .delete => "DELETE"

inductive ApiError
  | request (why : String)
  | status (code : Nat) (body : String)
  | parse (why : String)
  deriving DecidableEq, Repr

namespace ApiError

def message : ApiError → String
  | .request why => "API request failed: " ++ why
  | .status code _ => s!"API response error: status {code}"
  | .parse why => "API response parse failed: " ++ why

def isUnauthorized : ApiError → Bool
  | .status 401 _ => true
  | _ => false

end ApiError

structure Attempt where
  method : Method
  url : String
  bearer : Option String
  body : Option Json
  deriving Repr

/-- What the HTTP client hands back of a call when it has followed all redirects: a reason why nothing
came back, or a status and a body that may break off. -/
inductive Exchange
  | failed (why : String)
  | answered (status : Nat) (body : Utf8.Octets) (whole : Bool)
  deriving DecidableEq, Repr

namespace Exchange

def isSuccess (status : Nat) : Bool := 200 ≤ status && status < 300

def bodyText (octets : Utf8.Octets) : String := String.ofList (Utf8.repair octets)

def accept : Exchange → Except ApiError (Option Utf8.Octets)
  | .failed why => .error (.request why)
  | .answered status body whole =>
    if isSuccess status then .ok (if whole then some body else none)
    else .error (.status status (if whole then bodyText body else ""))

end Exchange

def undecodable : ApiError := .parse "error decoding response body"

/-- The value of a body that is wanted as a `T`, where `read` says which octets are one. -/
def jsonBody {T : Type} (read : Utf8.Octets → Option T) (body : Option Utf8.Octets) :
    Except ApiError T :=
  match body.bind read with
  | some v => .ok v
  | none => .error undecodable

end ConsoleSession
