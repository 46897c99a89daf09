import ConsoleSession.Http.Message
import ConsoleSession.Url.Parser

/-!
Requests on the wire. A call becomes a request only if its URL has a host and a scheme that is
spoken and is not too long, and its token can stand in a header line.
-/

namespace ConsoleSession

structure Request where
  method : Method
  url : Url
  authorization : Option String
  contentType : Option String
  body : String
  deriving Repr

namespace Request

def fitsHeader (value : String) : Bool :=
  value.toList.all fun c => c == '\t' || !Url.isControl c

def isSpoken (u : Url) : Bool :=
  u.scheme == "http".toList || u.scheme == "https".toList

/-- What may stand in the host's name of a request: quotes and braces may not, though URLs allow
them. -/
def isRequestHost (c : Char) : Bool :=
  c.isAlphanum || "!$&'()*+,-.;=_~".toList.contains c

def longest : Nat := 65534

def fitsRequest (u : Url) : Bool :=
  u.text.utf8ByteSize ≤ longest &&
    match u.authority with
    | some { host := .domain name, .. } => name.all isRequestHost
    | _ => true

def refusal (u : Url) : String := "builder error for url (" ++ u.text ++ ")"

def build (a : Attempt) : Except String Request :=
  match Url.parse .standard a.url with
  | .error _ => .error "builder error"
  | .ok u =>
    if ¬ u.hasHost then .error (refusal u)
    else if ¬ a.bearer.all fitsHeader then .error "builder error"
    else if ¬ (isSpoken u ∧ fitsRequest u.anonymous) then .error (refusal u.anonymous)
    else .ok {
      method := a.method
      url := u.anonymous
      authorization := a.bearer.map ("Bearer " ++ ·)
      contentType := a.body.map fun _ => "application/json"
      body := (a.body.map Json.render).getD "" }

def unsent (r : Request) : String :=
  "error sending request for url (" ++ r.url.text ++ ")"

end Request

end ConsoleSession
