import ConsoleSession.Http.Cookie
import ConsoleSession.Http.Request

/-!
A backend that answers requests from a list, in order, and the network before it, which may have no
route to any backend. What reaches the backend is kept.
-/

namespace ConsoleSession

inductive Delivery
  | full
  | closed
  | truncated
  deriving DecidableEq, Repr

structure Response where
  status : Nat := 200
  body : Utf8.Octets := []
  setCookie : List String := []
  delivery : Delivery := .full
  deriving DecidableEq, Repr

structure Received where
  method : Method
  url : String
  authorization : Option String
  contentType : Option String
  cookies : List String
  body : String
  deriving DecidableEq, Repr

structure Network where
  backend : Option (List Response)
  jar : CookieJar := []
  received : List Received := []
  deriving DecidableEq, Repr

namespace Network

def unreachable : Network := { backend := none }

def notFound : Response := { status := 404 }

def carriesBody (status : Nat) : Bool := status != 204 && status != 304

def Response.exchange (unsent : String) (r : Response) : Exchange :=
  match r.delivery with
  | .closed => .failed unsent
  | .full => .answered r.status (if carriesBody r.status then r.body else []) true
  | .truncated =>
    if carriesBody r.status then .answered r.status r.body false else .answered r.status [] true

def deliver (n : Network) (now : Nat) (r : Request) : Exchange × Network :=
  match n.backend with
  | none => (.failed r.unsent, n)
  | some replies =>
    let reply := replies.headD notFound
    let seen : Received := {
      method := r.method
      url := { r.url with fragment := none }.text
      authorization := r.authorization
      contentType := r.contentType
      cookies := n.jar.lines r.url now
      body := r.body }
    let jar :=
      if reply.delivery = .closed then n.jar else n.jar.after r.url now reply.setCookie
    (Response.exchange r.unsent reply,
      { backend := some (replies.drop 1), jar := jar, received := n.received ++ [seen] })

def send (n : Network) (now : Nat) (a : Attempt) : Exchange × Network :=
  match Request.build a with
  | .error why => (.failed why, n)
  | .ok r => n.deliver now r

end Network

end ConsoleSession
