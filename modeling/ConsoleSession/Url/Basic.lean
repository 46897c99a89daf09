import ConsoleSession.Url.Host

/-!
URLs in parts, and their normal form. The path of a URL without an authority may be a single text
that no segment can be joined to.
-/

namespace ConsoleSession

namespace Url

structure Authority where
  username : List Char
  password : List Char
  host : Host
  port : Option Nat
  deriving DecidableEq, Repr

inductive Path
  | whole (text : List Char)
  | segments (items : List (List Char))
  deriving DecidableEq, Repr

def Path.chars : Path → List Char
  | .whole t => t
  | .segments items => items.flatMap ('/' :: ·)

def Authority.chars (a : Authority) : List Char :=
  let password := if a.password.isEmpty then [] else ':' :: a.password
  let userinfo := a.username ++ password
  (if userinfo.isEmpty then [] else userinfo ++ ['@']) ++ a.host.chars ++
    match a.port with
    | none => []
    | some p => ':' :: decimal p

end Url

structure Url where
  scheme : List Char
  authority : Option Url.Authority
  path : Url.Path
  query : Option (List Char)
  fragment : Option (List Char)
  deriving DecidableEq, Repr

namespace Url

def hasHost (u : Url) : Bool :=
  match u.authority with
  | none => false
  | some a => a.host != .domain []

def chars (u : Url) : List Char :=
  let head :=
    match u.authority, u.path with
    | some a, _ => '/' :: '/' :: a.chars
    | none, .segments ([] :: _ :: _) => ['/', '.']
    | none, _ => []
  u.scheme ++ ':' :: head ++ u.path.chars ++ (u.query.elim [] ('?' :: ·)) ++
    (u.fragment.elim [] ('#' :: ·))

def text (u : Url) : String := String.ofList u.chars

def anonymous (u : Url) : Url :=
  { u with authority := u.authority.map fun a => { a with username := [], password := [] } }

end Url

end ConsoleSession
