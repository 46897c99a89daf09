import ConsoleSession.Config

/-!
The cookies of one console. A cookie replaces the one of the same name and path, is sent to paths
at and below its own, and goes once its time is over.
-/

namespace ConsoleSession

structure Cookie where
  name : String
  value : String
  path : List Char
  secure : Bool
  expires : Option Nat
  deriving DecidableEq, Repr

abbrev CookieJar := List Cookie

namespace Cookie

def defaultPath (path : List Char) : List Char :=
  match (path.reverse.dropWhile (· != '/')).drop 1 with
  | [] => ['/']
  | cs => cs.reverse

def pathMatches (cookie request : List Char) : Bool :=
  match Guard.dropPrefix? cookie request with
  | none => false
  | some [] => true
  | some (c :: _) => c == '/' || cookie.getLast? == some '/'

def splitPair (cs : List Char) : List Char × Option (List Char) :=
  match cs.span (· != '=') with
  | (name, _ :: value) => (Text.trimBlank name, some (Text.trimBlank value))
  | (name, []) => (Text.trimBlank name, none)

def domainMatches (host domain : List Char) : Bool :=
  let domain := (if domain.head? = some '.' then domain.drop 1 else domain).map Char.toLower
  host == domain ||
    match Guard.dropPrefix? domain.reverse host.reverse with
    | some ('.' :: _) => true
    | _ => false

structure Attributes where
  path : Option (List Char) := none
  secure : Bool := false
  maxAge : Option Int := none
  foreign : Bool := false

def readAge (cs : List Char) : Option Int :=
  match cs with
  | '-' :: ds => (Config.readDigits ds).map fun n => -(n.toNat : Int)
  | ds => (Config.readDigits ds).map fun n => (n.toNat : Int)

def addAttribute (host : List Char) (a : Attributes) (cs : List Char) : Attributes :=
  let (name, value) := splitPair cs
  let value := value.getD []
  let name := String.ofList (name.map Char.toLower)
  if name = "path" then
    if value.head? = some '/' then { a with path := some value } else { a with path := none }
  else if name = "secure" then { a with secure := true }
  else if name = "max-age" then { a with maxAge := readAge value <|> a.maxAge }
  else if name = "domain" then
    if value.isEmpty then a else { a with foreign := !domainMatches host value }
  else a

def read (host path : List Char) (now : Nat) (line : String) : Option Cookie :=
  match line.toList.splitOn ';' with
  | [] => none
  | pair :: rest =>
    let (name, value) := splitPair pair
    let a := rest.foldl (addAttribute host) {}
    match value with
    | none => none
    | some value =>
      if name.isEmpty ∨ a.foreign then none
      else some {
        name := String.ofList name
        value := String.ofList value
        path := a.path.getD (defaultPath path)
        secure := a.secure
        expires := a.maxAge.map fun n => ((now : Int) + n).toNat }

def isAlive (c : Cookie) (now : Nat) : Bool :=
  c.expires.all (now < ·)

end Cookie

namespace CookieJar

def put (jar : CookieJar) (c : Cookie) (now : Nat) : CookieJar :=
  let jar := jar.filter fun d => !(d.name == c.name && d.path == c.path)
  if c.isAlive now then jar ++ [c] else jar

def after (jar : CookieJar) (u : Url) (now : Nat) (lines : List String) : CookieJar :=
  let host := u.authority.elim [] fun a => a.host.chars
  (lines.filterMap (Cookie.read host u.path.chars now)).foldl (fun jar c => jar.put c now) jar

def lines (jar : CookieJar) (u : Url) (now : Nat) : List String :=
  let encrypted := u.scheme == "https".toList
  let sent := jar.filter fun c =>
    c.isAlive now && (encrypted || !c.secure) && Cookie.pathMatches c.path u.path.chars
  (sent.map fun c => c.name ++ "=" ++ c.value).mergeSort (· ≤ ·)

end CookieJar

end ConsoleSession
