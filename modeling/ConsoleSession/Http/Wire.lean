import ConsoleSession.Http.Cookie
import ConsoleSession.Http.Request

/-!
Requests and answers as octets of a connection that carries one exchange. The body of an answer ends
where its length or its last chunk says, or else with the connection; one that ends before that is
not whole.
-/

namespace ConsoleSession.Wire

open ConsoleSession (Utf8.Octets)

def target (u : Url) : List Char :=
  u.path.chars ++ u.query.elim [] ('?' :: ·)

def hostLine (u : Url) : List Char :=
  u.authority.elim [] fun a =>
    a.host.chars ++ a.port.elim [] fun p => ':' :: Url.decimal p

def header (name value : String) : String := name ++ ": " ++ value ++ "\r\n"

def request (r : Request) (cookies : List String) : Utf8.Octets :=
  Utf8.ofString <|
    r.method.name ++ " " ++ String.ofList (target r.url) ++ " HTTP/1.1\r\n" ++
    header "host" (String.ofList (hostLine r.url)) ++
    header "accept" "*/*" ++
    (r.authorization.elim "" (header "authorization")) ++
    (r.contentType.elim "" fun t =>
      header "content-type" t ++
      header "content-length" (toString (Utf8.ofString r.body).length)) ++
    (if cookies.isEmpty then "" else header "cookie" ("; ".intercalate cookies)) ++
    header "connection" "close" ++ "\r\n" ++ r.body

structure Answer where
  status : Nat
  headers : List (String × String)
  body : Utf8.Octets
  whole : Bool
  deriving Repr

def splitLine : Utf8.Octets → Option (Utf8.Octets × Utf8.Octets)
  | [] => none
  | [_] => none
  | 0x0D :: 0x0A :: rest => some ([], rest)
  | b :: rest => (splitLine rest).map fun (line, rest) => (b :: line, rest)

def statusOf (line : Utf8.Octets) : Option Nat :=
  match (Utf8.repair line).splitOn ' ' with
  | version :: code :: _ =>
    if version.take 5 = "HTTP/".toList then (Config.readDigits code).map (·.toNat) else none
  | _ => none

def readHeader (line : Utf8.Octets) : String × String :=
  match (Utf8.repair line).span (· != ':') with
  | (name, value) =>
    (String.ofList (name.map Char.toLower), String.ofList (Text.trimBlank (value.drop 1)))

def headersWithin : Nat → Utf8.Octets → Option (List (String × String) × Utf8.Octets)
  | 0, _ => none
  | fuel + 1, input =>
    match splitLine input with
    | none => none
    | some ([], rest) => some ([], rest)
    | some (line, rest) =>
      (headersWithin fuel rest).map fun (hs, rest) => (readHeader line :: hs, rest)

def hexNumber (cs : List Char) : Option Nat :=
  let ds := cs.takeWhile fun c => (Percent.digitValue? c).isSome
  if ds.isEmpty then none else Url.numberIn 16 (Url.digitBelow 16) ds

def chunksWithin : Nat → Utf8.Octets → Utf8.Octets × Bool
  | 0, _ => ([], false)
  | fuel + 1, input =>
    match splitLine input with
    | none => ([], false)
    | some (line, rest) =>
      match hexNumber (Utf8.repair line) with
      | none => ([], false)
      | some 0 => ([], true)
      | some n =>
        if rest.length < n then (rest, false)
        else
          let (more, whole) := chunksWithin fuel (rest.drop (n + 2))
          (rest.take n ++ more, whole)

def header? (headers : List (String × String)) (name : String) : Option String :=
  (headers.find? (·.1 == name)).map (·.2)

def bodyOf (headers : List (String × String)) (rest : Utf8.Octets) : Utf8.Octets × Bool :=
  if header? headers "transfer-encoding" = some "chunked" then chunksWithin rest.length rest
  else
    match header? headers "content-length" >>= (Config.readDigits ·.toList) with
    | some n => (rest.take n.toNat, n.toNat ≤ rest.length)
    | none => (rest, true)

def answer (input : Utf8.Octets) : Option Answer := do
  let (line, rest) ← splitLine input
  let status ← statusOf line
  let (headers, rest) ← headersWithin rest.length rest
  let (body, whole) := bodyOf headers rest
  return ⟨status, headers, body, whole⟩

def Answer.setCookie (a : Answer) : List String :=
  (a.headers.filter (·.1 == "set-cookie")).map (·.2)

end ConsoleSession.Wire
