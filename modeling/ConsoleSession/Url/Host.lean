import ConsoleSession.Text.Percent
import ConsoleSession.Url.Naming

/-!
Hosts of URLs: names, and addresses of both kinds. A name is written in ASCII before anything is
looked for in it. Then, if its last label is a number, it must be an address of four octets.
-/

namespace ConsoleSession.Url

inductive Host
  | domain (name : List Char)
  | ipv4 (address : Nat)
  | ipv6 (pieces : List Nat)
  deriving DecidableEq, Repr

inductive ParseError
  | relativeWithoutBase
  | emptyHost
  | invalidPort
  | invalidIpv4
  | invalidIpv6
  | invalidName
  | invalidDomainCharacter
  deriving DecidableEq, Repr

def ParseError.message : ParseError → String
  | .relativeWithoutBase => "relative URL without a base"
  | .emptyHost => "empty host"
  | .invalidPort => "invalid port number"
  | .invalidIpv4 => "invalid IPv4 address"
  | .invalidIpv6 => "invalid IPv6 address"
  | .invalidName => "invalid international domain name"
  | .invalidDomainCharacter => "invalid domain character"

def isDigit (c : Char) : Bool := c.isDigit

def isControl (c : Char) : Bool := c.toNat < 0x20 || c.toNat == 0x7F

def escapeWith (p : Char → Bool) (cs : List Char) : List Char :=
  cs.flatMap fun c =>
    if p c || isControl c || 0x80 ≤ c.toNat then
      (String.utf8EncodeChar c).flatMap Percent.octet
    else [c]

def numberIn (base : Nat) (digit? : Char → Option Nat) : List Char → Option Nat
  | cs => cs.foldl (fun acc c => do
      let n ← acc
      let d ← digit? c
      return n * base + d) (some 0)

def digitBelow (base : Nat) (c : Char) : Option Nat :=
  (Percent.digitValue? c).filter (· < base)

def labelNumber? : List Char → Option Nat
  | [] => none
  | '0' :: 'x' :: rest => numberIn 16 (digitBelow 16) rest
  | '0' :: 'X' :: rest => numberIn 16 (digitBelow 16) rest
  | '0' :: c :: rest => numberIn 8 (digitBelow 8) (c :: rest)
  | cs => numberIn 10 (digitBelow 10) cs

def labels (name : List Char) : List (List Char) :=
  let ls := name.splitOn '.'
  if ls.getLast? = some [] then ls.dropLast else ls

def endsInNumber (name : List Char) : Bool :=
  match (labels name).getLast? with
  | none => false
  | some last => (!last.isEmpty && last.all isDigit) || (labelNumber? last).isSome

def ofLabels (name : List Char) : Except ParseError Host :=
  let ls := labels name
  if 4 < ls.length then .error .invalidIpv4
  else
    match ls.mapM labelNumber? with
    | none => .error .invalidIpv4
    | some ns =>
      let last := ns.getLastD 0
      let front := ns.dropLast
      if Nat.pow 256 (4 - front.length) ≤ last ∨ front.any (255 < ·) then .error .invalidIpv4
      else .ok (.ipv4 (front.zipIdx.foldl (fun a (n, i) => a + n * Nat.pow 256 (3 - i)) last))

structure Pieces where
  before : List Nat := []
  after : Option (List Nat) := none

namespace Pieces

def count (p : Pieces) : Nat :=
  p.before.length + match p.after with | none => 0 | some ps => ps.length + 1

def push (p : Pieces) (n : Nat) : Pieces :=
  match p.after with
  | none => { p with before := p.before ++ [n] }
  | some ps => { p with after := some (ps ++ [n]) }

def close (p : Pieces) : Option (List Nat) :=
  match p.after with
  | none => if p.before.length = 8 then some p.before else none
  | some ps =>
    if p.count ≤ 8 then some (p.before ++ List.replicate (8 - p.before.length - ps.length) 0 ++ ps)
    else none

end Pieces

def octet? (cs : List Char) : Option Nat :=
  if cs.isEmpty || !cs.all isDigit || (1 < cs.length && cs.head? == some '0') then none
  else (numberIn 10 (digitBelow 10) cs).filter (· ≤ 255)

def embedded (cs : List Char) : Option (Nat × Nat) :=
  match (cs.splitOn '.').mapM octet? with
  | some [a, b, c, d] => some (a * 256 + b, c * 256 + d)
  | _ => none

def piecesFrom : Nat → Pieces → List Char → Option Pieces
  | _, p, [] => some p
  | 0, _, _ :: _ => none
  | fuel + 1, p, c :: rest =>
    if p.count = 8 then none
    else if c = ':' then
      if p.after.isSome then none else piecesFrom fuel { p with after := some [] } rest
    else
      let digits := ((c :: rest).take 4).takeWhile fun d => (Percent.digitValue? d).isSome
      let left := (c :: rest).drop digits.length
      match left with
      | '.' :: _ =>
        if digits.isEmpty ∨ 6 < p.count then none
        else (embedded (c :: rest)).map fun (h, l) => (p.push h).push l
      | ':' :: [] => none
      | ':' :: more =>
        (numberIn 16 (digitBelow 16) digits).bind fun n => piecesFrom fuel (p.push n) more
      | [] => (numberIn 16 (digitBelow 16) digits).map p.push
      | _ :: _ => none

def ofPieces (cs : List Char) : Except ParseError Host :=
  let start : Option (Pieces × List Char) :=
    match cs with
    | [] => none
    | [_] => none
    | ':' :: ':' :: rest => some ({ after := some [] }, rest)
    | ':' :: _ => none
    | _ => some ({}, cs)
  match start.bind (fun (p, rest) => piecesFrom rest.length p rest) |>.bind Pieces.close with
  | some ps => .ok (.ipv6 ps)
  | none => .error .invalidIpv6

def isForbiddenHost (c : Char) : Bool :=
  c == '\x00' || c == '\t' || c == '\n' || c == '\r' ||
    " #/:<>?@[\\]^|".toList.contains c

def isForbiddenName (c : Char) : Bool :=
  isForbiddenHost c || isControl c || c == '%' || c == Utf8.replacement

def bracketed (cs : List Char) : Except ParseError Host :=
  if cs.getLast? = some ']' then ofPieces (cs.drop 1).dropLast else .error .invalidIpv6

def Host.ofName (name : List Char) : Except ParseError Host :=
  if name.any isForbiddenName then .error .invalidName
  else if name.isEmpty then .error .emptyHost
  else if endsInNumber name then ofLabels name
  else .ok (.domain name)

/-- The host of a scheme that the rules know. -/
def Host.ofSpecial (naming : Naming) (cs : List Char) : Except ParseError Host :=
  if cs.head? = some '[' then bracketed cs
  else
    match naming.toAscii? (Utf8.repair (Percent.decodeOctets cs)) with
    | none => .error .invalidName
    | some name => ofName name

theorem Host.ofSpecial_of_isPlainName {naming : Naming} {cs name : List Char}
    (hopen : cs.head? ≠ some '[') (hread : Utf8.repair (Percent.decodeOctets cs) = name)
    (hplain : isPlainName name = true) :
    ofSpecial naming cs = ofName (name.map Char.toLower) := by
  rw [ofSpecial, if_neg hopen, hread, naming.plain name hplain]

def Host.ofOpaque (cs : List Char) : Except ParseError Host :=
  if cs.head? = some '[' then bracketed cs
  else if cs.any isForbiddenHost then .error .invalidDomainCharacter
  else .ok (.domain (escapeWith (fun _ => false) cs))

def decimal (n : Nat) : List Char := Nat.toDigits 10 n

def longestZeros : Nat → Nat → (Nat × Nat) → List Nat → Nat × Nat
  | _, _, best, [] => best
  | i, run, best, p :: ps =>
    if p = 0 then
      let run := run + 1
      longestZeros (i + 1) run (if best.2 < run then (i + 1 - run, run) else best) ps
    else longestZeros (i + 1) 0 best ps

def hexPieces (ps : List Nat) : List Char :=
  List.intercalate [':'] (ps.map (Nat.toDigits 16))

def Host.chars : Host → List Char
  | .domain name => name
  | .ipv4 a =>
    let octets := [a / 0x1000000, a / 0x10000 % 0x100, a / 0x100 % 0x100, a % 0x100]
    List.intercalate ['.'] (octets.map decimal)
  | .ipv6 ps =>
    let (start, run) := longestZeros 0 0 (0, 0) ps
    if run < 2 then '[' :: hexPieces ps ++ [']']
    else
      '[' :: hexPieces (ps.take start) ++ [':', ':'] ++ hexPieces (ps.drop (start + run)) ++ [']']

end ConsoleSession.Url
