import ConsoleSession.Text.Utf8

/-!
Percent-encoding of one component of a URL. Letters, digits and `-_.~` stand for themselves; every
other octet of the text is written as `%` and two upper-case hexadecimal digits. `decode` reads
both cases of digits and leaves a `%` alone that no two digits follow.
-/

namespace ConsoleSession.Percent

open ConsoleSession (Utf8.Octets)

def isUnreserved (c : Char) : Bool :=
  c.isAlphanum || c == '-' || c == '_' || c == '.' || c == '~'

def digit (n : Nat) : Char :=
  if n < 10 then Char.ofNat (0x30 + n) else Char.ofNat (0x37 + n)

def digitValue? (c : Char) : Option Nat :=
  let n := c.toNat
  if 0x30 ≤ n ∧ n ≤ 0x39 then some (n - 0x30)
  else if 0x41 ≤ n ∧ n ≤ 0x46 then some (n - 0x37)
  else if 0x61 ≤ n ∧ n ≤ 0x66 then some (n - 0x57)
  else none

def octet (b : UInt8) : List Char :=
  ['%', digit (b.toNat / 16), digit (b.toNat % 16)]

def encodeChar (c : Char) : List Char :=
  if isUnreserved c then [c] else (String.utf8EncodeChar c).flatMap octet

def encode (cs : List Char) : List Char :=
  cs.flatMap encodeChar

def decodeOctets : List Char → Utf8.Octets
  | [] => []
  | '%' :: h :: l :: rest =>
    match digitValue? h, digitValue? l with
    | some a, some b => UInt8.ofNat (a * 16 + b) :: decodeOctets rest
    | _, _ => 0x25 :: decodeOctets (h :: l :: rest)
  | c :: rest => String.utf8EncodeChar c ++ decodeOctets rest

def decode (cs : List Char) : Option (List Char) :=
  Utf8.decode (decodeOctets cs)

def component (s : String) : String :=
  String.ofList (encode s.toList)

end ConsoleSession.Percent
