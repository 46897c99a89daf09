import ConsoleSession.Text.Utf8

/-!
The URL-safe base-64 alphabet without padding. Six bits a symbol, four symbols for three octets;
the bits that the last symbol has left over must be zero, so every run of octets has one spelling.
-/

namespace ConsoleSession.Base64Url

open ConsoleSession (Utf8.Octets)

inductive Fault
  | symbol (octet : UInt8) (offset : Nat)
  | lastSymbol (octet : UInt8) (offset : Nat)
  | length (n : Nat)
  deriving DecidableEq, Repr

def Fault.message : Fault → String
  | .symbol b i => s!"Invalid symbol {b.toNat}, offset {i}."
  | .lastSymbol b i => s!"Invalid last symbol {b.toNat}, offset {i}."
  | .length n => s!"Invalid input length: {n}"

def symbol (v : Nat) : UInt8 :=
  if v < 26 then UInt8.ofNat (0x41 + v)
  else if v < 52 then UInt8.ofNat (0x61 + (v - 26))
  else if v < 62 then UInt8.ofNat (0x30 + (v - 52))
  else if v = 62 then 0x2D else 0x5F

def value? (b : UInt8) : Option Nat :=
  let n := b.toNat
  if 0x41 ≤ n ∧ n ≤ 0x5A then some (n - 0x41)
  else if 0x61 ≤ n ∧ n ≤ 0x7A then some (n - 0x61 + 26)
  else if 0x30 ≤ n ∧ n ≤ 0x39 then some (n - 0x30 + 52)
  else if n = 0x2D then some 62
  else if n = 0x5F then some 63
  else none

def groups : Utf8.Octets → List Nat
  | a :: b :: c :: rest =>
    a.toNat / 4 :: (a.toNat % 4 * 16 + b.toNat / 16) :: (b.toNat % 16 * 4 + c.toNat / 64) ::
      c.toNat % 64 :: groups rest
  | [a, b] => [a.toNat / 4, a.toNat % 4 * 16 + b.toNat / 16, b.toNat % 16 * 4]
  | [a] => [a.toNat / 4, a.toNat % 4 * 16]
  | [] => []

def encode (bs : Utf8.Octets) : Utf8.Octets :=
  (groups bs).map symbol

def ungroup : List Nat → Option Utf8.Octets
  | p :: q :: r :: s :: rest =>
    (ungroup rest).map fun t =>
      UInt8.ofNat (p * 4 + q / 16) :: UInt8.ofNat (q % 16 * 16 + r / 4) ::
        UInt8.ofNat (r % 4 * 64 + s) :: t
  | [p, q, r] =>
    if r % 4 = 0 then some [UInt8.ofNat (p * 4 + q / 16), UInt8.ofNat (q % 16 * 16 + r / 4)]
    else none
  | [p, q] => if q % 16 = 0 then some [UInt8.ofNat (p * 4 + q / 16)] else none
  | [_] => none
  | [] => some []

def values : Nat → Utf8.Octets → Except Fault (List Nat)
  | _, [] => .ok []
  | i, b :: rest =>
    match value? b with
    | none => .error (.symbol b i)
    | some v => (values (i + 1) rest).map (v :: ·)

/-- A last octet outside the alphabet is reported first where one symbol stands alone. -/
def decode (bs : Utf8.Octets) : Except Fault Utf8.Octets :=
  let n := bs.length
  let last := bs.getLastD 0
  if n % 4 = 1 ∧ value? last = none then .error (.symbol last (n - 1))
  else
    match values 0 bs with
    | .error e => .error e
    | .ok vs =>
      if n % 4 = 1 then .error (.length n)
      else
        match ungroup vs with
        | some out => .ok out
        | none => .error (.lastSymbol last (n - 1))

end ConsoleSession.Base64Url
