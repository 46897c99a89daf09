import ConsoleSession.Json.Fault
import ConsoleSession.Json.Value

/-!
The smallest pieces of a JSON text: blanks, names, strings and numbers. Each reader takes the
octets from a place on and gives what it read and the octets after it, or the first fault.
-/

namespace ConsoleSession.Json

open ConsoleSession (Utf8.Octets)

abbrev Reader (α : Type) := Utf8.Octets → Except Fault (α × Utf8.Octets)

def ascii (c : Char) : UInt8 := UInt8.ofNat c.toNat

def isBlank (b : UInt8) : Bool :=
  b == ascii ' ' || b == ascii '\n' || b == ascii '\t' || b == ascii '\r'

def skipBlanks (input : Utf8.Octets) : Utf8.Octets :=
  input.dropWhile isBlank

def isDigit (b : UInt8) : Bool :=
  ascii '0' ≤ b && b ≤ ascii '9'

def digitOf (b : UInt8) : Nat :=
  b.toNat - 0x30

def word : List Char → Utf8.Octets → Except Fault Utf8.Octets
  | [], input => .ok input
  | _ :: _, [] => .error .endInValue
  | c :: cs, b :: rest => if b = ascii c then word cs rest else .error .noIdent

namespace Reader

def hexValue? (b : UInt8) : Option Nat :=
  let n := b.toNat
  if 0x30 ≤ n ∧ n ≤ 0x39 then some (n - 0x30)
  else if 0x41 ≤ n ∧ n ≤ 0x46 then some (n - 0x37)
  else if 0x61 ≤ n ∧ n ≤ 0x66 then some (n - 0x57)
  else none

def hexUnit : Reader Nat
  | a :: b :: c :: d :: rest =>
    match hexValue? a, hexValue? b, hexValue? c, hexValue? d with
    | some p, some q, some r, some s => .ok (((p * 16 + q) * 16 + r) * 16 + s, rest)
    | _, _, _, _ => .error .badEscape
  | _ => .error .endInText

def isLeading (n : Nat) : Bool := 0xD800 ≤ n && n ≤ 0xDBFF

def isTrailing (n : Nat) : Bool := 0xDC00 ≤ n && n ≤ 0xDFFF

def joinUnits (n m : Nat) : Char :=
  Char.ofNat (0x10000 + (n - 0xD800) * 0x400 + (m - 0xDC00))

def trailingUnit (n : Nat) : Reader Char
  | [] => .error .endInText
  | b :: rest =>
    if b ≠ ascii '\\' then .error .hexEscapeEnd
    else
      match rest with
      | [] => .error .endInText
      | u :: rest =>
        if u ≠ ascii 'u' then .error .hexEscapeEnd
        else do
          let (m, rest) ← hexUnit rest
          if isTrailing m then .ok (joinUnits n m, rest)
          else .error .loneSurrogate

def unitEscape : Reader Char := fun input => do
  let (n, rest) ← hexUnit input
  if isTrailing n then .error .loneSurrogate
  else if isLeading n then trailingUnit n rest
  else .ok (Char.ofNat n, rest)

def letterEscape? (b : UInt8) : Option Char :=
  if b = ascii '"' then some '"'
  else if b = ascii '\\' then some '\\'
  else if b = ascii '/' then some '/'
  else if b = ascii 'b' then some '\x08'
  else if b = ascii 'f' then some '\x0c'
  else if b = ascii 'n' then some '\n'
  else if b = ascii 'r' then some '\r'
  else if b = ascii 't' then some '\t'
  else none

def escape : Reader Char
  | [] => .error .endInText
  | b :: rest =>
    match letterEscape? b with
    | some c => .ok (c, rest)
    | none => if b = ascii 'u' then unitEscape rest else .error .badEscape

def textOctets : Nat → Utf8.Octets → Reader Utf8.Octets
  | 0, _, _ => .error .endInText
  | _ + 1, _, [] => .error .endInText
  | fuel + 1, acc, b :: rest =>
    if b = ascii '"' then .ok (acc.reverse, rest)
    else if b = ascii '\\' then do
      let (c, rest) ← escape rest
      textOctets fuel ((String.utf8EncodeChar c).reverse ++ acc) rest
    else if b < 0x20 then .error .control
    else textOctets fuel (b :: acc) rest

def text : Reader String := fun input => do
  let (octets, rest) ← textOctets (input.length + 1) [] input
  match Utf8.toString? octets with
  | some s => .ok (s, rest)
  | none => .error .badCodePoint

def bound64 : Nat := UInt64.size

def bound63 : Nat := 9223372036854775808

def takeDigits : Nat → Nat → Utf8.Octets → Nat × Nat × Utf8.Octets
  | s, k, [] => (s, k, [])
  | s, k, b :: rest =>
    if isDigit b ∧ s * 10 + digitOf b < bound64 then takeDigits (s * 10 + digitOf b) (k + 1) rest
    else (s, k, b :: rest)

def startsWithDigit : Utf8.Octets → Bool
  | [] => false
  | b :: _ => isDigit b

def startsWithExponent : Utf8.Octets → Bool
  | [] => false
  | b :: _ => b == ascii 'e' || b == ascii 'E'

def finishFloat (negative : Bool) (s : Nat) (e : Int) : Reader Number := fun rest =>
  match Binary64.ofParts negative s e with
  | some x => .ok (.float x, rest)
  | none => .error .numberOutOfRange

def largestExponent : Nat := 2147483647

def exponentDigits : Nat → Utf8.Octets → Option Nat × Utf8.Octets
  | n, [] => (some n, [])
  | n, b :: rest =>
    if isDigit b then
      if n * 10 + digitOf b ≤ largestExponent then exponentDigits (n * 10 + digitOf b) rest
      else (none, rest.dropWhile isDigit)
    else (some n, b :: rest)

/-- The exponent after its letter. An exponent past all bounds gives zero or a fault. -/
def exponent (negative : Bool) (s : Nat) (e : Int) : Reader Number := fun input =>
  let (up, input) :=
    match input with
    | b :: rest => if b = ascii '+' then (true, rest) else if b = ascii '-' then (false, rest)
        else (true, input)
    | [] => (true, [])
  match input with
  | [] => .error .endInValue
  | b :: rest =>
    if ¬ isDigit b then .error .badNumber
    else
      match exponentDigits (digitOf b) rest with
      | (some n, rest) => finishFloat negative s (if up then e + n else e - n) rest
      | (none, rest) =>
        if s ≠ 0 ∧ up then .error .numberOutOfRange
        else .ok (.float { Binary64.zero with negative := negative }, rest)

def exponentOrEnd (negative : Bool) (s : Nat) (e : Int) : Reader Number := fun rest =>
  if startsWithExponent rest then exponent negative s e (rest.drop 1)
  else finishFloat negative s e rest

def fraction (negative : Bool) (s : Nat) (e : Int) : Reader Number := fun input =>
  let (s, k, rest) := takeDigits s 0 input
  if startsWithDigit rest then exponentOrEnd negative s (e - k) (rest.dropWhile isDigit)
  else if k = 0 then
    match rest with
    | [] => .error .endInValue
    | _ :: _ => .error .badNumber
  else exponentOrEnd negative s (e - k) rest

def wholeNumber (negative : Bool) (s : Nat) (rest : Utf8.Octets) :
    Except Fault (Number × Utf8.Octets) :=
  if ¬ negative then .ok (.integer s, rest)
  else if 0 < s ∧ s ≤ bound63 then .ok (.integer (-s), rest)
  else finishFloat true s 0 rest

def afterDigits (negative : Bool) (s dropped : Nat)
    (finish : Except Fault (Number × Utf8.Octets)) : Reader Number
  | [] => finish
  | b :: rest =>
    if b = ascii '.' then fraction negative s dropped rest
    else if startsWithExponent (b :: rest) then exponent negative s dropped rest
    else finish

/-- A number after its sign. A zero leads no other digit; digits past 64 bits only count. -/
def number (negative : Bool) : Reader Number
  | [] => .error .endInValue
  | b :: rest =>
    if ¬ isDigit b then .error .badNumber
    else if b = ascii '0' then
      if startsWithDigit rest then .error .badNumber
      else afterDigits negative 0 0 (wholeNumber negative 0 rest) rest
    else
      let (s, _, rest) := takeDigits (digitOf b) 0 rest
      let dropped := (rest.takeWhile isDigit).length
      let rest' := rest.drop dropped
      if dropped = 0 then afterDigits negative s 0 (wholeNumber negative s rest) rest
      else afterDigits negative s dropped (finishFloat negative s dropped rest') rest'

end Reader

end ConsoleSession.Json
