import ConsoleSession.Json.Scan

/-!
Passing over a value that nobody wants. Its grammar is checked, but strings may hold any octets and
any units, numbers any digits, and nesting has no limit: the open brackets are kept on a stack.
-/

namespace ConsoleSession.Json.Reader

open ConsoleSession (Utf8.Octets)

inductive Bracket
  | list
  | object
  deriving DecidableEq, Repr

def Bracket.close : Bracket → UInt8
  | .list => ascii ']'
  | .object => ascii '}'

def Bracket.unclosed : Bracket → Fault
  | .list => .endInList
  | .object => .endInObject

def Bracket.noComma : Bracket → Fault
  | .list => .noListComma
  | .object => .noObjectComma

def skipText : Nat → Utf8.Octets → Except Fault Utf8.Octets
  | 0, _ => .error .endInText
  | _ + 1, [] => .error .endInText
  | fuel + 1, b :: rest =>
    if b = ascii '"' then .ok rest
    else if b = ascii '\\' then
      match rest with
      | [] => .error .endInText
      | e :: rest =>
        if (letterEscape? e).isSome then skipText fuel rest
        else if e = ascii 'u' then do
          let (_, rest) ← hexUnit rest
          skipText fuel rest
        else .error .badEscape
    else if b < 0x20 then .error .control
    else skipText fuel rest

def skipExponent (input : Utf8.Octets) : Except Fault Utf8.Octets :=
  let input :=
    match input with
    | b :: rest => if b = ascii '+' ∨ b = ascii '-' then rest else input
    | [] => []
  if startsWithDigit input then .ok (input.dropWhile isDigit) else .error .badNumber

def skipFraction (input : Utf8.Octets) : Except Fault Utf8.Octets :=
  if startsWithDigit input then
    let rest := input.dropWhile isDigit
    if startsWithExponent rest then skipExponent (rest.drop 1) else .ok rest
  else .error .badNumber

def skipNumber (input : Utf8.Octets) : Except Fault Utf8.Octets :=
  match input with
  | [] => .error .badNumber
  | b :: rest =>
    if ¬ isDigit b then .error .badNumber
    else if b = ascii '0' ∧ startsWithDigit rest then .error .badNumber
    else
      match input.dropWhile isDigit with
      | [] => .ok []
      | c :: rest =>
        if c = ascii '.' then skipFraction rest
        else if startsWithExponent (c :: rest) then skipExponent rest
        else .ok (c :: rest)

def skipScalar (b : UInt8) (rest : Utf8.Octets) : Except Fault Utf8.Octets :=
  if b = ascii 'n' then word ['u', 'l', 'l'] rest
  else if b = ascii 't' then word ['r', 'u', 'e'] rest
  else if b = ascii 'f' then word ['a', 'l', 's', 'e'] rest
  else if b = ascii '-' then skipNumber rest
  else if isDigit b then skipNumber (b :: rest)
  else if b = ascii '"' then skipText (rest.length + 1) rest
  else .error .noValue

def skipKey (input : Utf8.Octets) : Except Fault Utf8.Octets :=
  match skipBlanks input with
  | [] => .error .endInObject
  | b :: rest =>
    if b ≠ ascii '"' then .error .keyNotText
    else do
      let rest ← skipText (rest.length + 1) rest
      match skipBlanks rest with
      | [] => .error .endInObject
      | c :: rest => if c = ascii ':' then .ok rest else .error .noColon

def enter (k : Bracket) (input : Utf8.Octets) : Except Fault (Bool × Utf8.Octets) :=
  match skipBlanks input with
  | [] => .error k.unclosed
  | b :: rest =>
    if b = k.close then .ok (false, rest)
    else
      match k with
      | .list => .ok (true, b :: rest)
      | .object => (skipKey (b :: rest)).map fun rest => (true, rest)

def advance (k : Bracket) (input : Utf8.Octets) : Except Fault (Bool × Utf8.Octets) :=
  match skipBlanks input with
  | [] => .error k.unclosed
  | b :: rest =>
    if b = ascii ',' then
      match k with
      | .list => .ok (true, rest)
      | .object => (skipKey rest).map fun rest => (true, rest)
    else if b = k.close then .ok (false, rest)
    else .error k.noComma

def openedBy (b : UInt8) : Option Bracket :=
  if b = ascii '[' then some .list
  else if b = ascii '{' then some .object
  else none

/-- Passes over a value if `wanted`, and over what is open around it. -/
def skipWithin : Nat → Bool → List Bracket → Utf8.Octets → Except Fault Utf8.Octets
  | 0, _, _, _ => .error .endInValue
  | fuel + 1, true, stack, input =>
    match skipBlanks input with
    | [] => .error .endInValue
    | b :: rest =>
      match openedBy b with
      | some k => do
        let (more, rest) ← enter k rest
        skipWithin fuel more (if more then k :: stack else stack) rest
      | none => do
        let rest ← skipScalar b rest
        skipWithin fuel false stack rest
  | _ + 1, false, [], input => .ok input
  | fuel + 1, false, k :: stack, input => do
    let (more, rest) ← advance k input
    skipWithin fuel more (if more then k :: stack else stack) rest

def skip (input : Utf8.Octets) : Except Fault Utf8.Octets :=
  skipWithin (input.length + 2) true [] input

end ConsoleSession.Json.Reader
