import ConsoleSession.Json.Scan

/-!
Lists, objects and whole JSON values. Lists and objects are read by folds over their items, so that
a reader of a record and a reader of any value share the rules for commas and ends. Values nest at
most 127 deep.
-/

namespace ConsoleSession.Json

namespace Reader

open ConsoleSession (Utf8.Octets)

def nextItem (first : Bool) (input : Utf8.Octets) : Except Fault (Bool × Utf8.Octets) :=
  match skipBlanks input with
  | [] => .error .endInList
  | b :: rest =>
    if b = ascii ']' then .ok (false, b :: rest)
    else if first then .ok (true, b :: rest)
    else if b ≠ ascii ',' then .error .noListComma
    else
      match skipBlanks rest with
      | [] => .error .endInValue
      | c :: rest => if c = ascii ']' then .error .trailingComma else .ok (true, c :: rest)

def endList (input : Utf8.Octets) : Except Fault Utf8.Octets :=
  match skipBlanks input with
  | [] => .error .endInList
  | b :: rest =>
    if b = ascii ']' then .ok rest
    else if b = ascii ',' ∧ (skipBlanks rest).head? = some (ascii ']') then .error .trailingComma
    else .error .trailingCharacters

def nextKey (first : Bool) (input : Utf8.Octets) : Except Fault (Option String × Utf8.Octets) :=
  match skipBlanks input with
  | [] => .error .endInObject
  | b :: rest =>
    if b = ascii '}' then .ok (none, b :: rest)
    else if first then
      if b = ascii '"' then key rest else .error .keyNotText
    else if b ≠ ascii ',' then .error .noObjectComma
    else
      match skipBlanks rest with
      | [] => .error .endInValue
      | c :: rest =>
        if c = ascii '"' then key rest
        else if c = ascii '}' then .error .trailingComma
        else .error .keyNotText
where
  key (input : Utf8.Octets) : Except Fault (Option String × Utf8.Octets) := do
    let (k, rest) ← text input
    .ok (some k, rest)

def colon (input : Utf8.Octets) : Except Fault Utf8.Octets :=
  match skipBlanks input with
  | [] => .error .endInObject
  | b :: rest => if b = ascii ':' then .ok rest else .error .noColon

def endObject (input : Utf8.Octets) : Except Fault Utf8.Octets :=
  match skipBlanks input with
  | [] => .error .endInObject
  | b :: rest =>
    if b = ascii '}' then .ok rest
    else if b = ascii ',' then .error .trailingComma
    else .error .trailingCharacters

def items {σ : Type} (item : σ → Reader σ) : Nat → Bool → σ → Reader σ
  | 0, _, _, _ => .error .endInList
  | fuel + 1, first, acc, input => do
    let (more, rest) ← nextItem first input
    if more then
      let (acc, rest) ← item acc rest
      items item fuel false acc rest
    else .ok (acc, rest)

def members {σ : Type} (member : σ → String → Reader σ) : Nat → Bool → σ → Reader σ
  | 0, _, _, _ => .error .endInObject
  | fuel + 1, first, acc, input => do
    let (found, rest) ← nextKey first input
    match found with
    | none => .ok (acc, rest)
    | some k =>
      let (acc, rest) ← member acc k rest
      members member fuel false acc rest

def list {σ : Type} (item : σ → Reader σ) (start : σ) : Reader σ := fun input => do
  let (acc, rest) ← items item (input.length + 1) true start input
  let rest ← endList rest
  .ok (acc, rest)

def object {σ : Type} (member : σ → String → Reader σ) (start : σ) : Reader σ := fun input => do
  let (acc, rest) ← members member (input.length + 1) true start input
  let rest ← endObject rest
  .ok (acc, rest)

def deepest : Nat := 127

def readWord {α : Type} (a : α) (cs : List Char) : Reader α := fun input => do
  let rest ← word cs input
  .ok (a, rest)

def scalar (b : UInt8) : Reader Json := fun rest =>
  if b = ascii 'n' then readWord .null ['u', 'l', 'l'] rest
  else if b = ascii 't' then readWord (.bool true) ['r', 'u', 'e'] rest
  else if b = ascii 'f' then readWord (.bool false) ['a', 'l', 's', 'e'] rest
  else if b = ascii '-' then (number true rest).map fun (n, rest) => (.number n, rest)
  else if isDigit b then (number false (b :: rest)).map fun (n, rest) => (.number n, rest)
  else if b = ascii '"' then (text rest).map fun (s, rest) => (.text s, rest)
  else .error .noValue

def listItem (inner : Reader Json) (acc : List Json) : Reader (List Json) := fun input => do
  let (v, rest) ← inner input
  .ok (v :: acc, rest)

def objectMember (inner : Reader Json) (acc : List (String × Json)) (k : String) :
    Reader (List (String × Json)) := fun input => do
  let input ← colon input
  let (v, rest) ← inner input
  .ok (insert k v acc, rest)

/-- Any value, what stands inside brackets read by `inner` if they may open. -/
def valueOver (inner : Option (Reader Json)) : Reader Json := fun input =>
  match skipBlanks input with
  | [] => .error .endInValue
  | b :: rest =>
    if b = ascii '[' then
      match inner with
      | none => .error .tooDeep
      | some inner => (list (listItem inner) [] rest).map fun (vs, rest) => (.list vs.reverse, rest)
    else if b = ascii '{' then
      match inner with
      | none => .error .tooDeep
      | some inner => (object (objectMember inner) [] rest).map fun (ms, rest) => (.object ms, rest)
    else scalar b rest

def value : Nat → Reader Json
  | 0 => valueOver none
  | depth + 1 => valueOver (some (value depth))

def finish {α : Type} (read : Reader α) (input : Utf8.Octets) : Except Fault α := do
  let (a, rest) ← read input
  if (skipBlanks rest).isEmpty then .ok a else .error .trailingCharacters

end Reader

def parse (input : Utf8.Octets) : Except Fault Json :=
  Reader.finish (Reader.value Reader.deepest) input

def parse? (input : Utf8.Octets) : Option Json := (parse input).toOption

end ConsoleSession.Json
