import ConsoleSession.Json.Reader
import ConsoleSession.Json.Skip

/-!
Reading a JSON text straight into a record. A record is an object of named fields or a list of its
fields in order. Fields are read as they come, so the first fault in the text is the one reported;
members that the record does not know are passed over.
-/

namespace ConsoleSession.Json

open ConsoleSession (Utf8.Octets)

def found : Json → Found
  | .null => .null
  | .bool b => .bool b
  | .number (.integer i) => .integer i
  | .number (.float x) => .float x
  | .text s => .text s
  | .list _ => .list
  | .object _ => .object

namespace Reader

def misfit (wanted : Wanted) (b : UInt8) (rest : Utf8.Octets) : Fault :=
  if b = ascii '[' then .wrongType .list wanted
  else if b = ascii '{' then .wrongType .object wanted
  else
    match scalar b rest with
    | .error e => e
    | .ok (v, _) => .wrongType v.found wanted

def wantText : Reader String := fun input =>
  match skipBlanks input with
  | [] => .error .endInValue
  | b :: rest => if b = ascii '"' then text rest else .error (misfit .text b rest)

def asNatural (rest : Utf8.Octets) : Number → Except Fault (UInt64 × Utf8.Octets)
  | .integer (.ofNat n) => .ok (UInt64.ofNat n, rest)
  | .integer i => .error (.wrongValue i .natural)
  | .float x => .error (.wrongType (.float x) .natural)

def wantNatural : Reader UInt64 := fun input =>
  match skipBlanks input with
  | [] => .error .endInValue
  | b :: rest =>
    if b = ascii '-' then do
      let (n, rest) ← number true rest
      asNatural rest n
    else if isDigit b then do
      let (n, rest) ← number false (b :: rest)
      asNatural rest n
    else .error (misfit .natural b rest)

def optional {α : Type} (read : Reader α) : Reader (Option α) := fun input =>
  match skipBlanks input with
  | [] => .error .endInValue
  | b :: rest =>
    if b = ascii 'n' then readWord none ['u', 'l', 'l'] rest
    else (read (b :: rest)).map fun (a, rest) => (some a, rest)

end Reader

/-- A field of a record whose parts read so far are a draft `σ`. -/
structure Field (σ : Type) where
  name : String
  alias? : Option String
  required : Bool
  filled : σ → Bool
  read : Nat → σ → Reader σ

structure Shape (σ α : Type) where
  name : String
  fields : List (Field σ)
  draft : σ
  build : σ → Except Fault α

namespace Shape

variable {σ α : Type}

def field? (shape : Shape σ α) (key : String) : Option (Field σ) :=
  shape.fields.find? fun f => f.name == key || f.alias? == some key

def member (shape : Shape σ α) (depth : Nat) (d : σ) (key : String) : Reader σ := fun input =>
  match shape.field? key with
  | some f =>
    if f.filled d then .error (.duplicate f.name)
    else do
      let rest ← Reader.colon input
      f.read depth d rest
  | none => do
    let rest ← Reader.colon input
    let rest ← Reader.skip rest
    .ok (d, rest)

def elements (shape : Shape σ α) (depth : Nat) : List (Field σ) → Nat → σ → Reader σ
  | [], _, d, input => .ok (d, input)
  | f :: fs, i, d, input => do
    let (more, rest) ← Reader.nextItem (i == 0) input
    if more then
      let (d, rest) ← f.read depth d rest
      elements shape depth fs (i + 1) d rest
    else if f.required then .error (.tooShort i shape.name shape.fields.length)
    else elements shape depth fs (i + 1) d rest

def read (shape : Shape σ α) : Nat → Reader α := fun depth input =>
  match skipBlanks input with
  | [] => .error .endInValue
  | b :: rest =>
    if b = ascii '[' then
      match depth with
      | 0 => .error .tooDeep
      | depth + 1 => do
        let (d, rest) ← shape.elements depth shape.fields 0 shape.draft rest
        let rest ← Reader.endList rest
        let a ← shape.build d
        .ok (a, rest)
    else if b = ascii '{' then
      match depth with
      | 0 => .error .tooDeep
      | depth + 1 => do
        let (d, rest) ← Reader.object (shape.member depth) shape.draft rest
        let a ← shape.build d
        .ok (a, rest)
    else .error (Reader.misfit (.record shape.name) b rest)

def parse (shape : Shape σ α) (input : Utf8.Octets) : Except Fault α :=
  Reader.finish (shape.read Reader.deepest) input

end Shape

end ConsoleSession.Json
