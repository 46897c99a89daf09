import ConsoleSession.Decimal.Shortest
import ConsoleSession.Text.Quoted

/-!
What can be wrong with a JSON text: its grammar, or the shape of a value where another one is
wanted.
-/

namespace ConsoleSession.Json

inductive Found
  | null
  | bool (b : Bool)
  | integer (i : Int)
  | float (x : Binary64)
  | text (s : String)
  | list
  | object
  deriving DecidableEq, Repr

def Found.describe : Found → String
  | .null => "null"
  | .bool b => s!"boolean \x60{b}\x60"
  | .integer i => s!"integer \x60{i}\x60"
  | .float x => s!"floating point \x60{x.text}\x60"
  | .text s => "string " ++ Text.quoted s
  | .list => "sequence"
  | .object => "map"

inductive Wanted
  | text
  | natural
  | record (name : String)
  deriving DecidableEq, Repr

def Wanted.describe : Wanted → String
  | .text => "a string"
  | .natural => "u64"
  | .record name => "struct " ++ name

inductive Fault
  | endInValue
  | endInText
  | endInObject
  | endInList
  | noValue
  | noIdent
  | noColon
  | noObjectComma
  | noListComma
  | keyNotText
  | trailingComma
  | trailingCharacters
  | badNumber
  | numberOutOfRange
  | badEscape
  | hexEscapeEnd
  | loneSurrogate
  | badCodePoint
  | control
  | tooDeep
  | wrongType (found : Found) (wanted : Wanted)
  | wrongValue (i : Int) (wanted : Wanted)
  | tooShort (length : Nat) (name : String) (fields : Nat)
  | duplicate (field : String)
  | missing (field : String)
  | noVariant (name : String)
  deriving DecidableEq, Repr

def Fault.message : Fault → String
  | .endInValue => "EOF while parsing a value"
  | .endInText => "EOF while parsing a string"
  | .endInObject => "EOF while parsing an object"
  | .endInList => "EOF while parsing a list"
  | .noValue => "expected value"
  | .noIdent => "expected ident"
  | .noColon => "expected \x60:\x60"
  | .noObjectComma => "expected \x60,\x60 or \x60\x7d\x60"
  | .noListComma => "expected \x60,\x60 or \x60]\x60"
  | .keyNotText => "key must be a string"
  | .trailingComma => "trailing comma"
  | .trailingCharacters => "trailing characters"
  | .badNumber => "invalid number"
  | .numberOutOfRange => "number out of range"
  | .badEscape => "invalid escape"
  | .hexEscapeEnd => "unexpected end of hex escape"
  | .loneSurrogate => "lone leading surrogate in hex escape"
  | .badCodePoint => "invalid unicode code point"
  | .control => "control character (\\u0000-\\u001F) found while parsing a string"
  | .tooDeep => "recursion limit exceeded"
  | .wrongType found wanted => s!"invalid type: {found.describe}, expected {wanted.describe}"
  | .wrongValue i wanted => s!"invalid value: integer \x60{i}\x60, expected {wanted.describe}"
  | .tooShort n name fields =>
    s!"invalid length {n}, expected struct {name} with {fields} element" ++
      (if fields = 1 then "" else "s")
  | .duplicate f => s!"duplicate field \x60{f}\x60"
  | .missing f => s!"missing field \x60{f}\x60"
  | .noVariant name => "data did not match any variant of untagged enum " ++ name

end ConsoleSession.Json
