import ConsoleSession.Decimal.Binary64
import ConsoleSession.Text.Utf8

/-!
JSON values. Integers of 64 bits, signed or not, stay integers; every other number is a
floating-point one. Reading keeps the members of an object in the order of their keys, one for each.
-/

namespace ConsoleSession

inductive Json.Number
  | integer (i : Int)
  | float (x : Binary64)
  deriving DecidableEq, Repr

inductive Json
  | null
  | bool (b : Bool)
  | number (n : Json.Number)
  | text (s : String)
  | list (items : List Json)
  | object (members : List (String × Json))
  deriving Repr

namespace Json

def insert (k : String) (v : Json) : List (String × Json) → List (String × Json)
  | [] => [(k, v)]
  | (k', v') :: rest =>
    if k = k' then (k, v) :: rest
    else if k < k' then (k, v) :: (k', v') :: rest
    else (k', v') :: insert k v rest

end Json

end ConsoleSession
