import ConsoleSession.Json.Printer
import ConsoleSession.Json.Record

/-!
Where a visitor wanted to go before being sent to login, and when that was. An intent is kept as a
line of JSON; it goes stale once it is older than a given number of seconds.
-/

namespace ConsoleSession

open Json (Reader)

structure Intent where
  path : String
  savedAt : UInt64
  deriving DecidableEq, Repr

namespace Intent

structure Draft where
  path : Option String := none
  savedAt : Option UInt64 := none

def fields : List (Json.Field Draft) :=
  [{ name := "path", alias? := none, required := true
     filled := fun d => d.path.isSome
     read := fun _ d input =>
       (Reader.wantText input).map fun (s, rest) => ({ d with path := some s }, rest) },
   { name := "saved_at", alias? := none, required := true
     filled := fun d => d.savedAt.isSome
     read := fun _ d input =>
       (Reader.wantNatural input).map fun (n, rest) => ({ d with savedAt := some n }, rest) }]

def build (d : Draft) : Except Json.Fault Intent :=
  match d.path, d.savedAt with
  | none, _ => .error (.missing "path")
  | some _, none => .error (.missing "saved_at")
  | some p, some n => .ok ⟨p, n⟩

def shape : Json.Shape Draft Intent :=
  ⟨"RedirectIntent", fields, {}, build⟩

def decode (octets : Utf8.Octets) : Except Json.Fault Intent :=
  shape.parse octets

def json (i : Intent) : Json :=
  .object [("path", .text i.path), ("saved_at", .number (.integer i.savedAt.toNat))]

def encode (i : Intent) : Utf8.Octets :=
  Utf8.encode i.json.renderChars

/-- A clock that went back makes no intent stale. -/
def isStale (i : Intent) (ttl : Option UInt64) (now : UInt64) : Bool :=
  match ttl with
  | none => false
  | some t => t.toNat < now.toNat - i.savedAt.toNat

def fresh (i : Intent) (ttl : Option UInt64) (now : UInt64) : Option String :=
  if i.isStale ttl now then none else some i.path

end Intent

end ConsoleSession
