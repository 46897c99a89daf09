/-!
UTF-8 octets of a text. `encode` writes every character, `decode` reads only what `encode` can
have written, and `repair` reads anything, a replacement character standing for each longest run
that could have begun a character.
-/

namespace ConsoleSession.Utf8

abbrev Octets := List UInt8

def encode (cs : List Char) : Octets :=
  cs.flatMap String.utf8EncodeChar

def owed (a : Nat) : Option (Nat × Nat × Nat) :=
  if a < 0x80 then some (0, 0, 0)
  else if a < 0xC2 then none
  else if a < 0xE0 then some (1, 0x80, 0xBF)
  else if a = 0xE0 then some (2, 0xA0, 0xBF)
  else if a = 0xED then some (2, 0x80, 0x9F)
  else if a < 0xF0 then some (2, 0x80, 0xBF)
  else if a = 0xF0 then some (3, 0x90, 0xBF)
  else if a < 0xF4 then some (3, 0x80, 0xBF)
  else if a = 0xF4 then some (3, 0x80, 0x8F)
  else none

def tail : Nat → Nat → Nat → Nat → Octets → Except Octets (Nat × Octets)
  | 0, _, _, acc, rest => .ok (acc, rest)
  | _ + 1, _, _, _, [] => .error []
  | k + 1, lo, hi, acc, b :: rest =>
    if lo ≤ b.toNat ∧ b.toNat ≤ hi then tail k 0x80 0xBF (acc * 64 + b.toNat % 64) rest
    else .error (b :: rest)

def leadBits (a : Nat) : Nat :=
  if a < 0x80 then a else if a < 0xE0 then a % 32 else if a < 0xF0 then a % 16 else a % 8

/-- The first character and the rest; on a fault, what is left after the faulty run. -/
def next (a : UInt8) (rest : Octets) : Except Octets (Char × Octets) :=
  match owed a.toNat with
  | none => .error rest
  | some (k, lo, hi) => (tail k lo hi (leadBits a.toNat) rest).map fun (n, r) => (Char.ofNat n, r)

def replacement : Char := Char.ofNat 0xFFFD

def decodeWithin : Nat → Octets → Option (List Char)
  | _, [] => some []
  | 0, _ :: _ => none
  | fuel + 1, a :: rest =>
    match next a rest with
    | .ok (c, r) => (decodeWithin fuel r).map (c :: ·)
    | .error _ => none

def decode (bs : Octets) : Option (List Char) :=
  decodeWithin bs.length bs

def repairWithin : Nat → Octets → List Char
  | _, [] => []
  | 0, _ :: _ => []
  | fuel + 1, a :: rest =>
    match next a rest with
    | .ok (c, r) => c :: repairWithin fuel r
    | .error r => replacement :: repairWithin fuel r

def repair (bs : Octets) : List Char :=
  repairWithin bs.length bs

def ofString (s : String) : Octets :=
  encode s.toList

def toString? (bs : Octets) : Option String :=
  (decode bs).map String.ofList

end ConsoleSession.Utf8
