/-!
Finite binary floating-point numbers of 64 bits, as exact dyadic numbers. Every operation rounds
the exact quotient to the nearest value, ties to the even mantissa, and answers none past the
largest finite one.
-/

namespace ConsoleSession

/-- The number `± mantissa * 2 ^ exponent`, with a mantissa below `2 ^ 53`. -/
structure Binary64 where
  negative : Bool
  mantissa : Nat
  exponent : Int
  deriving DecidableEq, Repr

namespace Binary64

def least : Int := -1074

def zero : Binary64 := ⟨false, 0, least⟩

def scaled (num den : Nat) (e : Int) : Nat × Nat :=
  if 0 ≤ e then (num * Nat.pow 2 e.toNat, den) else (num, den * Nat.pow 2 (-e).toNat)

def halfEven (num den : Nat) : Nat :=
  let q := num / den
  let r := num % den
  if 2 * r < den then q
  else if den < 2 * r then q + 1
  else if q % 2 = 0 then q else q + 1

def unit (num den : Nat) : Int :=
  let e : Int := (Nat.log2 num : Int) - (Nat.log2 den : Int) - 53
  let (n, d) := scaled num den (-e)
  max least (if Nat.pow 2 53 ≤ n / d then e + 1 else e)

def ofRatio (num den : Nat) : Option Binary64 :=
  if num = 0 then some zero
  else
    let e := unit num den
    let (n, d) := scaled num den (-e)
    let q := halfEven n d
    let (q, e) := if q = Nat.pow 2 53 then (Nat.pow 2 52, e + 1) else (q, e)
    if 971 < e then none else some ⟨false, q, e⟩

def ratio (x : Binary64) : Nat × Nat :=
  scaled x.mantissa 1 x.exponent

def mul (x y : Binary64) : Option Binary64 :=
  let (a, b) := x.ratio
  let (c, d) := y.ratio
  ofRatio (a * c) (b * d)

def div (x y : Binary64) : Option Binary64 :=
  let (a, b) := x.ratio
  let (c, d) := y.ratio
  ofRatio (a * d) (b * c)

def powerOfTen (k : Nat) : Binary64 :=
  (ofRatio (Nat.pow 10 k) 1).getD zero

/-- `x * 10 ^ e`, rounded after each of at most a few products by a power up to `10 ^ 308`. -/
def scaleTen : Nat → Binary64 → Int → Option Binary64
  | 0, x, _ => some x
  | fuel + 1, x, e =>
    if e.natAbs ≤ 308 then
      if 0 ≤ e then x.mul (powerOfTen e.toNat) else x.div (powerOfTen e.natAbs)
    else if x.mantissa = 0 then some x
    else if 0 ≤ e then none
    else
      match x.div (powerOfTen 308) with
      | none => none
      | some y => scaleTen fuel y (e + 308)

def ofParts (negative : Bool) (significand : Nat) (e : Int) : Option Binary64 :=
  match ofRatio significand 1 with
  | none => none
  | some x => (scaleTen 4 x e).map fun y => { y with negative := negative }

end Binary64

end ConsoleSession
