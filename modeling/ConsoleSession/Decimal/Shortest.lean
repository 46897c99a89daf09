import ConsoleSession.Decimal.Binary64

/-!
The shortest decimal text that reads back as a given floating-point number. Of the decimals with
the fewest digits inside the rounding interval the one nearest to the value is taken. The text is
positional for a leading digit from the fifth place after the point up to sixteen places before
it, and scientific with a signed exponent otherwise.
-/

namespace ConsoleSession.Binary64

structure Decimal where
  digits : Nat
  place : Int
  deriving DecidableEq, Repr

structure Interval where
  low : Nat
  value : Nat
  high : Nat
  den : Nat
  closed : Bool

def interval (x : Binary64) : Interval :=
  let narrow : Bool := x.mantissa == Nat.pow 2 52 && decide (least < x.exponent)
  let m := 4 * x.mantissa
  let (up, den) := scaled 1 4 x.exponent
  ⟨(m - (if narrow then 1 else 2)) * up, m * up, (m + 2) * up, den, x.mantissa % 2 = 0⟩

def Interval.contains (i : Interval) (num den : Nat) : Bool :=
  let v := num * i.den
  let l := i.low * den
  let h := i.high * den
  if i.closed then decide (l ≤ v ∧ v ≤ h) else decide (l < v ∧ v < h)

def leadingBelow (den : Nat) : Nat → Nat → Int → Int
  | 0, _, k => k
  | fuel + 1, n, k => if den ≤ n * 10 then k else leadingBelow den fuel (n * 10) (k - 1)

def leading (num den : Nat) : Int :=
  if den ≤ num then ((Nat.toDigits 10 (num / den)).length : Int) - 1
  else leadingBelow den 400 num (-1)

def onGrid (i : Interval) (place : Int) : Option Decimal :=
  let (s, t) := if 0 ≤ place then (1, Nat.pow 10 place.toNat) else (Nat.pow 10 (-place).toNat, 1)
  let d := i.value * s / (i.den * t)
  let low := d != 0 && i.contains (d * t) s
  let high := i.contains ((d + 1) * t) s
  let below := i.value * s - d * i.den * t
  let above := (d + 1) * i.den * t - i.value * s
  if low && high then
    if below < above then some ⟨d, place⟩
    else if above < below then some ⟨d + 1, place⟩
    else some ⟨if d % 2 = 0 then d else d + 1, place⟩
  else if low then some ⟨d, place⟩
  else if high then some ⟨d + 1, place⟩
  else none

def Decimal.reduced (d : Decimal) : Decimal :=
  let zeros := ((Nat.toDigits 10 d.digits).reverse.takeWhile (· == '0')).length
  ⟨d.digits / Nat.pow 10 zeros, d.place + zeros⟩

def firstGrid (i : Interval) : Nat → Int → Decimal
  | 0, place => ⟨i.value, place⟩
  | fuel + 1, place => (onGrid i place).getD (firstGrid i fuel (place - 1))

def shortest (x : Binary64) : Decimal :=
  if x.mantissa = 0 then ⟨0, 0⟩
  else
    let i := x.interval
    (firstGrid i 18 (leading i.value i.den)).reduced

def Decimal.text (d : Decimal) : List Char :=
  let ds := Nat.toDigits 10 d.digits
  let n := ds.length
  let p : Int := (n : Int) - 1 + d.place
  let zeros (k : Int) := List.replicate k.toNat '0'
  if 0 ≤ d.place ∧ p < 16 then ds ++ zeros d.place ++ ['.', '0']
  else if 0 ≤ p ∧ p < 16 then
    ds.take (p.toNat + 1) ++ ['.'] ++ ds.drop (p.toNat + 1)
  else if -5 ≤ p ∧ p < 0 then ['0', '.'] ++ zeros (-p - 1) ++ ds
  else
    let point := if n = 1 then [] else '.' :: ds.drop 1
    ds.take 1 ++ point ++ ['e', if 0 ≤ p then '+' else '-'] ++ Nat.toDigits 10 p.natAbs

def text (x : Binary64) : String :=
  String.ofList ((if x.negative then ['-'] else []) ++ x.shortest.text)

end ConsoleSession.Binary64
