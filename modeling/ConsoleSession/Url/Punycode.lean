/-!
Characters beyond ASCII in the letters and digits of ASCII. The plain characters come first, and
after the last hyphen numbers say which characters go where between them, the lowest first. A
number's digits come lowest first as well, and how large a digit can be the last one depends on the
numbers before. `decode?` reads such a text and `encode` writes one.
-/

namespace ConsoleSession.Url.Punycode

def digitValue? (c : Char) : Option Nat :=
  let n := c.toNat
  if 0x61 ≤ n ∧ n ≤ 0x7A then some (n - 0x61)
  else if 0x30 ≤ n ∧ n ≤ 0x39 then some (n - 0x30 + 26)
  else none

def threshold (k bias : Nat) : Nat :=
  if k ≤ bias then 1 else if bias + 26 ≤ k then 26 else k - bias

def settle (delta k : Nat) : Nat :=
  if 455 < delta then settle (delta / 35) (k + 36) else k + 36 * delta / (delta + 38)
termination_by delta
decreasing_by exact Nat.div_lt_self (by omega) (by omega)

def adapt (delta count : Nat) (isFirst : Bool) : Nat :=
  let delta := if isFirst then delta / 700 else delta / 2
  settle (delta + delta / count) 0

def limit : Nat := UInt32.size

def within (n : Nat) : Option Nat := if n < limit then some n else none

def addNumber (bias : Nat) : List Char → Nat → Nat → Nat → Option (Nat × List Char)
  | [], _, _, _ => none
  | c :: rest, k, weight, n =>
    match digitValue? c with
    | none => none
    | some d =>
      match within (n + d * weight) with
      | none => none
      | some n =>
        if d < threshold k bias then some (n, rest)
        else
          match within (weight * (36 - threshold k bias)) with
          | none => none
          | some weight => addNumber bias rest (k + 36) weight n

theorem length_of_addNumber {bias : Nat} {cs : List Char} {k weight n : Nat}
    {r : Nat × List Char} (h : addNumber bias cs k weight n = some r) :
    r.2.length < cs.length := by
  induction cs generalizing k weight n with
  | nil => simp [addNumber] at h
  | cons c rest ih =>
    rw [addNumber] at h
    split at h
    · simp at h
    · split at h
      · simp at h
      · split at h
        · rw [← Option.some.inj h]; simp
        · split at h
          · simp at h
          · have := ih h
            simp only [List.length_cons]; omega

def insertFrom (bias code n : Nat) (known : List Char) (digits : List Char) :
    Option (List Char) :=
  match digits with
  | [] => some known
  | c :: rest =>
    match h : addNumber bias (c :: rest) 36 1 n with
    | none => none
    | some r =>
      let count := known.length + 1
      let code := code + r.1 / count
      let place := r.1 % count
      if code.isValidChar then
        insertFrom (adapt (r.1 - n) count (n == 0)) code (place + 1)
          (known.insertIdx place (Char.ofNat code)) r.2
      else none
termination_by digits.length
decreasing_by exact length_of_addNumber h

def splitDigits (cs : List Char) : List Char × List Char :=
  match cs.reverse.span (· != '-') with
  | (digits, _ :: c :: plain) => ((c :: plain).reverse, digits.reverse)
  | _ => ([], cs)

def decode? (cs : List Char) : Option (List Char) :=
  let (plain, digits) := splitDigits cs
  insertFrom 72 0x80 0 plain digits

def digitChar (d : Nat) : Char :=
  Char.ofNat (if d < 26 then 0x61 + d else 0x30 + (d - 26))

theorem threshold_pos (k bias : Nat) : 0 < threshold k bias := by
  unfold threshold
  split
  · exact Nat.one_pos
  · split <;> omega

def digits (bias k n : Nat) : List Char :=
  let t := threshold k bias
  if n < t then [digitChar n]
  else digitChar (t + (n - t) % (36 - t)) :: digits bias (k + 36) ((n - t) / (36 - t))
termination_by n
decreasing_by
  have hpos := threshold_pos k bias
  exact Nat.lt_of_le_of_lt (Nat.div_le_self _ _) (by omega)

def writeFrom (cs : List Char) (bias code n : Nat) : List (Char × Nat) → List Char
  | [] => []
  | (c, i) :: rest =>
    let front := cs.take i
    let place := front.countP (·.toNat ≤ c.toNat)
    let count := cs.countP (·.toNat < c.toNat) + front.count c + 1
    let number := (c.toNat - code) * count + place - n
    digits bias 36 number ++
      writeFrom cs (adapt number count (n == 0)) c.toNat (place + 1) rest

def encode (cs : List Char) : List Char :=
  let plain := cs.filter (·.toNat < 0x80)
  let others := cs.zipIdx.filter fun c => 0x80 ≤ c.1.toNat
  plain ++ (if plain.isEmpty then [] else ['-']) ++
    writeFrom cs 72 0x80 0 (others.mergeSort fun a b => a.1.toNat ≤ b.1.toNat)

end ConsoleSession.Url.Punycode
