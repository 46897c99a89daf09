/-!
Sets of characters given by the first and last code points of their ranges.
-/

namespace ConsoleSession.Text

abbrev Ranges := List (Nat × Nat)

def Ranges.has (rs : Ranges) (c : Char) : Bool :=
  rs.any fun r => r.1 ≤ c.toNat && c.toNat ≤ r.2

end ConsoleSession.Text
