/-!
White space of the Unicode property, and trimming. Lists of characters are trimmed on either side
by any class; strings are trimmed of white space on both.
-/

namespace ConsoleSession.Text

def isBlank (c : Char) : Bool :=
  let n := c.toNat
  (9 ≤ n && n ≤ 13) || n == 0x20 || n == 0x85 || n == 0xA0 || n == 0x1680 ||
    (0x2000 ≤ n && n ≤ 0x200A) || n == 0x2028 || n == 0x2029 || n == 0x202F || n == 0x205F ||
    n == 0x3000

def trimEnd (p : Char → Bool) (cs : List Char) : List Char :=
  (cs.reverse.dropWhile p).reverse

def trimBlank (cs : List Char) : List Char :=
  trimEnd isBlank (cs.dropWhile isBlank)

def trimmed (s : String) : String :=
  String.ofList (trimBlank s.toList)

def stripEnd (c : Char) (s : String) : String :=
  String.ofList (trimEnd (· == c) s.toList)

def stripStart (c : Char) (s : String) : String :=
  String.ofList (s.toList.dropWhile (· == c))

end ConsoleSession.Text
