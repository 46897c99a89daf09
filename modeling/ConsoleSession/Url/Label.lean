import ConsoleSession.Text.Composition
import ConsoleSession.Text.Direction
import ConsoleSession.Text.Joining
import ConsoleSession.Url.NameCharacter
import ConsoleSession.Url.Punycode

/-!
Labels of names. What a label shows, be it spelled as it is or as a code behind `xn--`, must be such
that it could not be written in another way: allowed in names, composed, no mark in front.
-/

namespace ConsoleSession.Url.Label

def isAscii (c : Char) : Bool := c.toNat < 0x80

def mark : List Char := "xn--".toList

def longestCode : Nat := 2000

def longest : Nat := 1000

def isProper (cs : List Char) : Bool :=
  cs.all isNameCharacter && !cs.head?.any Text.isMark && Text.isComposed cs &&
    Text.hasJoinersPlaced [] cs && cs.length ≤ longest

def decode? (code : List Char) : Option (List Char) :=
  if code.getLastD '-' = '-' ∨ longestCode < code.length then none
  else (Punycode.decode? code).filter isProper

def shown? (label : List Char) : Option (List Char) :=
  if mark.isPrefixOf label then
    if label.all isAscii then decode? (label.drop mark.length) else none
  else if label.all isAscii || isProper label then some label
  else none

def toAscii (label : List Char) : List Char :=
  if label.all isAscii then label else mark ++ Punycode.encode label

end ConsoleSession.Url.Label
