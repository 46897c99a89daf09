import ConsoleSession.Decimal.Shortest
import ConsoleSession.Json.Value

/-!
Writing JSON, on one line without spaces or indented by two. Quotes, backslashes and controls are
escaped in strings, everything else stands as it is.
-/

namespace ConsoleSession.Json

def hexDigit (n : Nat) : Char :=
  if n < 10 then Char.ofNat (0x30 + n) else Char.ofNat (0x57 + n)

def escapedChar (c : Char) : List Char :=
  if c = '"' then ['\\', '"']
  else if c = '\\' then ['\\', '\\']
  else if c = '\x08' then ['\\', 'b']
  else if c = '\x0c' then ['\\', 'f']
  else if c = '\n' then ['\\', 'n']
  else if c = '\r' then ['\\', 'r']
  else if c = '\t' then ['\\', 't']
  else if c.toNat < 0x20 then
    ['\\', 'u', '0', '0', hexDigit (c.toNat / 16), hexDigit (c.toNat % 16)]
  else [c]

def renderText (s : String) : List Char :=
  '"' :: s.toList.flatMap escapedChar ++ ['"']

def Number.render : Number → List Char
  | .integer i => (toString i).toList
  | .float x => x.text.toList

mutual

def renderChars : Json → List Char
  | .null => ['n', 'u', 'l', 'l']
  | .bool true => ['t', 'r', 'u', 'e']
  | .bool false => ['f', 'a', 'l', 's', 'e']
  | .number n => n.render
  | .text s => renderText s
  | .list vs => '[' :: renderItems vs ++ [']']
  | .object ms => '\x7b' :: renderMembers ms ++ ['\x7d']

def renderItems : List Json → List Char
  | [] => []
  | [v] => renderChars v
  | v :: vs => renderChars v ++ ',' :: renderItems vs

def renderMembers : List (String × Json) → List Char
  | [] => []
  | [(k, v)] => renderText k ++ ':' :: renderChars v
  | (k, v) :: ms => renderText k ++ ':' :: renderChars v ++ ',' :: renderMembers ms

end

def render (v : Json) : String :=
  String.ofList (renderChars v)

def newLine (indent : Nat) : List Char :=
  '\n' :: List.replicate (2 * indent) ' '

mutual

def prettyChars (indent : Nat) : Json → List Char
  | .list (v :: vs) =>
    '[' :: prettyItems (indent + 1) (v :: vs) ++ newLine indent ++ [']']
  | .object (m :: ms) =>
    '\x7b' :: prettyMembers (indent + 1) (m :: ms) ++ newLine indent ++ ['\x7d']
  | .list [] => ['[', ']']
  | .object [] => ['\x7b', '\x7d']
  | .null => ['n', 'u', 'l', 'l']
  | .bool true => ['t', 'r', 'u', 'e']
  | .bool false => ['f', 'a', 'l', 's', 'e']
  | .number n => n.render
  | .text s => renderText s

def prettyItems (indent : Nat) : List Json → List Char
  | [] => []
  | [v] => newLine indent ++ prettyChars indent v
  | v :: vs => newLine indent ++ prettyChars indent v ++ ',' :: prettyItems indent vs

def prettyMembers (indent : Nat) : List (String × Json) → List Char
  | [] => []
  | [(k, v)] => newLine indent ++ renderText k ++ ':' :: ' ' :: prettyChars indent v
  | (k, v) :: ms =>
    newLine indent ++ renderText k ++ ':' :: ' ' :: prettyChars indent v ++ ',' ::
      prettyMembers indent ms

end

def pretty (v : Json) : String :=
  String.ofList (prettyChars 0 v)

end ConsoleSession.Json
