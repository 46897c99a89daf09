import ConsoleSession.Config
import ConsoleSession.Text.Alphanumeric

/-!
Settings kept in a file, a line each: a name, an equals sign and a value with quotes, escapes and
references to other settings. Variables that are set already stay as they are; reading stops at the
first line that is none of this.
-/

namespace ConsoleSession.Dotenv

inductive Place
  | plain
  | blank
  | escape
  | weak
  | weakEscape
  | strong
  | strongEscape
  deriving DecidableEq, Repr

def Place.opening (c : Char) : Place :=
  if c = '\\' then .escape
  else if c = '"' then .weak
  else if c = '\'' then .strong
  else .plain

def Place.next (p : Place) (c : Char) : Place :=
  match p with
  | .plain => if Text.isBlank c && c != '\n' && c != '\r' then .blank else .opening c
  | .blank => .opening c
  | .escape => .plain
  | .weak => if c = '\\' then .weakEscape else if c = '"' then .plain else .weak
  | .weakEscape => .weak
  | .strong => if c = '\\' then .strongEscape else if c = '\'' then .plain else .strong
  | .strongEscape => .strong

def scan : Place → Nat → List Char → Except Nat Place
  | p, _, [] => .ok p
  | p, i, c :: cs => if p = .blank ∧ c = '#' then .error i else scan (p.next c) (i + 1) cs

def rawLines (cs : List Char) : List (List Char) :=
  match cs.splitOn '\n' with
  | [] => []
  | parts =>
    let front := parts.dropLast.map (· ++ ['\n'])
    match parts.getLastD [] with
    | [] => front
    | last => front ++ [last]

def withoutEnd (cs : List Char) : List Char :=
  match cs.reverse with
  | '\n' :: '\r' :: rest => rest.reverse
  | '\n' :: rest => rest.reverse
  | _ => cs

/-- Joins lines that a quote holds together and cuts the comments behind them. None stands for a
text that ends inside a quote. -/
def joinLines (buffer : List Char) (p : Place) : List (List Char) → List (Option (List Char))
  | [] => if p = .plain then [] else [none]
  | line :: rest =>
    let joined := buffer ++ line
    if (joined.dropWhile Text.isBlank).head? = some '#' then joinLines [] .plain rest
    else
      match scan p 0 line with
      | .error i => some (buffer ++ line.take i) :: joinLines [] .plain rest
      | .ok .plain => some (withoutEnd joined) :: joinLines [] .plain rest
      | .ok p => joinLines joined p rest

inductive Reference
  | none
  | bare
  | braced
  deriving DecidableEq, Repr

structure Value where
  strong : Bool := false
  weak : Bool := false
  escaped : Bool := false
  ending : Bool := false
  reference : Reference := .none
  name : List Char := []
  out : List Char := []

namespace Value

def push (v : Value) (c : Char) : Value := { v with out := c :: v.out }

def resolve (lookup : String → String) (v : Value) : Value :=
  { v with
    reference := .none
    name := []
    out := (lookup (String.ofList v.name.reverse)).toList.reverse ++ v.out }

def inReference (lookup : String → String) (v : Value) (c : Char) : Value :=
  if Text.isAlphanumeric c then { v with name := c :: v.name }
  else
    match v.reference with
    | .braced => if c = '\x7d' then v.resolve lookup else { v with name := c :: v.name }
    | _ =>
      if c = '\x7b' ∧ v.name.isEmpty then { v with reference := .braced }
      else if c = '$' then { v.resolve lookup with reference := .bare }
      else (v.resolve lookup).push c

def unquoted (v : Value) (c : Char) : Value :=
  if c = '\'' then { v with strong := true }
  else if c = '"' then { v with weak := true }
  else if c = '\\' then { v with escaped := true }
  else if c = ' ' ∨ c = '\t' then { v with ending := true }
  else v.push c

def afterEscape (v : Value) (c : Char) : Option Value :=
  if "\\'\"$ ".toList.contains c then some { v.push c with escaped := false }
  else if c = 'n' then some { v.push '\n' with escaped := false }
  else none

def step (lookup : String → String) (v : Value) (c : Char) : Option Value :=
  if v.escaped then v.afterEscape c
  else if v.strong then some (if c = '\'' then { v with strong := false } else v.push c)
  else if v.reference ≠ .none then some (v.inReference lookup c)
  else if c = '$' then some { v with reference := .bare }
  else if v.weak then
    some (if c = '"' then { v with weak := false }
      else if c = '\\' then { v with escaped := true }
      else v.push c)
  else some (v.unquoted c)

def finish (lookup : String → String) (v : Value) : Option String :=
  if v.reference = .braced ∨ v.strong ∨ v.weak then none
  else some (String.ofList (v.resolve lookup).out.reverse)

def read (lookup : String → String) : Value → List Char → Option String
  | v, [] => v.finish lookup
  | v, c :: cs =>
    if v.ending then
      if c = ' ' ∨ c = '\t' then read lookup v cs
      else if c = '#' then v.finish lookup
      else none
    else
      match v.step lookup c with
      | some v => read lookup v cs
      | none => none

end Value

def isNameStart (c : Char) : Bool := c.isAlpha || c == '_'

def isNameChar (c : Char) : Bool := c.isAlphanum || c == '_' || c == '.'

def splitName (cs : List Char) : Option (String × List Char) :=
  match cs with
  | [] => none
  | c :: _ =>
    if isNameStart c then
      let (name, rest) := cs.span isNameChar
      some (String.ofList name, rest.dropWhile Text.isBlank)
    else none

def splitSetting (cs : List Char) : Option (String × List Char) := do
  let (name, rest) ← splitName cs
  match rest with
  | '=' :: value => return (name, value)
  | _ =>
    if name ≠ "export" then none
    else
      let (name, rest) ← splitName rest
      match rest with
      | '=' :: value => return (name, value)
      | _ => none

inductive Line
  | nothing
  | setting (name value : String)
  | faulty
  deriving DecidableEq, Repr

def readLine (lookup : String → String) (line : List Char) : Line :=
  let line := Text.trimBlank line
  if line.isEmpty ∨ line.head? = some '#' then .nothing
  else
    match splitSetting line with
    | none => .faulty
    | some (name, value) =>
      let value := value.dropWhile Text.isBlank
      if value.isEmpty ∨ value.head? = some '#' then .setting name ""
      else
        match Value.read lookup {} value with
        | some v => .setting name v
        | none => .faulty

def known (env : Environment) (read : List (String × String)) (name : String) : String :=
  (env.text? name <|> (read.find? (·.1 == name)).map (·.2)).getD ""

/-- Sets a variable that is not set yet. None if the value has a NUL, which no variable can hold. -/
def define (env : Environment) (name value : String) : Option Environment :=
  if (env.text? name).isSome then some env
  else if value.toList.contains '\x00' then none
  else some fun n => if n = name then some (Utf8.ofString value) else env n

def loadLines (env : Environment) (read : List (String × String)) :
    List (Option (List Char)) → Option Environment
  | [] => some env
  | none :: _ => some env
  | some line :: rest =>
    match readLine (known env read) line with
    | .nothing => loadLines env read rest
    | .setting name value =>
      match define env name value with
      | some env => loadLines env ((name, value) :: read) rest
      | none => none
    | .faulty => some env

def load (env : Environment) (text : String) : Option Environment :=
  let cs :=
    match text.toList with
    | '\ufeff' :: cs => cs
    | cs => cs
  loadLines env [] (joinLines [] .plain (rawLines cs))

def mentioned (text : String) : List String :=
  let cs := text.toList
  let names := cs.splitOnP (!isNameChar ·) ++ cs.splitOnP (!Text.isAlphanumeric ·) ++
    cs.splitOnP fun c => c == '\x7b' || c == '\x7d'
  names.filterMap fun name => if name.isEmpty then none else some (String.ofList name)

end ConsoleSession.Dotenv
