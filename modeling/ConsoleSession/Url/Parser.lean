import ConsoleSession.Url.Basic

/-!
Reading an absolute URL the way browsers do: blanks around it and line breaks in it are dropped,
dot segments are resolved, characters that may not stand are escaped, and for the schemes the rules
know backslashes count as slashes and a host is needed.
-/

namespace ConsoleSession.Url

inductive Kind
  | special
  | file
  | other
  deriving DecidableEq, Repr

def Kind.ofScheme (scheme : List Char) : Kind :=
  if scheme == "file".toList then .file
  else if ["http", "https", "ws", "wss", "ftp"].any fun s => scheme == s.toList then .special
  else .other

def defaultPort? (scheme : List Char) : Option Nat :=
  if scheme == "http".toList || scheme == "ws".toList then some 80
  else if scheme == "https".toList || scheme == "wss".toList then some 443
  else if scheme == "ftp".toList then some 21
  else none

def Kind.isSlash (k : Kind) (c : Char) : Bool :=
  c == '/' || (k != .other && c == '\\')

def endsPath (c : Char) : Bool := c == '?' || c == '#'

def Kind.endsAuthority (k : Kind) (c : Char) : Bool := k.isSlash c || endsPath c

def inFragment (c : Char) : Bool := " \"<>`".toList.contains c

def inQuery (k : Kind) (c : Char) : Bool :=
  " \"#<>".toList.contains c || (k != .other && c == '\'')

def inPath (c : Char) : Bool := inFragment c || "#?\x7b\x7d".toList.contains c

def inUserinfo (c : Char) : Bool := inPath c || "/:;=@[\\]^|".toList.contains c

def isSchemeChar (c : Char) : Bool := c.isAlphanum || c == '+' || c == '-' || c == '.'

def splitScheme (input : List Char) : Option (List Char × List Char) :=
  match input.span isSchemeChar with
  | (c :: cs, ':' :: rest) => if c.isAlpha then some ((c :: cs).map Char.toLower, rest) else none
  | _ => none

def splitUserinfo (cs : List Char) : Option (List Char) × List Char :=
  match cs.reverse.span (· != '@') with
  | (_, []) => (none, cs)
  | (host, _ :: info) => (some info.reverse, host.reverse)

def spanHost : Bool → List Char → List Char × List Char
  | _, [] => ([], [])
  | inside, c :: rest =>
    if c = ':' ∧ ¬ inside then ([], c :: rest)
    else
      let inside := if c = '[' then true else if c = ']' then false else inside
      let (host, rest) := spanHost inside rest
      (c :: host, rest)

def portNumber (digits : List Char) : Nat :=
  digits.foldl (fun n c => n * 10 + (c.toNat - 0x30)) 0

def splitPort (scheme rest : List Char) : Except ParseError (Option Nat × List Char) :=
  let (digits, rest) := rest.span isDigit
  let port := portNumber digits
  if 65535 < port then .error .invalidPort
  else
    match rest with
    | c :: _ =>
      if c = '/' ∨ c = '\\' ∨ endsPath c then .ok (kept digits port, rest) else .error .invalidPort
    | [] => .ok (kept digits port, [])
where
  kept (digits : List Char) (port : Nat) : Option Nat :=
    if digits.isEmpty ∨ defaultPort? scheme = some port then none else some port

def splitAuthority (naming : Naming) (scheme : List Char) (k : Kind) (input : List Char) :
    Except ParseError (Authority × List Char) := do
  let (text, rest) := input.span fun c => !k.endsAuthority c
  let (info, hostPort) := splitUserinfo text
  let info := info.map fun cs => (cs.takeWhile (· != ':'), (cs.dropWhile (· != ':')).drop 1)
  let (username, password) := info.getD ([], [])
  if info = some ([], []) ∧ text.head? = some '@' ∧ hostPort.isEmpty ∧ ¬ rest.isEmpty then
    .error .emptyHost
  let (hostText, tail) := spanHost false hostPort
  if hostText.isEmpty ∧ (k ≠ .other ∨ tail.head? = some ':') then .error .emptyHost
  let host ← if k = .other then Host.ofOpaque hostText else Host.ofSpecial naming hostText
  let (port, rest) ←
    match tail with
    | ':' :: cs => splitPort scheme (cs ++ rest)
    | _ => .ok (none, rest)
  if hostText.isEmpty ∧ ¬ (username.isEmpty ∧ password.isEmpty) then .error .emptyHost
  .ok (⟨escapeWith inUserinfo username, escapeWith inUserinfo password, host, port⟩, rest)

def isDot (segment : List Char) : Bool :=
  [".", "%2e", "%2E"].any fun s => segment == s.toList

def isDoubleDot (segment : List Char) : Bool :=
  ["..", "%2e%2e", "%2e%2E", "%2E%2e", "%2E%2E", "%2e.", "%2E.", ".%2e", ".%2E"].any fun s =>
    segment == s.toList

def isDriveMark (c : Char) : Bool := c == ':' || c == '|'

def isDrive : List Char → Bool
  | [c, d] => c.isAlpha && isDriveMark d
  | _ => false

def startsWithDrive : List Char → Bool
  | c :: d :: rest => c.isAlpha && isDriveMark d && (rest.isEmpty || rest.head? == some '\\')
  | _ => false

def firstSegment (k : Kind) (s : List Char) : List Char :=
  match s with
  | [c, d] => if k = .file ∧ isDrive [c, d] then [c, ':'] else s
  | _ => s

def stepBack : List (List Char) → List (List Char)
  | [] => []
  | s :: kept => if startsWithDrive s then s :: kept else kept

def resolve (k : Kind) : List (List Char) → List (List Char) → List (List Char)
  | kept, [] => kept.reverse
  | kept, s :: rest =>
    let last := fun (kept : List (List Char)) => if rest.isEmpty then [] :: kept else kept
    if isDoubleDot s then resolve k (last (stepBack kept)) rest
    else if isDot s then resolve k (last kept) rest
    else resolve k ((if kept.isEmpty then firstSegment k s else s) :: kept) rest

def segments (k : Kind) (cs : List Char) : List (List Char) :=
  resolve k [] ((cs.splitOnP k.isSlash).map (escapeWith inPath))

def trimSegments (ss : List (List Char)) : List (List Char) :=
  match ss.dropWhile (·.isEmpty) with
  | [] => [[]]
  | ss => ss

def splitTail (k : Kind) (rest : List Char) : Option (List Char) × Option (List Char) :=
  let (front, back) := rest.span (· != '#')
  let query :=
    match front with
    | '?' :: q => some (escapeWith (inQuery k) q)
    | _ => none
  let fragment :=
    match back with
    | _ :: f => some (escapeWith inFragment f)
    | [] => none
  (query, fragment)

def finish (scheme : List Char) (k : Kind) (authority : Option Authority) (path : Path)
    (rest : List Char) : Url :=
  let (query, fragment) := splitTail k rest
  ⟨scheme, authority, path, query, fragment⟩

def Kind.dropSlash (k : Kind) (cs : List Char) : List Char :=
  match cs with
  | c :: rest => if k.isSlash c then rest else cs
  | [] => []

def parseSpecial (naming : Naming) (scheme rest : List Char) : Except ParseError Url := do
  let (authority, rest) ←
    splitAuthority naming scheme .special (rest.dropWhile (Kind.special.isSlash ·))
  let (path, rest) := rest.span fun c => !endsPath c
  let ss := segments .special (Kind.special.dropSlash path)
  .ok (finish scheme .special (some authority) (.segments ss) rest)

def parseFile (naming : Naming) (scheme rest : List Char) : Except ParseError Url :=
  match rest with
  | c :: d :: more =>
    if Kind.file.isSlash c ∧ Kind.file.isSlash d then do
      let (name, rest) := more.span fun c => !Kind.file.endsAuthority c
      if name.isEmpty ∨ isDrive name then .ok (build (.domain []) id more)
      else
        let host ← Host.ofSpecial naming name
        if host = .domain "localhost".toList then .ok (build (.domain []) id rest)
        else .ok (build host Kind.file.dropSlash rest)
    else .ok (build (.domain []) Kind.file.dropSlash rest)
  | _ => .ok (build (.domain []) Kind.file.dropSlash rest)
where
  build (host : Host) (start : List Char → List Char) (rest : List Char) : Url :=
    let (path, rest) := rest.span fun c => !endsPath c
    let ss := segments .file (start path)
    let host := if ss.head?.any isDrive then .domain [] else host
    finish scheme .file (some ⟨[], [], host, none⟩) (.segments (trimSegments ss)) rest

def parseOther (naming : Naming) (scheme rest : List Char) : Except ParseError Url :=
  match rest with
  | '/' :: '/' :: rest => do
    let (authority, rest) ← splitAuthority naming scheme .other rest
    let (path, rest) := rest.span fun c => !endsPath c
    let path :=
      match path with
      | [] => []
      | '/' :: cs => segments .other cs
      | cs => segments .other cs
    .ok (finish scheme .other (some authority) (.segments path) rest)
  | '/' :: rest =>
    let (path, rest) := rest.span fun c => !endsPath c
    .ok (finish scheme .other none (.segments (segments .other path)) rest)
  | rest =>
    let (path, rest) := rest.span fun c => !endsPath c
    .ok (finish scheme .other none (.whole (escapeWith (fun _ => false) path)) rest)

def isOuterBlank (c : Char) : Bool := c.toNat ≤ 0x20

def isBreak (c : Char) : Bool := c == '\t' || c == '\n' || c == '\r'

def parseChars (naming : Naming) (input : List Char) : Except ParseError Url :=
  let input := (input.dropWhile isOuterBlank).reverse.dropWhile isOuterBlank |>.reverse
  match splitScheme (input.filter fun c => !isBreak c) with
  | none => .error .relativeWithoutBase
  | some (scheme, rest) =>
    match Kind.ofScheme scheme with
    | .special => parseSpecial naming scheme rest
    | .file => parseFile naming scheme rest
    | .other => parseOther naming scheme rest

def parse (naming : Naming) (text : String) : Except ParseError Url :=
  parseChars naming text.toList

end ConsoleSession.Url
