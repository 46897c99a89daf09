/-!
Arguments of the command line: one command with what it works on, and a token that may be given
before or after it. The one given after the command wins over the one before, either wins over the
environment's, and two in the same place are a mistake.
-/

namespace ConsoleSession.Cli

inductive Command
  | loginUrl (provider : String)
  | whoami
  | visit (path : String)
  | logout
  deriving DecidableEq, Repr

inductive Arguments
  | run (command : Command) (token : Option String)
  | help
  | misuse
  deriving DecidableEq, Repr

inductive Word
  | loginUrl
  | whoami
  | visit
  | logout
  deriving DecidableEq, Repr

def Word.ofString? (s : String) : Option Word :=
  if s = "login-url" then some .loginUrl
  else if s = "whoami" then some .whoami
  else if s = "visit" then some .visit
  else if s = "logout" then some .logout
  else none

def Word.command? (w : Word) (operands : List String) : Option Command :=
  match w, operands with
  | .loginUrl, [p] => some (.loginUrl p)
  | .whoami, [] => some .whoami
  | .visit, [p] => some (.visit p)
  | .logout, [] => some .logout
  | _, _ => none

inductive Shape
  | optionsEnd
  | token
  | tokenIs (value : String)
  | help
  | unknown
  | operand (s : String)
  deriving DecidableEq, Repr

def Shape.of (s : String) : Shape :=
  match s.toList with
  | '-' :: '-' :: [] => .optionsEnd
  | '-' :: '-' :: name =>
    match name.span (· != '=') with
    | (n, []) =>
      if n = "token".toList then .token else if n = "help".toList then .help else .unknown
    | (n, _ :: value) => if n = "token".toList then .tokenIs (String.ofList value) else .unknown
  | '-' :: 'h' :: _ => .help
  | '-' :: _ :: _ => .unknown
  | _ => .operand s

structure Reading where
  token : Option String := none
  operands : List String := []

def Reading.withToken (r : Reading) (t : String) : Option Reading :=
  if r.token.isSome then none else some { r with token := some t }

def isValue (s : String) : Bool :=
  match Shape.of s with
  | .operand _ => true
  | _ => false

def afterCommand (w : Word) (given : Option String) : Reading → List String → Arguments
  | r, [] => finish r
  | r, a :: rest =>
    match Shape.of a with
    | .optionsEnd => finish { r with operands := r.operands ++ rest }
    | .help => .help
    | .unknown => .misuse
    | .operand s =>
      match w.command? (r.operands ++ [s]) with
      | some _ => afterCommand w given { r with operands := r.operands ++ [s] } rest
      | none => .misuse
    | .tokenIs t =>
      match r.withToken t with
      | some r => afterCommand w given r rest
      | none => .misuse
    | .token =>
      match rest with
      | [] => .misuse
      | t :: rest =>
        if isValue t then
          match r.withToken t with
          | some r => afterCommand w given r rest
          | none => .misuse
        else .misuse
where
  finish (r : Reading) : Arguments :=
    match w.command? r.operands with
    | some c => .run c (r.token <|> given)
    | none => .misuse

def beforeCommand (fallback : Option String) : Option String → List String → Arguments
  | _, [] => .misuse
  | given, a :: rest =>
    match Shape.of a with
    | .optionsEnd | .unknown => .misuse
    | .help => .help
    | .operand s =>
      match Word.ofString? s with
      | some w => afterCommand w (given <|> fallback) {} rest
      | none => if s = "help" then helpFor rest else .misuse
    | .tokenIs t => if given.isSome then .misuse else beforeCommand fallback (some t) rest
    | .token =>
      match rest with
      | [] => .misuse
      | t :: rest =>
        if isValue t then
          if given.isSome then .misuse else beforeCommand fallback (some t) rest
        else .misuse
where
  helpFor : List String → Arguments
    | [] => .help
    | s :: rest =>
      if (Word.ofString? s).isSome ∧ rest.isEmpty then .help
      else if s = "help" ∧ rest.isEmpty then .help
      else .misuse

def Arguments.parse (args : List String) (fallback : Option String) : Arguments :=
  beforeCommand fallback none args

end ConsoleSession.Cli
