/-!
Paths of folders, step by step. Two spellings name the same path if they differ only in doubled or
trailing slashes and in single dots behind a name.
-/

namespace ConsoleSession.FolderPath

inductive Step
  | root
  | here
  | up
  | name (s : List Char)
  deriving DecidableEq, Repr

def Step.ofPart (part : List Char) : Option Step :=
  if part = [] ∨ part = ['.'] then none
  else if part = ['.', '.'] then some .up
  else some (.name part)

def steps (path : String) : List Step :=
  let parts := path.toList.splitOn '/'
  let start : List Step :=
    match parts with
    | [] :: _ :: _ => [.root]
    | ['.'] :: _ => [.here]
    | _ => []
  start ++ parts.filterMap Step.ofPart

def same (p q : String) : Bool := steps p == steps q

def walk : List (List Char) → List Step → Option (List (List (List Char)))
  | here, [] => some [here]
  | _, .root :: _ => none
  | here, .here :: rest => walk here rest
  | here, .up :: rest =>
    if here.isEmpty then none else (walk here.dropLast rest).map (here :: ·)
  | here, .name s :: rest => (walk (here ++ [s]) rest).map (here :: ·)

def trail (path : String) : Option (List (List (List Char))) := walk [] (steps path)

end ConsoleSession.FolderPath
