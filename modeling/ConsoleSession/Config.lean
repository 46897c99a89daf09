import ConsoleSession.Guard
import ConsoleSession.Redirect.FolderPath
import ConsoleSession.Url.Parser

/-!
Configuration of a console from environment variables. A variable whose value is not text counts as
unset. The checks run in a fixed order and the first one that fails is reported.
-/

namespace ConsoleSession

abbrev Environment := String → Option Utf8.Octets

def Environment.text? (env : Environment) (name : String) : Option String :=
  env name >>= Utf8.toString?

structure Config where
  apiUrl : String := "http://127.0.0.1:8000"
  loginPath : String := "/login"
  stateDir : String := ".infrakitchen"
  publicPaths : List String := []
  redirectTtl : Option UInt64 := none
  requestTimeout : UInt64 := 30
  connectTimeout : UInt64 := 10
  deriving DecidableEq, Repr

namespace Config

def same (c d : Config) : Bool :=
  FolderPath.same c.stateDir d.stateDir && { c with stateDir := d.stateDir } == d

def isDefault (c : Config) : Bool := c.same {}

inductive Variable
  | apiUrl
  | loginPath
  | stateDir
  | publicPaths
  | redirectTtl
  | requestTimeout
  | connectTimeout
  deriving DecidableEq, Repr

def Variable.name : Variable → String
  | .apiUrl => "INFRAKITCHEN_API_URL"
  | .loginPath => "INFRAKITCHEN_LOGIN_PATH"
  | .stateDir => "INFRAKITCHEN_STATE_DIR"
  | .publicPaths => "INFRAKITCHEN_PUBLIC_PATHS"
  | .redirectTtl => "INFRAKITCHEN_REDIRECT_TTL_SECS"
  | .requestTimeout => "INFRAKITCHEN_REQUEST_TIMEOUT_SECS"
  | .connectTimeout => "INFRAKITCHEN_CONNECT_TIMEOUT_SECS"

def Variable.all : List Variable :=
  [.apiUrl, .loginPath, .stateDir, .publicPaths, .redirectTtl, .requestTimeout, .connectTimeout]

inductive Error
  | url (raw : String) (reason : Url.ParseError)
  | loginPath (raw : String)
  | number (source : Variable) (raw : String)
  deriving DecidableEq, Repr

def Error.message : Error → String
  | .url raw reason => s!"invalid {Variable.apiUrl.name} '" ++ raw ++ "': " ++ reason.message
  | .loginPath raw =>
    s!"config parse failed: {Variable.loginPath.name} must start with '/': " ++ raw
  | .number v raw =>
    s!"config parse failed: {v.name} must be a non-negative integer, got '" ++ raw ++ "'"

def readUrl (naming : Url.Naming) (raw : String) : Except Error String :=
  let base := Text.stripEnd '/' (Text.trimmed raw)
  match Url.parse naming base with
  | .ok _ => .ok base
  | .error e => .error (.url raw e)

def readLoginPath (raw : String) : Except Error String :=
  if raw.toList.head? = some '/' then .ok raw else .error (.loginPath raw)

def readList (raw : String) : List String :=
  ((raw.toList.splitOn ',').map Text.trimBlank).filterMap fun cs =>
    if cs.isEmpty then none else some (String.ofList cs)

def readDigits (cs : List Char) : Option UInt64 :=
  let ds := match cs with | '+' :: rest => rest | _ => cs
  let n := ds.foldl (fun n c => n * 10 + (c.toNat - 0x30)) 0
  if !ds.isEmpty && ds.all Char.isDigit && n < UInt64.size then some (UInt64.ofNat n) else none

def readNumber (env : Environment) (v : Variable) : Except Error (Option UInt64) :=
  match env.text? v.name with
  | none => .ok none
  | some raw =>
    match readDigits (Text.trimBlank raw.toList) with
    | some n => .ok (some n)
    | none => .error (.number v raw)

def readEnvironment (naming : Url.Naming) (env : Environment) : Except Error Config := do
  let start : Config := {}
  let apiUrl ← readUrl naming ((env.text? Variable.apiUrl.name).getD start.apiUrl)
  let loginPath ← readLoginPath ((env.text? Variable.loginPath.name).getD start.loginPath)
  let redirectTtl ← readNumber env .redirectTtl
  let requestTimeout ← readNumber env .requestTimeout
  let connectTimeout ← readNumber env .connectTimeout
  return {
    apiUrl, loginPath, redirectTtl
    stateDir := (env.text? Variable.stateDir.name).getD start.stateDir
    publicPaths := ((env.text? Variable.publicPaths.name).map readList).getD start.publicPaths
    requestTimeout := requestTimeout.getD start.requestTimeout
    connectTimeout := connectTimeout.getD start.connectTimeout }

def ofEnvironment (env : Environment) : Except Error Config := readEnvironment .standard env

def guard (c : Config) : Guard :=
  ⟨c.loginPath, c.publicPaths, c.redirectTtl⟩

end Config

end ConsoleSession
