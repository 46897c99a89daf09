import ConsoleSession.Cli.Arguments
import ConsoleSession.Cli.Dotenv
import ConsoleSession.Redirect.WorkFolder
import ConsoleSession.Session.Rehearsal

/-!
The program behind the command line: what each command does to a console and what it prints.
-/

namespace ConsoleSession.Cli

structure Output where
  code : Nat
  out : String := ""
  err : String := ""
  deriving DecidableEq, Repr

def tokenVariable : String := "INFRAKITCHEN_TOKEN"

def help : String :=
  "Drive the InfraKitchen console session core against a live backend\n\n" ++
  "Usage: infrakitchen-console [OPTIONS] <COMMAND>\n\n" ++
  "Commands:\n" ++
  "  login-url  Print the full-page login URL for an auth provider\n" ++
  "  whoami     Resolve the session and print the signed-in user\n" ++
  "  visit      Guard a navigation to PATH and print the decision\n" ++
  "  logout     Log out against the backend\n" ++
  "  help       Print this message or the help of the given subcommand(s)\n\n" ++
  "Options:\n" ++
  "      --token <TOKEN>  Access token to start from instead of refreshing\n" ++
  "  -h, --help           Print help\n"

def misuse : Output :=
  ⟨2, "", "error: unexpected arguments\n\nFor more information, try '--help'.\n"⟩

def console (config : Config) (folder : Folder) (token : Option String) (now : UInt64) : Console :=
  { now, guard := config.guard
    base := config.apiUrl
    loginBase := config.apiUrl
    redirects := .file folder
    tokens := token.elim {} ({} : TokenStore).set }

def Command.goal : Command → Option Goal
  | .loginUrl _ => none
  | .whoami => some .mount
  | .visit path => some (.visit path)
  | .logout => some .logout

def printDecision (path : String) : Decision → String
  | .placeholder => "loading"
  | .render => "render " ++ path
  | .resume p => "resume " ++ p
  | .redirectToLogin location => "redirect " ++ location

def print (config : Config) (command : Command) (result : Option Result) : Output :=
  match command, result with
  | .loginUrl provider, _ => ⟨0, Endpoint.login config.apiUrl provider ++ "\n", ""⟩
  | .whoami, some (.state s) =>
    match s.user? with
    | some u => ⟨0, u.json.pretty ++ "\n", ""⟩
    | none => ⟨1, "not authenticated\n", ""⟩
  | .visit path, some (.decided d) => ⟨0, printDecision path d ++ "\n", ""⟩
  | .logout, some .loggedOut => ⟨0, "logged out\n", ""⟩
  | _, _ => ⟨1, "", ""⟩

/-- A setting with a NUL stops the program before it has read its arguments. -/
def unsettable : Output := ⟨101, "", "a setting holds a NUL character\n"⟩

def folderOf (c : Console) : Folder :=
  match c.redirects with
  | .file folder => folder
  | .memory _ => .absent

/-- What there is to do once arguments and configuration are read: nothing more than to write an
output, or a command. -/
inductive Plan
  | write (o : Output)
  | perform (config : Config) (command : Command) (token : Option String)

def plan (args : List String) (env : Environment) (settings : Option String) : Plan :=
  match settings.elim (some env) (Dotenv.load env) with
  | none => .write unsettable
  | some env =>
    match Arguments.parse args (env.text? tokenVariable) with
    | .help => .write ⟨0, help, ""⟩
    | .misuse => .write misuse
    | .run command token =>
      match Config.ofEnvironment env with
      | .error e => .write ⟨1, "", "error: " ++ e.message ++ "\n"⟩
      | .ok config => .perform config command token

structure Performance where
  output : Output
  received : List Received
  work : WorkFolder

def perform (config : Config) (command : Command) (token : Option String) (work : WorkFolder)
    (network : Network) (now : UInt64) : Performance :=
  let r : Rehearsal := {
    console := console config (work.find config.stateDir) token now
    network, auth := .overNetwork }
  let (result, r) := match command.goal with
    | none => (none, r)
    | some goal => r.start goal none
  { output := print config command result
    received := r.network.received
    work := work.store config.stateDir (folderOf r.console) }

end ConsoleSession.Cli
