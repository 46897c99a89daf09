import ConsoleSession.Cli.Program
import ConsoleSession.Http.Wire
import Std.Async.DNS
import Std.Async.TCP
import Std.Time.DateTime.Timestamp

/-!
The program itself: reads the environment, the settings file and the intent's folder, carries calls
over unencrypted connections, and writes what the command prints.
-/

namespace ConsoleSession.Main

open Std.Async (DNS.getAddrInfo)
open Std.Async.TCP.Socket (Client)

def seconds : IO UInt64 := do
  let now ← Std.Time.Timestamp.now
  return UInt64.ofNat now.toSecondsSinceUnixEpoch.val.toNat

def socketAddress (port : UInt16) : Std.Net.IPAddr → Std.Net.SocketAddress
  | .v4 addr => .v4 ⟨addr, port⟩
  | .v6 addr => .v6 ⟨addr, port⟩

partial def receive (client : Client) (got : ByteArray) : IO ByteArray := do
  match ← (client.recv? 65536).block with
  | some bytes => receive client (got ++ bytes)
  | none => return got

def converse (host : String) (port : UInt16) (octets : Utf8.Octets) : IO ByteArray := do
  let addresses ← (DNS.getAddrInfo host (toString port)).block
  match addresses[0]? with
  | none => throw (IO.userError "no address")
  | some address =>
    let client ← Client.mk
    (client.connect (socketAddress port address)).block
    (client.send ⟨octets.toArray⟩).block
    receive client ByteArray.empty

def peer (u : Url) : Option (String × UInt16) := do
  let authority ← u.authority
  let port ← authority.port <|> Url.defaultPort? u.scheme
  let host := match authority.host with
    | .ipv6 pieces => String.ofList (((Url.Host.ipv6 pieces).chars.drop 1).dropLast)
    | host => String.ofList host.chars
  if u.scheme = "http".toList then some (host, UInt16.ofNat port) else none

def exchange (jar : CookieJar) (a : Attempt) : IO (Exchange × CookieJar) := do
  match Request.build a with
  | .error why => return (.failed why, jar)
  | .ok r =>
    let now := (← seconds).toNat
    let answer? ← try
        match peer r.url with
        | none => pure none
        | some (host, port) =>
          let got ← converse host port (Wire.request r (jar.lines r.url now))
          pure (Wire.answer got.toList)
      catch _ => pure none
    match answer? with
    | none => return (.failed r.unsent, jar)
    | some answer =>
      let e : Exchange := .answered answer.status answer.body answer.whole
      return (e, jar.after r.url now answer.setCookie)

mutual

partial def settle (jar : CookieJar) (c : Console) : IO Console := do
  match c.ready with
  | [] => return c
  | s :: _ => serve jar (c.apply (.turn s)) s

partial def serve (jar : CookieJar) (c : Console) (s : Strand) : IO Console := do
  match c.outgoing s with
  | none => settle jar c
  | some call =>
    let (e, jar) ← exchange jar (call.attempt c.base)
    serve jar ((c.apply (.tick (← seconds))).apply (call.event e)) s

end

def resultOf (c : Console) : Option Result :=
  c.tasks.head?.bind (·.stage.returned Json.parse?)

def intentFile (dir : String) : String := dir ++ "/" ++ Folder.fileName

def readFolder (dir : String) : IO Folder := do
  try
    let bytes ← IO.FS.readBinFile (intentFile dir)
    return .holding bytes.toList
  catch _ =>
    let folder := System.mkFilePath [dir]
    if ← (System.mkFilePath [intentFile dir]).isDir then return .occupied
    else if ← folder.isDir then return .empty
    else if ← folder.pathExists then return .plainFile
    else return .absent

def writeFolder (dir : String) (before after : Folder) : IO Unit := do
  if before ≠ after then
    match after with
    | .holding octets =>
      IO.FS.createDirAll dir
      IO.FS.writeBinFile (intentFile dir) ⟨octets.toArray⟩
    | .empty => IO.FS.removeFile (intentFile dir)
    | _ => return ()

def settings : Nat → String → IO (Option String)
  | 0, _ => return none
  | fuel + 1, up => do
    try
      return some (← IO.FS.readFile (up ++ ".env"))
    catch _ => settings fuel (up ++ "../")

def environment (text : Option String) : IO Environment := do
  let names := [Cli.tokenVariable] ++ Config.Variable.all.map (·.name) ++
    text.elim [] Dotenv.mentioned
  let set ← names.filterMapM fun name => do
    return (← IO.getEnv name).map fun value => (name, Utf8.ofString value)
  return fun name => (set.find? (·.1 == name)).map (·.2)

def write (o : Cli.Output) : IO UInt32 := do
  IO.print o.out
  IO.eprint o.err
  return UInt32.ofNat o.code

def perform (config : Config) (command : Cli.Command) (token : Option String) : IO UInt32 := do
  match command.goal with
  | none => write (Cli.print config command none)
  | some goal =>
    let before ← readFolder config.stateDir
    let c := Cli.console config before token (← seconds)
    let c ← settle [] (c.apply (.spawn goal))
    writeFolder config.stateDir before (Cli.folderOf c)
    write (Cli.print config command (resultOf c))

end ConsoleSession.Main

def main (args : List String) : IO UInt32 := do
  let text ← ConsoleSession.Main.settings 32 ""
  match ConsoleSession.Cli.plan args (← ConsoleSession.Main.environment text) text with
  | .write o => ConsoleSession.Main.write o
  | .perform config command token => ConsoleSession.Main.perform config command token
