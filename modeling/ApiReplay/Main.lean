import Std.Async.DNS
import Std.Async.TCP
import ApiReplay.Http.Wire
import ApiReplay.Program

/-!
# The program as it is started

The program finds its settings in the environment, its files on the disk and its service on the
network. It reads the files that its command line and its configuration name, and those whose names
stand on its standard input, one on a line; so the names of a whole corpus are piped into it.

What a run asks of a service is settled by the answers before. So the program runs on the answers
that are known until it meets a request without one, sends that request, and runs again with one
answer more. Only plain connections are opened.
-/

open ApiReplay

/-! ### Settings and files -/

/-- The variables of the environment that the program knows. -/
def readEnvironment : IO Environment := do
  let bindings ← Environment.names.filterMapM fun name => do
    return (← IO.getEnv name).map fun value => (name, value)
  return { bindings }

/-- Puts a file on a disk, with the directories around it, when it can be read. -/
def addFile (disk : Files.Disk) (path : String) : IO Files.Disk := do
  try
    let contents ← IO.FS.readBinFile path
    return disk.withFile path contents.toList
  catch _ => return disk

/-- The lines of a stream up to its end. -/
partial def readLines (stream : IO.FS.Stream) : IO (List String) := do
  let line ← stream.getLine
  if line.isEmpty then return []
  return String.ofList (line.toList.filter (· ≠ '\n')) :: (← readLines stream)

/-- Removes everything in a directory. -/
def emptyDirectory (path : String) : IO Unit := do
  try IO.FS.removeDirAll path catch _ => return
  IO.FS.createDirAll path

/-- Writes what a disk holds and another does not. -/
def writeNew (before after : Files.Disk) : IO Unit := do
  for (location, entry) in after.entries.reverse do
    if before.get? location ≠ some entry then
      let path := "/" ++ String.intercalate "/" location
      match entry with
      | .directory => IO.FS.createDirAll path
      | .file contents => IO.FS.writeBinFile path ⟨contents.toArray⟩

/-! ### The network -/

/-- The bytes that arrive on a connection up to its end. -/
partial def receive (client : Std.Async.TCP.Socket.Client) (before : ByteArray) : IO ByteArray := do
  match ← (client.recv? 65536).block with
  | some bytes => receive client (before ++ bytes)
  | none => return before

/-- The addresses of a host in the network. -/
def addressesOf (url : Http.Url) : IO (List Std.Net.SocketAddress) := do
  let host := String.ofList (url.authority.elim [] fun a => a.host)
  let port := UInt16.ofNat ((url.authority.bind fun a => a.port).getD 80)
  let found ← (Std.Async.DNS.getAddrInfo host "").block
  return found.toList.map fun address => match address with
    | .v4 addr => .v4 ⟨addr, port⟩
    | .v6 addr => .v6 ⟨addr, port⟩

/-- What becomes of a request to the host of an address. -/
def exchange (url : Http.Url) (request : Http.Request) : IO Http.Delivery := do
  try
    let client ← Std.Async.TCP.Socket.Client.mk
    let target :: _ ← addressesOf url | return .closed
    (client.connect target).block
    let host := String.ofList (url.authority.elim [] Http.Url.hostText)
    (client.send ⟨(request.bytes host).toArray⟩).block
    let bytes ← receive client .empty
    return ((Http.Reply.ofBytes? bytes.toList).map Http.Delivery.reply).getD .closed
  catch _ => return .closed

/-- Runs the program on known answers, and on those that it needs besides. The time is that since
its start, in thousandths of a second. -/
partial def converse (machine : Http.Server → Machine) (url : Http.Url) (arguments : List String)
    (start : Nat) (known : List Http.Delivery) : IO Program.Outcome := do
  let elapsed := ((← IO.monoMsNow) - start) / 1000
  let outcome :=
    Program.run { machine (known ++ [.silence]) with elapsed } true arguments
  match outcome.isInterrupted, outcome.sent.getLast? with
  | true, some request =>
    converse machine url arguments start (known ++ [← exchange url request])
  | _, _ => return outcome

/-! ### The program -/

/-- Runs the program. -/
def main (arguments : List String) : IO UInt32 := do
  let environment ← readEnvironment
  let alone := fun disk => ({ environment, disk, network := ⟨""⟩, server := [] } : Machine)
  let start := Files.Disk.workingIn (toString (← IO.currentDir))
  let settings ← (Program.settingsFiles environment arguments).foldlM addFile start
  let named := Program.namedFiles (alone settings) arguments
  let piped ← if Program.takesMore (alone settings) arguments then readLines (← IO.getStdin)
    else pure []
  let disk ← (named ++ piped).foldlM addFile settings
  let outcome ← match Program.address? (alone disk) arguments with
    | none => pure (Program.run (alone disk) false arguments)
    | some url =>
      let network : Http.Network := ⟨String.ofList url.origin⟩
      converse (fun server => { environment, disk, network, server }) url arguments
        (← IO.monoMsNow) []
  IO.print outcome.output
  for line in outcome.log do IO.eprintln line
  IO.eprint outcome.complaint
  outcome.emptied.forM emptyDirectory
  writeNew disk outcome.disk
  return UInt32.ofNat outcome.exit
