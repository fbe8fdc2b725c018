import ApiReplay.Archive.Name
import ApiReplay.Archive.Reader
import ApiReplay.Files.Removal
import ApiReplay.Http.Identity
import ApiReplay.Run.Event

/-!
# Fetching a corpus

A corpus is published as an archive that keeps everything inside one directory. It is downloaded
into a file without a name. Once all of it is there, its destination is emptied and the entries are
unpacked one after the other, without the directory around them; a fault leaves what was unpacked
before.

## Main definitions

* `Fetch.unpack`: what the entries of an archive leave in a destination.
* `Fetch.Spool`: the file that an archive is kept in.
* `Fetch.download`: the bytes behind an address.
* `Fetch.run`: both, with everything that happens.
-/

namespace ApiReplay.Fetch

open FilePath (Component)
open Files (Disk Refusal)

/-! ### Unpacking -/

/-- Makes a directory and those around it. -/
def makeDirectories (components : List Component) (disk : Disk) : Except Error Unit × Disk :=
  match disk.makeDirectories components with
  | (.ok (), disk) => (.ok (), disk)
  | (.error fault, disk) => (.error (.files fault), disk)

/-- Writes a file into a directory that exists, as far as the contents can be read. -/
def writeFile (components : List Component) (contents : Archive.Contents) (disk : Disk) :
    Except Error Unit × Disk :=
  match disk.write components contents.bytes with
  | (.error fault, disk) => (.error (.files fault), disk)
  | (.ok (), disk) => (contents.fault.elim (.ok ()) fun fault => .error (.files fault), disk)

/-- Unpacks an entry that has a place in the destination. -/
def place (target : List Component) (isDirectory : Bool) (contents : Archive.Contents)
    (disk : Disk) : Except Error Unit × Disk :=
  if isDirectory then makeDirectories target disk
  else
    match makeDirectories target.dropLast disk with
    | (.error e, disk) => (.error e, disk)
    | (.ok (), disk) => writeFile target contents disk

/-- Unpacks entries, the first of which has an index, and counts the test documents. An entry
without a place in the destination is left out, but it has to be readable. -/
def unpackFrom (destination : List Component) (index : Nat) :
    List Archive.Entry → Disk → Except Error Nat × Disk
  | [], disk => (.ok 0, disk)
  | entry :: rest, disk =>
    match entry.contents with
    | .error fault => (.error (.fetch (.entry index fault)), disk)
    | .ok contents =>
      match Archive.inner? entry.name with
      | none => unpackFrom destination (index + 1) rest disk
      | some inner =>
        let isDirectory := Archive.isDirectory entry.name
        match place (destination ++ inner) isDirectory contents disk with
        | (.error e, disk) => (.error e, disk)
        | (.ok (), disk) =>
          let isTest := !isDirectory && (FilePath.lastName? inner).any FilePath.isYamlName
          let (more, disk) := unpackFrom destination (index + 1) rest disk
          (more.map (isTest.toNat + ·), disk)

/-- Unpacks the entries of an archive and counts the test documents. -/
def unpack (destination : List Component) (entries : List Archive.Entry) (disk : Disk) :
    Except Error Nat × Disk :=
  unpackFrom destination 0 entries disk

/-- Unpacks the bytes of an archive into a destination. -/
def install (destination : String) (bytes : List UInt8) (disk : Disk) : Except Error Nat × Disk :=
  match Archive.read bytes with
  | .error fault => (.error (.fetch (.notArchive fault)), disk)
  | .ok entries => unpack (FilePath.components destination) entries disk

/-! ### Downloading -/

/-- The request for an archive, unless it cannot be made. -/
def draft (address : String) : Except Http.Fault Http.Draft :=
  match Http.Url.parse? address.toList with
  | none => .error .malformed
  | some url =>
    let (url, user) := url.takeUser
    if url.hasHost then
      let accepted := [("user-agent", "api-conformance"), ("accept", "application/vnd.github+json")]
      .ok { method := "GET", url, headers := Http.userHeader user ++ accepted }
    else .error (.scheme url)

/-- What the system beneath refuses about the file that a download is kept in. -/
structure Spool where
  opening : Option Refusal := none
  room : Files.Room := none
  /-- Going back to its beginning is refused, once all is written. -/
  rewinding : Option Refusal := none

/-- The bytes that a reply holds, once they are kept, unless its status is that of an error. What
arrives is kept at once, so that a lack of room is noticed before the end of the body. -/
def received (spool : Spool) (draft : Http.Draft) (reply : Http.Reply) :
    Except Error (List UInt8) :=
  if 400 ≤ reply.status ∧ reply.status < 600 then
    .error (.fetch (.download (.status reply.status reply.reason draft.asked)))
  else
    match spool.opening with
    | some refusal => .error (.files (.refused refusal))
    | none =>
      match (Files.taken spool.room (reply.arriving draft.method)).1 with
      | .error fault => .error (.files fault)
      | .ok () => (reply.contents? draft.method).elim (.error (.fetch (.interrupted .body))) .ok

/-- The outcome of a download. -/
structure Download where
  bytes : Except Error (List UInt8)
  sent : List Http.Request := []
  stalled : Bool := false

/-- Downloads what is behind an address. The patience for it has no end. -/
def download (network : Http.Network) (server : Http.Server) (address : String)
    (spool : Spool := {}) : Download :=
  match draft address with
  | .error fault => { bytes := .error (.fetch (.download fault)) }
  | .ok draft =>
    let transfer := Http.send network 1 draft server
    let bytes := match transfer.outcome with
      | .error fault => .error (.fetch (.download fault))
      | .ok (draft, reply) => received spool draft reply
    { bytes, sent := transfer.sent, stalled := transfer.stalled }

/-! ### Both -/

/-- The outcome of fetching a corpus: how many test documents there are now. -/
structure Outcome where
  result : Except Error Nat
  disk : Disk
  events : List Event

/-- Replaces what a destination holds by what is in the bytes of an archive. The events are those
before that. -/
def replace (destination : String) (bytes : List UInt8) (disk : Disk) (spool : Spool)
    (events : List Event) : Outcome :=
  match disk.clear destination with
  | (.error fault, disk) => { result := .error (.files fault), disk, events }
  | (.ok (), disk) =>
    let events := events ++ [.emptied destination]
    match spool.rewinding with
    | some refusal => { result := .error (.files (.refused refusal)), disk, events }
    | none =>
      match install destination bytes disk with
      | (.error e, disk) => { result := .error e, disk, events }
      | (.ok files, disk) =>
        { result := .ok files, disk, events := events ++ [.unpacked files destination] }

/-- Replaces what a destination holds by the archive behind an address. -/
def run (network : Http.Network) (server : Http.Server) (destination address : String)
    (disk : Disk) (spool : Spool := {}) : Outcome :=
  let download := download network server address spool
  let start : List Event := [.fetchStarted destination, .requested download.sent download.stalled]
  match download.bytes with
  | .error e => { result := .error e, disk, events := start }
  | .ok bytes => replace destination bytes disk spool (start ++ [.downloaded bytes.length address])

end ApiReplay.Fetch
