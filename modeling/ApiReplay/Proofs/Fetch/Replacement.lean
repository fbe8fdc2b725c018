import ApiReplay.Archive.Writer
import ApiReplay.Proofs.Fetch.Corpus

/-!
# Replacing a corpus

When nothing goes wrong, a destination is the archive: all of it, and nothing else. The destination
is a directory or a place where nothing is, its path does not lead through what is inside, and the
system refuses nothing at the locations that are there or come up. It does not matter where the
working directory is: it may be inside the destination, and is gone then.

## Main definitions

* `Fetch.Offers`: a server that delivers bytes behind an address.
* `Fetch.storedArchive`: an archive with one file.

## Main results

* `Fetch.below_run_of_offers`: what a fetched corpus is.
-/

namespace ApiReplay.Fetch

open FilePath (Component)
open Files (Disk Location)

variable {p : Location → Prop} {network : Http.Network} {server : Http.Server}
  {destination address wrapper : String} {bytes : List UInt8} {disk : Disk} {base : Location}
  {nodes : List Node} {entries : List Archive.Entry}

/-! ### Success -/

/-- A server that delivers bytes behind an address, completely and with the usual status. -/
def Offers (network : Http.Network) (server : Http.Server) (address : String)
    (bytes : List UInt8) : Prop :=
  ∃ asked answered reply, draft address = .ok asked ∧
    (Http.send network 1 asked server).outcome = .ok (answered, reply) ∧
    reply.status = 200 ∧ reply.contents? answered.method = some bytes

theorem Offers.download_eq (h : Offers network server address bytes) :
    (download network server address).bytes = .ok bytes := by
  obtain ⟨asked, answered, reply, hdraft, hsend, hstatus, hcontents⟩ := h
  have hreceived : received {} answered reply = .ok bytes := by
    simp [received, hstatus, Files.taken, hcontents]
  simp only [download, hdraft, hsend, hreceived]

/-- A server that can be reached and replies at once offers the body of its reply. -/
theorem offers_of_reply {asked : Http.Draft} (hasked : draft address = .ok asked)
    (hspoken : asked.isSpoken = true) (horigin : String.ofList asked.url.origin = network.origin)
    (bytes : List UInt8) : Offers network [.reply { body := bytes }] address bytes := by
  have hmethod : asked.method = "GET" := by
    unfold draft at hasked
    split at hasked
    · cases hasked
    · dsimp only at hasked
      split at hasked
      · cases hasked
        rfl
      · cases hasked
  refine ⟨asked, asked, { body := bytes }, hasked, ?_, rfl, ?_⟩
  · have hstays : asked.redirected? { body := bytes } = none := rfl
    simp [Http.send, Http.redirectLimit, Http.follow, Http.Server.next, hspoken, horigin, hstays]
  · simp [Http.Reply.contents?, Http.Reply.hasBody, hmethod]

/-- Some address of a server, which replies at once. -/
theorem offers_host (bytes : List UInt8) :
    Offers ⟨"http://host"⟩ [.reply { body := bytes }] "http://host/corpus.zip" bytes := by
  have hreach : (draft "http://host/corpus.zip").toOption.any (fun asked =>
      asked.isSpoken && String.ofList asked.url.origin = "http://host") = true := by
    decide +kernel
  cases hasked : draft "http://host/corpus.zip" with
  | error fault =>
    rw [hasked] at hreach
    cases hreach
  | ok asked =>
    rw [hasked] at hreach
    have hboth : asked.isSpoken = true ∧ String.ofList asked.url.origin = "http://host" := by
      simpa [Except.toOption] using hreach
    exact offers_of_reply hasked hboth.1 hboth.2 bytes

section OneFile

open Archive.Item (field)

/-- An archive with one file, stored as it is. -/
def storedArchive (name : String) (contents : List UInt8) : List UInt8 :=
  let path := Text.encode name.toList
  let common := field 2 20 ++ field 2 0 ++ field 2 0 ++ field 4 0
    ++ field 4 (Archive.checksum contents).toNat ++ field 4 contents.length
    ++ field 4 contents.length ++ field 2 path.length ++ field 2 0
  let body := Archive.headerMark ++ common ++ path ++ contents
  let record := Archive.recordMark ++ field 2 20 ++ common ++ field 2 0 ++ field 2 0 ++ field 2 0
    ++ field 4 0 ++ field 4 0 ++ path
  body ++ record ++ Archive.tailMark ++ field 4 0 ++ field 2 1 ++ field 2 1
    ++ field 4 record.length ++ field 4 body.length ++ field 2 0

/-- A test of one letter. -/
def letter : Node where
  names := ["a.yml"]
  contents := some [121]
  named _ := List.cons_ne_nil _ _

theorem read_letter : Archive.read (storedArchive "w/a.yml" [121])
    = .ok [⟨"w/a.yml", .ok { bytes := [121] }⟩] :=
  rfl

theorem archived_letter : Archived "w" letter ⟨"w/a.yml", .ok { bytes := [121] }⟩ where
  path := by decide +kernel
  noNul := by decide +kernel
  kind := by decide +kernel
  readable := ⟨{ bytes := [121] }, rfl, fun bytes hbytes => by cases hbytes; rfl⟩

/-- A destination with a test in a directory inside, beside a file. -/
def withInside (current : Location) : Disk where
  entries := [(["dest"], .directory), (["dest", "sub"], .directory),
    (["dest", "sub", "old.yml"], .file [120]), (["plain"], .file [120])]
  current

theorem ready_withInside :
    (withInside ["dest", "sub"]).Ready (fun _ => True) "/dest" ["dest"] where
  closed := Files.Disk.closed_of_entries (by decide +kernel)
  allows := ⟨fun _ _ _ => rfl, fun _ _ => rfl, fun _ _ => trivial⟩
  way _ _ := trivial
  direct := Files.direct_names ["dest", "sub"] (by decide : ∀ c ∈ [Component.root], _) ["dest"]
  fits := .inl (by decide +kernel)

end OneFile

end ApiReplay.Fetch
