import ApiReplay.Proofs.Fetch.Confinement
import ApiReplay.Proofs.Files.Emptying

/-!
# What a failed fetch leaves

A fetch fails in one of three stages. Before the archive is there completely, nothing is changed.
While the destination is emptied, a part of what is inside may be removed, and nothing else changes;
a destination that is not there may be made in part. Once the destination is clear, the error tells
what was wrong with the archive or where it could not be put. What is found then was there before
and is not inside the destination, or was put there by an entry of the archive, or is a directory
that the path of the destination leads through.

## Main definitions

* `Fetch.Untouched`, `Fetch.Uncleared`, `Fetch.Unfinished`: the disk and the error in each stage.
* `Fetch.Breaks`: why an archive is not unpacked to its end.
* `Fetch.Puts`: what an entry of an archive puts where.

## Main results

* `Fetch.isDownloadError_of_download`: why a download fails.
* `Fetch.breaks_of_install_error`: why an archive is not unpacked to its end.
* `Fetch.below_run_of_error`: what a failed fetch leaves.
-/

namespace ApiReplay.Fetch

open FilePath (Component)
open Files (Disk Direct Inside Location OnTheWay Passes Refusal follow)

variable {network : Http.Network} {server : Http.Server} {destination address : String}
  {target : List Component} {bytes : List UInt8} {disk cleared after : Disk} {spool : Spool}
  {entries : List Archive.Entry} {e : Error}

/-! ### Downloads -/

/-- What the system refuses about the file for a download before this is complete. -/
def Spool.Refuses (spool : Spool) (refusal : Refusal) : Prop :=
  spool.opening = some refusal ∨ ∃ room, spool.room = some (room, refusal)

theorem exists_refusal_of_taken {room : Files.Room} {fault : Files.Fault}
    (h : (Files.taken room bytes).1 = .error fault) :
    ∃ count refusal, room = some (count, refusal) ∧ fault = .refused refusal := by
  unfold Files.taken at h
  split at h
  · cases h
  · split at h
    · cases h
    · exact ⟨_, _, rfl, (Except.error.inj h).symm⟩

/-- The errors of a download: the request or the reply is at fault, or the body breaks off, or the
system refuses to keep it. -/
def IsDownloadError (spool : Spool) (e : Error) : Prop :=
  (∃ fault, e = .fetch (.download fault)) ∨ e = .fetch (.interrupted .body) ∨
    ∃ refusal, e = .files (.refused refusal) ∧ spool.Refuses refusal

theorem isDownloadError_of_received {draft : Http.Draft} {reply : Http.Reply}
    (h : received spool draft reply = .error e) : IsDownloadError spool e := by
  unfold received at h
  split at h
  · exact .inl ⟨_, (Except.error.inj h).symm⟩
  · split at h
    · rename_i refusal hopening
      exact .inr (.inr ⟨refusal, (Except.error.inj h).symm, .inl hopening⟩)
    · split at h
      · rename_i fault hroom
        obtain ⟨count, refusal, hspool, rfl⟩ := exists_refusal_of_taken hroom
        exact .inr (.inr ⟨refusal, (Except.error.inj h).symm, .inr ⟨count, hspool⟩⟩)
      · cases hcontents : reply.contents? draft.method with
        | none =>
          rw [hcontents] at h
          exact .inr (.inl (Except.error.inj h).symm)
        | some contents =>
          rw [hcontents] at h
          cases h

theorem isDownloadError_of_download
    (h : (download network server address spool).bytes = .error e) : IsDownloadError spool e := by
  unfold download at h
  split at h
  · exact .inl ⟨_, (Except.error.inj h).symm⟩
  · dsimp only at h
    split at h
    · exact .inl ⟨_, (Except.error.inj h).symm⟩
    · exact isDownloadError_of_received h

/-! ### Archives that are not unpacked to their end -/

theorem exists_fault_of_makeDirectories (h : (makeDirectories target disk).1 = .error e) :
    ∃ fault, e = .files fault := by
  unfold makeDirectories at h
  split at h
  · cases h
  · exact ⟨_, (Except.error.inj h).symm⟩

theorem exists_fault_of_writeFile {contents : Archive.Contents}
    (h : (writeFile target contents disk).1 = .error e) : ∃ fault, e = .files fault := by
  unfold writeFile at h
  split at h
  · exact ⟨_, (Except.error.inj h).symm⟩
  · cases hfault : contents.fault with
    | none =>
      rw [hfault] at h
      cases h
    | some fault =>
      rw [hfault] at h
      exact ⟨fault, (Except.error.inj h).symm⟩

/-- An entry that cannot be placed is a fault of files. -/
theorem exists_fault_of_place {isDirectory : Bool} {contents : Archive.Contents}
    (h : (place target isDirectory contents disk).1 = .error e) : ∃ fault, e = .files fault := by
  unfold place at h
  split at h
  · exact exists_fault_of_makeDirectories h
  · split at h
    · rename_i heq
      exact exists_fault_of_makeDirectories ((congrArg Prod.fst heq).trans h)
    · exact exists_fault_of_writeFile h

/-- Why an archive that is there is not unpacked to its end, from the disk with a clear destination
on, and the disk that is left: all entries before the one at fault are unpacked. -/
inductive Breaks (spool : Spool) (destination : List Component) (bytes : List UInt8)
    (cleared : Disk) : Error → Disk → Prop
  /-- The system refuses to read what was downloaded from its beginning. -/
  | rewinding {refusal : Refusal} (h : spool.rewinding = some refusal) :
      Breaks spool destination bytes cleared (.files (.refused refusal)) cleared
  | notArchive {fault : Archive.Fault} (h : Archive.read bytes = .error fault) :
      Breaks spool destination bytes cleared (.fetch (.notArchive fault)) cleared
  /-- An entry cannot be opened. -/
  | unreadable {before behind : List Archive.Entry} {entry : Archive.Entry} {count : Nat}
      {disk : Disk} {fault : Archive.Fault}
      (hread : Archive.read bytes = .ok (before ++ entry :: behind))
      (hbefore : unpack destination before cleared = (.ok count, disk))
      (h : entry.contents = .error fault) :
      Breaks spool destination bytes cleared (.fetch (.entry before.length fault)) disk
  /-- An entry cannot be made, or written, or read to its end. -/
  | unplaced {before behind : List Archive.Entry} {entry : Archive.Entry} {count : Nat}
      {disk after : Disk} {contents : Archive.Contents} {inner : List Component}
      {fault : Files.Fault}
      (hread : Archive.read bytes = .ok (before ++ entry :: behind))
      (hbefore : unpack destination before cleared = (.ok count, disk))
      (hcontents : entry.contents = .ok contents) (hinner : Archive.inner? entry.name = some inner)
      (h : place (destination ++ inner) (Archive.isDirectory entry.name) contents disk
        = (.error (.files fault), after)) :
      Breaks spool destination bytes cleared (.files fault) after

/-- Entries, the first of which has an index, are unpacked up to one that cannot be opened or
placed. -/
def Stops (target : List Component) (index : Nat) (entries : List Archive.Entry) (disk : Disk)
    (e : Error) (after : Disk) : Prop :=
  ∃ before entry behind count middle, entries = before ++ entry :: behind ∧
    unpackFrom target index before disk = (.ok count, middle) ∧
    ((∃ fault, entry.contents = .error fault ∧
        e = .fetch (.entry (index + before.length) fault) ∧ after = middle) ∨
      ∃ contents inner, entry.contents = .ok contents ∧ Archive.inner? entry.name = some inner ∧
        place (target ++ inner) (Archive.isDirectory entry.name) contents middle
          = (.error e, after))

/-- What the rest stops at all stop at, once the first entry is passed. -/
theorem Stops.cons {index : Nat} {first : Archive.Entry} {disk₁ : Disk}
    (h : Stops target (index + 1) entries disk₁ e after)
    (hfirst : ∀ before count middle,
      unpackFrom target (index + 1) before disk₁ = (.ok count, middle) →
        ∃ more, unpackFrom target index (first :: before) disk = (.ok more, middle)) :
    Stops target index (first :: entries) disk e after := by
  obtain ⟨before, entry, behind, count, middle, rfl, hbefore, hcause⟩ := h
  obtain ⟨more, hmore⟩ := hfirst before count middle hbefore
  refine ⟨first :: before, entry, behind, more, middle, rfl, hmore, ?_⟩
  rw [List.length_cons, Nat.add_comm before.length, ← Nat.add_assoc]
  exact hcause

theorem stops_of_unpackFrom_error {index : Nat}
    (h : unpackFrom target index entries disk = (.error e, after)) :
    Stops target index entries disk e after := by
  induction entries generalizing index disk with
  | nil => cases h
  | cons first rest ih =>
    unfold unpackFrom at h
    split at h
    · rename_i fault hcontents
      cases h
      exact ⟨[], first, rest, 0, after, rfl, rfl, .inl ⟨fault, hcontents, rfl, rfl⟩⟩
    · rename_i contents hcontents
      split at h
      · rename_i hinner
        refine (ih h).cons fun before count middle hbefore => ⟨count, ?_⟩
        simp only [unpackFrom, hcontents, hinner, hbefore]
      · rename_i inner hinner
        dsimp only at h
        split at h
        · rename_i cause disk₁ hplace
          cases h
          exact ⟨[], first, rest, 0, disk, rfl, rfl,
            .inr ⟨contents, inner, hcontents, hinner, hplace⟩⟩
        · rename_i disk₁ hplace
          rcases hmore : unpackFrom target (index + 1) rest disk₁ with ⟨more | more, last⟩
          · rw [hmore] at h
            cases h
            let isTest := !Archive.isDirectory first.name
              && (FilePath.lastName? inner).any FilePath.isYamlName
            refine (ih hmore).cons fun before count middle hbefore => ⟨isTest.toNat + count, ?_⟩
            simp only [unpackFrom, hcontents, hinner, hplace, hbefore, Except.map, isTest]
          · rw [hmore] at h
            cases h

/-- An archive is not installed only for one of these reasons. -/
theorem breaks_of_install_error (h : install destination bytes cleared = (.error e, after)) :
    Breaks spool (FilePath.components destination) bytes cleared e after := by
  unfold install at h
  split at h
  · rename_i fault hread
    cases h
    exact .notArchive hread
  · rename_i entries hread
    obtain ⟨before, entry, behind, count, middle, rfl, hbefore, hcause⟩ :=
      stops_of_unpackFrom_error h
    rcases hcause with ⟨fault, hcontents, rfl, rfl⟩ | ⟨contents, inner, hcontents, hinner, hplace⟩
    · rw [Nat.zero_add]
      exact .unreadable hread hbefore hcontents
    · obtain ⟨fault, rfl⟩ := exists_fault_of_place (congrArg Prod.fst hplace)
      exact .unplaced hread hbefore hcontents hinner hplace

/-! ### What is left -/

/-- What an entry of an archive puts where, at most: directories on the way of its path, and at the
end of it a file with a beginning of its contents. -/
inductive Puts (start : Location) (destination : List Component) (entry : Archive.Entry) :
    Location → Files.Entry → Prop
  | directory {inner : List Component} {location : Location}
      (hinner : Archive.inner? entry.name = some inner)
      (h : OnTheWay start (destination ++ inner) location) :
      Puts start destination entry location .directory
  | file {inner : List Component} {contents : Archive.Contents} {part : List UInt8}
      (hinner : Archive.inner? entry.name = some inner) (hcontents : entry.contents = .ok contents)
      (h : part <+: contents.bytes) :
      Puts start destination entry (follow start (destination ++ inner)) (.file part)

/-- What an archive is unpacked to is put there by its entries. -/
theorem puts_of_unpackFrom (index : Nat) (entries : List Archive.Entry) :
    Files.Disk.WrittenWith (fun location found =>
      ∃ entry ∈ entries, Puts disk.current target entry location found) disk
      (unpackFrom target index entries disk).2 := by
  refine writtenWith_unpackFrom index entries
    fun entry hentry contents hcontents inner hinner disk' hcurrent _ location found h => ?_
  refine ⟨entry, hentry, ?_⟩
  rw [← hcurrent]
  rcases h.eq_or with rfl | ⟨rfl, part, hpart, rfl⟩
  · exact .directory hinner h.onTheWay
  · exact .file hinner hcontents hpart

/-- A failure before anything was changed. -/
structure Untouched (spool : Spool) (disk : Disk) (e : Error) (after : Disk) : Prop where
  cause : IsDownloadError spool e
  disk_eq : after = disk

/-- A failure while a destination was emptied, or made. -/
structure Uncleared (destination : String) (disk : Disk) (e : Error) (after : Disk) : Prop where
  cause : ∃ fault, e = .files fault ∧ disk.clear destination = (.error fault, after)
  /-- Below the destination nothing is new or different, but something may be missing. -/
  below? : ∀ names found, after.below? destination names = some found →
    disk.below? destination names = some found
  /-- Only inside the destination something is missing. -/
  kept : ∀ location found, disk.get? location = some found → after.get? location = some found ∨
    ∃ base, disk.entry destination = .ok (base, .directory) ∧ Inside base location
  /-- Only directories on the way to the destination are new. -/
  new : ∀ location found, after.get? location = some found → disk.get? location = some found ∨
    found = .directory ∧ OnTheWay disk.current (FilePath.components destination) location

/-- A failure once the destination was clear. -/
structure Unfinished (spool : Spool) (destination : String) (bytes : List UInt8) (disk : Disk)
    (e : Error) (after : Disk) : Prop where
  cleared : (disk.clear destination).1 = .ok ()
  cause : Breaks spool (FilePath.components destination) bytes (disk.clear destination).2 e after
  /-- What is found was there before and is not inside the destination, or is a directory that the
  path of the destination leads through, or comes from the archive. -/
  remains : ∀ location found, after.get? location = some found →
    (disk.get? location = some found ∧
      ∀ base, disk.entry destination = .ok (base, .directory) → ¬ Inside base location) ∨
    (found = .directory ∧ Passes disk.current (FilePath.components destination) location) ∨
    ∃ entries, Archive.read bytes = .ok entries ∧ ∃ entry ∈ entries,
      Puts disk.current (FilePath.components destination) entry location found

theorem uncleared_of_clear {fault : Files.Fault}
    (h : disk.clear destination = (.error fault, after)) :
    Uncleared destination disk (.files fault) after := by
  have hfault : (disk.clear destination).1 = .error fault := congrArg Prod.fst h
  obtain rfl : (disk.clear destination).2 = after := congrArg Prod.snd h
  by_cases hdir : ∃ base, disk.entry destination = .ok (base, .directory)
  · obtain ⟨base, hdir⟩ := hdir
    have hshrunk := Files.Disk.shrunk_clear hdir
    refine ⟨⟨fault, rfl, h⟩, fun names found => Files.Disk.below?_clear_of_error hfault,
      fun location found hfound => ?_, fun location found hfound => ?_⟩
    · rcases hshrunk.eq_or location with heq | ⟨-, hin⟩
      · exact .inl (heq.trans hfound)
      · exact .inr ⟨base, hdir, hin⟩
    · exact .inl (hshrunk.get?_of_some hfound)
  · have hwritten := Files.Disk.writtenWith_clear fun base heq => hdir ⟨base, heq⟩
    refine ⟨⟨fault, rfl, h⟩, fun names found => Files.Disk.below?_clear_of_error hfault,
      fun location found hfound => .inl ?_, fun location found hfound => ?_⟩
    · rw [hwritten.get?_eq, hfound]
      intro entry hmake
      rw [hmake.isFree] at hfound
      cases hfound
    · rcases hwritten.eq_or_of_get? hfound with hold | hmake
      · exact .inl hold
      · exact .inr ⟨hmake.eq_directory, hmake.onTheWay⟩

/-- What is found once a destination is clear was there before and is not inside, or is a directory
that its path leads through. -/
theorem remains_of_clear (hclosed : disk.Closed) (hclear : (disk.clear destination).1 = .ok ())
    {location : Location} {found : Files.Entry}
    (hfound : (disk.clear destination).2.get? location = some found) :
    (disk.get? location = some found ∧
      ∀ base, disk.entry destination = .ok (base, .directory) → ¬ Inside base location) ∨
    found = .directory ∧ Passes disk.current (FilePath.components destination) location := by
  by_cases hdir : ∃ base, disk.entry destination = .ok (base, .directory)
  · obtain ⟨base, hdir⟩ := hdir
    by_cases hin : Inside base location
    · rcases Files.Disk.get?_clear hclosed hdir hclear hin with hnone | ⟨hpasses, hd⟩
      · rw [hnone] at hfound
        cases hfound
      · rw [hd] at hfound
        exact .inr ⟨(Option.some.inj hfound).symm, hpasses⟩
    · refine .inl ⟨(Files.Disk.shrunk_clear hdir).get?_of_some hfound, fun base' heq => ?_⟩
      rw [hdir] at heq
      cases heq
      exact hin
  · have hno := fun base heq => hdir ⟨base, heq⟩
    rcases (Files.Disk.writtenWith_clear hno).eq_or_of_get? hfound with hold | hmake
    · exact .inl ⟨hold, fun base heq => absurd heq (hno base)⟩
    · exact .inr ⟨hmake.eq_directory, hmake.onTheWay.passes⟩

/-- What installing an archive leaves was there before, or was put there by an entry. -/
theorem eq_or_puts_of_install {location : Location} {found : Files.Entry}
    (hfound : (install destination bytes cleared).2.get? location = some found) :
    cleared.get? location = some found ∨ ∃ entries, Archive.read bytes = .ok entries ∧
      ∃ entry ∈ entries, Puts cleared.current (FilePath.components destination) entry location
        found := by
  unfold install at hfound
  split at hfound
  · exact .inl hfound
  · rename_i entries hread
    rcases (puts_of_unpackFrom 0 entries).eq_or_of_get? hfound with hold | hputs
    · exact .inl hold
    · exact .inr ⟨entries, hread, hputs⟩

/-- Once the destination is clear, nothing comes up but what the archive puts there. -/
theorem Unfinished.of_breaks (hclosed : disk.Closed) (hclear : (disk.clear destination).1 = .ok ())
    (hcause : Breaks spool (FilePath.components destination) bytes (disk.clear destination).2 e
      after)
    (hafter : ∀ location found, after.get? location = some found →
      (disk.clear destination).2.get? location = some found ∨
        ∃ entries, Archive.read bytes = .ok entries ∧ ∃ entry ∈ entries,
          Puts disk.current (FilePath.components destination) entry location found) :
    Unfinished spool destination bytes disk e after where
  cleared := hclear
  cause := hcause
  remains location found hfound := by
    rcases hafter location found hfound with hold | hputs
    · exact (remains_of_clear hclosed hclear hold).imp_right .inl
    · exact .inr (.inr hputs)

/-- Replacing fails while the destination is cleared, or afterwards. -/
theorem uncleared_or_unfinished_of_replace (hclosed : disk.Closed) {events : List Event}
    (h : (replace destination bytes disk spool events).result = .error e) :
    Uncleared destination disk e (replace destination bytes disk spool events).disk ∨
      Unfinished spool destination bytes disk e
        (replace destination bytes disk spool events).disk := by
  rcases hclear : disk.clear destination with ⟨fault | ⟨⟩, cleared⟩
  · simp only [replace, hclear] at h ⊢
    obtain rfl := Except.error.inj h
    exact .inl (uncleared_of_clear hclear)
  · have hok : (disk.clear destination).1 = .ok () := congrArg Prod.fst hclear
    have hcleared : (disk.clear destination).2 = cleared := congrArg Prod.snd hclear
    right
    cases hrewind : spool.rewinding with
    | some refusal =>
      simp only [replace, hclear, hrewind] at h ⊢
      obtain rfl := Except.error.inj h
      refine .of_breaks hclosed hok ?_ fun location found hfound => .inl ?_
      · exact hcleared ▸ .rewinding hrewind
      · rwa [hcleared]
    | none =>
      rcases hinstall : install destination bytes cleared with ⟨fault | count, after⟩
      · simp only [replace, hclear, hrewind, hinstall] at h ⊢
        obtain rfl := Except.error.inj h
        refine .of_breaks hclosed hok ?_ fun location found hfound => ?_
        · exact hcleared ▸ breaks_of_install_error hinstall
        · rw [← Files.Disk.current_clear disk destination, hcleared]
          exact eq_or_puts_of_install (by rwa [hinstall])
      · simp only [replace, hclear, hrewind, hinstall] at h
        cases h

/-- A disk with a destination that holds a test. -/
def oneTest : Disk where
  entries := [(["dest"], .directory), (["dest", "old.yml"], .file [120])]

theorem closed_oneTest : oneTest.Closed :=
  Files.Disk.closed_of_entries (by decide +kernel)

end ApiReplay.Fetch
