import ApiReplay.Fetch
import ApiReplay.Proofs.Files.Directories
import Mathlib.Data.List.Infix

/-!
# Where an archive is unpacked

A name is checked as a whole: no beginning of it leads out of the place where it starts. It is
unpacked without its first component, and what remains may well lead out of there, by one level.
This tells which names do so: an archive stays inside its destination for sure just when none of
its names escapes, and no archive gets further than into the directory that the destination lies in.

## Main definitions

* `Fetch.Escapes`: a name that is unpacked outside a destination.
* `Fetch.wayTo`: the smallest disk with a given destination.

## Main results

* `Fetch.isPrefix_follow_of_staysInside`: what the check of a name ensures.
* `Fetch.writtenWith_unpackFrom`: what an archive puts where.
* `Fetch.unpack_confined_iff`: archives stay inside when their names do, and else there is one that
  does not.
-/

namespace ApiReplay.Fetch

open FilePath (Component)
open Files (Disk Location OnTheWay follow follow_concat_name followOne)
open Files.Disk (Written WrittenWith onTheWay_of_ne_directory)

variable {disk disk' : Disk} {destination target inner : List Component} {base : Location}
  {isDirectory : Bool} {contents : Archive.Contents}

/-! ### Names -/

/-- A good name leads out of a place by no beginning of it. -/
theorem isPrefix_follow_of_staysInside (anchor below : Location) {components q : List Component}
    (h : Archive.staysInside below.length components = true) (hq : q <+: components) :
    anchor <+: follow (anchor ++ below) q := by
  induction components generalizing q below with
  | nil =>
    obtain rfl := List.prefix_nil.mp hq
    exact List.prefix_append anchor below
  | cons component rest ih =>
    rcases List.prefix_cons_iff.mp hq with rfl | ⟨more, rfl, hmore⟩
    · exact List.prefix_append anchor below
    · rw [Files.follow_cons]
      cases component with
      | root => simp [Archive.staysInside] at h
      | current => exact ih _ (by simpa only [Archive.staysInside] using h) hmore
      | up =>
        rcases List.eq_nil_or_concat below with rfl | ⟨outer, text, rfl⟩
        · simp [Archive.staysInside] at h
        · rw [List.length_concat] at h
          rw [followOne, List.concat_eq_append, ← List.append_assoc, List.dropLast_concat]
          exact ih _ (by simpa only [Archive.staysInside] using h) hmore
      | name text =>
        rw [followOne, List.append_assoc]
        refine ih (below ++ [text]) ?_ hmore
        rw [List.length_append, List.length_singleton]
        simpa only [Archive.staysInside] using h

/-- What is left of a good name without its first component gets one level up at most. -/
theorem staysInside_of_inner? {name : String} (h : Archive.inner? name = some inner) :
    Archive.staysInside 0 inner = true ∨ Archive.staysInside 1 inner = true := by
  unfold Archive.inner? at h
  split at h
  · rename_i hgood
    have hstays : Archive.staysInside 0 (FilePath.components name) = true := by
      simp only [Archive.isEnclosed, Bool.and_eq_true] at hgood
      exact hgood.2
    cases hc : FilePath.components name with
    | nil => simp [hc] at h
    | cons first rest =>
      obtain rfl : rest = inner := by
        rw [hc, List.drop_one, List.tail_cons] at h
        split at h
        · cases h
        · exact Option.some.inj h
      rw [hc] at hstays
      cases first with
      | root | up => simp [Archive.staysInside] at hstays
      | current => exact .inl (by simpa only [Archive.staysInside] using hstays)
      | name text => exact .inr (by simpa only [Archive.staysInside] using hstays)
  · cases h

/-- Inside its directory a good name stays in the directory that the destination lies in. -/
theorem dropLast_isPrefix_follow (base : Location) {name : String}
    (h : Archive.inner? name = some inner) {q : List Component} (hq : q <+: inner) :
    base.dropLast <+: follow base q := by
  rcases staysInside_of_inner? h with hstays | hstays
  · have hbase := isPrefix_follow_of_staysInside base [] hstays hq
    rw [List.append_nil] at hbase
    exact (List.dropLast_prefix base).trans hbase
  · rcases List.eq_nil_or_concat base with rfl | ⟨outer, text, rfl⟩
    · exact List.nil_prefix
    · rw [List.concat_eq_append, List.dropLast_concat]
      exact isPrefix_follow_of_staysInside outer [text] hstays hq

/-- A name that is unpacked to a location outside a destination, or that has a directory made
there. -/
def Escapes (base : Location) (name : String) : Prop :=
  ∃ inner location, Archive.inner? name = some inner ∧ OnTheWay base inner location ∧
    ¬ base <+: location

/-! ### Writes -/

theorem makeDirectories_snd (target : List Component) (disk : Disk) :
    (makeDirectories target disk).2 = (disk.makeDirectories target).2 := by
  unfold makeDirectories
  split
  all_goals
    rename_i heq
    rw [heq]

theorem writeFile_snd (target : List Component) (contents : Archive.Contents) (disk : Disk) :
    (writeFile target contents disk).2 = (disk.write target contents.bytes).2 := by
  unfold writeFile
  split
  all_goals
    rename_i heq
    rw [heq]

/-- Unpacking an entry writes along its path. -/
theorem writtenWith_place (target : List Component) (isDirectory : Bool)
    (contents : Archive.Contents) (disk : Disk) :
    WrittenWith (disk.MayWrite target contents.bytes) disk
      (place target isDirectory contents disk).2 := by
  have hmake (made : List Component) :=
    Files.Disk.writtenWith_makeDirectories disk made
  unfold place
  split
  · rw [makeDirectories_snd]
    exact (hmake target).mono fun _ _ h => h.mayWrite contents.bytes
  · have houter : WrittenWith (disk.MayWrite target contents.bytes) disk
        (makeDirectories target.dropLast disk).2 := by
      obtain ⟨more, hmore⟩ := List.dropLast_prefix target
      rw [makeDirectories_snd]
      refine (hmake target.dropLast).mono fun location entry h => ?_
      have hlonger := h.longer more
      rw [hmore] at hlonger
      exact hlonger.mayWrite contents.bytes
    split
    · rename_i heq
      rwa [heq] at houter
    · rename_i disk₁ heq
      rw [heq] at houter
      rw [writeFile_snd]
      exact houter.behind (Files.Disk.writtenWith_write disk₁ target contents.bytes)

/-- What an archive puts where is told by its entries, each of which is unpacked on a disk that has
all directories of the first one. -/
theorem writtenWith_unpackFrom {p : Location → Files.Entry → Prop} (index : Nat)
    (entries : List Archive.Entry)
    (hp : ∀ entry ∈ entries, ∀ contents, entry.contents = .ok contents → ∀ inner,
      Archive.inner? entry.name = some inner → ∀ disk' : Disk, disk'.current = disk.current →
        (∀ l, disk.get? l = some .directory → disk'.get? l = some .directory) →
        ∀ location found, disk'.MayWrite (destination ++ inner) contents.bytes location found →
          p location found) :
    WrittenWith p disk (unpackFrom destination index entries disk).2 := by
  induction entries generalizing disk index with
  | nil => exact .refl
  | cons entry rest ih =>
    have hrest := fun e he => hp e (List.mem_cons_of_mem entry he)
    unfold unpackFrom
    split
    · exact .refl
    · rename_i contents hcontents
      split
      · exact ih _ hrest
      · rename_i inner hinner
        have hwritten := writtenWith_place (destination ++ inner) (Archive.isDirectory entry.name)
          contents disk
        have hstep : WrittenWith p disk
            (place (destination ++ inner) (Archive.isDirectory entry.name) contents disk).2 :=
          hwritten.mono fun location found h => hp entry List.mem_cons_self contents hcontents
            inner hinner disk rfl (fun _ => id) location found h
        dsimp only
        split
        · rename_i heq
          rwa [heq] at hstep
        · rename_i disk₁ heq
          rw [heq] at hstep hwritten
          -- What was a directory still is one.
          refine hstep.trans (ih _ fun e he contents hcontents inner hinner disk' hcurrent hkeep =>
            hrest e he contents hcontents inner hinner disk' ?_ fun l hl => ?_)
          · rw [hcurrent, hwritten.current_eq]
          · exact hkeep l (hwritten.isDirectory hl)

/-- All writes of an archive are where its names lead inside the destination, or out of it. -/
theorem written_unpackFrom {p : Location → Prop} (index : Nat) (entries : List Archive.Entry)
    (hp : ∀ entry ∈ entries, ∀ inner, Archive.inner? entry.name = some inner →
      ∀ location, OnTheWay base inner location → p location)
    (hl : disk.locate destination = .ok base) (hd : disk.get? base = some .directory) :
    Written p disk (unpackFrom destination index entries disk).2 := by
  refine writtenWith_unpackFrom index entries
    fun entry hentry _ _ inner hinner disk' hcurrent hkeep location found h => ?_
  have hl' := Files.Disk.locate_mono hcurrent hkeep hl
  exact hp entry hentry inner hinner location
    (onTheWay_of_ne_directory hl' (hkeep base hd) h.onTheWay h.ne_directory)

/-! ### Names that escape -/

/-- Something is where a file was written, also when it was a directory before. -/
theorem isSome_of_writeFile {location : Location} {outer : List Component} {text : String}
    (contents : Archive.Contents) (ha : disk.Allows fun _ => True)
    (hl : disk.locate (outer ++ [.name text]) = .ok location) :
    ((writeFile (outer ++ [.name text]) contents disk).2.get? location).isSome := by
  rw [writeFile_snd]
  by_cases hd : disk.get? location = some .directory
  · exact (Files.Disk.writtenWith_write _ _ _).isSome (by rw [hd]; rfl)
  · rw [Files.Disk.write_eq hl (by simp) hd (ha.permit_eq _ _ trivial), Files.Disk.get?_set]
    split
    · rfl
    · rename_i hne
      cases location with
      | nil => rfl
      | cons first rest => exact absurd ⟨rfl, List.cons_ne_nil first rest⟩ hne

/-- Where there are no files, everything on the path of an entry is there after unpacking it. -/
theorem isSome_of_place (hc : disk.Closed) (ha : disk.Allows fun _ => True)
    (hcurrent : disk.get? disk.current = some .directory)
    (hfree : ∀ location bytes, disk.get? location ≠ some (.file bytes)) (isDirectory : Bool)
    (contents : Archive.Contents) {location : Location}
    (h : OnTheWay disk.current target location) :
    ((place target isDirectory contents disk).2.get? location).isSome := by
  have hmake (made : List Component) : ∃ disk₁, disk.makeDirectories made = (.ok (), disk₁) ∧
      Files.Disk.Made (fun _ => True) disk disk₁ made :=
    Files.Disk.exists_made_makeDirectories hc ha ⟨[], List.nil_prefix, ⟨rfl, hcurrent⟩⟩
      (fun _ _ => hfree _) fun _ _ => trivial
  obtain ⟨outer, text, hp, rfl⟩ := h
  cases isDirectory with
  | true =>
    obtain ⟨disk₁, hmade, hmadeDisk⟩ := hmake target
    have hplace : (place target true contents disk).2 = disk₁ := by
      simp only [place, makeDirectories, hmade, if_true]
    rw [hplace, hmadeDisk.isDirectory_of_prefix hp]
    rfl
  | false =>
    obtain ⟨disk₁, hmade, hmadeDisk⟩ := hmake target.dropLast
    have hplace :
        (place target false contents disk).2 = (writeFile target contents disk₁).2 := by
      simp only [place, makeDirectories, hmade, Bool.false_eq_true, if_false]
    rw [hplace]
    -- The directories around the file were made; the file itself comes last.
    rcases List.eq_nil_or_concat target with rfl | ⟨front, last, rfl⟩
    · simp at hp
    · rw [List.concat_eq_append] at hp hmadeDisk ⊢
      rw [List.dropLast_concat] at hmadeDisk
      rcases List.prefix_concat_iff.mp hp with heq | hshort
      · obtain ⟨rfl, hlast⟩ := List.append_inj' heq rfl
        obtain rfl := List.singleton_inj.mp hlast
        have hl := Files.Disk.locate_concat (.name text)
          (hmadeDisk.current_eq ▸ hmadeDisk.leads) (hmadeDisk.current_eq ▸ hmadeDisk.isDirectory)
        rw [hmadeDisk.current_eq] at hl
        exact isSome_of_writeFile contents hmadeDisk.allows hl
      · rw [writeFile_snd]
        refine (Files.Disk.writtenWith_write _ _ _).isSome ?_
        rw [hmadeDisk.isDirectory_of_prefix hshort]
        rfl

/-- A disk with the way to a location and nothing else. -/
def wayTo (base : Location) : Disk where
  entries := base.inits.map fun location => (location, .directory)
  current := base

theorem get?_wayTo (base location : Location) :
    (wayTo base).get? location = if location <+: base then some .directory else none := by
  have hlookup (locations : List Location) :
      (locations.map fun l => (l, Files.Entry.directory)).lookup location
        = if location ∈ locations then some .directory else none := by
    induction locations with
    | nil => rfl
    | cons first rest ih =>
      rw [List.map_cons, List.lookup_cons, ih]
      by_cases h : location = first
      · simp [h]
      · simp [h, beq_false_of_ne h]
  cases location with
  | nil => rw [Files.Disk.get?_nil, if_pos List.nil_prefix]
  | cons name rest =>
    simp only [← List.mem_inits, ← hlookup]
    rfl

theorem get?_wayTo_self (base : Location) : (wayTo base).get? base = some .directory := by
  rw [get?_wayTo, if_pos List.prefix_rfl]

theorem closed_wayTo (base : Location) : (wayTo base).Closed := by
  intro location h
  rw [get?_wayTo] at h
  split at h
  · rename_i hp
    rw [get?_wayTo, if_pos ((List.dropLast_prefix location).trans hp)]
  · cases h

theorem get?_wayTo_ne_file (base location : Location) (contents : List UInt8) :
    (wayTo base).get? location ≠ some (.file contents) := by
  rw [get?_wayTo]
  split <;> rintro ⟨⟩

/-- Outside a destination there is nothing yet where a name that escapes leads to. -/
theorem get?_wayTo_of_escape {name : String} (hinner : Archive.inner? name = some inner)
    {location : Location} (h : OnTheWay base inner location) (hout : ¬ base <+: location) :
    (wayTo base).get? location = none := by
  obtain ⟨outer, text, hp, rfl⟩ := h
  have hlocation := follow_concat_name base outer text
  have hnear := dropLast_isPrefix_follow base hinner
    ((List.prefix_append outer [.name text]).trans hp)
  rw [get?_wayTo, if_neg]
  intro hwithin
  -- The location is at least as deep as the destination, so it is no directory around it.
  have hdeep : base.length ≤ (follow base (outer ++ [.name text])).length := by
    have hlength := hnear.length_le
    rw [List.length_dropLast] at hlength
    rw [hlocation, List.length_append, List.length_singleton]
    omega
  rw [hwithin.eq_of_length_le hdeep] at hout
  exact hout List.prefix_rfl

/-- An archive with a name that escapes leaves the destination. -/
theorem not_written_of_escapes {name : String} (h : Escapes base name) :
    ¬ Written (base <+: ·) (wayTo base)
      (unpack [.current] [⟨name, .ok { bytes := [] }⟩] (wayTo base)).2 := by
  obtain ⟨inner, location, hinner, hway, hout⟩ := h
  intro hwritten
  have hunpack : (unpack [.current] [⟨name, .ok { bytes := [] }⟩] (wayTo base)).2
      = (place (.current :: inner) (Archive.isDirectory name) { bytes := [] } (wayTo base)).2 := by
    simp only [unpack, unpackFrom, hinner, List.cons_append, List.nil_append]
    split
    all_goals
      rename_i heq
      rw [heq]
  have htarget : OnTheWay base (.current :: inner) location := by
    obtain ⟨outer, text, hp, rfl⟩ := hway
    exact ⟨.current :: outer, text, List.cons_prefix_cons.mpr ⟨rfl, hp⟩, rfl⟩
  have hthere := isSome_of_place (closed_wayTo base)
    ⟨fun _ _ _ => rfl, fun _ _ => rfl, fun _ _ => trivial⟩
    (get?_wayTo_self base) (get?_wayTo_ne_file base) (Archive.isDirectory name) { bytes := [] }
    htarget
  rw [← hunpack, hwritten.get?_eq fun _ => hout, get?_wayTo_of_escape hinner hway hout] at hthere
  cases hthere

/-! ### All archives -/

/-- **Where archives are unpacked.** Whatever an archive holds, it writes in the directory of its
destination or below. It stays inside the destination whenever none of its names escapes, and
nothing less will do: where a name that escapes is allowed, some archive with allowed names writes
outside. -/
theorem unpack_confined_iff (base : Location) (allowed : String → Prop) :
    (∀ (disk : Disk) (destination : List Component) (entries : List Archive.Entry),
      disk.locate destination = .ok base → disk.get? base = some .directory →
        Written (base.dropLast <+: ·) disk (unpack destination entries disk).2) ∧
    ((∀ (disk : Disk) (destination : List Component) (entries : List Archive.Entry),
      disk.locate destination = .ok base → disk.get? base = some .directory →
        (∀ entry ∈ entries, allowed entry.name) →
          Written (base <+: ·) disk (unpack destination entries disk).2) ↔
      ∀ name, allowed name → ¬ Escapes base name) := by
  refine ⟨fun disk destination entries hl hd => ?near, fun h name hname hescapes => ?needed,
    fun h disk destination entries hl hd hallowed => ?enough⟩
  case near =>
    refine written_unpackFrom 0 entries (fun entry _ inner hinner location hway => ?_) hl hd
    obtain ⟨outer, text, hp, rfl⟩ := hway
    exact dropLast_isPrefix_follow base hinner hp
  case needed =>
    refine not_written_of_escapes hescapes (h (wayTo base) [.current] _ ?_ ?_ ?_)
    · rfl
    · exact get?_wayTo_self base
    · intro entry hentry
      rw [List.mem_singleton.mp hentry]
      exact hname
  case enough =>
    refine written_unpackFrom 0 entries (fun entry hentry inner hinner location hway => ?_) hl hd
    by_contra hout
    exact h entry.name (hallowed entry hentry) ⟨inner, location, hinner, hway, hout⟩

/-- A name may be good and yet lead out of the destination once its first component is gone. -/
theorem exists_unpack_outside :
    ∃ (disk : Disk) (entries : List Archive.Entry),
      disk.locate (FilePath.components "dest") = .ok ["dest"] ∧
      disk.get? ["dest"] = some .directory ∧
      entries.map (·.name) = ["foo/../bar.yml"] ∧ Archive.isEnclosed "foo/../bar.yml" = true ∧
      disk.get? ["bar.yml"] = none ∧
      (unpack (FilePath.components "dest") entries disk).2.get? ["bar.yml"]
        = some (.file [120]) ∧
      ¬ Written (["dest"] <+: ·) disk (unpack (FilePath.components "dest") entries disk).2 := by
  have hbar : (unpack (FilePath.components "dest")
      [⟨"foo/../bar.yml", .ok { bytes := [120] }⟩]
      { entries := [(["dest"], .directory)] }).2.get? ["bar.yml"] = some (.file [120]) := by
    decide +kernel
  refine ⟨{ entries := [(["dest"], .directory)] },
    [⟨"foo/../bar.yml", .ok { bytes := [120] }⟩], ?_, rfl, rfl, ?_, rfl, hbar, fun h => ?_⟩
  · decide +kernel
  · decide +kernel
  · have hsame := h.get?_eq (l := ["bar.yml"]) fun _ => by decide
    rw [hbar] at hsame
    cases hsame

end ApiReplay.Fetch
