import ApiReplay.Proofs.Files.Location

/-!
# What is written on a disk

Making directories and writing files puts entries at locations and does nothing else. Only
locations that the path names on its way are written, and none of them was a directory before: what
is there already is not made again. Directories come up where nothing was, and a file comes at the
end of the path, with all that there is room for.

## Main definitions

* `Files.Disk.WrittenWith`: a disk that comes from another by certain entries at certain locations.
* `Files.Disk.Written`: a disk that comes from another by writes at certain locations.
* `Files.Disk.MayMake`, `Files.Disk.MayWrite`: what may be put on the way of a path.

## Main results

* `Files.Disk.WrittenWith.get?_eq`, `Files.Disk.WrittenWith.eq_or_of_get?`: all else is unchanged.
* `Files.Disk.writtenWith_makeDirectories`, `Files.Disk.writtenWith_makePath`,
  `Files.Disk.writtenWith_write`: where directories are made and files are written.
-/

namespace ApiReplay.Files

open FilePath (Component)

/-- What there is room for is a beginning. -/
theorem taken_isPrefix (room : Room) (contents : List UInt8) :
    (taken room contents).2 <+: contents := by
  unfold taken
  split
  · exact List.prefix_rfl
  · split
    · exact List.prefix_rfl
    · exact List.take_prefix _ contents

namespace Disk

variable {p q : Location → Entry → Prop} {d d' d'' : Disk} {components outer : List Component}
  {bytes : List UInt8} {location : Location} {entry : Entry}

/-! ### Writes -/

/-- A disk that comes from another by writes, each of which puts an entry at a location that may be
put there. -/
inductive WrittenWith (p : Location → Entry → Prop) (d : Disk) : Disk → Prop
  | refl : WrittenWith p d d
  | set {d' : Disk} {location : Location} {entry : Entry} (h : WrittenWith p d d')
      (hp : p location entry) : WrittenWith p d (d'.set location entry)

/-- A disk that comes from another by writes, all of them at locations with a property. -/
abbrev Written (p : Location → Prop) : Disk → Disk → Prop :=
  WrittenWith fun location _ => p location

namespace WrittenWith

theorem mono (h : WrittenWith p d d') (hpq : ∀ l e, p l e → q l e) : WrittenWith q d d' := by
  induction h with
  | refl => exact .refl
  | set _ hp ih => exact .set ih (hpq _ _ hp)

theorem trans (h : WrittenWith p d d') (h' : WrittenWith p d' d'') : WrittenWith p d d'' := by
  induction h' with
  | refl => exact h
  | set _ hp ih => exact .set ih hp

theorem current_eq (h : WrittenWith p d d') : d'.current = d.current := by
  induction h with
  | refl => rfl
  | set _ _ ih => exact ih

/-- Writes do not change what the system refuses. -/
theorem permit_eq (h : WrittenWith p d d') : d'.permit = d.permit ∧ d'.room = d.room := by
  induction h with
  | refl => exact ⟨rfl, rfl⟩
  | set _ _ ih => exact ih

/-- Whatever is found was there before, or was put there. -/
theorem eq_or_of_get? (h : WrittenWith p d d') {l : Location} {found : Entry}
    (hfound : d'.get? l = some found) : d.get? l = some found ∨ p l found := by
  induction h with
  | refl => exact .inl hfound
  | set _ hp ih =>
    rw [get?_set] at hfound
    split at hfound
    · rename_i heq
      obtain rfl := Option.some.inj hfound
      exact .inr (heq.1 ▸ hp)
    · exact ih hfound

/-- Locations where nothing may be put are unchanged. -/
theorem get?_eq (h : WrittenWith p d d') {l : Location} (hl : ∀ e, ¬ p l e) :
    d'.get? l = d.get? l := by
  induction h with
  | refl => rfl
  | @set d' location entry _ hp ih =>
    have hne : l ≠ location := fun heq => hl entry (heq ▸ hp)
    rw [get?_set, if_neg fun h => hne h.1, ih]

/-- Writes remove nothing. -/
theorem isSome (h : WrittenWith p d d') {l : Location} (hl : (d.get? l).isSome) :
    (d'.get? l).isSome := by
  induction h with
  | refl => exact hl
  | set _ _ ih =>
    rw [get?_set]
    split
    · rfl
    · exact ih

theorem get?_eq_none (h : WrittenWith p d d') {l : Location} (hl : d'.get? l = none) :
    d.get? l = none := by
  rw [← Option.not_isSome_iff_eq_none] at hl ⊢
  exact fun hsome => hl (h.isSome hsome)

end WrittenWith

/-! ### What is put on the way of a path -/

/-- A directory may be made where a path names something and nothing is there. -/
structure MayMake (d : Disk) (components : List Component) (location : Location) (entry : Entry) :
    Prop where
  onTheWay : OnTheWay d.current components location
  isFree : d.get? location = none
  eq_directory : entry = .directory

/-- Where a path names something that is no directory, a directory may be put, or, at the end of the
path, a file with the beginning of some bytes. -/
structure MayWrite (d : Disk) (components : List Component) (bytes : List UInt8)
    (location : Location) (entry : Entry) : Prop where
  onTheWay : OnTheWay d.current components location
  ne_directory : d.get? location ≠ some .directory
  eq_or : entry = .directory ∨
    location = follow d.current components ∧ ∃ part, part <+: bytes ∧ entry = .file part

theorem MayMake.longer (h : d.MayMake components location entry) (more : List Component) :
    d.MayMake (components ++ more) location entry :=
  ⟨h.onTheWay.append more, h.isFree, h.eq_directory⟩

theorem MayMake.mayWrite (h : d.MayMake components location entry) (bytes : List UInt8) :
    d.MayWrite components bytes location entry :=
  ⟨h.onTheWay, by rw [h.isFree]; rintro ⟨⟩, .inl h.eq_directory⟩

/-- Directories are made along one path after others along the same. -/
theorem WrittenWith.along (h : WrittenWith (d.MayMake components) d d')
    (h' : WrittenWith (d'.MayMake components) d' d'') :
    WrittenWith (d.MayMake components) d d'' :=
  h.trans (h'.mono fun _ _ hmake =>
    ⟨h.current_eq ▸ hmake.onTheWay, h.get?_eq_none hmake.isFree, hmake.eq_directory⟩)

theorem WrittenWith.isDirectory (h : WrittenWith (d.MayWrite components bytes) d d') {l : Location}
    (hl : d.get? l = some .directory) : d'.get? l = some .directory := by
  rw [h.get?_eq fun _ hwrite => hwrite.ne_directory hl, hl]

/-- A file is written after directories were made around it. -/
theorem WrittenWith.behind (h : WrittenWith (d.MayWrite components bytes) d d')
    (h' : WrittenWith (d'.MayWrite components bytes) d' d'') :
    WrittenWith (d.MayWrite components bytes) d d'' := by
  refine h.trans (h'.mono fun l e hwrite => ⟨h.current_eq ▸ hwrite.onTheWay, fun hd => ?_, ?_⟩)
  · exact hwrite.ne_directory (h.isDirectory hd)
  · rw [← h.current_eq]
    exact hwrite.eq_or

/-! ### Directories and files -/

theorem eq_append_name_of_lastName? (h : (FilePath.lastName? components).isSome) :
    ∃ outer text, components = outer ++ [.name text] := by
  unfold FilePath.lastName? at h
  split at h
  · rename_i text hlast
    obtain ⟨outer, rfl⟩ := List.getLast?_eq_some_iff.mp hlast
    exact ⟨outer, text, rfl⟩
  · cases h

theorem onTheWay_of_locate (h : d.locate components = .ok location)
    (hname : (FilePath.lastName? components).isSome) :
    OnTheWay d.current components location := by
  obtain ⟨outer, text, rfl⟩ := eq_append_name_of_lastName? hname
  exact ⟨outer, text, List.prefix_rfl, eq_follow_of_locate h⟩

theorem makeDirectory_eq_ok_iff : d.makeDirectory components = .ok d' ↔
    ∃ location, d.locate components = .ok location ∧ (FilePath.lastName? components).isSome ∧
      d.get? location = none ∧ d.permit .make location = .ok () ∧
      d' = d.set location .directory := by
  unfold makeDirectory
  cases d.locate components with
  | error fault => simp
  | ok location =>
    have hflip : d' = d.set location .directory ↔ d.set location .directory = d' := eq_comm
    cases FilePath.lastName? components with
    | none => simp
    | some text =>
      cases hget : d.get? location with
      | some entry => simp [hget]
      | none => cases hpermit : d.permit .make location <;> simp [hget, hpermit, hflip, Except.map]

theorem writtenWith_makeDirectory (h : d.makeDirectory components = .ok d') :
    WrittenWith (d.MayMake components) d d' := by
  obtain ⟨location, hl, hname, hnone, -, rfl⟩ := makeDirectory_eq_ok_iff.mp h
  exact .set .refl ⟨onTheWay_of_locate hl hname, hnone, rfl⟩

/-- Directories are made along a path, if what is around them is made along the same path. -/
theorem writtenWith_makeAfter {around : Disk → Except Fault Unit × Disk} (d : Disk)
    (haround : WrittenWith (d.MayMake components) d (around d).2) :
    WrittenWith (d.MayMake components) d (d.makeAfter around components).2 := by
  unfold makeAfter
  split
  · rename_i d' hmade
    exact writtenWith_makeDirectory hmade
  · split
    · rename_i heq
      rwa [heq] at haround
    · rename_i d' heq
      rw [heq] at haround
      split
      · rename_i d'' hmade
        exact haround.along (writtenWith_makeDirectory hmade)
      · exact haround
  · exact .refl

theorem writtenWith_makeReversed (reversed : List Component) (d : Disk) :
    WrittenWith (d.MayMake reversed.reverse) d (makeReversed reversed d).2 := by
  induction reversed with
  | nil => exact .refl
  | cons last outer ih =>
    refine writtenWith_makeAfter d (ih.mono fun _ _ hmake => ?_)
    rw [List.reverse_cons]
    exact hmake.longer [last]

/-- Directories are made only where the path names something and nothing is there yet. -/
theorem writtenWith_makeDirectories (d : Disk) (components : List Component) :
    WrittenWith (d.MayMake components) d (d.makeDirectories components).2 := by
  have h := writtenWith_makeReversed components.reverse d
  rwa [List.reverse_reverse] at h

/-- A dot at the end names nothing. -/
theorem onTheWay_of_concat_current {start : Location}
    (h : OnTheWay start (components ++ [.current]) location) :
    OnTheWay start components location := by
  obtain ⟨outer, text, hp, hl⟩ := h
  rcases List.prefix_concat_iff.mp hp with heq | hshort
  · have hlast := (List.append_inj' heq rfl).2
    cases hlast
  · exact ⟨outer, text, hshort, hl⟩

/-- A path is made only where it names something and nothing is there yet. -/
theorem writtenWith_makePath (d : Disk) (path : String) :
    WrittenWith (d.MayMake (FilePath.components path)) d (d.makePath path).2 := by
  unfold makePath
  split
  · have houter := writtenWith_makeReversed (FilePath.components path).reverse.tail d
    rw [List.tail_reverse, List.reverse_reverse] at houter
    obtain ⟨more, hmore⟩ := List.dropLast_prefix (FilePath.components path)
    have hlonger : WrittenWith (d.MayMake (FilePath.components path ++ [.current])) d
        (makeReversed (FilePath.components path).reverse.tail d).2 := by
      rw [List.tail_reverse]
      refine houter.mono fun l e hmake => ?_
      have hpath := hmake.longer more
      rw [hmore] at hpath
      exact hpath.longer [.current]
    refine (writtenWith_makeAfter d hlonger).mono fun l e hmake => ?_
    exact ⟨onTheWay_of_concat_current hmake.onTheWay, hmake.isFree, hmake.eq_directory⟩
  · exact writtenWith_makeDirectories d (FilePath.components path)

/-- A file is written where the path leads, unless a directory is there or the system refuses. -/
theorem write_eq (hl : d.locate components = .ok location)
    (hname : (FilePath.lastName? components).isSome) (hd : d.get? location ≠ some .directory)
    (hpermit : d.permit .write location = .ok ()) (contents : List UInt8) :
    d.write components contents
      = ((taken (d.room location) contents).1,
        d.set location (.file (taken (d.room location) contents).2)) := by
  obtain ⟨text, htext⟩ := Option.isSome_iff_exists.mp hname
  simp [write, hl, htext, hd, hpermit]

theorem writtenWith_write (d : Disk) (components : List Component) (contents : List UInt8) :
    WrittenWith (d.MayWrite components contents) d (d.write components contents).2 := by
  unfold write
  split
  · exact .refl
  · rename_i location hl
    split
    · exact .refl
    · rename_i hfree
      split
      · exact .refl
      · obtain ⟨hname, hd⟩ := not_or.mp hfree
        rw [Option.isNone_iff_eq_none] at hname
        have hway := onTheWay_of_locate hl (Option.isSome_iff_ne_none.mpr hname)
        exact .set .refl
          ⟨hway, hd, .inr ⟨eq_follow_of_locate hl, _, taken_isPrefix _ contents, rfl⟩⟩

/-- Behind a path to a directory, only what is named there is written. -/
theorem onTheWay_of_ne_directory {more : List Component} {base : Location}
    (hl : d.locate components = .ok base) (hd : d.get? base = some .directory)
    (h : OnTheWay d.current (components ++ more) location)
    (hfree : d.get? location ≠ some .directory) : OnTheWay base more location := by
  obtain ⟨outer, text, hp, rfl⟩ := h
  have hbase := eq_follow_of_locate hl
  -- A beginning of the path ends on the way to the directory, or behind it.
  rcases List.prefix_or_prefix_of_prefix hp (List.prefix_append components more) with
    ⟨rest, rfl⟩ | ⟨q, hlong⟩
  · exact absurd (isDirectory_of_locate hl hd ⟨.name text, by simp, rfl⟩) hfree
  · rw [← hlong] at hp hfree
    rw [← hlong, follow_append, ← hbase]
    have hq := (List.prefix_append_right_inj components).mp hp
    rcases List.eq_nil_or_concat q with rfl | ⟨front, last, rfl⟩
    · rw [List.append_nil, ← hbase] at hfree
      exact absurd hd hfree
    · rw [List.concat_eq_append] at hlong hq ⊢
      obtain rfl : last = .name text := by
        have hlast := congrArg List.getLast? hlong
        rw [← List.append_assoc, List.getLast?_concat, List.getLast?_concat] at hlast
        exact Option.some.inj hlast
      exact ⟨front, text, hq, rfl⟩

end Disk

end ApiReplay.Files
