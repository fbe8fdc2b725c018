import ApiReplay.Proofs.Files.Directories
import ApiReplay.Proofs.Files.Removal

/-!
# Emptying a directory

A directory that is emptied loses what is inside, and nothing else changes. Where that breaks off, a
part of what was inside is left. Where it does not, nothing is left inside but directories that the
path itself leads through, as `a/b/..` leads through `b` in `a`. A directory that is not there is
made instead, with those around it; where that fails, the path leads to no directory afterwards
either.

A place can be cleared when the path does not lead through what is inside, and when the system
refuses nothing about what is there and what the path names. In a directory that a path leads to, on
a disk in good order, everything can be made and written that the system accepts and no file stands
in the way of.

## Main definitions

* `Files.Disk.below?`: what is found below the directory that a path leads to.
* `Files.Direct`: paths that do not lead through what is inside the place they lead to.
* `Files.Disk.Opens`: a path to a directory on a disk in good order.
* `Files.Disk.Ready`: a directory that can be emptied, or a place where one can be made.

## Main results

* `Files.Disk.shrunk_clear`, `Files.Disk.get?_clear`: what is left of a directory.
* `Files.Disk.writtenWith_clear`, `Files.Disk.below?_clear_of_error`: what becomes of other places.
* `Files.Disk.Ready.exists_clear`: a place that is ready is empty once it has been cleared.
* `Files.Disk.Opens.exists_makeDirectories`, `Files.Disk.Opens.exists_write`: making directories and
  writing files inside.
-/

namespace ApiReplay.Files

open FilePath (Component lead body)

/-- A path that does not lead through what is inside the place it leads to. -/
def Direct (start : Location) (components : List Component) (base : Location) : Prop :=
  ∀ l, Passes start components l → ¬ Inside base l

/-- Names, with no name in front of them, do not lead through what is inside the place they lead
to. -/
theorem direct_names (start : Location) {outer : List Component}
    (h : ∀ c ∈ outer, c.isName = false) (names : List String) :
    Direct start (outer ++ names.map .name) (follow start outer ++ names) := by
  rintro l ⟨q, hq, hl⟩ hin
  obtain ⟨hlead, hbody⟩ := lead_append_of_unnamed h []
  obtain ⟨hlead', hbody'⟩ := lead_append_names outer names
  rw [List.append_nil] at hlead hbody
  rw [hlead', hlead, show lead [] = [] from rfl, List.append_nil] at hl
  rw [hbody', hbody, show body [] = [] from rfl, List.nil_append] at hq
  obtain ⟨first, hfirst, rfl⟩ := List.prefix_map_iff.mp hq
  rw [follow_names] at hl
  have hlonger := (hin.1.trans hl).length_le
  rw [List.length_append, List.length_append, Nat.add_le_add_iff_left] at hlonger
  rw [hfirst.eq_of_length_le hlonger] at hl
  exact hin.2 (hl.eq_of_length_le hin.1.length_le)

namespace Disk

variable {p : Location → Prop} {d d' : Disk} {components outer : List Component}
  {last : Component} {base location : Location} {names : List String} {path : String}
  {fault : Fault}

/-- What is found below the directory that a path leads to, under names from there; nothing at all
where the path does not lead to a directory. -/
def below? (d : Disk) (path : String) (names : List String) : Option Entry :=
  match d.entry path with
  | .ok (base, .directory) => d.get? (base ++ names)
  | _ => none

/-! ### Directories that can be emptied -/

/-- Components lead to a directory, on a disk where everything lies in directories and the system
refuses nothing at some locations. -/
structure Opens (d : Disk) (p : Location → Prop) (components : List Component)
    (base : Location) : Prop where
  closed : d.Closed
  allows : d.Allows p
  leads : d.locate components = .ok base
  isDirectory : d.get? base = some .directory

/-- A place to fill, on a disk in good order: a directory, or nothing, with no file in the way to it
and some directory that is there for the path to start from. The path does not lead through what is
inside, and a directory is there already when the path ends in a dot. The system refuses nothing at
some locations, among them those that the path names. -/
structure Ready (d : Disk) (p : Location → Prop) (path : String) (base : Location) : Prop where
  closed : d.Closed
  allows : d.Allows p
  way : ∀ l, OnTheWay d.current (FilePath.components path) l → p l
  direct : Direct d.current (FilePath.components path) base
  /-- There is a directory, or nothing. -/
  fits : (d.entry path = .ok (base, .directory) ∧ d.get? base = some .directory) ∨
    follow d.current (FilePath.components path) = base ∧ d.get? base = none ∧
      d.Unblocked d.current (FilePath.components path) ∧ FilePath.endsInDot path = false ∧
      ∃ q, q <+: FilePath.components path ∧ d.Reaches q

/-- Everything lies in a directory when all that is listed does. -/
theorem closed_of_entries (h : ∀ entry ∈ d.entries, d.get? entry.1.dropLast = some .directory) :
    d.Closed := by
  intro l hl
  cases l with
  | nil => rfl
  | cons first rest =>
    obtain ⟨⟨other, found⟩, hmem, heq⟩ := List.lookup_isSome_iff.mp hl
    obtain rfl : first :: rest = other := by simpa using heq
    exact h _ hmem

theorem Closed.closedIn (h : d.Closed) (base : Location) : d.ClosedIn base :=
  fun l _ => h l

/-- What a path leads to is found where its components lead. -/
theorem locate_of_entry {found : Entry} (h : d.entry path = .ok (location, found)) :
    d.locate (FilePath.components path) = .ok location ∧
      d.found? (FilePath.components path) location = some found := by
  unfold entry at h
  split at h
  · cases h
  · split at h
    · cases h
    · rename_i l hl
      split at h
      · cases h
      · rename_i hfound
        cases h
        exact ⟨hl, hfound⟩
      · rename_i contents hfound
        split at h
        · cases h
        · cases h
          exact ⟨hl, hfound⟩

theorem hasDirectory_of_entry (h : d.entry path = .ok (base, .directory)) :
    d.hasDirectory (FilePath.components path) = true := by
  obtain ⟨hl, hfound⟩ := locate_of_entry h
  simp [hasDirectory, hl, hfound]

/-- A path with a name leads to nothing when nothing is where its components lead. -/
theorem exists_entry_eq_error (hname : ∃ c ∈ FilePath.components path, c.isName = true)
    (h : d.get? (follow d.current (FilePath.components path)) = none) :
    ∃ fault, d.entry path = .error fault := by
  cases hentry : d.entry path with
  | error fault => exact ⟨fault, rfl⟩
  | ok found =>
    obtain ⟨hl, hfound⟩ := locate_of_entry hentry
    rw [found?, if_pos (List.any_eq_true.mpr hname), eq_follow_of_locate hl, h] at hfound
    cases hfound

/-! ### What clearing leaves -/

/-- A directory that is cleared, or that could not be cleared to the end, loses what is inside. -/
theorem shrunk_clear (h : d.entry path = .ok (base, .directory)) :
    Shrunk (Inside base) d (d.clear path).2 := by
  simp only [clear, h]
  split
  · exact .refl _ d
  · exact shrunk_removeEach (eq_follow_of_locate (locate_of_entry h).1).symm _

/-- Inside a directory that was cleared nothing is left but directories that the path leads
through. -/
theorem get?_clear (hc : d.Closed) (h : d.entry path = .ok (base, .directory))
    (hclear : (d.clear path).1 = .ok ()) (hin : Inside base location) :
    (d.clear path).2.get? location = none ∨
      Passes d.current (FilePath.components path) location ∧
        (d.clear path).2.get? location = some .directory := by
  have hshrunk := shrunk_clear h
  obtain ⟨name, rest, rfl⟩ := hin.exists_append
  by_cases hthere : (d.get? (base ++ name :: rest)).isSome
  · simp only [clear, h] at hclear ⊢
    split at hclear
    · cases hclear
    · have hfollow := (eq_follow_of_locate (locate_of_entry h).1).symm
      have hname := (hc.closedIn base).mem_namesIn hthere
      have hremoved := removed_of_removeEach (hc.closedIn base) hfollow hclear name hname
      rw [List.append_cons]
      cases rest with
      | nil =>
        rw [List.append_nil]
        exact hremoved.self
      | cons second more => exact .inl (hremoved.inside _ (inside_append (List.cons_ne_nil _ _)))
  · exact .inl (hshrunk.get?_eq_none (by rwa [← Option.not_isSome_iff_eq_none]))

/-- Where there is no directory, clearing makes directories on the way of the path, if anything. -/
theorem writtenWith_clear (h : ∀ base, d.entry path ≠ .ok (base, .directory)) :
    WrittenWith (d.MayMake (FilePath.components path)) d (d.clear path).2 := by
  unfold clear
  split
  · exact absurd ‹_› (h _)
  · exact .refl
  · exact writtenWith_makePath d path

/-- Clearing does not move the working directory. -/
theorem current_clear (d : Disk) (path : String) : (d.clear path).2.current = d.current := by
  by_cases h : ∃ base, d.entry path = .ok (base, .directory)
  · obtain ⟨base, h⟩ := h
    exact (shrunk_clear h).current_eq
  · exact (writtenWith_clear fun base heq => h ⟨base, heq⟩).current_eq

/-! ### Directories that cannot be made -/

/-- Behind a name, a path to a directory goes through a directory. -/
theorem hasDirectory_of_concat (h : d.hasDirectory (outer ++ [last]) = true)
    (hname : ∃ c ∈ outer ++ [last], c.isName = true) : d.hasDirectory outer = true := by
  obtain ⟨hl, hd⟩ := locate_of_locate_concat (reaches_of_hasDirectory h hname).leads hname
  exact Reaches.hasDirectory ⟨hl, hd⟩

/-- Without a name components lead to a directory. -/
theorem hasDirectory_of_unnamed (h : ∀ c ∈ components, c.isName = false) :
    d.hasDirectory components = true := by
  have hany : components.any (·.isName) = false := by simpa using h
  simp only [hasDirectory, locate_of_unnamed h, found?, hany, Bool.false_eq_true, if_false,
    decide_true]

/-- From a directory a dot leads to the same directory. -/
theorem hasDirectory_concat_current (h : d.hasDirectory components = true) :
    d.hasDirectory (components ++ [.current]) = true := by
  by_cases hname : ∃ c ∈ components, c.isName = true
  · obtain ⟨hl, hd⟩ := reaches_of_hasDirectory h hname
    refine Reaches.hasDirectory ⟨locate_concat .current hl hd, ?_⟩
    rw [follow_append]
    exact hd
  · refine hasDirectory_of_unnamed fun c hmem => Bool.eq_false_iff.mpr fun hc => ?_
    rcases List.mem_append.mp hmem with hmem | hmem
    · exact hname ⟨c, hmem, hc⟩
    · rw [List.mem_singleton.mp hmem] at hc
      cases hc

/-- Something can be missing only on a path with a name. -/
theorem exists_name_of_makeDirectory (h : d.makeDirectory components = .error .notFound) :
    ∃ c ∈ components, c.isName = true := by
  refine Classical.byContradiction fun hno => ?_
  have hunnamed : ∀ c ∈ components, c.isName = false := fun c hc =>
    Bool.eq_false_iff.mpr fun hname => hno ⟨c, hc, hname⟩
  have hlast : FilePath.lastName? components = none := by
    unfold FilePath.lastName?
    split
    · rename_i text hlast
      cases hunnamed _ (List.mem_of_getLast? hlast)
    · rfl
  simp [makeDirectory, locate_of_unnamed hunnamed, hlast] at h

/-- Where a directory cannot be made, the path leads to none. -/
theorem not_hasDirectory_of_makeAfter {around : Disk → Except Fault Unit × Disk}
    (haround : ∀ fault d', around d = (.error fault, d') → (∃ c ∈ components, c.isName = true) →
      ¬ d'.hasDirectory components = true)
    (h : d.makeAfter around components = (.error fault, d')) :
    ¬ d'.hasDirectory components = true := by
  have hend {made : Disk} {cause : Fault}
      (h : ((if made.hasDirectory components then .ok () else .error cause), made)
        = ((.error fault : Except Fault Unit), d')) : ¬ d'.hasDirectory components = true := by
    split at h
    · cases h
    · rename_i hnone
      cases h
      exact hnone
  unfold makeAfter at h
  split at h
  · cases h
  · rename_i hmiss
    split at h
    · rename_i heq
      cases h
      exact haround _ _ heq (exists_name_of_makeDirectory hmiss)
    · split at h
      · cases h
      · exact hend h
  · exact hend h

theorem not_hasDirectory_of_makeReversed (reversed : List Component)
    (h : makeReversed reversed d = (.error fault, d')) :
    ¬ d'.hasDirectory reversed.reverse = true := by
  induction reversed generalizing fault d' with
  | nil => cases h
  | cons last outer ih =>
    refine not_hasDirectory_of_makeAfter (fun cause made heq hname hd => ?_) h
    rw [List.reverse_cons] at hname hd
    exact ih heq (hasDirectory_of_concat hd hname)

/-- Where what is around a path with a name cannot be made, the path leads to no directory. -/
theorem not_hasDirectory_of_tail (reversed : List Component)
    (h : makeReversed reversed.tail d = (.error fault, d'))
    (hname : ∃ c ∈ reversed.reverse, c.isName = true) :
    ¬ d'.hasDirectory reversed.reverse = true := by
  cases reversed with
  | nil => cases h
  | cons last outer =>
    rw [List.reverse_cons] at hname ⊢
    exact fun hd => not_hasDirectory_of_makeReversed outer h (hasDirectory_of_concat hd hname)

theorem not_hasDirectory_of_makePath (h : d.makePath path = (.error fault, d')) :
    ¬ d'.hasDirectory (FilePath.components path) = true := by
  unfold makePath at h
  split at h
  · intro hd
    refine not_hasDirectory_of_makeAfter (fun cause made heq hname hd' => ?_) h
      (hasDirectory_concat_current hd)
    have houter : ∃ c ∈ FilePath.components path, c.isName = true := by
      obtain ⟨c, hc, hisName⟩ := hname
      rcases List.mem_append.mp hc with hc | hc
      · exact ⟨c, hc, hisName⟩
      · rw [List.mem_singleton.mp hc] at hisName
        cases hisName
    have hno := not_hasDirectory_of_tail _ heq (by rwa [List.reverse_reverse])
    rw [List.reverse_reverse] at hno
    exact hno (hasDirectory_of_concat hd' hname)
  · have hno := not_hasDirectory_of_makeReversed _ h
    rwa [List.reverse_reverse] at hno

/-- Where there is no directory and none can be made, the path leads to none afterwards. -/
theorem entry_clear_of_error (hdir : ∀ base, d.entry path ≠ .ok (base, .directory))
    (h : (d.clear path).1 = .error fault) (base : Location) :
    (d.clear path).2.entry path ≠ .ok (base, .directory) := by
  cases hentry : d.entry path with
  | error cause =>
    have hclear : d.clear path = d.makePath path := by simp only [clear, hentry]
    rw [hclear] at h ⊢
    intro hmade
    exact not_hasDirectory_of_makePath (Prod.ext h rfl) (hasDirectory_of_entry hmade)
  | ok found =>
    obtain ⟨location, entry⟩ := found
    cases entry with
    | directory => exact absurd hentry (hdir location)
    | file contents =>
      have hclear : d.clear path = (.error .notDirectory, d) := by simp only [clear, hentry]
      rw [hclear]
      exact hdir base

/-- What is found below a directory lies behind its location. -/
theorem below?_eq_some_iff {found : Entry} : d.below? path names = some found ↔
    ∃ base, d.entry path = .ok (base, .directory) ∧ d.get? (base ++ names) = some found := by
  unfold below?
  constructor
  · intro h
    split at h
    · exact ⟨_, ‹_›, h⟩
    · cases h
  · rintro ⟨base, hentry, hget⟩
    simp only [hentry, hget]

/-- Where clearing fails, nothing is new or different below the path. -/
theorem below?_clear_of_error (h : (d.clear path).1 = .error fault) {found : Entry}
    (hfound : (d.clear path).2.below? path names = some found) :
    d.below? path names = some found := by
  obtain ⟨base', hentry, hget⟩ := below?_eq_some_iff.mp hfound
  by_cases hdir : ∃ base, d.entry path = .ok (base, .directory)
  · obtain ⟨base, hdir⟩ := hdir
    have hshrunk := shrunk_clear hdir
    obtain rfl : base' = base := by
      rw [eq_follow_of_locate (locate_of_entry hentry).1, hshrunk.current_eq,
        eq_follow_of_locate (locate_of_entry hdir).1]
    exact below?_eq_some_iff.mpr ⟨base', hdir, hshrunk.get?_of_some hget⟩
  · exact absurd hentry (entry_clear_of_error (fun base heq => hdir ⟨base, heq⟩) h base')

/-! ### Places that are ready -/

/-- The path to a directory stays open when it does not lead through what is removed inside. -/
theorem locate_of_shrunk (hdirect : Direct d.current components base)
    (hl : d.locate components = .ok base) (h : Shrunk (Inside base) d d') :
    d'.locate components = .ok base := by
  refine locate_mono_along h.current_eq (fun q hq hd => ?_) hl
  rw [h.get?_eq (hdirect _ ⟨q, hq, List.prefix_rfl⟩), hd]

/-- Everything still lies in a directory once a directory was emptied. -/
theorem Closed.of_shrunk (hc : d.Closed) (h : Shrunk (Inside base) d d')
    (hempty : ∀ l, Inside base l → d'.get? l = none) : d'.Closed := by
  intro l hl
  obtain ⟨found, hfound⟩ := Option.isSome_iff_exists.mp hl
  have hout := hc l (by rw [h.get?_of_some hfound]; rfl)
  rcases h.eq_or l.dropLast with heq | ⟨-, hin⟩
  · rw [heq, hout]
  · rw [hempty l (hin.trans_isPrefix (List.dropLast_prefix l))] at hfound
    cases hfound

/-- A place where nothing is has nothing inside. -/
theorem Closed.get?_inside (hc : d.Closed) (hnone : d.get? base = none)
    (hin : Inside base location) : d.get? location = none := by
  obtain ⟨first, rest, rfl⟩ := hin.exists_append
  rw [← Option.not_isSome_iff_eq_none]
  intro hthere
  rw [(hc.closedIn base).isDirectory (List.cons_ne_nil first rest) hthere] at hnone
  cases hnone

theorem Ready.exists_clear_of_directory (h : d.Ready p path base)
    (hentry : d.entry path = .ok (base, .directory)) (hd : d.get? base = some .directory) :
    ∃ d', d.clear path = (.ok (), d') ∧ d'.Opens p (FilePath.components path) base ∧
      ∀ l, Inside base l → d'.get? l = none := by
  obtain ⟨hl, -⟩ := locate_of_entry hentry
  have hopen := fun d' (h' : Shrunk (Inside base) d d') => locate_of_shrunk h.direct hl h'
  have hclear : (d.clear path).1 = .ok () := by
    have hpermit := fun deed l hl => h.allows.permit_eq deed l (h.allows.there l hl)
    simp only [clear, hentry, hpermit .list base (by rw [hd]; rfl)]
    exact removeEach_eq_ok hpermit hd hopen (nodup_namesIn d base) fun name => mem_namesIn.mp
  have hshrunk := shrunk_clear hentry
  have hempty : ∀ l, Inside base l → (d.clear path).2.get? l = none := fun l hin =>
    (get?_clear h.closed hentry hclear hin).resolve_right fun hpass => h.direct l hpass.1 hin
  refine ⟨_, Prod.ext hclear rfl, ⟨h.closed.of_shrunk hshrunk hempty, ?_, hopen _ hshrunk, ?_⟩,
    hempty⟩
  · refine ⟨hshrunk.permit_eq ▸ h.allows.permit_eq, hshrunk.room_eq ▸ h.allows.room_eq,
      fun l hl => ?_⟩
    obtain ⟨found, hfound⟩ := Option.isSome_iff_exists.mp hl
    exact h.allows.there l (by rw [hshrunk.get?_of_some hfound]; rfl)
  · rw [hshrunk.get?_eq fun hself => hself.2 rfl, hd]

/-- A place that is ready is an empty directory once it has been cleared. -/
theorem Ready.exists_clear (h : d.Ready p path base) :
    ∃ d', d.clear path = (.ok (), d') ∧ d'.Opens p (FilePath.components path) base ∧
      ∀ l, Inside base l → d'.get? l = none := by
  rcases h.fits with ⟨hentry, hd⟩ | ⟨rfl, hnone, hfree, hdot, hstart⟩
  · exact h.exists_clear_of_directory hentry hd
  · obtain ⟨q, hq, hreaches⟩ := hstart
    have hname := exists_name_of_not_reaches h.closed hq hreaches fun hthere => by
      rw [hthere.isDirectory] at hnone
      cases hnone
    obtain ⟨d', hmake, hmade⟩ := exists_made_makeDirectories h.closed h.allows
      ⟨q, hq, hreaches⟩ hfree h.way
    obtain ⟨fault, hentry⟩ := exists_entry_eq_error hname hnone
    have hclear : d.clear path = (.ok (), d') := by
      simp only [clear, hentry, makePath, hdot, Bool.false_eq_true, if_false, hmake]
    refine ⟨d', hclear, ⟨hmade.closed, hmade.allows, hmade.leads, hmade.isDirectory⟩,
      fun l hin => ?_⟩
    -- The path names nothing inside the place, so nothing is made there.
    have hwritten := writtenWith_makeDirectories d (FilePath.components path)
    rw [hmake] at hwritten
    rw [hwritten.get?_eq fun _ hmake => h.direct l hmake.onTheWay.passes hin]
    exact h.closed.get?_inside hnone hin

/-! ### Inside a directory -/

/-- A path stays open while no directory is lost. -/
theorem Opens.keep (h : d.Opens p components base) (hc : d'.Closed) (ha : d'.Allows p)
    (hcurrent : d'.current = d.current)
    (hkeep : ∀ l, d.get? l = some .directory → d'.get? l = some .directory) :
    d'.Opens p components base where
  closed := hc
  allows := ha
  leads := locate_mono hcurrent hkeep h.leads
  isDirectory := hkeep _ h.isDirectory

/-- No file is in the way of names in a directory, when none of their beginnings is a file. -/
theorem Opens.unblocked (h : d.Opens p components base)
    (hfree : ∀ q, q <+: names → ∀ contents, d.get? (base ++ q) ≠ some (.file contents)) :
    d.Unblocked d.current (components ++ names.map .name) := by
  intro q hq contents hfile
  obtain ⟨hlead, hbody⟩ := lead_append_names components names
  rw [hbody] at hq
  rw [hlead] at hfile
  rcases List.prefix_or_prefix_of_prefix hq (List.prefix_append (body components) _) with
    ⟨more, hmore⟩ | ⟨more, rfl⟩
  · have hleads := h.leads
    rw [locate, ← hmore] at hleads
    rw [isDirectory_of_walk hleads h.isDirectory] at hfile
    cases hfile
  · obtain ⟨inner, hinner, rfl⟩ :=
      List.prefix_map_iff.mp ((List.prefix_append_right_inj (body components)).mp hq)
    rw [follow_append, follow_lead_body, ← eq_follow_of_locate h.leads, follow_names] at hfile
    exact hfree inner hinner contents hfile

/-- On the way of names from a directory, everything is on the way of the path to the directory, or
named. -/
theorem Opens.allowed (h : d.Opens p components base) (hp : ∀ q, q <+: names → p (base ++ q))
    (hway : OnTheWay d.current (components ++ names.map .name) location) : p location := by
  by_cases hd : d.get? location = some .directory
  · exact h.allows.there location (by rw [hd]; rfl)
  · obtain ⟨outer, text, hprefix, hl⟩ := onTheWay_of_ne_directory h.leads h.isDirectory hway hd
    obtain ⟨q, hq, heq⟩ := List.prefix_map_iff.mp hprefix
    rw [hl, heq, follow_names]
    exact hp q hq

/-- In a directory names can be made directories, where no file is in the way. -/
theorem Opens.exists_makeDirectories (h : d.Opens p components base)
    (hp : ∀ q, q <+: names → p (base ++ q))
    (hfree : ∀ q, q <+: names → ∀ contents, d.get? (base ++ q) ≠ some (.file contents)) :
    ∃ d', d.makeDirectories (components ++ names.map .name) = (.ok (), d') ∧
      d'.Opens p components base ∧ d'.Opens p (components ++ names.map .name) (base ++ names) ∧
      ∀ q, d'.get? (base ++ q) = if q <+: names then some .directory else d.get? (base ++ q) := by
  have hbase := eq_follow_of_locate h.leads
  have hstart : d.Reaches components := ⟨hbase ▸ h.leads, hbase ▸ h.isDirectory⟩
  obtain ⟨d', hmake, hmade⟩ := exists_made_makeDirectories h.closed h.allows
    ⟨components, List.prefix_append _ _, hstart⟩ (h.unblocked hfree) fun l => h.allowed hp
  have hopens := h.keep hmade.closed hmade.allows hmade.current_eq fun _ => hmade.keeps
  have hfollow : follow d.current (components ++ names.map .name) = base ++ names := by
    rw [follow_append, ← hbase, follow_names]
  have hinner : d'.Opens p (components ++ names.map .name) (base ++ names) :=
    ⟨hmade.closed, hmade.allows, hfollow ▸ hmade.leads, hfollow ▸ hmade.isDirectory⟩
  refine ⟨d', hmake, hopens, hinner, fun q => ?_⟩
  split
  · rename_i hq
    obtain ⟨more, rfl⟩ := hq
    cases more with
    | nil => rw [← List.append_nil q, hinner.isDirectory]
    | cons first rest =>
      refine (hmade.closed.closedIn (base ++ q)).isDirectory (List.cons_ne_nil first rest) ?_
      rw [List.append_assoc, hinner.isDirectory]
      rfl
  · rename_i hq
    have hwritten := writtenWith_makeDirectories d (components ++ names.map .name)
    rw [hmake] at hwritten
    refine hwritten.get?_eq fun _ hput => hq ?_
    refine isPrefix_of_onTheWay (onTheWay_of_ne_directory h.leads h.isDirectory hput.onTheWay ?_)
    rw [hput.isFree]
    rintro ⟨⟩

/-- In a directory a file can be written under a name that is not that of a directory. -/
theorem Opens.exists_write {text : String} (h : d.Opens p components base)
    (hp : p (base ++ [text])) (hfree : d.get? (base ++ [text]) ≠ some .directory)
    (contents : List UInt8) :
    ∃ d', d.write (components ++ [.name text]) contents = (.ok (), d') ∧ d'.Closed ∧
      d'.Allows p ∧ d'.current = d.current ∧ ∀ l, d'.get? l
        = if l = base ++ [text] then some (.file contents) else d.get? l := by
  have hbase := eq_follow_of_locate h.leads
  have hl := locate_concat (.name text) (hbase ▸ h.leads) (hbase ▸ h.isDirectory)
  rw [follow_concat_name, ← hbase] at hl
  have hget (l : Location) : (d.set (base ++ [text]) (.file contents)).get? l
      = if l = base ++ [text] then some (.file contents) else d.get? l := by
    have hne : l = base ++ [text] → l ≠ [] := fun heq => by
      rw [heq]
      exact List.append_ne_nil_of_right_ne_nil base (List.cons_ne_nil text [])
    simp only [get?_set, and_iff_left_of_imp hne]
  refine ⟨d.set (base ++ [text]) (.file contents), ?write,
    h.closed.set h.isDirectory fun l hd => ?keep, h.allows.set hp _, rfl, hget⟩
  case write =>
    rw [write_eq hl (by simp) hfree (h.allows.permit_eq _ _ hp), h.allows.room_eq _ hp]
    rfl
  case keep =>
    rw [hget, if_neg, hd]
    rintro rfl
    exact hfree hd

end Disk

end ApiReplay.Files
