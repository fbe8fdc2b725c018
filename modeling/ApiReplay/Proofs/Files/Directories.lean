import ApiReplay.Proofs.Files.Written

/-!
# Making directories succeeds

Where no file stands in the way, a directory can always be made with those around it, also through
names that do not exist yet and that the path leaves again. It takes a directory to start from, and
a system that refuses nothing at the locations that the path names. Afterwards the path leads to a
directory, and nothing else has changed than that directories came up where nothing was.

## Main definitions

* `Files.Disk.Closed`: everything lies in a directory.
* `Files.Disk.Allows`: the system refuses nothing at some locations.
* `Files.Disk.Unblocked`: no file stands in the way of a path.
* `Files.Disk.Reaches`: a path leads to a directory that is there.
* `Files.Disk.Made`: what a disk is like once a directory was made.

## Main results

* `Files.Disk.exists_made_makeDirectories`: an unblocked path can be made.
-/

namespace ApiReplay.Files.Disk

open FilePath (Component lead body)

variable {p : Location → Prop} {d d' d'' : Disk} {components outer : List Component}
  {last : Component} {location : Location}

/-- Everything lies in a directory. -/
def Closed (d : Disk) : Prop :=
  ∀ l, (d.get? l).isSome → d.get? l.dropLast = some .directory

/-- The system refuses nothing at some locations, and there is room for files. What is there already
is at such locations. -/
structure Allows (d : Disk) (p : Location → Prop) : Prop where
  permit_eq : ∀ deed l, p l → d.permit deed l = .ok ()
  room_eq : ∀ l, p l → d.room l = none
  there : ∀ l, (d.get? l).isSome → p l

/-- Behind the lead, no beginning of a path leads to a file. -/
def Unblocked (d : Disk) (start : Location) (components : List Component) : Prop :=
  ∀ q, q <+: body components → ∀ contents,
    d.get? (follow (follow start (lead components)) q) ≠ some (.file contents)

/-- Components lead to a directory that is there. -/
structure Reaches (d : Disk) (components : List Component) : Prop where
  leads : d.locate components = .ok (follow d.current components)
  isDirectory : d.get? (follow d.current components) = some .directory

theorem Reaches.hasDirectory (h : d.Reaches components) : d.hasDirectory components = true := by
  simp [Disk.hasDirectory, found?, h.leads, h.isDirectory]

/-- A directory that a path with a name leads to is there. -/
theorem reaches_of_hasDirectory (h : d.hasDirectory components = true)
    (hname : ∃ c ∈ components, c.isName = true) : d.Reaches components := by
  unfold hasDirectory at h
  cases hl : d.locate components with
  | error fault => simp [hl] at h
  | ok location =>
    have hany : components.any (·.isName) = true := List.any_eq_true.mpr hname
    obtain rfl := eq_follow_of_locate hl
    refine ⟨hl, ?_⟩
    simpa [hl, found?, hany] using h

/-- A disk on which a path leads to a directory that was made on another, or was there. -/
structure Made (p : Location → Prop) (d d' : Disk) (components : List Component) : Prop where
  closed : d'.Closed
  allows : d'.Allows p
  current_eq : d'.current = d.current
  reaches : d'.Reaches components
  /-- Directories come up where nothing was, and all else is as before. -/
  grows : ∀ l, d'.get? l = d.get? l ∨ d.get? l = none ∧ d'.get? l = some .directory

theorem Made.keeps (h : Made p d d' components) {l : Location} (hl : d.get? l = some .directory) :
    d'.get? l = some .directory := by
  rcases h.grows l with heq | ⟨hnone, -⟩
  · rw [heq, hl]
  · rw [hl] at hnone
    cases hnone

theorem Made.leads (h : Made p d d' components) :
    d'.locate components = .ok (follow d.current components) :=
  h.current_eq ▸ h.reaches.leads

theorem Made.isDirectory (h : Made p d d' components) :
    d'.get? (follow d.current components) = some .directory :=
  h.current_eq ▸ h.reaches.isDirectory

/-- No file comes up where none was. -/
theorem Made.ne_file (h : Made p d d' components) {l : Location}
    (hl : ∀ contents, d.get? l ≠ some (.file contents)) (contents : List UInt8) :
    d'.get? l ≠ some (.file contents) := by
  rcases h.grows l with heq | ⟨-, hdir⟩
  · rw [heq]
    exact hl contents
  · rw [hdir]
    rintro ⟨⟩

/-- Everything that is named on the way to a directory that was made is a directory, too. -/
theorem Made.isDirectory_of_prefix (h : Made p d d' components) {q : List Component} {text : String}
    (hq : q ++ [.name text] <+: components) :
    d'.get? (follow d.current (q ++ [.name text])) = some .directory := by
  obtain ⟨more, rfl⟩ := hq
  rw [← h.current_eq]
  exact isDirectory_of_locate h.leads h.isDirectory ⟨.name text, by simp, rfl⟩

theorem Made.trans (h : Made p d d' outer) (h' : Made p d' d'' components) :
    Made p d d'' components where
  closed := h'.closed
  allows := h'.allows
  current_eq := h'.current_eq.trans h.current_eq
  reaches := h'.reaches
  grows l := by
    rcases h.grows l with heq | ⟨hnone, hdir⟩
    · rw [← heq]
      exact h'.grows l
    · exact .inr ⟨hnone, h'.keeps hdir⟩

theorem Made.refl (hc : d.Closed) (ha : d.Allows p) (h : d.Reaches components) :
    Made p d d components :=
  ⟨hc, ha, rfl, h, fun _ => .inl rfl⟩

/-- A walk breaks off at a file, or where nothing is found. -/
theorem eq_notFound_of_walk {fault : Fault}
    (hfree : ∀ q, q <+: components → ∀ contents,
      d.get? (follow location q) ≠ some (.file contents))
    (h : d.walk components location = .error fault) : fault = .notFound := by
  induction components generalizing location with
  | nil => cases h
  | cons component rest ih =>
    cases hg : d.get? location with
    | none =>
      simp only [walk, hg] at h
      exact (Except.error.inj h).symm
    | some entry =>
      cases entry with
      | file contents => exact absurd hg (hfree [] (List.nil_prefix) contents)
      | directory =>
        rw [walk_cons hg] at h
        refine ih (fun q hq => ?_) h
        exact hfree (component :: q) (List.cons_prefix_cons.mpr ⟨rfl, hq⟩)

/-- Beginnings of a path with a name are unblocked like the path. -/
theorem Unblocked.of_append {start : Location} {more : List Component}
    (h : d.Unblocked start (outer ++ more)) (hname : ∃ c ∈ outer, c.isName = true) :
    d.Unblocked start outer := by
  intro q hq
  obtain ⟨hlead, hbody⟩ := lead_append_of_name hname more
  rw [← hlead]
  exact h q (hbody ▸ hq.trans (List.prefix_append _ more))

/-- Only a name can lead from a directory to anything else. -/
theorem isDirectory_followOne (hc : d.Closed) (hd : d.get? location = some .directory)
    (h : last.isName = false) : d.get? (followOne location last) = some .directory := by
  cases last with
  | root => rfl
  | current => exact hd
  | up => exact hc location (by rw [hd]; rfl)
  | name text => cases h

/-- Without a name components lead from a directory to a directory. -/
theorem isDirectory_follow_of_unnamed (hc : d.Closed) (hd : d.get? location = some .directory)
    (h : ∀ c ∈ components, c.isName = false) :
    d.get? (follow location components) = some .directory := by
  induction components generalizing location with
  | nil => exact hd
  | cons component rest ih =>
    obtain ⟨hcomponent, hrest⟩ := List.forall_mem_cons.mp h
    exact ih (isDirectory_followOne hc hd hcomponent) hrest

/-- A path without a name leads to a directory when it starts in one. -/
theorem reaches_of_unnamed (hc : d.Closed) {q : List Component} (hq : q <+: components)
    (hd : d.Reaches q) (h : ∀ c ∈ components, c.isName = false) : d.Reaches components := by
  obtain ⟨more, rfl⟩ := hq
  refine ⟨locate_of_unnamed h, ?_⟩
  rw [follow_append]
  exact isDirectory_follow_of_unnamed hc hd.isDirectory
    fun c hmem => h c (List.mem_append_right q hmem)

/-- Only a name can keep a path that starts in a directory from leading to one. -/
theorem exists_name_of_not_reaches (hc : d.Closed) {q : List Component} (hq : q <+: components)
    (hd : d.Reaches q) (h : ¬ d.Reaches components) : ∃ c ∈ components, c.isName = true :=
  Classical.byContradiction fun hno => h (reaches_of_unnamed hc hq hd fun c hmem =>
    Bool.eq_false_iff.mpr fun hname => hno ⟨c, hmem, hname⟩)

theorem Allows.set (h : d.Allows p) (hl : p location) (entry : Entry) :
    (d.set location entry).Allows p where
  permit_eq := h.permit_eq
  room_eq := h.room_eq
  there l hsome := by
    rw [get?_set] at hsome
    split at hsome
    · rename_i heq
      exact heq.1 ▸ hl
    · exact h.there l hsome

/-- Everything still lies in a directory after something was put into one and no directory was
lost. -/
theorem Closed.set {base : Location} {text : String} {entry : Entry} (hc : d.Closed)
    (hd : d.get? base = some .directory) (hkeep : ∀ l, d.get? l = some .directory →
      (d.set (base ++ [text]) entry).get? l = some .directory) :
    (d.set (base ++ [text]) entry).Closed := by
  intro l h
  refine hkeep _ ?_
  rw [get?_set] at h
  split at h
  · rename_i heq
    rw [heq.1, List.dropLast_concat, hd]
  · exact hc l h

theorem made_set {text : String} (hc : d.Closed) (ha : d.Allows p)
    (hp : p (follow d.current (outer ++ [.name text])))
    (hl : d.locate outer = .ok (follow d.current outer))
    (hd : d.get? (follow d.current outer) = some .directory)
    (hnone : d.get? (follow d.current (outer ++ [.name text])) = none) :
    Made p d (d.set (follow d.current (outer ++ [.name text])) .directory)
      (outer ++ [.name text]) := by
  have hloc := follow_concat_name d.current outer text
  have hkeep (l : Location) (h : d.get? l = some .directory) :
      (d.set (follow d.current (outer ++ [.name text])) .directory).get? l
        = some .directory := by
    rw [get?_set]
    split
    · rfl
    · exact h
  have hcurrent : (d.set (follow d.current (outer ++ [.name text])) .directory).current
      = d.current := rfl
  have hleads := locate_mono hcurrent hkeep (locate_concat (.name text) hl hd)
  refine ⟨?closed, ha.set hp _, rfl, ⟨hleads, ?dir⟩, fun l => ?grows⟩
  case closed =>
    rw [hloc] at hkeep ⊢
    exact hc.set hd hkeep
  case dir =>
    refine (get?_set _ _ _ _).trans (if_pos ⟨rfl, ?_⟩)
    rw [show (d.set _ Entry.directory).current = d.current from rfl, hloc]
    exact List.append_ne_nil_of_right_ne_nil _ (List.cons_ne_nil text [])
  case grows =>
    rw [get?_set]
    split
    · rename_i heq
      exact .inr ⟨by rw [heq.1, hnone], rfl⟩
    · exact .inl rfl

/-- In a directory, a component is made or is there already. -/
theorem made_makeDirectory (hc : d.Closed) (ha : d.Allows p)
    (hway : ∀ l, OnTheWay d.current (outer ++ [last]) l → p l)
    (hl : d.locate outer = .ok (follow d.current outer))
    (hd : d.get? (follow d.current outer) = some .directory)
    (hfree : ∀ contents, d.get? (follow d.current (outer ++ [last])) ≠ some (.file contents)) :
    (∃ d', d.makeDirectory (outer ++ [last]) = .ok d' ∧ Made p d d' (outer ++ [last])) ∨
      d.makeDirectory (outer ++ [last]) = .error .exists ∧ Made p d d (outer ++ [last]) := by
  have hlast := locate_concat last hl hd
  cases hg : d.get? (follow d.current (outer ++ [last])) with
  | none =>
    have hone : d.get? (followOne (follow d.current outer) last) = none := by
      rwa [follow_append] at hg
    cases last with
    | name text =>
      have hp := hway _ ⟨outer, text, List.prefix_rfl, rfl⟩
      refine .inl ⟨_, makeDirectory_eq_ok_iff.mpr ⟨_, hlast, ?_, hg, ha.permit_eq _ _ hp, rfl⟩,
        made_set hc ha hp hl hd hg⟩
      rw [FilePath.lastName?_concat]
      rfl
    | root | current | up =>
      rw [isDirectory_followOne hc hd rfl] at hone
      cases hone
  | some entry =>
    cases entry with
    | file contents => exact absurd hg (hfree contents)
    | directory =>
      refine .inr ⟨?_, .refl hc ha ⟨hlast, hg⟩⟩
      simp only [makeDirectory, hlast, hg, Option.isSome_some, or_true, if_true]

/-- Where no file is in the way, a directory cannot be made only since one around it is missing. -/
theorem makeDirectory_eq_notFound (hfree : d.Unblocked d.current (outer ++ [last]))
    (hname : ∃ c ∈ outer, c.isName = true) (hout : ¬ d.Reaches outer) :
    d.makeDirectory (outer ++ [last]) = .error .notFound := by
  obtain ⟨c, hmem, hc⟩ := hname
  cases hl : d.locate (outer ++ [last]) with
  | ok location =>
    obtain ⟨hleads, hdir⟩ := locate_of_locate_concat hl ⟨c, List.mem_append_left _ hmem, hc⟩
    exact absurd ⟨hleads, hdir⟩ hout
  | error fault =>
    obtain rfl := eq_notFound_of_walk hfree hl
    simp only [makeDirectory, hl]

/-- Making a directory succeeds, and the directories around it are made where they are missing. -/
theorem exists_made_makeReversed (hc : d.Closed) (ha : d.Allows p) (reversed : List Component)
    (hstart : ∃ q, q <+: reversed.reverse ∧ d.Reaches q)
    (hfree : d.Unblocked d.current reversed.reverse)
    (hway : ∀ l, OnTheWay d.current reversed.reverse l → p l) :
    ∃ d', makeReversed reversed d = (.ok (), d') ∧ Made p d d' reversed.reverse := by
  induction reversed with
  | nil =>
    obtain ⟨q, hq, hd⟩ := hstart
    obtain rfl : q = [] := List.prefix_nil.mp hq
    exact ⟨d, rfl, .refl hc ha hd⟩
  | cons last outer ih =>
    rw [List.reverse_cons] at hstart hfree hway ⊢
    have hend := hfree _ List.prefix_rfl
    rw [follow_lead_body] at hend
    by_cases hthere : d.Reaches (outer.reverse ++ [last])
    · have hmake : d.makeDirectory (outer.reverse ++ [last]) = .error .exists := by
        simp only [makeDirectory, hthere.leads, hthere.isDirectory, Option.isSome_some, or_true,
          if_true]
      refine ⟨d, ?_, .refl hc ha hthere⟩
      simp only [makeReversed, makeAfter, List.reverse_cons, hmake, hthere.hasDirectory, if_true]
    · by_cases hout : d.Reaches outer.reverse
      · -- The path is open up to its end already, so one step is enough.
        rcases made_makeDirectory hc ha hway hout.leads hout.isDirectory hend with
          ⟨d', hmake, hmade⟩ | ⟨-, hmade⟩
        · refine ⟨d', ?_, hmade⟩
          simp only [makeReversed, makeAfter, List.reverse_cons, hmake]
        · exact absurd hmade.reaches hthere
      · -- No file is in the way, so something is missing: the directories around come first.
        obtain ⟨q, hq, hd⟩ := hstart
        have hshort : q <+: outer.reverse := by
          rcases List.prefix_concat_iff.mp hq with rfl | hshort
          · exact absurd hd hthere
          · exact hshort
        have hname := exists_name_of_not_reaches hc hshort hd hout
        have hmiss := makeDirectory_eq_notFound hfree hname hout
        obtain ⟨d₁, hrec, hmade₁⟩ := ih ⟨q, hshort, hd⟩ (hfree.of_append hname)
          fun l hl => hway l (hl.append [last])
        have hend₁ := hmade₁.ne_file hend
        rw [← hmade₁.current_eq] at hend₁
        rcases made_makeDirectory hmade₁.closed hmade₁.allows (hmade₁.current_eq ▸ hway)
          (hmade₁.current_eq ▸ hmade₁.leads) (hmade₁.current_eq ▸ hmade₁.isDirectory) hend₁ with
          ⟨d', hmake, hmade⟩ | ⟨hmake, hmade⟩
        · refine ⟨d', ?_, hmade₁.trans hmade⟩
          simp only [makeReversed, makeAfter, List.reverse_cons, hmiss, hrec, hmake]
        · refine ⟨d₁, ?_, hmade₁.trans hmade⟩
          simp only [makeReversed, makeAfter, List.reverse_cons, hmiss, hrec, hmake,
            hmade.reaches.hasDirectory, if_true]

/-- A path that starts in a directory and where no file stands in the way can be made, with all
directories around it, if the system refuses nothing on its way. -/
theorem exists_made_makeDirectories (hc : d.Closed) (ha : d.Allows p)
    (hstart : ∃ q, q <+: components ∧ d.Reaches q)
    (hfree : d.Unblocked d.current components)
    (hway : ∀ l, OnTheWay d.current components l → p l) :
    ∃ d', d.makeDirectories components = (.ok (), d') ∧ Made p d d' components := by
  have h := exists_made_makeReversed hc ha components.reverse
  rw [List.reverse_reverse] at h
  exact h hstart hfree hway

end ApiReplay.Files.Disk
