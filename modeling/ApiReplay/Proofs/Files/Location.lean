import ApiReplay.Files.Disk

/-!
# Locations that a path leads to

A path that can be followed on a disk leads to the location that its components name one after the
other, whatever the disk holds. Every location on the way is a directory, and directories keep a
path open.

## Main definitions

* `Files.OnTheWay`: the locations that the names among components lead to.

## Main results

* `Files.Disk.eq_follow_of_locate`: a path ends where its components lead.
* `Files.Disk.isDirectory_of_locate`: behind its first name, a path goes through directories.
* `Files.Disk.locate_mono_along`: a path stays open while none of these is lost.
-/

namespace ApiReplay.Files

open FilePath (Component lead body)

/-! ### Following components -/

theorem follow_cons (location : Location) (component : Component) (rest : List Component) :
    follow location (component :: rest) = follow (followOne location component) rest :=
  rfl

theorem follow_append (location : Location) (first more : List Component) :
    follow location (first ++ more) = follow (follow location first) more :=
  List.foldl_append

/-- A name leads to where it is put behind. -/
theorem follow_concat_name (location : Location) (components : List Component) (text : String) :
    follow location (components ++ [.name text]) = follow location components ++ [text] := by
  rw [follow_append]
  rfl

theorem lead_append_body (components : List Component) :
    lead components ++ body components = components :=
  List.takeWhile_append_dropWhile

theorem follow_lead_body (location : Location) (components : List Component) :
    follow (follow location (lead components)) (body components) = follow location components := by
  rw [← follow_append, lead_append_body]

/-- Behind a name everything belongs to the part from the first name on. -/
theorem lead_append_of_name {first : List Component} (h : ∃ c ∈ first, c.isName = true)
    (more : List Component) :
    lead (first ++ more) = lead first ∧ body (first ++ more) = body first ++ more := by
  induction first with
  | nil => simp at h
  | cons component rest ih =>
    cases hc : component.isName with
    | true => simp [lead, body, hc]
    | false =>
      have hrest : ∃ c ∈ rest, c.isName = true := by simpa [hc] using h
      simpa [lead, body, hc] using ih hrest

/-- Without a name there is nothing but the lead. -/
theorem lead_append_of_unnamed {first : List Component} (h : ∀ c ∈ first, c.isName = false)
    (more : List Component) :
    lead (first ++ more) = first ++ lead more ∧ body (first ++ more) = body more := by
  have hpos : ∀ c ∈ first, (!c.isName) = true := fun c hc => by rw [h c hc]; rfl
  exact ⟨List.takeWhile_append_of_pos hpos, List.dropWhile_append_of_pos hpos⟩

/-- Names at the end belong to the part from the first name on. -/
theorem lead_append_names (outer : List Component) (names : List String) :
    lead (outer ++ names.map .name) = lead outer ∧
      body (outer ++ names.map .name) = body outer ++ names.map .name := by
  by_cases h : ∃ c ∈ outer, c.isName = true
  · exact lead_append_of_name h (names.map .name)
  · have hnone : ∀ c ∈ outer, c.isName = false := by simpa using h
    have hmore := lead_append_of_unnamed hnone (names.map .name)
    have hnil := lead_append_of_unnamed hnone []
    rw [List.append_nil] at hnil
    rw [hmore.1, hmore.2, hnil.1, hnil.2]
    cases names <;> exact ⟨rfl, rfl⟩

/-- The locations that the names among components lead to, from a location. -/
def OnTheWay (start : Location) (components : List Component) (location : Location) : Prop :=
  ∃ outer text, outer ++ [.name text] <+: components ∧
    location = follow start (outer ++ [.name text])

theorem OnTheWay.append {start : Location} {components : List Component} {location : Location}
    (h : OnTheWay start components location) (more : List Component) :
    OnTheWay start (components ++ more) location := by
  obtain ⟨outer, text, hp, hl⟩ := h
  exact ⟨outer, text, hp.trans (List.prefix_append components more), hl⟩

/-- Names lead to where they are put behind. -/
theorem follow_names (location : Location) (names : List String) :
    follow location (names.map .name) = location ++ names := by
  induction names generalizing location with
  | nil => rw [List.map_nil, List.append_nil]; rfl
  | cons text rest ih =>
    rw [List.map_cons, follow_cons, ih, followOne, List.append_assoc, List.singleton_append]

/-- Names lead past their own beginnings. -/
theorem isPrefix_of_onTheWay {start : Location} {names more : List String}
    (h : OnTheWay start (names.map .name) (start ++ more)) : more <+: names := by
  obtain ⟨outer, text, hp, hl⟩ := h
  obtain ⟨first, hfirst, heq⟩ := List.prefix_map_iff.mp hp
  rw [heq, follow_names] at hl
  rwa [List.append_cancel_left hl]

/-! ### Walks -/

namespace Disk

variable {d d' : Disk} {components : List Component} {location finish : Location}

theorem walk_cons {component : Component} {rest : List Component}
    (h : d.get? location = some .directory) :
    d.walk (component :: rest) location = d.walk rest (followOne location component) := by
  simp only [walk, h]

theorem get?_of_walk_cons {component : Component} {rest : List Component}
    (h : d.walk (component :: rest) location = .ok finish) :
    d.get? location = some .directory := by
  simp only [walk] at h
  split at h
  · cases h
  · cases h
  · assumption

/-- A walk ends where its components lead. -/
theorem eq_follow_of_walk (h : d.walk components location = .ok finish) :
    finish = follow location components := by
  induction components generalizing location with
  | nil => exact (Except.ok.inj h).symm
  | cons component rest ih =>
    rw [walk_cons (get?_of_walk_cons h)] at h
    exact ih h

/-- A walk is the walk of its first part, and from there that of the rest. -/
theorem walk_append {first more : List Component} {middle : Location}
    (h : d.walk first location = .ok middle) :
    d.walk (first ++ more) location = d.walk more middle := by
  induction first generalizing location with
  | nil =>
    obtain rfl := Except.ok.inj h
    rfl
  | cons component rest ih =>
    have hd := get?_of_walk_cons h
    rw [walk_cons hd] at h
    rw [List.cons_append, walk_cons hd]
    exact ih h

/-- A walk can be broken off anywhere and goes on from there. -/
theorem walk_of_walk_append {first more : List Component}
    (h : d.walk (first ++ more) location = .ok finish) :
    d.walk first location = .ok (follow location first) ∧
      d.walk more (follow location first) = .ok finish := by
  induction first generalizing location with
  | nil => exact ⟨rfl, h⟩
  | cons component rest ih =>
    have hd := get?_of_walk_cons h
    rw [List.cons_append, walk_cons hd] at h
    rw [walk_cons hd]
    exact ih h

/-- The first part of a walk to a directory leads to a directory. -/
theorem isDirectory_of_walk {first more : List Component}
    (h : d.walk (first ++ more) location = .ok finish)
    (hfinish : d.get? finish = some .directory) :
    d.get? (follow location first) = some .directory := by
  obtain ⟨-, hmore⟩ := walk_of_walk_append h
  cases more with
  | nil =>
    obtain rfl := Except.ok.inj hmore
    exact hfinish
  | cons component rest => exact get?_of_walk_cons hmore

/-- A walk stays possible while no directory that it goes through is lost. -/
theorem walk_mono_along (hkeep : ∀ q, q <+: components →
      d.get? (follow location q) = some .directory → d'.get? (follow location q) = some .directory)
    (h : d.walk components location = .ok finish) : d'.walk components location = .ok finish := by
  induction components generalizing location with
  | nil => exact h
  | cons component rest ih =>
    have hd := get?_of_walk_cons h
    rw [walk_cons hd] at h
    have hd' : d'.get? location = some .directory := hkeep [] List.nil_prefix hd
    rw [walk_cons hd']
    exact ih (fun q hq => hkeep (component :: q) (List.cons_prefix_cons.mpr ⟨rfl, hq⟩)) h

/-! ### Paths -/

/-- A path ends where its components lead. -/
theorem eq_follow_of_locate (h : d.locate components = .ok location) :
    location = follow d.current components := by
  rw [eq_follow_of_walk h, follow_lead_body]

/-- Without a name components lead somewhere, whatever is there. -/
theorem locate_of_unnamed (h : ∀ c ∈ components, c.isName = false) :
    d.locate components = .ok (follow d.current components) := by
  obtain ⟨hlead, hbody⟩ := lead_append_of_unnamed h []
  rw [List.append_nil] at hlead hbody
  rw [locate, hlead, hbody, show lead [] = [] from rfl, List.append_nil]
  rfl

/-- Behind its first name, a path to a directory goes through directories. -/
theorem isDirectory_of_locate {first more : List Component}
    (h : d.locate (first ++ more) = .ok finish) (hfinish : d.get? finish = some .directory)
    (hname : ∃ c ∈ first, c.isName = true) : d.get? (follow d.current first) = some .directory := by
  obtain ⟨hlead, hbody⟩ := lead_append_of_name hname more
  rw [locate, hlead, hbody] at h
  rw [← follow_lead_body]
  exact isDirectory_of_walk h hfinish

/-- A path with one component more needs a directory in front of it, unless there is no name yet. -/
theorem locate_of_locate_concat {outer : List Component} {last : Component}
    (h : d.locate (outer ++ [last]) = .ok finish)
    (hname : ∃ c ∈ outer ++ [last], c.isName = true) :
    d.locate outer = .ok (follow d.current outer) ∧
      d.get? (follow d.current outer) = some .directory := by
  by_cases houter : ∃ c ∈ outer, c.isName = true
  · obtain ⟨hlead, hbody⟩ := lead_append_of_name houter [last]
    rw [locate, hlead, hbody] at h
    obtain ⟨hfirst, hlast⟩ := walk_of_walk_append h
    rw [follow_lead_body] at hfirst hlast
    exact ⟨hfirst, get?_of_walk_cons hlast⟩
  · have hnone : ∀ c ∈ outer, c.isName = false := by simpa using houter
    have hlast : last.isName = true := by
      obtain ⟨c, hc, hname⟩ := hname
      rcases List.mem_append.mp hc with hc | hc
      · exact absurd ⟨c, hc, hname⟩ houter
      · rwa [← List.mem_singleton.mp hc]
    obtain ⟨hlead, hbody⟩ := lead_append_of_unnamed hnone [last]
    rw [locate, hlead, hbody] at h
    have hone : lead [last] = [] ∧ body [last] = [last] := by simp [lead, body, hlast]
    rw [hone.1, hone.2, List.append_nil] at h
    exact ⟨locate_of_unnamed hnone, get?_of_walk_cons h⟩

/-- From a directory a single component always leads on. -/
theorem locate_concat {outer : List Component} (last : Component)
    (hl : d.locate outer = .ok (follow d.current outer))
    (hd : d.get? (follow d.current outer) = some .directory) :
    d.locate (outer ++ [last]) = .ok (follow d.current (outer ++ [last])) := by
  by_cases houter : ∃ c ∈ outer, c.isName = true
  · obtain ⟨hlead, hbody⟩ := lead_append_of_name houter [last]
    rw [locate, hlead, hbody, walk_append hl, walk_cons hd, follow_append]
    rfl
  · have hnone : ∀ c ∈ outer, c.isName = false := by simpa using houter
    cases hlast : last.isName with
    | false =>
      refine locate_of_unnamed fun c hc => ?_
      rcases List.mem_append.mp hc with hc | hc
      · exact hnone c hc
      · rwa [List.mem_singleton.mp hc]
    | true =>
      obtain ⟨hlead, hbody⟩ := lead_append_of_unnamed hnone [last]
      have hone : lead [last] = [] ∧ body [last] = [last] := by simp [lead, body, hlast]
      rw [locate, hlead, hbody, hone.1, hone.2, List.append_nil, walk_cons hd, follow_append]
      rfl

/-- A path stays open while no directory that it goes through is lost. -/
theorem locate_mono_along (hcurrent : d'.current = d.current)
    (hkeep : ∀ q, q <+: body components →
      d.get? (follow (follow d.current (lead components)) q) = some .directory →
        d'.get? (follow (follow d.current (lead components)) q) = some .directory)
    (h : d.locate components = .ok finish) : d'.locate components = .ok finish := by
  rw [locate, hcurrent]
  exact walk_mono_along hkeep h

/-- A path stays open while no directory is lost. -/
theorem locate_mono (hcurrent : d'.current = d.current)
    (hkeep : ∀ l, d.get? l = some .directory → d'.get? l = some .directory)
    (h : d.locate components = .ok finish) : d'.locate components = .ok finish :=
  locate_mono_along hcurrent (fun _ _ => hkeep _) h

end Disk

end ApiReplay.Files
