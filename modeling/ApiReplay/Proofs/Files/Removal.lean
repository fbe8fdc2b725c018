import ApiReplay.Files.Removal
import ApiReplay.Proofs.Files.Location

/-!
# What is removed from a disk

The steps that empty a directory remove things inside it and nothing else; where everything lies in
a directory, they remove all that is inside. Up to the first refusal they are taken in order, so
that a part of what was there may be left, but nothing is new and nothing has changed.

An entry is looked for by a path. Once everything inside it is removed the path may be lost, which
happens only to a path that leads through something inside the entry.

## Main definitions

* `Files.Inside`: locations inside another.
* `Files.Passes`: locations of directories that a path leads through, and around these.
* `Files.Disk.Shrunk`: a disk that has lost things at certain locations.

## Main results

* `Files.Disk.shrunk_perform`, `Files.Disk.get?_perform`: what steps remove.
* `Files.Disk.mem_emptying`: the steps that empty a directory remove everything inside.
* `Files.Disk.shrunk_removeEntry`, `Files.Disk.Removed`: what removing an entry leaves.
-/

namespace ApiReplay.Files

open FilePath (Component lead body)

/-! ### Locations -/

/-- A location inside another. -/
def Inside (base location : Location) : Prop :=
  base <+: location ∧ location ≠ base

theorem inside_append {base : Location} {names : List String} (h : names ≠ []) :
    Inside base (base ++ names) :=
  ⟨List.prefix_append base names, fun heq => h (List.append_right_eq_self.mp heq)⟩

theorem Inside.exists_append {base location : Location} (h : Inside base location) :
    ∃ name rest, location = base ++ name :: rest := by
  obtain ⟨⟨names, rfl⟩, hne⟩ := h
  cases names with
  | nil => exact absurd (List.append_nil base) hne
  | cons name rest => exact ⟨name, rest, rfl⟩

/-- The top is inside nothing. -/
theorem Inside.ne_nil {base location : Location} (h : Inside base location) : location ≠ [] := by
  obtain ⟨name, rest, rfl⟩ := h.exists_append
  exact List.append_ne_nil_of_right_ne_nil base (List.cons_ne_nil name rest)

/-- Everything at a location inside another, or further inside, is inside the other. -/
theorem Inside.trans_isPrefix {base middle location : Location} (h : Inside base middle)
    (hmiddle : middle <+: location) : Inside base location := by
  obtain ⟨name, rest, rfl⟩ := h.exists_append
  obtain ⟨more, rfl⟩ := hmiddle
  rw [List.append_assoc, List.cons_append]
  exact inside_append (List.cons_ne_nil name _)

/-- The directories that components lead through behind the lead, and those around them. -/
def Passes (start : Location) (components : List Component) (location : Location) : Prop :=
  ∃ q, q <+: body components ∧ location <+: follow (follow start (lead components)) q

theorem OnTheWay.passes {start : Location} {components : List Component} {location : Location}
    (h : OnTheWay start components location) : Passes start components location := by
  obtain ⟨outer, text, ⟨more, rfl⟩, rfl⟩ := h
  have hname : ∃ c ∈ outer ++ [Component.name text], c.isName = true := ⟨.name text, by simp, rfl⟩
  obtain ⟨hlead, hbody⟩ := lead_append_of_name hname more
  have hend : follow (follow start (lead (outer ++ [.name text] ++ more)))
      (body (outer ++ [.name text])) = follow start (outer ++ [.name text]) := by
    rw [hlead, follow_lead_body]
  exact ⟨body (outer ++ [.name text]), hbody ▸ List.prefix_append _ more, hend ▸ List.prefix_rfl⟩

namespace Disk

variable {p p' : Location → Prop} {d d' d'' : Disk} {components : List Component}
  {base location target : Location} {steps : List (Deed × Location)} {name : String}
  {names : List String} {fault : Fault}

theorem namesBelow?_eq_some_iff :
    namesBelow? base location = some names ↔ location = base ++ names := by
  induction base generalizing location with
  | nil => rw [namesBelow?, Option.some.injEq, List.nil_append]
  | cons first rest ih =>
    cases location with
    | nil => simp [namesBelow?]
    | cons other more =>
      rw [namesBelow?, List.cons_append, List.cons.injEq]
      by_cases h : first = other
      · rw [if_pos h, ih]
        exact ⟨fun hrest => ⟨h.symm, hrest⟩, And.right⟩
      · rw [if_neg h]
        exact ⟨fun hnone => (by cases hnone), fun heq => absurd heq.1.symm h⟩

/-! ### Shrinking -/

/-- A disk that has lost what was at some locations with a property, if anything. -/
structure Shrunk (p : Location → Prop) (d d' : Disk) : Prop where
  current_eq : d'.current = d.current
  permit_eq : d'.permit = d.permit
  room_eq : d'.room = d.room
  eq_or : ∀ l, d'.get? l = d.get? l ∨ d'.get? l = none ∧ p l

namespace Shrunk

theorem refl (p : Location → Prop) (d : Disk) : Shrunk p d d :=
  ⟨rfl, rfl, rfl, fun _ => .inl rfl⟩

theorem mono (h : Shrunk p d d') (hp : ∀ l, p l → p' l) : Shrunk p' d d' :=
  ⟨h.current_eq, h.permit_eq, h.room_eq, fun l => (h.eq_or l).imp_right (And.imp_right (hp l))⟩

/-- What is found was there before. -/
theorem get?_of_some (h : Shrunk p d d') {l : Location} {found : Entry}
    (hfound : d'.get? l = some found) : d.get? l = some found := by
  rcases h.eq_or l with heq | ⟨hnone, -⟩
  · rw [← heq, hfound]
  · rw [hfound] at hnone
    cases hnone

theorem get?_eq_none (h : Shrunk p d d') {l : Location} (hl : d.get? l = none) :
    d'.get? l = none := by
  rcases h.eq_or l with heq | ⟨hnone, -⟩
  · rw [heq, hl]
  · exact hnone

theorem get?_eq (h : Shrunk p d d') {l : Location} (hl : ¬ p l) : d'.get? l = d.get? l :=
  (h.eq_or l).resolve_right fun hnone => hl hnone.2

theorem trans (h : Shrunk p d d') (h' : Shrunk p d' d'') : Shrunk p d d'' where
  current_eq := h'.current_eq.trans h.current_eq
  permit_eq := h'.permit_eq.trans h.permit_eq
  room_eq := h'.room_eq.trans h.room_eq
  eq_or l := by
    rcases h'.eq_or l with heq | hnone
    · rw [heq]
      exact h.eq_or l
    · exact .inr hnone

end Shrunk

theorem shrunk_remove (hp : p location) : Shrunk p d (d.remove location) := by
  refine ⟨rfl, rfl, rfl, fun l => ?_⟩
  rw [get?_remove]
  split
  · rename_i heq
    exact .inr ⟨rfl, heq.1 ▸ hp⟩
  · exact .inl rfl

/-! ### Steps -/

/-- Steps remove nothing but what they say. -/
theorem shrunk_perform (h : ∀ l, (.remove, l) ∈ steps → p l) : Shrunk p d (d.perform steps).2 := by
  induction steps generalizing d with
  | nil => exact .refl p d
  | cons step rest ih =>
    obtain ⟨deed, location⟩ := step
    have hrest := fun l hl => h l (List.mem_cons_of_mem _ hl)
    unfold perform
    split
    · exact .refl p d
    · split
      · rename_i hremove
        rw [hremove] at h
        exact (shrunk_remove (h location List.mem_cons_self)).trans (ih hrest)
      · exact ih hrest

/-- When all steps are taken, everything is gone that they remove. -/
theorem get?_perform (h : (d.perform steps).1 = .ok ()) (hl : (.remove, location) ∈ steps)
    (hne : location ≠ []) : (d.perform steps).2.get? location = none := by
  induction steps generalizing d with
  | nil => cases hl
  | cons step rest ih =>
    obtain ⟨deed, other⟩ := step
    unfold perform at h ⊢
    split at h
    · cases h
    · rcases List.mem_cons.mp hl with heq | hrest
      · obtain ⟨rfl, rfl⟩ := Prod.mk.inj heq
        rw [if_pos rfl] at h ⊢
        refine (shrunk_perform (p := fun _ => True) fun _ _ => trivial).get?_eq_none ?_
        rw [get?_remove, if_pos ⟨rfl, hne⟩]
      · exact ih h hrest

/-- Where none of them is refused all steps are taken. -/
theorem perform_of_permit (h : ∀ step ∈ steps, d.permit step.1 step.2 = .ok ()) :
    (d.perform steps).1 = .ok () := by
  induction steps generalizing d with
  | nil => rfl
  | cons step rest ih =>
    obtain ⟨hstep, hrest⟩ := List.forall_mem_cons.mp h
    obtain ⟨deed, location⟩ := step
    unfold perform
    rw [hstep]
    refine ih fun next hnext => ?_
    split
    · exact hrest next hnext
    · exact hrest next hnext

/-! ### The steps that empty a directory -/

/-- Everything inside a location lies in a directory. -/
def ClosedIn (d : Disk) (base : Location) : Prop :=
  ∀ l, Inside base l → (d.get? l).isSome → d.get? l.dropLast = some .directory

/-- Around what is inside a location, there are directories. -/
theorem ClosedIn.isDirectory (h : d.ClosedIn base) (hne : names ≠ [])
    (hsome : (d.get? (base ++ names)).isSome) : d.get? base = some .directory := by
  obtain ⟨reversed, rfl⟩ : ∃ reversed : List String, names = reversed.reverse :=
    ⟨names.reverse, names.reverse_reverse.symm⟩
  induction reversed with
  | nil => exact absurd rfl hne
  | cons last outer ih =>
    have hout := h _ (inside_append hne) hsome
    rw [List.reverse_cons, ← List.append_assoc, List.dropLast_concat] at hout
    by_cases houter : outer.reverse = []
    · rwa [houter, List.append_nil] at hout
    · exact ih houter (by rw [hout]; rfl)

theorem nodup_eraseDups {α : Type} [BEq α] [LawfulBEq α] : (l : List α) → l.eraseDups.Nodup
  | [] => List.nodup_nil
  | a :: rest => by
    rw [List.eraseDups_cons, List.nodup_cons, List.mem_eraseDups]
    exact ⟨by simp, nodup_eraseDups _⟩
termination_by l => l.length
decreasing_by exact Nat.lt_succ_of_le (List.length_filter_le _ _)

/-- The names in a directory are those under which something is found. -/
theorem mem_namesIn : name ∈ d.namesIn base ↔ (d.get? (base ++ [name])).isSome := by
  have hget : d.get? (base ++ [name]) = d.entries.lookup (base ++ [name]) := by
    cases base <;> rfl
  rw [hget, List.lookup_isSome_iff, namesIn, List.mem_eraseDups, List.mem_filterMap]
  constructor
  · rintro ⟨⟨location, entry⟩, hmem, hname⟩
    dsimp only at hname
    split at hname
    · rename_i hbelow
      obtain rfl := Option.some.inj hname
      obtain rfl := namesBelow?_eq_some_iff.mp hbelow
      exact ⟨_, hmem, by simp⟩
    · cases hname
  · rintro ⟨⟨location, entry⟩, hmem, heq⟩
    obtain rfl : base ++ [name] = location := by simpa using heq
    refine ⟨_, hmem, ?_⟩
    simp only [namesBelow?_eq_some_iff.mpr rfl]

theorem nodup_namesIn (d : Disk) (base : Location) : (d.namesIn base).Nodup :=
  nodup_eraseDups _

theorem ClosedIn.concat (h : d.ClosedIn base) (name : String) : d.ClosedIn (base ++ [name]) :=
  fun l hl => h l ((inside_append (List.cons_ne_nil name [])).trans_isPrefix hl.1)

/-- Whatever is inside a directory, its first name is one of those in the directory. -/
theorem ClosedIn.mem_namesIn (h : d.ClosedIn base)
    (hsome : (d.get? (base ++ name :: names)).isSome) : name ∈ d.namesIn base := by
  rw [Disk.mem_namesIn]
  cases names with
  | nil => exact hsome
  | cons second rest =>
    rw [List.append_cons] at hsome
    rw [(h.concat name).isDirectory (List.cons_ne_nil second rest) hsome]
    rfl

/-- Emptying a directory removes what is inside only. -/
theorem inside_of_mem_emptying {levels : Nat} (h : (.remove, location) ∈ d.emptying levels base) :
    Inside base location := by
  induction levels generalizing base with
  | zero => cases h
  | succ levels ih =>
    unfold emptying at h
    split at h
    · rcases List.mem_cons.mp h with heq | hmem
      · cases heq
      · obtain ⟨name, -, hname⟩ := List.mem_flatMap.mp hmem
        have hstep : Inside base (base ++ [name]) := inside_append (List.cons_ne_nil name [])
        rcases List.mem_append.mp hname with hin | heq
        · exact hstep.trans_isPrefix (ih hin).1
        · obtain ⟨-, rfl⟩ := Prod.mk.inj (List.mem_singleton.mp heq)
          exact hstep
    · cases h

/-- What is listed and removed to empty a directory is there. -/
theorem isSome_of_mem_emptying {levels : Nat} {deed : Deed}
    (h : (deed, location) ∈ d.emptying levels base) : (d.get? location).isSome := by
  induction levels generalizing base with
  | zero => cases h
  | succ levels ih =>
    unfold emptying at h
    split at h
    · rename_i hd
      rcases List.mem_cons.mp h with heq | hmem
      · obtain ⟨-, rfl⟩ := Prod.mk.inj heq
        rw [hd]
        rfl
      · obtain ⟨name, hname, hstep⟩ := List.mem_flatMap.mp hmem
        rcases List.mem_append.mp hstep with hin | heq
        · exact ih hin
        · obtain ⟨-, rfl⟩ := Prod.mk.inj (List.mem_singleton.mp heq)
          exact mem_namesIn.mp hname
    · cases h

/-- Emptying a directory removes everything inside, down to a number of levels. -/
theorem mem_emptying {levels : Nat} (hc : d.ClosedIn base) (hne : names ≠ [])
    (hsome : (d.get? (base ++ names)).isSome) (hlevels : names.length ≤ levels) :
    (.remove, base ++ names) ∈ d.emptying levels base := by
  induction levels generalizing base names with
  | zero => exact absurd (List.eq_nil_of_length_eq_zero (Nat.le_zero.mp hlevels)) hne
  | succ levels ih =>
    obtain ⟨first, more, rfl⟩ := List.exists_cons_of_ne_nil hne
    rw [emptying, if_pos (hc.isDirectory hne hsome)]
    refine List.mem_cons_of_mem _ (List.mem_flatMap.mpr ⟨first, hc.mem_namesIn hsome, ?_⟩)
    rw [List.append_cons base first more] at hsome ⊢
    cases more with
    | nil => rw [List.append_nil]; exact List.mem_append_right _ List.mem_cons_self
    | cons second rest =>
      refine List.mem_append_left _ (ih (hc.concat first) (List.cons_ne_nil second rest) hsome ?_)
      exact Nat.le_of_succ_le_succ hlevels

/-- Nothing lies deeper than there are levels. -/
theorem length_le_levels (h : (d.get? location).isSome) : location.length ≤ d.levels := by
  have hmax (lengths : List Nat) (n : Nat) (hn : n ∈ lengths) : n ≤ lengths.foldr max 0 := by
    induction lengths with
    | nil => cases hn
    | cons first rest ih =>
      rw [List.foldr_cons]
      rcases List.mem_cons.mp hn with rfl | hrest
      · exact Nat.le_max_left _ _
      · exact Nat.le_trans (ih hrest) (Nat.le_max_right _ _)
  cases location with
  | nil => exact Nat.zero_le _
  | cons first rest =>
    obtain ⟨⟨l, entry⟩, hmem, heq⟩ := List.lookup_isSome_iff.mp h
    obtain rfl : first :: rest = l := by simpa using heq
    have hlength := List.mem_map_of_mem (f := fun e : Location × Entry => e.1.length) hmem
    exact Nat.le_succ_of_le (hmax _ _ hlength)

theorem shrunk_emptying (d : Disk) (base : Location) :
    Shrunk (Inside base) d (d.perform (d.emptying d.levels base)).2 :=
  shrunk_perform fun _ => inside_of_mem_emptying

/-- A directory is empty when all steps to empty it were taken. -/
theorem get?_emptying (hc : d.ClosedIn base) (hl : Inside base location)
    (hok : (d.perform (d.emptying d.levels base)).1 = .ok ()) :
    (d.perform (d.emptying d.levels base)).2.get? location = none := by
  obtain ⟨first, rest, rfl⟩ := hl.exists_append
  by_cases hthere : (d.get? (base ++ first :: rest)).isSome
  · refine get?_perform hok (mem_emptying hc (List.cons_ne_nil first rest) hthere ?_) hl.ne_nil
    have hlength := length_le_levels hthere
    rw [List.length_append] at hlength
    omega
  · refine (shrunk_emptying d base).get?_eq_none ?_
    rwa [← Option.not_isSome_iff_eq_none]

/-! ### Entries -/

/-- Removing an entry removes what is there and inside only. -/
theorem shrunk_removeEntry (hfollow : follow d.current components = target) :
    Shrunk (target <+: ·) d (d.removeEntry components).2 := by
  unfold removeEntry
  split
  · exact .refl _ d
  · rename_i location hl
    obtain rfl : location = target := (eq_follow_of_locate hl).trans hfollow
    split
    · exact .refl _ d
    · have hempty := (shrunk_emptying d location).mono fun l (hl : Inside location l) => hl.1
      split
      · rename_i heq
        rwa [heq] at hempty
      · rename_i d₁ heq
        rw [heq] at hempty
        split
        · exact hempty
        · exact hempty
        · rename_i location' hl'
          obtain rfl : location' = location := by
            rw [eq_follow_of_locate hl', hempty.current_eq, hfollow]
          refine hempty.trans (shrunk_perform fun l h => ?_)
          obtain ⟨-, rfl⟩ := Prod.mk.inj (List.mem_singleton.mp h)
          exact List.prefix_rfl

/-- What is left where an entry was removed: nothing inside it, nor the entry itself, unless it is a
directory through which the path led. -/
structure Removed (start : Location) (outer : List Component) (target : Location) (d : Disk) :
    Prop where
  inside : ∀ l, Inside target l → d.get? l = none
  self : d.get? target = none ∨
    Passes start outer target ∧ d.get? target = some .directory

theorem Removed.shrunk {start : Location} (h : Removed start components target d)
    (h' : Shrunk p d d') : Removed start components target d' where
  inside l hl := h'.get?_eq_none (h.inside l hl)
  self := by
    rcases h'.eq_or target with heq | ⟨hnone, -⟩
    · rw [heq]
      exact h.self
    · exact .inl hnone

/-- A path that is lost when everything inside an entry is removed has led through it. -/
theorem passes_of_locate_ne (hl : d.locate (components ++ [.name name]) = .ok (base ++ [name]))
    (h : Shrunk (Inside (base ++ [name])) d d')
    (hne : d'.locate (components ++ [.name name]) ≠ .ok (base ++ [name])) :
    Passes d.current components (base ++ [name]) ∧
      ∃ l, Inside (base ++ [name]) l ∧ (d.get? l).isSome := by
  have hwhole := eq_follow_of_locate hl
  -- Some directory on the path is lost.
  have hlost : ∃ q, q <+: body (components ++ [.name name]) ∧
      d.get? (follow (follow d.current (lead (components ++ [.name name]))) q) = some .directory ∧
      d'.get? (follow (follow d.current (lead (components ++ [.name name]))) q)
        ≠ some .directory := by
    refine Classical.byContradiction fun hno => hne (locate_mono_along h.current_eq ?_ hl)
    intro q hq hd
    exact Classical.byContradiction fun hd' => hno ⟨q, hq, hd, hd'⟩
  obtain ⟨q, hq, hd, hd'⟩ := hlost
  have hin : Inside (base ++ [name])
      (follow (follow d.current (lead (components ++ [.name name]))) q) := by
    rcases h.eq_or (follow (follow d.current (lead (components ++ [.name name]))) q) with
      heq | ⟨-, hin⟩
    · exact absurd (heq.trans hd) hd'
    · exact hin
  refine ⟨?_, _, hin, by rw [hd]; rfl⟩
  obtain ⟨hlead, hbody⟩ := lead_append_names components [name]
  rw [List.map_singleton] at hlead hbody
  rw [hlead] at hin
  rw [hbody] at hq
  rcases List.prefix_concat_iff.mp hq with rfl | hshort
  · -- The whole path leads to the entry, and not inside it.
    rw [hwhole, ← follow_lead_body, hlead, hbody] at hin
    exact absurd rfl hin.2
  · exact ⟨q, hshort, hin.1⟩

theorem removed_of_removeEntry (hc : d.ClosedIn (base ++ [name]))
    (hfollow : follow d.current components = base)
    (h : (d.removeEntry (components ++ [.name name])).1 = .ok ()) :
    Removed d.current components (base ++ [name])
      (d.removeEntry (components ++ [.name name])).2 := by
  unfold removeEntry at h ⊢
  split at h
  · cases h
  · rename_i location hl
    obtain rfl : location = base ++ [name] := by
      rw [eq_follow_of_locate hl, follow_concat_name, hfollow]
    split at h
    · cases h
    · rename_i hsome
      rw [if_neg hsome]
      have hshrunk := shrunk_emptying d (base ++ [name])
      have hgone := fun l (hl : Inside (base ++ [name]) l) => get?_emptying hc hl
      split at h
      · cases h
      · rename_i d₁ heq
        rw [heq] at hshrunk hgone
        split at h
        · rename_i hlost
          obtain ⟨hpasses, l, hin, hthere⟩ :=
            passes_of_locate_ne hl hshrunk (by rw [hlost]; rintro ⟨⟩)
          obtain ⟨first, rest, rfl⟩ := hin.exists_append
          refine ⟨fun l hl => hgone l hl rfl, .inr ⟨hpasses, ?_⟩⟩
          rw [hshrunk.get?_eq fun hself => hself.2 rfl]
          exact hc.isDirectory (List.cons_ne_nil first rest) hthere
        · cases h
        · rename_i location hl₁
          obtain rfl : location = base ++ [name] := by
            rw [eq_follow_of_locate hl₁, hshrunk.current_eq, follow_concat_name, hfollow]
          have hself := get?_perform h List.mem_cons_self
            (List.append_ne_nil_of_right_ne_nil base (List.cons_ne_nil name []))
          have hmore : Shrunk (fun _ => True) d₁ (d₁.perform [(.remove, base ++ [name])]).2 :=
            shrunk_perform fun _ _ => trivial
          exact ⟨fun l hl => hmore.get?_eq_none (hgone l hl rfl), .inl hself⟩

/-- Where the system refuses nothing about what is there and the path stays open, an entry is
removed. -/
theorem removeEntry_eq_ok (hpermit : ∀ deed l, (d.get? l).isSome → d.permit deed l = .ok ())
    (hsome : (d.get? target).isSome) (hl : d.locate components = .ok target)
    (hopen : ∀ d', Shrunk (Inside target) d d' → d'.locate components = .ok target) :
    (d.removeEntry components).1 = .ok () := by
  have hempty : (d.perform (d.emptying d.levels target)).1 = .ok () :=
    perform_of_permit fun step hstep => hpermit _ _ (isSome_of_mem_emptying hstep)
  have hshrunk := shrunk_emptying d target
  unfold removeEntry
  rw [hl]
  dsimp only
  rw [if_neg (Option.isSome_iff_ne_none.mp hsome)]
  rcases heq : d.perform (d.emptying d.levels target) with ⟨result, d₁⟩
  rw [heq] at hempty hshrunk
  obtain rfl : result = .ok () := hempty
  dsimp only
  rw [hopen d₁ hshrunk]
  refine perform_of_permit fun step hstep => ?_
  rw [List.mem_singleton.mp hstep, hshrunk.permit_eq]
  exact hpermit _ _ hsome

/-! ### All entries of a directory -/

/-- Entries of a directory are inside it. -/
theorem shrunk_removeEach (hfollow : follow d.current components = base) (names : List String) :
    Shrunk (Inside base) d (removeEach components names d).2 := by
  induction names generalizing d with
  | nil => exact .refl _ d
  | cons name rest ih =>
    have hstep : Inside base (base ++ [name]) := inside_append (List.cons_ne_nil name [])
    have htarget : follow d.current (components ++ [.name name]) = base ++ [name] := by
      rw [follow_concat_name, hfollow]
    have hentry := (shrunk_removeEntry htarget).mono fun l hl => hstep.trans_isPrefix hl
    unfold removeEach
    split
    · rename_i heq
      rwa [heq] at hentry
    · rename_i d₁ heq
      rw [heq] at hentry
      exact hentry.trans (ih (hentry.current_eq ▸ hfollow))

/-- Where entries are gone with everything inside, all else still lies in directories. -/
theorem Removed.closedIn {start : Location} (h : Removed start components (base ++ [name]) d')
    (hshrunk : Shrunk (base ++ [name] <+: ·) d d') (hc : d.ClosedIn base) : d'.ClosedIn base := by
  intro l hl hsome
  obtain ⟨found, hfound⟩ := Option.isSome_iff_exists.mp hsome
  have hout := hc l hl (by rw [hshrunk.get?_of_some hfound]; rfl)
  rcases hshrunk.eq_or l.dropLast with heq | ⟨-, hp⟩
  · rw [heq, hout]
  · -- The directory around would be gone, and so would be what is in it.
    have hin : Inside (base ++ [name]) l := by
      refine ⟨hp.trans (List.dropLast_prefix l), fun heq => ?_⟩
      rw [heq, List.dropLast_concat] at hp
      exact absurd hp.length_le (by simp)
    rw [h.inside l hin] at hfound
    cases hfound

/-- When all entries could be removed, this is what is left of each of them. -/
theorem removed_of_removeEach (hc : d.ClosedIn base)
    (hfollow : follow d.current components = base)
    (h : (removeEach components names d).1 = .ok ()) :
    ∀ name ∈ names, Removed d.current components (base ++ [name])
      (removeEach components names d).2 := by
  induction names generalizing d with
  | nil => exact fun name hname => nomatch hname
  | cons first rest ih =>
    have htarget : follow d.current (components ++ [.name first]) = base ++ [first] := by
      rw [follow_concat_name, hfollow]
    have hshrunk := shrunk_removeEntry htarget
    have hremoved : (d.removeEntry (components ++ [.name first])).1 = .ok () →
        Removed d.current components (base ++ [first])
          (d.removeEntry (components ++ [.name first])).2 :=
      removed_of_removeEntry (hc.concat first) hfollow
    unfold removeEach at h ⊢
    split at h
    · cases h
    · rename_i d₁ heq
      rw [heq] at hshrunk hremoved
      have hfollow₁ : follow d₁.current components = base := hshrunk.current_eq ▸ hfollow
      have hfirst := hremoved rfl
      intro name hname
      rcases List.mem_cons.mp hname with rfl | hrest
      · exact hfirst.shrunk (shrunk_removeEach hfollow₁ rest)
      · have hmore := ih (hfirst.closedIn hshrunk hc) hfollow₁ h name hrest
        rwa [hshrunk.current_eq] at hmore

/-- Where the system refuses nothing about what is there and the path stays open, all entries are
removed. -/
theorem removeEach_eq_ok (hpermit : ∀ deed l, (d.get? l).isSome → d.permit deed l = .ok ())
    (hd : d.get? base = some .directory)
    (hopen : ∀ d', Shrunk (Inside base) d d' → d'.locate components = .ok base)
    (hnodup : names.Nodup) (hnames : ∀ name ∈ names, (d.get? (base ++ [name])).isSome) :
    (removeEach components names d).1 = .ok () := by
  have hbase : ¬ Inside base base := fun hself => hself.2 rfl
  have hnext {d' : Disk} (h : Shrunk (Inside base) d d') (name : String) :
      d'.locate (components ++ [.name name]) = .ok (base ++ [name]) := by
    have hl := hopen d' h
    have hfollow := eq_follow_of_locate hl
    rw [← h.get?_eq hbase] at hd
    rw [hfollow] at hl hd
    have hlast := locate_concat (.name name) hl hd
    rwa [follow_concat_name, ← hfollow] at hlast
  induction names generalizing d with
  | nil => rfl
  | cons first rest ih =>
    obtain ⟨hnew, hnodup⟩ := List.nodup_cons.mp hnodup
    obtain ⟨hfirst, hrest⟩ := List.forall_mem_cons.mp hnames
    have hstep : Inside base (base ++ [first]) := inside_append (List.cons_ne_nil first [])
    have hentry := removeEntry_eq_ok hpermit hfirst (hnext (.refl _ d) first) fun d' h =>
      hnext (h.mono fun l hl => hstep.trans_isPrefix hl.1) first
    have hshrunk := shrunk_removeEntry (eq_follow_of_locate (hnext (.refl _ d) first)).symm
    unfold removeEach
    rcases heq : d.removeEntry (components ++ [.name first]) with ⟨result, d₁⟩
    rw [show removeEntry (components ++ [.name first]) d = _ from heq] at hentry hshrunk ⊢
    obtain rfl : result = .ok () := hentry
    dsimp only at hshrunk ⊢
    have hmore := hshrunk.mono fun l hl => hstep.trans_isPrefix hl
    refine ih (fun deed l hl => ?permit) ?base (fun d' h => hopen d' (hmore.trans h)) hnodup
      (fun name hname => ?others) fun h name => hnext (hmore.trans h) name
    case permit =>
      obtain ⟨found, hfound⟩ := Option.isSome_iff_exists.mp hl
      rw [hshrunk.permit_eq]
      exact hpermit deed l (by rw [hshrunk.get?_of_some hfound]; rfl)
    case base => rw [hmore.get?_eq hbase, hd]
    case others =>
      -- Another entry is not inside the one that was removed.
      rw [hshrunk.get?_eq fun hp => ?_]
      · exact hrest name hname
      · have heq := hp.eq_of_length (by simp)
        rw [List.append_cancel_left_eq, List.singleton_inj] at heq
        exact hnew (heq ▸ hname)

end Disk

end ApiReplay.Files
