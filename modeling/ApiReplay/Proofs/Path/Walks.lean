import ApiReplay.Proofs.Path.Addressing

/-!
# Walks with variables

Segments lead from one place to another, each from where the one before it ended. A key or an index
leads on from a tree, or it misses; from nowhere it always misses. A variable leads to its value from
anywhere, and only if it is bound. The first segment that does not lead on decides what a walk
yields: nothing where a key or an index misses, and an error at a variable that is not bound. What
stands behind that segment does not count, and what stands before the last variable counts only in
that it leads on.

## Main definitions

* `Path.Leads`: where segments lead.
* `Path.Misses`: a key or an index that misses behind segments that lead on.
* `Path.FirstUnbound`: the first variable that is not bound, behind segments none of which misses.
* `Path.Course`: what a walk may come to.

## Main results

* `Path.course_walk`, `Path.Course.walk_eq`: every walk takes a course, and only one.
* `Path.walk_append_of_eq_some`: a walk goes on from the value that its first part leads to.
* `Path.resolve_dotted`: what an expression with a dot resolves to.
-/

namespace ApiReplay.Path

variable {vars : Variables} {start place : Option Json} {segment : Segment}
  {segments first more before after rest : List Segment} {name : String} {value : Json}

/-! ### Where segments lead -/

/-- Segments lead from a place to another. Only variables lead on from nowhere. -/
inductive Leads (vars : Variables) : Option Json → List Segment → Option Json → Prop
  | here (place : Option Json) : Leads vars place [] place
  | step {tree next : Json} {segment : Segment} {rest : List Segment} {finish : Option Json}
      (hstep : step? tree segment = some next) (hrest : Leads vars (some next) rest finish) :
      Leads vars (some tree) (segment :: rest) finish
  | «variable» {place finish : Option Json} {name : String} {value : Json} {rest : List Segment}
      (hvalue : vars.get? name = some value) (hrest : Leads vars (some value) rest finish) :
      Leads vars place (.variable name :: rest) finish

/-- A key or an index leads nowhere from where the segments before it lead. -/
def Misses (vars : Variables) (start : Option Json) (before : List Segment) (segment : Segment) :
    Prop :=
  ∃ place, Leads vars start before place ∧ (∀ name, segment ≠ .variable name) ∧
    ∀ tree ∈ place, step? tree segment = none

/-- A variable is not bound, while all variables before it are and no segment before it misses. -/
structure FirstUnbound (vars : Variables) (start : Option Json) (segments : List Segment)
    (before : List Segment) (name : String) : Prop where
  exists_eq : ∃ after, segments = before ++ .variable name :: after
  get?_eq_none : vars.get? name = none
  /-- It is the leftmost one. -/
  bound_before : ∀ other, Segment.variable other ∈ before → (vars.get? other).isSome
  leads_before : ∀ outer segment inner, before = outer ++ segment :: inner →
    ¬ Misses vars start outer segment

/-! ### The course of a walk -/

/-- What a walk along segments comes to: they all lead on, or the first that does not misses or is a
variable without a value. -/
inductive Course (vars : Variables) (start : Option Json) (segments : List Segment) :
    Except UnboundVariable (Option Json) → Prop
  | leads {place : Option Json} (h : Leads vars start segments place) :
      Course vars start segments (.ok place)
  | misses {before after : List Segment} {segment : Segment}
      (heq : segments = before ++ segment :: after) (h : Misses vars start before segment) :
      Course vars start segments (.ok none)
  | unbound {before after : List Segment} {name : String} {place : Option Json}
      (heq : segments = before ++ .variable name :: after) (h : Leads vars start before place)
      (hnone : vars.get? name = none) : Course vars start segments (.error ⟨name⟩)

theorem Misses.step {tree next : Json} (hstep : step? tree segment = some next)
    {last : Segment} (h : Misses vars (some next) before last) :
    Misses vars (some tree) (segment :: before) last := by
  obtain ⟨place, hleads, hmiss⟩ := h
  exact ⟨place, .step hstep hleads, hmiss⟩

theorem Misses.variable (hvalue : vars.get? name = some value)
    (h : Misses vars (some value) before segment) :
    Misses vars start (.variable name :: before) segment := by
  obtain ⟨place, hleads, hmiss⟩ := h
  exact ⟨place, .variable hvalue hleads, hmiss⟩

/-- A course is taken from a tree behind a key or an index that leads there. -/
theorem Course.step {tree next : Json} {result : Except UnboundVariable (Option Json)}
    (hstep : step? tree segment = some next) (h : Course vars (some next) rest result) :
    Course vars (some tree) (segment :: rest) result := by
  cases h with
  | leads h => exact .leads (.step hstep h)
  | misses heq h => exact .misses (by rw [heq, List.cons_append]) (h.step hstep)
  | unbound heq h hnone =>
    exact .unbound (by rw [heq, List.cons_append]) (.step hstep h) hnone

/-- A course is taken from the value of a variable behind that variable. -/
theorem Course.variable {result : Except UnboundVariable (Option Json)}
    (hvalue : vars.get? name = some value) (h : Course vars (some value) rest result) :
    Course vars start (.variable name :: rest) result := by
  cases h with
  | leads h => exact .leads (.variable hvalue h)
  | misses heq h => exact .misses (by rw [heq, List.cons_append]) (h.variable hvalue)
  | unbound heq h hnone =>
    exact .unbound (by rw [heq, List.cons_append]) (.variable hvalue h) hnone

/-- A key or an index that leads nowhere from a place ends the walk there. -/
theorem walk_cons_of_misses (hvar : ∀ name, segment ≠ .variable name)
    (hmiss : ∀ tree ∈ place, step? tree segment = none) :
    walk vars place (segment :: rest) = .ok none := by
  cases place with
  | some tree => exact walk_cons_of_step?_eq_none hvar (hmiss tree rfl)
  | none =>
    cases segment with
    | «variable» name => exact absurd rfl (hvar name)
    | _ => rfl

theorem walk_cons_variable (hvalue : vars.get? name = some value) :
    walk vars place (.variable name :: rest) = walk vars (some value) rest := by
  simp only [walk, Variables.lookup, hvalue]

/-- Every walk takes a course. -/
theorem course_walk (vars : Variables) (start : Option Json) (segments : List Segment) :
    Course vars start segments (walk vars start segments) := by
  induction segments generalizing start with
  | nil => exact .leads (.here start)
  | cons segment rest ih =>
    by_cases hvar : ∃ name, segment = .variable name
    · obtain ⟨name, rfl⟩ := hvar
      cases hvalue : vars.get? name with
      | some value =>
        rw [walk_cons_variable hvalue]
        exact (ih (some value)).variable hvalue
      | none =>
        have hwalk : walk vars start (.variable name :: rest) = .error ⟨name⟩ := by
          simp only [walk, Variables.lookup, hvalue]
        rw [hwalk]
        exact .unbound (List.nil_append _).symm (.here start) hvalue
    · have hkind : ∀ name, segment ≠ .variable name := not_exists.mp hvar
      cases hnext : start.bind fun tree => step? tree segment with
      | some next =>
        obtain ⟨tree, rfl, hstep⟩ := Option.bind_eq_some_iff.mp hnext
        rw [walk_cons_of_step? hstep]
        exact (ih (some next)).step hstep
      | none =>
        have hmiss : ∀ tree ∈ start, step? tree segment = none :=
          fun tree htree => Option.bind_eq_none_iff.mp hnext tree htree
        rw [walk_cons_of_misses hkind hmiss]
        exact .misses (List.nil_append _).symm ⟨start, .here start, hkind, hmiss⟩

/-- Behind segments that lead to a place, a walk goes on from there. -/
theorem walk_append_of_leads (h : Leads vars start first place) (more : List Segment) :
    walk vars start (first ++ more) = walk vars place more := by
  induction h with
  | here place => rfl
  | step hstep _ ih => rw [List.cons_append, walk_cons_of_step? hstep, ih]
  | «variable» hvalue _ ih => rw [List.cons_append, walk_cons_variable hvalue, ih]

/-- A walk takes no other course than its own. -/
theorem Course.walk_eq {result : Except UnboundVariable (Option Json)}
    (h : Course vars start segments result) : walk vars start segments = result := by
  cases h with
  | leads h =>
    have hwalk := walk_append_of_leads h []
    rwa [List.append_nil] at hwalk
  | misses heq h =>
    obtain ⟨place, hleads, hvar, hmiss⟩ := h
    rw [heq, walk_append_of_leads hleads, walk_cons_of_misses hvar hmiss]
  | unbound heq h hnone =>
    rw [heq, walk_append_of_leads h]
    simp only [walk, Variables.lookup, hnone]

theorem Leads.unique {other : Option Json} (h : Leads vars start segments place)
    (h' : Leads vars start segments other) : place = other :=
  Except.ok.inj ((Course.leads h).walk_eq.symm.trans (Course.leads h').walk_eq)

theorem walk_eq_iff {result : Except UnboundVariable (Option Json)} :
    walk vars start segments = result ↔ Course vars start segments result :=
  ⟨fun h => h ▸ course_walk vars start segments, Course.walk_eq⟩

/-! ### Values -/

/-- Segments that lead to a value are those along which a walk yields it. -/
theorem walk_eq_some_iff : walk vars start segments = .ok (some value) ↔
    Leads vars start segments (some value) := by
  rw [walk_eq_iff]
  refine ⟨fun h => ?_, .leads⟩
  cases h with
  | leads h => exact h

/-- Behind a list of segments that gives a value, a walk is the walk from that value. -/
theorem walk_append_of_eq_some (h : walk vars start first = .ok (some value))
    (more : List Segment) : walk vars start (first ++ more) = walk vars (some value) more :=
  walk_append_of_leads (walk_eq_some_iff.mp h) more

theorem leads_of_append (h : Leads vars start (first ++ more) place) :
    ∃ middle, Leads vars start first middle ∧ Leads vars middle more place := by
  induction first generalizing start with
  | nil => exact ⟨start, .here start, h⟩
  | cons segment rest ih =>
    cases h with
    | step hstep hrest =>
      obtain ⟨middle, hfirst, hmore⟩ := ih hrest
      exact ⟨middle, .step hstep hfirst, hmore⟩
    | «variable» hvalue hrest =>
      obtain ⟨middle, hfirst, hmore⟩ := ih hrest
      exact ⟨middle, .variable hvalue hfirst, hmore⟩

/-- Once a walk stands at a tree it never gets nowhere. -/
theorem Leads.eq_nil (h : Leads vars start segments place) (hplace : place = none) :
    segments = [] ∧ start = none := by
  induction h with
  | here place => exact ⟨rfl, hplace⟩
  | step _ _ ih => exact absurd (ih hplace).2 (Option.some_ne_none _)
  | «variable» _ _ ih => exact absurd (ih hplace).2 (Option.some_ne_none _)

/-- A variable that leads on is bound, and what is behind it leads on from its value. -/
theorem exists_of_leads_variable (h : Leads vars start (before ++ .variable name :: after) place) :
    ∃ value, vars.get? name = some value ∧ Leads vars (some value) after place := by
  obtain ⟨middle, -, hmore⟩ := leads_of_append h
  cases hmore with
  | step hstep _ => cases hstep
  | «variable» hvalue hrest => exact ⟨_, hvalue, hrest⟩

/-! ### Nothing, and errors -/

/-- Segments lead on just when all their variables are bound and none of them misses. -/
theorem exists_leads_iff : (∃ place, Leads vars start before place) ↔
    (∀ name, Segment.variable name ∈ before → (vars.get? name).isSome) ∧
      ∀ outer segment inner, before = outer ++ segment :: inner →
        ¬ Misses vars start outer segment := by
  constructor
  · rintro ⟨place, h⟩
    refine ⟨fun name hname => ?_, fun outer segment inner heq hmiss => ?_⟩
    · obtain ⟨outer, inner, rfl⟩ := List.append_of_mem hname
      obtain ⟨value, hvalue, -⟩ := exists_of_leads_variable h
      rw [hvalue]
      rfl
    · -- The segment leads on from the place where it would miss.
      subst heq
      obtain ⟨middle, houter, hinner⟩ := leads_of_append h
      obtain ⟨place', houter', hvar, hnone⟩ := hmiss
      obtain rfl := houter.unique houter'
      cases hinner with
      | step hstep _ => rw [hnone _ rfl] at hstep; cases hstep
      | «variable» _ _ => exact hvar _ rfl
  · rintro ⟨hbound, hleads⟩
    obtain ⟨result, h⟩ : ∃ result, Course vars start before result :=
      ⟨_, course_walk vars start before⟩
    cases h with
    | leads h => exact ⟨_, h⟩
    | misses heq h => exact absurd h (hleads _ _ _ heq)
    | @unbound outer inner name _ heq _ hnone =>
      have hsome := hbound name (heq ▸ List.mem_append_right outer List.mem_cons_self)
      rw [hnone] at hsome
      cases hsome

/-- A walk fails at the first variable that is not bound, unless a segment before that misses. -/
theorem walk_eq_error_iff {e : UnboundVariable} : walk vars start segments = .error e ↔
    ∃ before, FirstUnbound vars start segments before e.name := by
  rw [walk_eq_iff]
  constructor
  · intro h
    cases h with
    | unbound heq h hnone =>
      obtain ⟨hbound, hleads⟩ := exists_leads_iff.mp ⟨_, h⟩
      exact ⟨_, ⟨_, heq⟩, hnone, hbound, hleads⟩
  · rintro ⟨before, ⟨after, heq⟩, hnone, hbound, hleads⟩
    obtain ⟨place, h⟩ := exists_leads_iff.mpr ⟨hbound, hleads⟩
    exact .unbound heq h hnone

/-- A walk yields nothing where a key or an index misses, or when it never starts. -/
theorem walk_eq_none_iff : walk vars start segments = .ok none ↔
    (∃ before segment after, segments = before ++ segment :: after ∧
      Misses vars start before segment) ∨ segments = [] ∧ start = none := by
  rw [walk_eq_iff]
  constructor
  · intro h
    cases h with
    | misses heq h => exact .inl ⟨_, _, _, heq, h⟩
    | leads h => exact .inr (h.eq_nil rfl)
  · rintro (⟨before, segment, after, heq, h⟩ | ⟨rfl, rfl⟩)
    · exact .misses heq h
    · exact .leads (.here none)

/-! ### Expressions with dots -/

theorem resolve_of_dot {response : Option Response} {expr : String} (h : '.' ∈ expr.toList) :
    resolve vars response expr = walk vars (response.bind Response.body?) (parse expr) := by
  rw [resolve, if_pos (List.contains_iff_mem.mpr h)]

/-- **What expressions with dots resolve to.** For every expression with a dot, the walk along its
segments from the body fails just when a variable is not bound and nothing misses before the first
such variable, which the error names; it yields nothing just when a key or an index misses where all
segments before lead on, whatever stands behind, or when there is neither a segment nor a body. Else
it yields what the segments behind a variable, such as the last, lead to from its value. Without a
body nothing is found unless a variable comes first. And wherever segments give a value, others
behind them are walked from that value. -/
theorem resolve_dotted (vars : Variables) (response : Option Response) (expr : String)
    (hdot : '.' ∈ expr.toList) :
    (∀ e, resolve vars response expr = .error e ↔
      ∃ before, FirstUnbound vars (response.bind Response.body?) (parse expr) before e.name) ∧
    (resolve vars response expr = .ok none ↔
      (∃ before segment after, parse expr = before ++ segment :: after ∧
        Misses vars (response.bind Response.body?) before segment) ∨
      parse expr = [] ∧ response.bind Response.body? = none) ∧
    (∀ node before name after, resolve vars response expr = .ok (some node) →
      parse expr = before ++ .variable name :: after →
      ∃ value, vars.get? name = some value ∧
        resolve vars response expr = walk vars (some value) after) ∧
    (response = none ∨ (∃ b, response = some (.bool b)) →
      (∀ name after, parse expr ≠ .variable name :: after) →
      resolve vars response expr = .ok none) ∧
    ∀ start first second value, walk vars start first = .ok (some value) →
      walk vars start (first ++ second) = walk vars (some value) second := by
  rw [resolve_of_dot hdot]
  refine ⟨fun e => walk_eq_error_iff, walk_eq_none_iff,
    fun node before name after hnode heq => ?last, fun hbody hfirst => ?nowhere,
    fun start first second value h => walk_append_of_eq_some h second⟩
  case last =>
    rw [heq] at hnode ⊢
    obtain ⟨value, hvalue, hafter⟩ := exists_of_leads_variable (walk_eq_some_iff.mp hnode)
    exact ⟨value, hvalue, hnode.trans (walk_eq_some_iff.mpr hafter).symm⟩
  case nowhere =>
    have hnone : response.bind Response.body? = none := by
      rcases hbody with rfl | ⟨b, rfl⟩
      · rfl
      · rfl
    rw [hnone]
    cases hparse : parse expr with
    | nil => rfl
    | cons segment rest =>
      refine walk_cons_of_misses (fun name heq => ?_) (fun tree htree => by cases htree)
      exact hfirst name rest (by rw [hparse, heq])

/-- A key that misses before a variable without a value, and such a variable behind another. -/
theorem resolve_dotted_of_unbound :
    let vars := Variables.empty.bind "x" (.object [("b", .bool true)])
    let response := some (Response.ok 200 (.object [("a", .null)]))
    '.' ∈ "a.q.$y".toList ∧ resolve vars response "a.q.$y" = .ok none ∧
      '.' ∈ "a.$x.b.$y.c".toList ∧ resolve vars response "a.$x.b.$y.c" = .error ⟨"y"⟩ := by
  intro vars response
  have hmiss : '.' ∈ "a.q.$y".toList := by decide
  have hfail : '.' ∈ "a.$x.b.$y.c".toList := by decide
  refine ⟨hmiss, (resolve_dotted vars response _ hmiss).2.1.mpr (.inl ?_), hfail,
    ((resolve_dotted vars response _ hfail).1 ⟨"y"⟩).mpr ?_⟩
  · refine ⟨[.key "a"], .key "q", [.variable "y"], by decide, some .null, .step rfl (.here _),
      fun name => Segment.noConfusion, fun tree htree => ?_⟩
    cases htree
    rfl
  · have hleads : Leads vars (response.bind Response.body?) [.key "a", .variable "x", .key "b"]
        (some (.bool true)) :=
      .step rfl (.variable rfl (.step rfl (.here _)))
    obtain ⟨hbound, hbefore⟩ := exists_leads_iff.mp ⟨_, hleads⟩
    exact ⟨_, ⟨[.key "c"], by decide⟩, rfl, hbound, hbefore⟩

end ApiReplay.Path
