import ApiReplay.Proofs.Session.DistinctKeys
import ApiReplay.Proofs.Session.Matching
import ApiReplay.Proofs.Variables.Readers

/-!
# What a binding stores, a match finds again

A binding stores what its path leads to. An expression that does not refer to the variable leads to
the same place afterwards, so that a match of the same path against a reference to the variable
compares a value with itself. It passes, because agreement is reflexive on trees with distinct keys.
Where the path leads to nothing, the variable holds null. The match fails then, since nothing
matches not even null.

## Main definitions

* `Path.RefersTo`: the expressions that read a variable.

## Main results

* `Path.resolve_bind`: an expression that does not read a variable resolves alike whatever is bound
  to it.
* `Session.match_after_bind`: a match against what was bound.
-/

namespace ApiReplay

/-! ### Expressions and variables -/

namespace Path

variable {vars : Variables} {name : String} {segments : List Segment}

/-- An expression reads a variable: it has a dot, and one of its segments is the variable. -/
def RefersTo (expr name : String) : Prop :=
  '.' ∈ expr.toList ∧ .variable name ∈ parse expr

theorem lookup_bind_of_ne {other : String} (h : name ≠ other) (value : Json) :
    (vars.bind name value).lookup other = vars.lookup other := by
  rw [Variables.lookup, Variables.lookup, Variables.get?_bind, if_neg h]

/-- A walk that does not meet a variable is the same whatever is bound to it. -/
theorem walk_bind (h : .variable name ∉ segments) (value : Json) (start : Option Json) :
    walk (vars.bind name value) start segments = walk vars start segments := by
  induction segments generalizing start with
  | nil => rfl
  | cons segment rest ih =>
    rw [List.mem_cons, not_or] at h
    by_cases hvar : ∃ other, segment = .variable other
    · obtain ⟨other, rfl⟩ := hvar
      have hne : name ≠ other := fun heq => h.1 (congrArg Segment.variable heq)
      rw [walk, walk, lookup_bind_of_ne hne]
      cases vars.lookup other with
      | error e => rfl
      | ok found => exact ih h.2 (some found)
    · have hkind : ∀ other, segment ≠ .variable other := not_exists.mp hvar
      cases hnext : start.bind fun tree => step? tree segment with
      | some next =>
        obtain ⟨tree, rfl, hstep⟩ := Option.bind_eq_some_iff.mp hnext
        rw [walk_cons_of_step? hstep, walk_cons_of_step? hstep, ih h.2]
      | none =>
        have hmiss : ∀ tree ∈ start, step? tree segment = none :=
          fun tree htree => Option.bind_eq_none_iff.mp hnext tree htree
        rw [walk_cons_of_misses hkind hmiss, walk_cons_of_misses hkind hmiss]

/-- An expression that does not read a variable resolves alike whatever is bound to it. -/
theorem resolve_bind {expr : String} (h : ¬ RefersTo expr name) (value : Json)
    (response : Option Response) :
    resolve (vars.bind name value) response expr = resolve vars response expr := by
  unfold resolve
  dsimp only
  split
  case isTrue hdot =>
    exact walk_bind (fun hmem => h ⟨List.contains_iff_mem.mp hdot, hmem⟩) value _
  case isFalse => rfl

end Path

/-! ### Matching against what was bound -/

namespace Session

variable {σ : Type} {s : Session} {path name : String}

/-- Every tree with distinct keys matches itself. -/
theorem satisfies_self {value : Json} (h : value.DistinctKeys) : value.satisfies value := by
  rw [Json.satisfies, Json.agrees_refl h, Bool.true_or, Bool.true_or]

/-- With a value bound to it, a reference in a match stands for the value. -/
theorem checkEqual_reference (hname : name ≠ "") (hpath : ¬ Path.RefersTo path name)
    {found : Option Json} (hr : s.resolve path = .ok found) (value : Json) :
    let after : Session := { s with vars := s.vars.bind name value }
    after.checkEqual path (.string (Variables.reference name))
      = if found.any fun actual => actual.satisfies value then .ok ()
        else .error (.mismatch path value.text (found.map Json.text) s.responseText) := by
  intro after
  have hexpand : after.vars.expand (.string (Variables.reference name)) = .ok value := by
    rw [Variables.expand_reference hname, Variables.lookup, Variables.get?_bind, if_pos rfl]
  have hresolve : after.resolve path = .ok found := by
    rw [resolve_eq_ok_iff, Path.resolve_bind hpath, ← resolve_eq_ok_iff]
    exact hr
  rw [checkEqual, hexpand, hresolve]
  rfl

/-- **What a binding stores, a match finds again.** In every session whose objects have distinct
keys, as those of all runs do (`hasDistinctKeys_runAll`), and for every path that does not read the
variable and resolves, the binding succeeds, and the match of the path against a reference to the
variable passes exactly when the path leads to a value, be it null. When it leads to nothing, null
is bound, and the match fails with nothing as the actual value. That is all that the verdict depends
on. -/
theorem match_after_bind (client : Client σ) (s : Session) (service : σ) (path name : String)
    (hs : s.HasDistinctKeys) (hname : name ≠ "") (hpath : ¬ Path.RefersTo path name)
    (found : Option Json) (hr : s.resolve path = .ok found) :
    let bound := s.run client (.bind path name) service
    let matched := bound.session.run client (.equal path (.string (Variables.reference name)))
      bound.service
    bound.result = .ok () ∧
      bound.session.vars.get? name = some (found.getD .null) ∧
      (matched.result = .ok () ↔ ∃ value, found = some value) ∧
      (found = none →
        matched.result = .error (.mismatch path "null" none s.responseText)) := by
  intro bound matched
  have hbound : bound = ⟨.ok (), { s with vars := s.vars.bind name (found.getD .null) }, service,
      [.actionStarted (.bind path name), .bound name (found.getD .null)]⟩ := by
    simp only [bound, run, perform, Session.bind, hr]
  have hresult : matched.result
      = if found.any fun actual => actual.satisfies (found.getD .null) then .ok ()
        else .error (.mismatch path (found.getD .null).text (found.map Json.text)
          s.responseText) := by
    rw [← checkEqual_reference hname hpath hr]
    simp only [matched, hbound]
    rfl
  have hstored : bound.session.vars.get? name = some (found.getD .null) := by
    rw [hbound, Variables.get?_bind, if_pos rfl]
  refine ⟨by rw [hbound], hstored, ?verdict, ?missing⟩
  case verdict =>
    rw [hresult]
    cases found with
    | none => simp
    | some value => simp [satisfies_self (distinctKeys_of_resolve hs hr)]
  case missing =>
    rintro rfl
    exact hresult

/-- A null in the body is found again, and a key that the body does not have is not, although a
variable that is not bound stands behind it. -/
theorem match_after_bind_of_null :
    let client : Client Unit :=
      { flavor := .stack
        perform := fun _ state => ({ result := .ok (.ok 200 (.object [("a", .null)])) }, state) }
    let s := (runAll client [.call ⟨"get", .null, none, []⟩] .start ()).2.1
    let rematch : String → Except Error Unit := fun path =>
      ((s.run client (.bind path "v") ()).session.run client (.equal path (.string "$v")) ()).result
    rematch "a" = .ok () ∧
      rematch "b.$w" = .error (.mismatch "b.$w" "null" none "[200] \x7b\"a\":null\x7d") := by
  intro client s rematch
  have hclient : client.AnswersTrees := by
    intro request state response hresponse body hbody
    obtain rfl := Except.ok.inj hresponse
    obtain rfl := Option.some.inj hbody
    exact .object (by decide) (by simpa using Json.DistinctKeys.null)
  have hs : s.HasDistinctKeys := hasDistinctKeys_runAll hclient hasDistinctKeys_start _ ()
  have hplain : ¬ Path.RefersTo "a" "v" := fun h => absurd h.1 (by decide)
  have hdotted : ¬ Path.RefersTo "b.$w" "v" := fun h => absurd h.2 (by decide)
  obtain ⟨-, -, hfound, -⟩ :=
    match_after_bind client s () "a" "v" hs (by decide) hplain (some .null) rfl
  obtain ⟨-, -, -, hmissing⟩ :=
    match_after_bind client s () "b.$w" "v" hs (by decide) hdotted none rfl
  exact ⟨hfound.mpr ⟨.null, rfl⟩, hmissing rfl⟩

end Session

end ApiReplay
