import ApiReplay.Proofs.Session.Step

/-!
# The checks of a whole response

With an empty path `is_true` and `is_false` are asked about the response itself. They are no
opposites. For `is_true` any structured response will do. `is_false` is content with the response
false, and otherwise looks up the empty path, which names the entry under the empty key of the body.
A boolean has no body and few bodies have such an entry, so that as a rule nothing is found and
`is_false` passes as well. Of every response one of the two checks holds at least.

## Main definitions

* `Response.unnamed?`: the entry under the empty key of the body.

## Main results

* `Session.resolve_empty`: what the empty path names.
* `Session.whole_response_checks`: when the two checks pass.
-/

namespace ApiReplay

/-- The entry under the empty key of the body of a response. -/
def Response.unnamed? (r : Response) : Option Json :=
  r.body?.bind (Json.get? "")

namespace Session

variable {σ : Type} {s : Session} {r : Response}

/-- The empty path names the entry under the empty key of the body. -/
theorem resolve_empty (s : Session) :
    s.resolve "" = .ok (s.last.bind Response.unnamed?) := by
  cases hl : s.last <;> simp [resolve, Path.resolve, hl] <;> rfl

/-- Without a path `is_true` has a verdict on every response but that false is the only one it
refuses. -/
theorem isTrue_empty (hl : s.last = some r) : s.isTrue "" = .ok (r.bool?.getD true) := by
  cases r <;> simp [isTrue, hl, Response.bool?]

/-- Without a path `is_false` refuses the responses with an entry under the empty key that does not
pass for false. -/
theorem isFalse_empty (hl : s.last = some r) : s.isFalse "" = .ok (r.unnamed?.all Json.isFalsy) := by
  rw [isFalse, resolve_empty, hl]
  cases r with
  | bool b => cases b <;> rfl
  | reply reply => rfl

/-- The verdicts of the two checks on a whole response. -/
structure WholeVerdicts (s : Session) (r : Response) : Prop where
  /-- False is the only response that is not true. -/
  isTrue : s.check (.isTrue "") = .ok () ↔ r ≠ .bool false
  /-- All booleans are false, and so are the structured responses without an entry under the empty
  key or with one that passes for false. -/
  isFalse : s.check (.isFalse "") = .ok () ↔
    (∃ b, r = .bool b) ∨ ∀ value, r.unnamed? = some value → value.isFalsy
  /-- Both checks pass on true, and on the structured responses on which `is_false` does. -/
  both : s.check (.isTrue "") = .ok () ∧ s.check (.isFalse "") = .ok () ↔
    r = .bool true ∨
      ∃ reply, r = .reply reply ∧ ∀ value, reply.body.get? "" = some value → value.isFalsy
  /-- A check that does not pass fails as an assertion. -/
  failure : ∀ action e, action = .isTrue "" ∨ action = .isFalse "" →
    s.check action = .error e → e = .assertion action.text s.responseText

theorem wholeVerdicts (hl : s.last = some r) : WholeVerdicts s r where
  isTrue := by
    rw [check, require_eq_ok_iff, isTrue_empty hl]
    cases r with
    | bool b => cases b <;> simp [Response.bool?]
    | reply reply => simp [Response.bool?]
  isFalse := by
    rw [check, require_eq_ok_iff, isFalse_empty hl]
    cases r with
    | bool b => simp [Response.unnamed?, Response.body?]
    | reply reply => simp [Option.all_eq_true]
  both := by
    rw [check, check, require_eq_ok_iff, require_eq_ok_iff, isTrue_empty hl, isFalse_empty hl]
    cases r with
    | bool b => simp [Response.bool?, Response.unnamed?, Response.body?]
    | reply reply => simp [Response.bool?, Response.unnamed?, Response.body?, Option.all_eq_true]
  failure := by
    rintro action e (rfl | rfl) h
    · rw [check, isTrue_empty hl, require_eq_error_iff] at h
      simpa using h.imp_right And.right
    · rw [check, isFalse_empty hl, require_eq_error_iff] at h
      simpa using h.imp_right And.right

/-- A response that a client returns is the last one afterwards. -/
theorem last_run_of_response? {client : Client σ} {action : Action} {service : σ}
    (h : s.response? client action service = some r) :
    (s.run client action service).session.last = some r := by
  rw [(step_run client action s service).last_eq, h]
  rfl

/-- **The checks of a whole response.** In every session with a last response, however it came
about, the two checks without a path have the verdicts of `WholeVerdicts`. After a call that was
answered with a boolean, `is_true` passes when it is true, and `is_false` passes in any case. -/
theorem whole_response_checks (client : Client σ) :
    (∀ (s : Session) (r : Response), s.last = some r → WholeVerdicts s r) ∧
    ∀ (s : Session) (c : Call) (service : σ) (b : Bool),
      s.response? client (.call c) service = some (.bool b) →
      let after := (s.run client (.call c) service).session
      (after.check (.isTrue "") = .ok () ↔ b = true) ∧ after.check (.isFalse "") = .ok () := by
  refine ⟨fun s r hl => wholeVerdicts hl, fun s c service b hresponse => ?_⟩
  have verdicts := wholeVerdicts (last_run_of_response? hresponse)
  exact ⟨verdicts.isTrue.trans (by simp), verdicts.isFalse.mpr (.inl ⟨b, rfl⟩)⟩

/-- Both checks pass after a predicate that holds, and after a call with a plain structured
response. -/
theorem whole_response_checks_not_exclusive :
    let client : Client Unit :=
      { flavor := .stack
        perform := fun request state =>
          ({ result := .ok (if request.operation = "ping" then .bool true
              else .ok 200 (.object [("a", .nat 1)])) }, state) }
    let ping : Action := .call ⟨"ping", .null, none, []⟩
    let get : Action := .call ⟨"get", .null, none, []⟩
    let afterPing := (runAll client [ping] .start ()).2.1
    let afterGet := (runAll client [ping, get] .start ()).2.1
    (afterPing.last = some (.bool true) ∧ afterPing.check (.isTrue "") = .ok () ∧
      afterPing.check (.isFalse "") = .ok ()) ∧
    afterGet.last = some (.ok 200 (.object [("a", .nat 1)])) ∧
      afterGet.check (.isTrue "") = .ok () ∧ afterGet.check (.isFalse "") = .ok () :=
  ⟨⟨rfl, rfl, rfl⟩, rfl, rfl, rfl⟩

end Session

end ApiReplay
