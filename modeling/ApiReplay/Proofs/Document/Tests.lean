import ApiReplay.Document.Basic
import Mathlib.Data.List.Forall2

/-!
# The tests of a document

The steps of a document stand in many lists: pieces of the setup, pieces of the teardown, and one
list for each test. The pieces are read as if their steps stood in one list, because reading steps is
a homomorphism for concatenation (`Action.parseAll_append`), faults included: the first step that
cannot be read decides. So what is built from a document depends on its content only, that is on the
steps of its setup, those of its teardown, and the steps under each title.

## Main definitions

* `Action.Readable`, `Action.FirstMalformed`: steps that can be read, and the first that cannot.
* `Document.Content`: the steps of a document, wherever its lists end.
* `Document.Content.Builds`: what the tests of a content are.

## Main results

* `Document.cases_eq_build`, `Document.ignored_eq`: only the content of a document counts.
* `Document.Content.builds`: the tests of a content, or the fault of its first malformed step.
-/

namespace ApiReplay

/-! ### Steps in a row -/

namespace Action

variable {steps more : List Json} {fault : DocumentFault}

/-- Every step can be read: it states an action or is passed over. -/
def Readable (steps : List Json) : Prop :=
  ∀ step ∈ steps, ∃ action, parse step = .ok action

/-- The first step that cannot be read has the fault. -/
def FirstMalformed (steps : List Json) (fault : DocumentFault) : Prop :=
  ∃ before step after,
    steps = before ++ step :: after ∧ Readable before ∧ parse step = .error fault

theorem Readable.append (h : Readable steps) (hmore : Readable more) : Readable (steps ++ more) :=
  fun step hstep => (List.mem_append.mp hstep).elim (h step) (hmore step)

theorem FirstMalformed.append_right (h : FirstMalformed steps fault) (more : List Json) :
    FirstMalformed (steps ++ more) fault := by
  obtain ⟨before, step, after, rfl, hbefore, hstep⟩ := h
  exact ⟨before, step, after ++ more, by simp, hbefore, hstep⟩

theorem FirstMalformed.append_left (hfirst : Readable steps) (h : FirstMalformed more fault) :
    FirstMalformed (steps ++ more) fault := by
  obtain ⟨before, step, after, rfl, hbefore, hstep⟩ := h
  exact ⟨steps ++ before, step, after, by simp, hfirst.append hbefore, hstep⟩

/-- Reading steps is a homomorphism for concatenation; a fault among the first steps goes before
every fault among the others. -/
theorem parseAll_append (steps more : List Json) :
    parseAll (steps ++ more) = (do
      let first ← parseAll steps
      let others ← parseAll more
      .ok (first ++ others)) := by
  induction steps with
  | nil => cases h : parseAll more <;> simp [parseAll, h, Bind.bind, Except.bind]
  | cons step rest ih =>
    cases hstep : parse step with
    | error e => simp [parseAll, hstep, Bind.bind, Except.bind]
    | ok action =>
      simp only [List.cons_append, parseAll, hstep, ih, Bind.bind, Except.bind]
      cases parseAll rest with
      | error e => rfl
      | ok first => cases parseAll more <;> simp

/-- Steps that are read as actions are readable; otherwise the fault is that of the first step that
cannot be read. -/
theorem parseAll_spec (steps : List Json) :
    match parseAll steps with
    | .ok _ => Readable steps
    | .error fault => FirstMalformed steps fault := by
  induction steps with
  | nil => simp [parseAll, Readable]
  | cons step rest ih =>
    cases hstep : parse step with
    | error e =>
      have hfirst : FirstMalformed (step :: rest) e :=
        ⟨[], step, rest, rfl, by simp [Readable], hstep⟩
      simpa [parseAll, hstep, Bind.bind, Except.bind] using hfirst
    | ok action =>
      have hone : Readable [step] := by simp [Readable, hstep]
      cases hrest : parseAll rest with
      | error e =>
        rw [hrest] at ih
        simpa [parseAll, hstep, hrest, Bind.bind, Except.bind] using ih.append_left hone
      | ok actions =>
        rw [hrest] at ih
        simpa [parseAll, hstep, hrest, Bind.bind, Except.bind] using hone.append ih

theorem readable_of_parseAll {actions : List Action} (h : parseAll steps = .ok actions) :
    Readable steps := by
  simpa [h] using parseAll_spec steps

theorem firstMalformed_of_parseAll (h : parseAll steps = .error fault) :
    FirstMalformed steps fault := by
  simpa [h] using parseAll_spec steps

/-- Behind steps that can be read, the kinds that are passed over go on; behind a step that cannot
be read there are none. -/
theorem ignoredAmong_append (steps more : List Json) :
    ignoredAmong (steps ++ more) = ignoredAmong steps ++
      match parseAll steps with
      | .ok _ => ignoredAmong more
      | .error _ => [] := by
  induction steps with
  | nil => simp [ignoredAmong, parseAll]
  | cons step rest ih =>
    simp only [List.cons_append, ignoredAmong, parseAll]
    split <;> rename_i hstep <;> simp only [hstep, ih, Bind.bind, Except.bind]
    all_goals cases parseAll rest <;> simp

end Action

namespace Document

/-! ### Lists of steps -/

/-- Whether a tree is a list of steps; null stands for no steps. -/
def isStepList : Json → Bool
  | .null | .array _ => true
  | _ => false

/-- The steps of a list of steps. -/
def steps (tree : Json) : List Json :=
  tree.array?.getD []

/-- The steps of a document, wherever its lists end. -/
structure Content where
  setup : List Json
  teardown : List Json
  /-- The titles of the tests with their steps. -/
  tests : List (String × List Json)

/-- The content of a document. -/
def content (d : Document) : Content where
  setup := d.setup.flatMap steps
  teardown := d.teardown.flatMap steps
  tests := d.tests.map fun t => (t.1, steps t.2)

/-- All setups, teardowns and tests of a document are lists of steps. -/
def StepLists (d : Document) : Prop :=
  ∀ tree ∈ d.setup ++ d.teardown ++ d.tests.map Prod.snd, isStepList tree

theorem parseList_of_isStepList {tree : Json} (h : isStepList tree) :
    Action.parseList tree = Action.parseAll (steps tree) := by
  cases tree <;> first | rfl | simp [isStepList] at h

theorem ignored_eq_ignoredAmong (tree : Json) :
    Action.ignored tree = Action.ignoredAmong (steps tree) := by
  cases tree <;> rfl

/-- Lists of steps are read like one list. -/
theorem actions_eq_parseAll {lists : List Json} (h : ∀ tree ∈ lists, isStepList tree) :
    actions lists = Action.parseAll (lists.flatMap steps) := by
  induction lists with
  | nil => rfl
  | cons tree rest ih =>
    obtain ⟨htree, hrest⟩ := List.forall_mem_cons.mp h
    rw [actions, parseList_of_isStepList htree, ih hrest, List.flatMap_cons, Action.parseAll_append]

theorem ignoredIn_eq_ignoredAmong {lists : List Json} (h : ∀ tree ∈ lists, isStepList tree) :
    ignoredIn lists = Action.ignoredAmong (lists.flatMap steps) := by
  induction lists with
  | nil => rfl
  | cons tree rest ih =>
    obtain ⟨htree, hrest⟩ := List.forall_mem_cons.mp h
    rw [ignoredIn, ignored_eq_ignoredAmong, parseList_of_isStepList htree, ih hrest,
      List.flatMap_cons]
    exact (Action.ignoredAmong_append _ _).symm

/-! ### What is built from a content -/

namespace Content

variable (c : Content)

/-- All steps of a content: the setup, the teardown, then the tests. -/
def steps : List Json :=
  c.setup ++ c.teardown ++ c.tests.flatMap Prod.snd

/-- The tests built from a content. -/
def build (source : String) : Except DocumentFault (List Case) := do
  let setup ← Action.parseAll c.setup
  let teardown ← Action.parseAll c.teardown
  casesOf source setup teardown (c.tests.map fun t => (t.1, .array t.2))

/-- What the tests of a content are: one for each title, with the actions of the setup, of its own
steps and of the teardown. There are none when a step cannot be read; the fault is that of the first
such step. -/
def Builds (source : String) : Except DocumentFault (List Case) → Prop
  | .error fault => Action.FirstMalformed c.steps fault
  | .ok built => ∃ setup teardown,
      Action.parseAll c.setup = .ok setup ∧ Action.parseAll c.teardown = .ok teardown ∧
      List.Forall₂ (fun t one => ∃ body, Action.parseAll t.2 = .ok body ∧
        one = ⟨t.1, source, setup, body, teardown⟩) c.tests built

end Content

theorem casesOf_spec (source : String) (setup teardown : List Action)
    (tests : List (String × List Json)) :
    match casesOf source setup teardown (tests.map fun t => (t.1, .array t.2)) with
    | .ok built => List.Forall₂ (fun t one => ∃ body, Action.parseAll t.2 = .ok body ∧
        one = ⟨t.1, source, setup, body, teardown⟩) tests built
    | .error fault => Action.FirstMalformed (tests.flatMap Prod.snd) fault := by
  induction tests with
  | nil => exact .nil
  | cons t rest ih =>
    simp only [List.map_cons, List.flatMap_cons, casesOf, Action.parseList, bind, Except.bind]
    cases hbody : Action.parseAll t.2 with
    | error fault => exact (Action.firstMalformed_of_parseAll hbody).append_right _
    | ok body =>
      cases hmore : casesOf source setup teardown (rest.map fun t => (t.1, .array t.2)) with
      | error fault =>
        rw [hmore] at ih
        exact ih.append_left (Action.readable_of_parseAll hbody)
      | ok more =>
        rw [hmore] at ih
        exact .cons ⟨body, hbody, rfl⟩ ih

/-- The tests of a content are built, or the first malformed step is the error. -/
theorem Content.builds (c : Content) (source : String) : c.Builds source (c.build source) := by
  cases hsetup : Action.parseAll c.setup with
  | error fault =>
    have hfirst := Action.firstMalformed_of_parseAll hsetup
    simpa [build, Builds, steps, hsetup, bind, Except.bind] using
      hfirst.append_right (c.teardown ++ c.tests.flatMap Prod.snd)
  | ok setup =>
    have hreadable := Action.readable_of_parseAll hsetup
    cases hteardown : Action.parseAll c.teardown with
    | error fault =>
      have hfirst := Action.firstMalformed_of_parseAll hteardown
      simpa [build, Builds, steps, hsetup, hteardown, bind, Except.bind] using
        (hfirst.append_right (c.tests.flatMap Prod.snd)).append_left hreadable
    | ok teardown =>
      have hshared := hreadable.append (Action.readable_of_parseAll hteardown)
      have htests := casesOf_spec source setup teardown c.tests
      simp only [build, hsetup, hteardown, bind, Except.bind]
      cases hbuilt : casesOf source setup teardown (c.tests.map fun t => (t.1, .array t.2)) with
      | error fault =>
        rw [hbuilt] at htests
        exact htests.append_left hshared
      | ok built =>
        rw [hbuilt] at htests
        exact ⟨setup, teardown, hsetup, hteardown, htests⟩

/-! ### Only the content counts -/

theorem casesOf_eq_map_steps (source : String) (setup teardown : List Action)
    {tests : List (String × Json)} (h : ∀ t ∈ tests, isStepList t.2) :
    casesOf source setup teardown tests
      = casesOf source setup teardown (tests.map fun t => (t.1, .array (steps t.2))) := by
  induction tests with
  | nil => rfl
  | cons t rest ih =>
    obtain ⟨ht, hrest⟩ := List.forall_mem_cons.mp h
    rw [List.map_cons, casesOf, casesOf, ih hrest, parseList_of_isStepList ht, Action.parseList]

/-- The tests of a document are those built from its content. -/
theorem cases_eq_build {d : Document} (h : d.StepLists) (source : String) :
    d.cases source = d.content.build source := by
  have hsetup : ∀ tree ∈ d.setup, isStepList tree := fun tree ht => h tree (by simp [ht])
  have hteardown : ∀ tree ∈ d.teardown, isStepList tree := fun tree ht => h tree (by simp [ht])
  have htests : ∀ t ∈ d.tests, isStepList t.2 :=
    fun t ht => h t.2 (List.mem_append_right _ (List.mem_map_of_mem ht))
  simp only [cases, Content.build, content, actions_eq_parseAll hsetup,
    actions_eq_parseAll hteardown, List.map_map, Function.comp_def,
    casesOf_eq_map_steps source _ _ htests]

/-- The kinds of steps that are passed over are those among the steps of the content. -/
theorem ignored_eq {d : Document} (h : d.StepLists) :
    d.ignored = Action.ignoredAmong d.content.steps := by
  rw [ignored, ignoredIn_eq_ignoredAmong h]
  simp only [List.flatMap_append, List.flatMap_map, Content.steps, content]

end Document

end ApiReplay
