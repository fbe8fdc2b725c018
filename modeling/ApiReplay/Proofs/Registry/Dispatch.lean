import ApiReplay.Proofs.Text.Parts
import ApiReplay.Registry.Basic
import Mathlib.Data.List.Basic

/-!
# The dispatch of a registry

The tree of namespaces behaves like a flat list of names: what is registered under a name is found
under exactly that name, wherever its dots are, and nothing else changes. It does not matter whether
a part of it is empty, or whether the name is at the same time the beginning of others.

A registry in use is told of handlers and of requests, in any order. At every point it dispatches
like the flat entries that the registrations so far would leave, so that a request goes to the
handler that was registered last under the name of its operation, and is refused without one. Its
log has every request, whatever became of it.

## Main definitions

* `Registry.handler?`: the handler that an operation has.
* `Registry.Refines`: a registry dispatches like flat entries.
* `Registry.Use`, `Registry.serve`: what is done with a registry, and what it answers.
* `Registry.FlatLaw`: how a registry in use behaves.

## Main results

* `Namespace.find?_insert`, `Namespace.nameParts_injective`: the law of the tree, and that distinct
  names lead to distinct places of it.
* `Registry.refines_serve`: registrations are like assignments to flat entries.
* `Registry.flatLaw_serve`: the law of a registry in use.
-/

namespace ApiReplay

/-! ### The tree -/

namespace Namespace

variable {α : Type}

theorem nameParts_ne_nil (name : String) : nameParts name ≠ [] := by
  simp [nameParts, Text.splitAtEach_eq_splitOn, List.splitOn_ne_nil]

/-- A name is its parts with dots between them, so distinct names have distinct parts. -/
theorem nameParts_injective : Function.Injective nameParts := by
  intro a b h
  have hparts : Text.splitAtEach '.' a.toList = Text.splitAtEach '.' b.toList :=
    List.map_injective_iff.mpr (fun _ _ => String.ofList_injective) h
  exact String.toList_injective (Text.eq_of_splitAtEach_eq hparts)

theorem find?_empty (path : List String) : (empty : Namespace α).find? path = none := by
  match path with
  | [] | [_] | _ :: _ :: _ => rfl

/-- What is inserted under a path is found under it, and all other paths lead where they led. -/
theorem find?_insert (handler : α) {path : List String} (hpath : path ≠ []) (other : List String)
    (n : Namespace α) :
    (n.insert handler path).find? other = if path = other then some handler else n.find? other := by
  induction path generalizing other n with
  | nil => exact absurd rfl hpath
  | cons first rest ih =>
    obtain ⟨handlers, children⟩ := n
    cases rest with
    | nil =>
      -- The handlers change, and a longer path goes to the children.
      match other with
      | [] | _ :: _ :: _ => simp [insert, find?]
      | [name] => simp [insert, find?, Entries.find?_insert]
    | cons second rest =>
      -- One child changes, and a path of one part goes to the handlers.
      match other with
      | [] | [_] => simp [insert, find?]
      | first' :: second' :: rest' =>
        by_cases hfirst : first = first'
        · subst hfirst
          have hchild : ((Entries.find? first children).getD empty).find? (second' :: rest')
              = (Entries.find? first children).bind (find? (second' :: rest')) := by
            cases Entries.find? first children with
            | none => exact find?_empty _
            | some child => rfl
          simp [insert, find?, Entries.find?_insert, ih, hchild]
        · simp [insert, find?, Entries.find?_insert, hfirst]

end Namespace

namespace Registry

/-! ### One registry -/

/-- The handler that requests for an operation go to. -/
def handler? (r : Registry) (operation : String) : Option Handler :=
  r.root.find? (Namespace.nameParts operation)

theorem answer_eq (r : Registry) (calls : List Request) (request : Request) :
    r.answer calls request = match r.handler? request.operation with
      | some handler => handler calls request
      | none => .error (unknownOperation request.operation) :=
  rfl

theorem handler?_register (r : Registry) (name operation : String) (handler : Handler) :
    (r.register name handler).handler? operation
      = if name = operation then some handler else r.handler? operation := by
  simp only [handler?, register, Namespace.find?_insert _ (Namespace.nameParts_ne_nil name),
    Namespace.nameParts_injective.eq_iff]

/-- The registry dispatches like flat entries of full names. -/
def Refines (r : Registry) (entries : List (String × Handler)) : Prop :=
  ∀ operation, r.handler? operation = Entries.find? operation entries

theorem refines_empty (flavor : Flavor) : Refines (empty flavor) [] :=
  fun _ => Namespace.find?_empty _

/-- Registering a handler is like setting its entry. -/
theorem Refines.register {r : Registry} {entries : List (String × Handler)} (h : Refines r entries)
    (name : String) (handler : Handler) :
    Refines (r.register name handler) (Entries.insert name handler entries) := by
  intro operation
  rw [handler?_register, Entries.find?_insert, h operation]

/-! ### Registries in use -/

/-- What is done with a registry. -/
inductive Use where
  | register (operation : String) (handler : Handler)
  | perform (request : Request)

namespace Use

/-- The name and the handler that are registered. -/
def registration? : Use → Option (String × Handler)
  | register operation handler => some (operation, handler)
  | perform _ => none

/-- The request that is performed. -/
def request? : Use → Option Request
  | register _ _ => none
  | perform request => some request

end Use

/-- The registrations among uses, in order. -/
def registrations (uses : List Use) : List (String × Handler) :=
  uses.filterMap Use.registration?

/-- The requests among uses, in order. -/
def performed (uses : List Use) : List Request :=
  uses.filterMap Use.request?

section

variable (operation : String) (handler : Handler) (request : Request) (rest : List Use)

@[simp]
theorem registrations_register :
    registrations (.register operation handler :: rest) = (operation, handler) :: registrations rest :=
  rfl

@[simp]
theorem registrations_perform : registrations (.perform request :: rest) = registrations rest :=
  rfl

@[simp]
theorem performed_register : performed (.register operation handler :: rest) = performed rest :=
  rfl

@[simp]
theorem performed_perform : performed (.perform request :: rest) = request :: performed rest :=
  rfl

end

/-- What a registry answers when it is used, and what becomes of it and of its log. -/
def serve : List Use → Registry → List Request →
    List (Except ClientError Response) × Registry × List Request
  | [], r, calls => ([], r, calls)
  | .register operation handler :: rest, r, calls =>
    serve rest (r.register operation handler) calls
  | .perform request :: rest, r, calls =>
    let (exchange, calls) := r.client.perform request calls
    let (answers, r, calls) := serve rest r calls
    (exchange.result :: answers, r, calls)

/-- How a registry in use behaves, told by the uses alone. -/
structure FlatLaw (uses : List Use) (answers : List (Except ClientError Response)) (r : Registry)
    (calls : List Request) : Prop where
  /-- The registry dispatches like the flat entries that the registrations leave. -/
  refines : Refines r (Entries.ofList (registrations uses))
  /-- The log has every request that was performed, once and in order. -/
  calls_eq : calls = performed uses
  /-- Every request is answered once. -/
  length_eq : answers.length = (performed uses).length
  /-- A request goes to the handler that was registered last under the name of its operation. -/
  answered : ∀ before request after, uses = before ++ .perform request :: after →
    ∀ earlier handler later,
      registrations before = earlier ++ (request.operation, handler) :: later →
      (∀ entry ∈ later, entry.1 ≠ request.operation) →
      answers[(performed before).length]? = some (handler (performed before) request)
  /-- Without such a handler it is refused. -/
  refused : ∀ before request after, uses = before ++ .perform request :: after →
    (∀ entry ∈ registrations before, entry.1 ≠ request.operation) →
    answers[(performed before).length]?
      = some (.error ⟨.argument, "unknown operation '" ++ request.operation ++ "'"⟩)

/-- Uses are served like their two parts, one after the other. -/
theorem serve_append (xs ys : List Use) (r : Registry) (calls : List Request) :
    serve (xs ++ ys) r calls =
      let first := serve xs r calls
      let more := serve ys first.2.1 first.2.2
      (first.1 ++ more.1, more.2) := by
  induction xs generalizing r calls with
  | nil => rfl
  | cons use rest ih => cases use <;> simp [serve, ih]

/-- Registrations are like assignments to flat entries. -/
theorem refines_serve {r : Registry} {entries : List (String × Handler)} (h : Refines r entries)
    (uses : List Use) (calls : List Request) :
    Refines (serve uses r calls).2.1 ((registrations uses).foldl
      (fun entries entry => Entries.insert entry.1 entry.2 entries) entries) := by
  induction uses generalizing r entries calls with
  | nil => exact h
  | cons use rest ih =>
    cases use with
    | register operation handler => exact ih (h.register operation handler) calls
    | perform request => exact ih h (calls ++ [request])

theorem calls_serve (uses : List Use) (r : Registry) (calls : List Request) :
    (serve uses r calls).2.2 = calls ++ performed uses := by
  induction uses generalizing r calls with
  | nil => simp [serve, performed]
  | cons use rest ih => cases use <;> simp [serve, client, ih]

theorem length_answers_serve (uses : List Use) (r : Registry) (calls : List Request) :
    (serve uses r calls).1.length = (performed uses).length := by
  induction uses generalizing r calls with
  | nil => rfl
  | cons use rest ih => cases use <;> simp [serve, ih]

/-- A request is answered by the registry that the uses before it left. -/
theorem getElem?_answers_serve (before : List Use) (request : Request) (after : List Use)
    (r : Registry) (calls : List Request) :
    (serve (before ++ .perform request :: after) r calls).1[(performed before).length]?
      = some ((serve before r calls).2.1.answer (calls ++ performed before) request) := by
  rw [serve_append, ← length_answers_serve before r calls, ← calls_serve before r calls]
  simp [serve, client]

theorem answer_register (r : Registry) (name : String) (handler : Handler) (calls : List Request)
    (request : Request) :
    (r.register name handler).answer calls request
      = if name = request.operation then handler calls request else r.answer calls request := by
  rw [answer_eq, answer_eq, handler?_register]
  by_cases hname : name = request.operation <;> simp [hname]

/-- **Refinement of flat entries.** However registrations and requests follow each other, a registry
answers as flat entries of full names would, and logs every request. Registering a handler under a
name changes what requests for that name are answered, and no other answer. -/
theorem flatLaw_serve (flavor : Flavor) :
    (∀ uses, FlatLaw uses (serve uses (empty flavor) []).1 (serve uses (empty flavor) []).2.1
      (serve uses (empty flavor) []).2.2) ∧
    ∀ (r : Registry) (name : String) (handler : Handler) (calls : List Request)
      (request : Request), (r.register name handler).answer calls request
        = if name = request.operation then handler calls request
          else r.answer calls request := by
  have hrefines (uses : List Use) :
      Refines (serve uses (empty flavor) []).2.1 (Entries.ofList (registrations uses)) :=
    refines_serve (refines_empty flavor) uses []
  have hanswer (before : List Use) (request : Request) (after : List Use) :
      (serve (before ++ .perform request :: after) (empty flavor) []).1[(performed before).length]?
        = some ((serve before (empty flavor) []).2.1.answer (performed before) request) :=
    getElem?_answers_serve before request after (empty flavor) []
  refine ⟨fun uses => ?_, answer_register⟩
  refine ⟨hrefines uses, calls_serve uses _ [], length_answers_serve uses _ [], ?answered, ?refused⟩
  case answered =>
    rintro before request after rfl earlier handler later hsplit hlater
    have hhandler := hrefines before request.operation
    rw [Entries.find?_ofList_eq_some_iff.mpr ⟨earlier, later, hsplit, hlater⟩] at hhandler
    rw [hanswer, answer_eq, hhandler]
  case refused =>
    rintro before request after rfl hnone
    have hhandler := hrefines before request.operation
    rw [Entries.find?_ofList, Entries.find?_eq_none_iff.mpr (by simpa using hnone)] at hhandler
    rw [hanswer, answer_eq, hhandler]
    rfl

end Registry

end ApiReplay
