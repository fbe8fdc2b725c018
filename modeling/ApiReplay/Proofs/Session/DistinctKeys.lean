import ApiReplay.Proofs.Json.Agreement
import ApiReplay.Proofs.Path.Walks
import ApiReplay.Proofs.Session.Step

/-!
# Distinct keys in a session

A service answers with trees whose objects have distinct keys, and a session only takes such trees
apart: what a path leads to is part of the last body or of the value of a variable, or it is an
attribute of the response. So all that is bound and all that is compared has distinct keys.

## Main definitions

* `Client.AnswersTrees`: that all bodies have distinct keys.
* `Session.HasDistinctKeys`: that a session holds only trees with distinct keys.

## Main results

* `Session.distinctKeys_of_resolve`: what a path leads to in such a session.
* `Session.Step.hasDistinctKeys`, `Session.hasDistinctKeys_runAll`: sessions stay such.
-/

namespace ApiReplay

open Json (DistinctKeys)

/-! ### Paths -/

namespace Path

/-- A step leads to a part of a tree. -/
theorem distinctKeys_of_step? {tree next : Json} {segment : Segment} (h : tree.DistinctKeys)
    (hstep : step? tree segment = some next) : next.DistinctKeys := by
  -- Whether by its name or by a number, an entry is found among the entries.
  have hentry {entries : List (String × Json)} {key : String}
      (hvalues : ∀ entry ∈ entries, DistinctKeys entry.2)
      (hfind : Entries.find? key entries = some next) : next.DistinctKeys :=
    hvalues _ (Entries.mem_of_find?_eq_some hfind)
  cases segment with
  | key name =>
    cases h with
    | object _ hvalues => exact hentry hvalues hstep
    | _ => cases hstep
  | index i =>
    cases h with
    | object _ hvalues => exact hentry hvalues hstep
    | array hitems =>
      obtain ⟨n, -, hitem⟩ := Option.bind_eq_some_iff.mp hstep
      exact hitems _ (List.mem_of_getElem? hitem)
    | _ => cases hstep
  | «variable» name => cases hstep

/-- Segments lead to a part of the tree where they start or of the value of a variable. -/
theorem Leads.distinctKeys {vars : Variables} {start finish : Option Json}
    {segments : List Segment} (h : Leads vars start segments finish)
    (hvars : ∀ name value, vars.get? name = some value → value.DistinctKeys)
    (hstart : ∀ tree ∈ start, tree.DistinctKeys) : ∀ tree ∈ finish, tree.DistinctKeys := by
  induction h with
  | here place => exact hstart
  | step hstep _ ih =>
    refine ih fun tree htree => ?_
    obtain rfl := Option.some.inj htree
    exact distinctKeys_of_step? (hstart _ rfl) hstep
  | «variable» hvalue _ ih =>
    refine ih fun tree htree => ?_
    obtain rfl := Option.some.inj htree
    exact hvars _ _ hvalue

end Path

/-- An attribute of a response has distinct keys when its body has. -/
theorem Response.distinctKeys_of_attribute? {r : Response} {name : String} {value : Json}
    (hbody : ∀ body ∈ r.body?, body.DistinctKeys) (h : r.attribute? name = some value) :
    value.DistinctKeys := by
  cases r with
  | bool b => cases h
  | reply reply =>
    unfold attribute? at h
    dsimp only at h
    split at h
    case h_1 =>
      obtain rfl := Option.some.inj h
      exact .number _
    case h_2 =>
      obtain rfl := Option.some.inj h
      exact hbody _ rfl
    case h_3 =>
      obtain rfl := Option.some.inj h
      refine .object (Entries.nodup_keys_ofList _) fun entry hentry => ?_
      obtain ⟨header, -, rfl⟩ := List.mem_map.mp (Entries.mem_of_mem_ofList hentry)
      exact .string _
    case h_4 => cases h

/-! ### Sessions -/

/-- The bodies of all responses of a client have distinct keys. -/
def Client.AnswersTrees {σ : Type} (client : Client σ) : Prop :=
  ∀ request service response, client.result request service = .ok response →
    ∀ body ∈ response.body?, body.DistinctKeys

namespace Session

variable {σ : Type} {s : Session} {client : Client σ}

/-- The values of all variables and the body of the last response have distinct keys. -/
structure HasDistinctKeys (s : Session) : Prop where
  vars : ∀ name value, s.vars.get? name = some value → value.DistinctKeys
  body : ∀ body ∈ s.last.bind Response.body?, body.DistinctKeys

theorem hasDistinctKeys_start : start.HasDistinctKeys where
  vars name value h := by cases h
  body body h := by cases h

theorem resolve_eq_ok_iff {path : String} {found : Option Json} :
    s.resolve path = .ok found ↔ Path.resolve s.vars s.last path = .ok found := by
  rw [resolve]
  cases Path.resolve s.vars s.last path <;> simp [Except.mapError]

/-- What a path leads to has distinct keys. -/
theorem distinctKeys_of_resolve (hs : s.HasDistinctKeys) {path : String} {value : Json}
    (h : s.resolve path = .ok (some value)) : value.DistinctKeys := by
  rw [resolve_eq_ok_iff, Path.resolve] at h
  split at h
  case isTrue => exact (Path.walk_eq_some_iff.mp h).distinctKeys hs.vars hs.body value rfl
  case isFalse =>
    split at h
    case h_1 name _ =>
      obtain ⟨r, hr, hvalue⟩ := Option.bind_eq_some_iff.mp (Except.ok.inj h)
      refine r.distinctKeys_of_attribute? (fun body hbody => hs.body body ?_) hvalue
      rw [hr]
      exact hbody
    case h_2 =>
      obtain ⟨tree, htree, hvalue⟩ := Option.bind_eq_some_iff.mp (Except.ok.inj h)
      exact Path.distinctKeys_of_step? (hs.body tree htree) hvalue

/-- What a binding stores has distinct keys. -/
theorem distinctKeys_getD_of_resolve (hs : s.HasDistinctKeys) {path : String}
    {value : Option Json} (h : s.resolve path = .ok value) : (value.getD .null).DistinctKeys := by
  cases value with
  | none => exact .null
  | some found => exact distinctKeys_of_resolve hs h

/-- A step brings in the body of a response, or binds what a path leads to. -/
theorem Step.hasDistinctKeys {service : σ} {action : Action} {o : Outcome σ}
    (h : Step client s service action o) (hclient : client.AnswersTrees)
    (hs : s.HasDistinctKeys) : o.session.HasDistinctKeys := by
  cases h with
  | answered _ hx hr =>
    have hresult := congrArg (fun performed => performed.1.result) hx
    exact ⟨hs.vars, hclient _ service _ (hresult.trans hr)⟩
  | bound hr =>
    refine ⟨fun name value hvalue => ?_, hs.body⟩
    rw [Variables.get?_bind] at hvalue
    split at hvalue
    · obtain rfl := Option.some.inj hvalue
      exact distinctKeys_getD_of_resolve hs hr
    · exact hs.vars name value hvalue
  | _ => exact hs

/-- The sessions of a run hold only trees with distinct keys. -/
theorem hasDistinctKeys_runAll (hclient : client.AnswersTrees) (hs : s.HasDistinctKeys)
    (actions : List Action) (service : σ) :
    (runAll client actions s service).2.1.HasDistinctKeys := by
  induction actions generalizing s service with
  | nil => exact hs
  | cons action rest ih =>
    rw [runAll_cons]
    exact ih ((step_run client action s service).hasDistinctKeys hclient hs) _

end Session

end ApiReplay
