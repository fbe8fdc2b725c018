import ApiReplay.Http.Client
import ApiReplay.Proofs.Http.Templates
import Mathlib.Data.List.Perm.Basic

/-!
# What becomes of the parameters of a request

The parameters of a request go to three places. The body is one of them. Those that the chosen
template names are put into the path, as often as it names them, and all others into the query, each
of them once. The template is the first one that asks for nothing but what is given, the body not
counted. Where there is none the call is refused, and nothing is sent.

## Main definitions

* `Http.Provides`: that parameters give a template what it asks for.
* `Http.Usage`: where parameters go, in terms of the placeholders that stand in the template.

## Main results

* `Http.usage_of_selectPath?`: where the parameters go by the chosen path.
* `Http.plan_eq_ok_iff`, `Http.exists_draft_eq`: requests that are planned, and those that can be
  sent.
* `Http.target_of_sent`: what the server is asked for first.
* `Http.parameters_used_once`: every request that has an endpoint and a mapping of parameters.
-/

namespace ApiReplay.Http

variable {params : List (String × Json)} {templates : List String}

/-- Parameters give what the placeholders of a template ask for; the body is none of them. -/
def Provides (params : List (String × Json)) (template : String) : Prop :=
  ∀ name : String, HasPlaceholder template.toList name.toList →
    name ≠ "body" ∧ ∃ value, (name, value) ∈ params

/-- Where the parameters of a request go. -/
structure Usage (templates : List String) (params : List (String × Json)) (template path : String)
    (query : List (String × String)) : Prop where
  /-- The template is the first that the parameters provide for. -/
  first : Provides params template ∧ ∃ earlier later, templates = earlier ++ template :: later ∧
    ∀ other ∈ earlier, ¬ Provides params other
  /-- The path is the template, which has one reading, with the text of a parameter in the place of
  each placeholder. -/
  path : ∃ pieces, (∀ reading, Reads template.toList reading ↔ reading = pieces) ∧
    path.toList = pieces.flatMap (Piece.fill params)
  /-- No parameter that the template names is in the query. -/
  used : ∀ name : String, HasPlaceholder template.toList name.toList → name ∉ query.map Prod.fst
  /-- Any other parameter but the body is in the query once, with its own text. -/
  unused : ∀ name value, (name, value) ∈ params → name ≠ "body" →
    ¬ HasPlaceholder template.toList name.toList →
      query.filter (fun pair => pair.1 = name) = [(name, paramText value)]
  /-- There is nothing else in the query. -/
  only : ∀ name text, (name, text) ∈ query →
    name ≠ "body" ∧ ∃ value, (name, value) ∈ params ∧ text = paramText value

/-! ### Removal -/

theorem nodup_keys_remove (hkeys : (params.map Prod.fst).Nodup) (key : String) :
    ((Entries.remove key params).map Prod.fst).Nodup :=
  ((Entries.remove_perm hkeys).map Prod.fst).nodup_iff.mpr
    (hkeys.sublist (List.filter_sublist.map Prod.fst))

theorem mem_remove_iff (hkeys : (params.map Prod.fst).Nodup) {key : String}
    {entry : String × Json} :
    entry ∈ Entries.remove key params ↔ entry ∈ params ∧ entry.1 ≠ key := by
  rw [(Entries.remove_perm hkeys).mem_iff, List.mem_filter, decide_eq_true_eq]

/-- Of the entries those stay whose keys are not removed. -/
theorem foldl_remove (names : List String) (hkeys : (params.map Prod.fst).Nodup) :
    let left := names.foldl (fun left name => Entries.remove name left) params
    (left.map Prod.fst).Nodup ∧ ∀ entry, entry ∈ left ↔ entry ∈ params ∧ entry.1 ∉ names := by
  induction names generalizing params with
  | nil => exact ⟨hkeys, by simp⟩
  | cons name rest ih =>
    obtain ⟨hnodup, hmem⟩ := ih (nodup_keys_remove hkeys name)
    refine ⟨hnodup, fun entry => ?_⟩
    rw [List.foldl_cons, hmem, mem_remove_iff hkeys, List.mem_cons, not_or, and_assoc]

/-! ### The chosen path -/

theorem isFilled_remove_iff (hkeys : (params.map Prod.fst).Nodup) (template : String) :
    isFilled (Entries.remove "body" params) template ↔ Provides params template := by
  simp only [isFilled, List.all_eq_true, mem_placeholders_iff, Provides]
  refine forall₂_congr fun name _ => ?_
  rw [Option.isSome_iff_exists]
  simp only [Entries.find?_eq_some_iff_mem (nodup_keys_remove hkeys "body"), mem_remove_iff hkeys]
  constructor
  · rintro ⟨value, hmem, hne⟩
    exact ⟨hne, value, hmem⟩
  · rintro ⟨hne, value, hmem⟩
    exact ⟨value, hmem, hne⟩

theorem find?_remove {name key : String} (hkeys : (params.map Prod.fst).Nodup) (hne : name ≠ key) :
    Entries.find? name (Entries.remove key params) = Entries.find? name params := by
  ext value
  rw [Entries.find?_eq_some_iff_mem (nodup_keys_remove hkeys key),
    Entries.find?_eq_some_iff_mem hkeys, mem_remove_iff hkeys]
  exact and_iff_left hne

/-- The chosen path and the parameters that are left tell where each parameter goes. -/
theorem usage_of_selectPath? {path : String} {left : List (String × Json)}
    (hkeys : (params.map Prod.fst).Nodup)
    (h : selectPath? templates (Entries.remove "body" params) = some (path, left)) :
    ∃ template, Usage templates params template path
      (left.map fun (name, value) => (name, paramText value)) := by
  obtain ⟨template, hfind, heq⟩ := Option.map_eq_some_iff.mp h
  obtain ⟨rfl, rfl⟩ := Prod.mk.inj heq
  obtain ⟨hfilled, earlier, later, hsplit, hearlier⟩ := List.find?_eq_some_iff_append.mp hfind
  have hprovides := (isFilled_remove_iff hkeys template).mp hfilled
  obtain ⟨hnodup, hleft⟩ := foldl_remove (placeholders template) (nodup_keys_remove hkeys "body")
  generalize (placeholders template).foldl _ _ = left at hnodup hleft
  have hquery : ((left.map fun (name, value) => (name, paramText value)).map Prod.fst)
      = left.map Prod.fst := by
    rw [List.map_map]
    rfl
  refine ⟨template, ⟨hprovides, earlier, later, hsplit, fun other hother => ?first⟩, ?path,
    fun name hname hmem => ?used, fun name value hmem hbody hname => ?unused,
    fun name text hmem => ?only⟩
  case first =>
    rw [← isFilled_remove_iff hkeys]
    simpa using hearlier other hother
  case path =>
    refine ⟨pieces template, fun _ => reads_iff, ?_⟩
    rw [fillTemplate, String.toList_ofList]
    refine List.flatMap_congr fun piece hpiece => ?_
    cases piece with
    | literal c => rfl
    | placeholder name =>
      have hname := mem_placeholders_iff.mp (mem_placeholders_iff_mem_pieces.mpr hpiece)
      rw [Piece.fill, Piece.fill, find?_remove hkeys (hprovides name hname).1]
  case used =>
    rw [hquery, List.mem_map] at hmem
    obtain ⟨entry, hentry, rfl⟩ := hmem
    exact ((hleft entry).mp hentry).2 (mem_placeholders_iff.mpr hname)
  case unused =>
    refine Entries.filter_key_eq (by rwa [hquery]) (List.mem_map.mpr ⟨(name, value), ?_, rfl⟩)
    rw [hleft, mem_remove_iff hkeys, mem_placeholders_iff]
    exact ⟨⟨hmem, hbody⟩, hname⟩
  case only =>
    obtain ⟨⟨name', value⟩, hentry, heq⟩ := List.mem_map.mp hmem
    obtain ⟨rfl, rfl⟩ := Prod.mk.inj heq
    obtain ⟨⟨hparams, hbody⟩, _⟩ := (hleft _).mp hentry |>.imp_left (mem_remove_iff hkeys).mp
    exact ⟨hbody, value, hparams, rfl⟩

/-- Without a template that the parameters provide for there is no path. -/
theorem selectPath?_eq_none_iff (hkeys : (params.map Prod.fst).Nodup) :
    selectPath? templates (Entries.remove "body" params) = none ↔
      ∀ template ∈ templates, ¬ Provides params template := by
  simp [selectPath?, isFilled_remove_iff hkeys]

/-! ### What is sent -/

section

variable {network : Network} {service : Config.Service} {endpoints : List (String × Endpoint)}
  {request : ApiReplay.Request} {server : Server}

/-- What is sent first is the request itself; redirections come later. -/
theorem eq_wire_of_follow {patience left : Nat} {first : Url} {draft : Draft} {sent : Request}
    (h : (follow network patience first left draft server).sent.head? = some sent) :
    sent = draft.wire := by
  unfold follow at h
  split_ifs at h
  · cases h
  · cases h
  · cases h
  · split at h
    · exact (Option.some.inj h).symm
    · exact (Option.some.inj h).symm
    · split at h <;> exact (Option.some.inj h).symm

/-- A request is planned when nothing is missing, and its body is the parameter of that name. -/
theorem plan_eq_ok_iff {plan : Plan} : Http.plan endpoints request = .ok plan ↔
    ∃ endpoint params path left,
      findEndpoint? endpoints request.operation = some endpoint ∧
        paramEntries request = .ok params ∧
        selectPath? endpoint.paths (Entries.remove "body" params) = some (path, left) ∧
        isMethod endpoint.method ∧
        plan = ⟨endpoint, path, left.map fun (name, value) => (name, paramText value),
          Entries.find? "body" params⟩ := by
  unfold Http.plan
  cases hendpoint : findEndpoint? endpoints request.operation with
  | none => simp
  | some endpoint =>
    cases hparams : paramEntries request with
    | error e => simp [Bind.bind, Except.bind]
    | ok params =>
      cases hpath : selectPath? endpoint.paths (Entries.remove "body" params) with
      | none => simp [Bind.bind, Except.bind, hpath]
      | some chosen =>
        obtain ⟨path, left⟩ := chosen
        cases hmethod : isMethod endpoint.method with
        | false => simp [Bind.bind, Except.bind, hpath, hmethod]
        | true => simpa [Bind.bind, Except.bind, hpath, hmethod] using eq_comm

/-- What a request that can be sent is, by the address that its path leads to from that of the
service. -/
theorem exists_draft_eq {headers : List Header} {plan : Plan} {draft : Draft}
    (h : Http.draft service headers plan = .ok draft) :
    ∃ url, Url.parse? (withoutSlashes service.url ++ plan.path).toList = some url ∧
      let given := userHeader url.takeUser.2 ++ identity service ++ headers
      let carried := carry (given.map fun (name, value) => (lower name, value)) plan.body
      draft = { method := plan.endpoint.method, url := url.takeUser.1.addQuery plan.query,
                headers := withDefaults carried.1, body := carried.2 } := by
  unfold Http.draft at h
  split at h
  · cases h
  · rename_i url hurl
    dsimp only at h
    split at h
    · cases h
    · split at h
      · exact ⟨url, hurl, (Except.ok.inj h).symm⟩
      · cases h

/-- The server is asked for the address that the path leads to from the address of the service, with
the query behind it. -/
theorem target_of_sent {plan : Plan} {sent : Request}
    (hplan : Http.plan endpoints request = .ok plan)
    (h : (perform network service endpoints request server).1.sent.head? = some sent) :
    ∃ url, Url.parse? (withoutSlashes service.url ++ plan.path).toList = some url ∧
      sent.method = plan.endpoint.method ∧
      sent.target = String.ofList (url.takeUser.1.addQuery plan.query).target := by
  rw [perform, hplan] at h
  dsimp only at h
  split at h
  · cases h
  · rename_i draft hdraft
    obtain rfl := eq_wire_of_follow h
    obtain ⟨url, hurl, rfl⟩ := exists_draft_eq hdraft
    exact ⟨url, hurl, rfl, rfl⟩

end

/-! ### All requests -/

/-- **Every parameter is used once.** A request that has an endpoint and a mapping of parameters is
refused, without anything being sent, when the parameters provide for none of the templates. Else
the first template that they provide for tells where each of them goes: into the path, or into the
query and nowhere else. The body is in neither. What the server is asked for is the address of the
service with that path, and that query behind it. -/
theorem parameters_used_once (endpoints : List (String × Endpoint)) (request : ApiReplay.Request)
    (endpoint : Endpoint) (params : List (String × Json))
    (hendpoint : findEndpoint? endpoints request.operation = some endpoint)
    (hparams : paramEntries request = .ok params) (hkeys : (params.map Prod.fst).Nodup) :
    ((∀ template ∈ endpoint.paths, ¬ Provides params template) ∧
      ∀ network service server, ∃ message,
        perform network service endpoints request server
          = ({ result := .error ⟨.argument, message⟩ }, server)) ∨
    ∃ template path query, Usage endpoint.paths params template path query ∧
      (isMethod endpoint.method →
        plan endpoints request = .ok ⟨endpoint, path, query, Entries.find? "body" params⟩) ∧
      (¬ isMethod endpoint.method → ∃ message, plan endpoints request = .error ⟨.argument, message⟩) ∧
      ∀ network service server sent,
        (perform network service endpoints request server).1.sent.head? = some sent →
          ∃ url, Url.parse? (withoutSlashes service.url ++ path).toList = some url ∧
            sent.target = String.ofList (url.takeUser.1.addQuery query).target := by
  cases hpath : selectPath? endpoint.paths (Entries.remove "body" params) with
  | none =>
    refine .inl ⟨(selectPath?_eq_none_iff hkeys).mp hpath, fun network service server => ?_⟩
    have hplan : ∃ message, plan endpoints request = .error ⟨.argument, message⟩ := by
      simp only [plan, hendpoint, hparams, bind, Except.bind, hpath]
      exact ⟨_, rfl⟩
    obtain ⟨message, hplan⟩ := hplan
    exact ⟨message, by rw [perform, hplan]⟩
  | some chosen =>
    obtain ⟨path, left⟩ := chosen
    obtain ⟨template, husage⟩ := usage_of_selectPath? hkeys hpath
    have hplan : plan endpoints request
        = if isMethod endpoint.method then
            .ok ⟨endpoint, path, left.map fun (name, value) => (name, paramText value),
              Entries.find? "body" params⟩
          else .error (.refused ("invalid HTTP method '" ++ endpoint.method ++ "'")) := by
      simp only [plan, hendpoint, hparams, bind, Except.bind, hpath]
    refine .inr ⟨template, path, _, husage, fun hmethod => ?_, fun hmethod => ?_,
      fun network service server sent hsent => ?_⟩
    · rw [hplan, if_pos hmethod]
    · rw [hplan, if_neg hmethod]
      exact ⟨_, rfl⟩
    · by_cases hmethod : isMethod endpoint.method
      · rw [if_pos hmethod] at hplan
        obtain ⟨url, hurl, _, htarget⟩ := target_of_sent hplan hsent
        exact ⟨url, hurl, htarget⟩
      · rw [if_neg hmethod] at hplan
        rw [perform, hplan] at hsent
        cases hsent

/-- A value that looks like a placeholder, a list, a template that is passed over, and a placeholder
that stands in the path twice. -/
theorem parameters_used_once_of_braces :
    let endpoint : Endpoint :=
      { method := "GET"
        paths := ["/\x7bindex\x7d/\x7bbody\x7d", "/\x7bindex\x7d/_doc/\x7bid\x7d/\x7bindex\x7d"]
        boolean := false }
    let params : List (String × Json) :=
      [("id", .string "\x7bindex\x7d"), ("body", .object []),
        ("index", .array [.string "a", .string "b"]), ("refresh", .bool true)]
    let request : ApiReplay.Request := ⟨"get", .object params, []⟩
    findEndpoint? [("get", endpoint)] request.operation = some endpoint ∧
      paramEntries request = .ok params ∧ (params.map Prod.fst).Nodup ∧
      ∃ template, Usage endpoint.paths params template "/a,b/_doc/\x7bindex\x7d/a,b"
        [("refresh", "true")] := by
  intro endpoint params request
  have hkeys : (params.map Prod.fst).Nodup := by decide
  have hplan : (plan [("get", endpoint)] request).toOption.map (fun plan => (plan.path, plan.query))
      = some ("/a,b/_doc/\x7bindex\x7d/a,b", [("refresh", "true")]) := by
    decide +kernel
  refine ⟨rfl, rfl, hkeys, ?_⟩
  rcases parameters_used_once [("get", endpoint)] request endpoint params rfl rfl hkeys with
    ⟨hnone, _⟩ | ⟨template, path, query, husage, hok, _⟩
  · have hpath : (selectPath? endpoint.paths (Entries.remove "body" params)).isSome := by
      decide +kernel
    rw [(selectPath?_eq_none_iff hkeys).mpr hnone] at hpath
    cases hpath
  · rw [hok (by decide)] at hplan
    obtain ⟨rfl, rfl⟩ := Prod.mk.inj (Option.some.inj hplan)
    exact ⟨template, husage⟩

end ApiReplay.Http
