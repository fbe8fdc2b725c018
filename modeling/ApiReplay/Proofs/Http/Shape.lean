import ApiReplay.Proofs.Http.Addresses
import ApiReplay.Proofs.Http.Parameters
import Mathlib.Algebra.Order.BigOperators.Group.List

/-!
# The shape of a path

A path has the shape of its template when it has as many parts between slashes, and nothing in it
that would start a query or a fragment. The texts of parameters are put into a path as they are. So
a path has the shape of its template exactly when no text that is put in brings a slash, a question
mark or a hash along, and the texts of a placeholder can be told from each other by their paths.
On the way to the server more can go wrong: parts of dots are resolved, and backslashes count as
slashes. Plain paths get there as they are.

## Main definitions

* `Http.HasShape`: that a path has the shape of a template.
* `Http.Reaches`: that a plain path leads to a target.
* `Http.Changed`: parameters with another value.

## Main results

* `Http.Reads.count_flatMap`: the signs that parameters bring into a path.
* `Http.Changed.fillTemplate_eq_iff`: values that can be told from each other by their paths.
* `Http.Reaches.hasShape`, `Http.Reaches.path_eq`: plain paths and their targets.
* `Http.shape_kept_iff`: all parameters that a template is chosen for.
-/

namespace ApiReplay.Http

/-- A path has the shape of a template: as many parts between slashes, and no sign in it with which a
query or a fragment starts. -/
structure HasShape (template path : List Char) : Prop where
  parts : (path.splitOn '/').length = (template.splitOn '/').length
  query : '?' ∉ path
  fragment : '#' ∉ path

/-- A service is asked for a target first, on account of a path that is plain behind the path of the
service itself. -/
structure Reaches (service : Config.Service) (front : List Char) (path target : String) : Prop where
  serves : ∃ scheme place, Serves (withoutSlashes service.url).toList scheme place front
  plain : IsPlain (front ++ path.toList)
  sent : ∃ network endpoints request server,
    (perform network service endpoints request server).1.path = some path ∧
      (perform network service endpoints request server).1.sent.head?.map (·.target) = some target

/-- Parameters with another value under one name, and the same values under all others. -/
structure Changed (name : String) (value value' : Json) (params params' : List (String × Json)) :
    Prop where
  before : Entries.find? name params = some value
  after : Entries.find? name params' = some value'
  others : ∀ other ≠ name, Entries.find? other params' = Entries.find? other params

/-! ### Signs in a path -/

/-- A text has one part more than it has separators. -/
theorem length_splitOn (separator : Char) (text : List Char) :
    (text.splitOn separator).length = text.count separator + 1 := by
  induction text with
  | nil => rfl
  | cons c rest ih =>
    rw [List.splitOn_cons_eq_if_modifyHead, List.count_cons]
    split
    · rw [List.length_cons, ih]
    · rw [List.length_modifyHead, ih, Nat.add_zero]

/-- A sign that is no part of a placeholder is in a path at least as often as in the template, and
just as often when no text that is put in brings it along. -/
theorem Reads.count_flatMap {template : List Char} {pieces : List Piece}
    (h : Reads template pieces) (params : List (String × Json)) {sign : Char}
    (hsign : isPlaceholderChar sign = false ∧ sign ≠ '\x7b' ∧ sign ≠ '\x7d') :
    template.count sign ≤ (pieces.flatMap (Piece.fill params)).count sign ∧
      ((pieces.flatMap (Piece.fill params)).count sign = template.count sign ↔
        ∀ name, .placeholder name ∈ pieces → sign ∉ Piece.fill params (.placeholder name)) := by
  induction h with
  | nil => simp
  | @placeholder name rest pieces _ hname _ ih =>
    have hcount : ('\x7b' :: (name ++ '\x7d' :: rest)).count sign = rest.count sign := by
      have hmem : sign ∉ name := fun hmem => by
        have := hname sign hmem
        rw [hsign.1] at this
        cases this
      have hopen : ('\x7b' == sign) = false := beq_false_of_ne (Ne.symm hsign.2.1)
      have hclose : ('\x7d' == sign) = false := beq_false_of_ne (Ne.symm hsign.2.2)
      simp [List.count_cons, List.count_eq_zero.mpr hmem, hopen, hclose]
    rw [hcount, List.flatMap_cons, List.count_append]
    refine ⟨by omega, ?_⟩
    have hsum : (Piece.fill params (.placeholder (String.ofList name))).count sign
          + (pieces.flatMap (Piece.fill params)).count sign = rest.count sign ↔
        (Piece.fill params (.placeholder (String.ofList name))).count sign = 0 ∧
          (pieces.flatMap (Piece.fill params)).count sign = rest.count sign := by
      omega
    rw [hsum, List.count_eq_zero, ih.2]
    simp only [List.mem_cons, Piece.placeholder.injEq]
    constructor
    · rintro ⟨hhere, hrest⟩ other (rfl | hmem)
      · exact hhere
      · exact hrest other hmem
    · exact fun hall => ⟨hall _ (.inl rfl), fun other hmem => hall other (.inr hmem)⟩
  | @literal c rest pieces _ _ ih =>
    rw [List.flatMap_cons, Piece.fill, List.singleton_append, List.count_cons, List.count_cons]
    refine ⟨by omega, ?_⟩
    rw [Nat.add_right_cancel_iff, ih.2]
    simp

/-- A sign that is neither in a template nor part of a placeholder is in a path when a text that is
put in brings it along. -/
theorem Reads.not_mem_flatMap_iff {template : List Char} {pieces : List Piece}
    (h : Reads template pieces) (params : List (String × Json)) {sign : Char}
    (hsign : isPlaceholderChar sign = false ∧ sign ≠ '\x7b' ∧ sign ≠ '\x7d')
    (htemplate : sign ∉ template) :
    sign ∉ pieces.flatMap (Piece.fill params) ↔
      ∀ name, .placeholder name ∈ pieces → sign ∉ Piece.fill params (.placeholder name) := by
  rw [← (h.count_flatMap params hsign).2, ← List.count_eq_zero, List.count_eq_zero.mpr htemplate]

/-- A path has the shape of its template exactly when no text that is put in brings a slash, a
question mark or a hash along. -/
theorem Reads.hasShape_iff {template : List Char} {pieces : List Piece}
    (h : Reads template pieces) (hquery : '?' ∉ template) (hfragment : '#' ∉ template)
    (params : List (String × Json)) :
    HasShape template (pieces.flatMap (Piece.fill params)) ↔
      ∀ name, .placeholder name ∈ pieces → ∀ c ∈ Piece.fill params (.placeholder name),
        c ≠ '/' ∧ c ≠ '?' ∧ c ≠ '#' := by
  have hslash : isPlaceholderChar '/' = false ∧ '/' ≠ '\x7b' ∧ '/' ≠ '\x7d' := by decide
  have hparts := (h.count_flatMap params hslash).2
  have hmarks := h.not_mem_flatMap_iff params (by decide) hquery
  have hhashes := h.not_mem_flatMap_iff params (by decide) hfragment
  constructor
  · intro hshape name hname c hc
    have hcount : (pieces.flatMap (Piece.fill params)).count '/' = template.count '/' := by
      have hlength := hshape.parts
      rwa [length_splitOn, length_splitOn, Nat.add_right_cancel_iff] at hlength
    refine ⟨?_, ?_, ?_⟩ <;> rintro rfl
    · exact hparts.mp hcount name hname hc
    · exact hmarks.mp hshape.query name hname hc
    · exact hhashes.mp hshape.fragment name hname hc
  · intro hall
    refine ⟨?_, ?_, ?_⟩
    · rw [length_splitOn, length_splitOn,
        hparts.mpr fun name hname hc => (hall name hname _ hc).1 rfl]
    · exact hmarks.mpr fun name hname hc => (hall name hname _ hc).2.1 rfl
    · exact hhashes.mpr fun name hname hc => (hall name hname _ hc).2.2 rfl

/-! ### Texts in a path -/

/-- Where texts of no greater length are put into the same places with the same result, they are the
same texts. -/
theorem eq_of_flatMap_eq {pieces : List Piece} {fill fill' : Piece → List Char}
    (hlength : ∀ piece ∈ pieces, (fill piece).length ≤ (fill' piece).length)
    (h : pieces.flatMap fill = pieces.flatMap fill') :
    ∀ piece ∈ pieces, fill piece = fill' piece := by
  induction pieces with
  | nil => simp
  | cons piece rest ih =>
    obtain ⟨hhere, hrest⟩ := List.forall_mem_cons.mp hlength
    have hle : (rest.flatMap fill).length ≤ (rest.flatMap fill').length := by
      rw [List.length_flatMap, List.length_flatMap]
      exact List.sum_le_sum hrest
    rw [List.flatMap_cons, List.flatMap_cons] at h
    have htotal := congrArg List.length h
    rw [List.length_append, List.length_append] at htotal
    obtain ⟨hpiece, hmore⟩ := List.append_inj h (by omega)
    exact List.forall_mem_cons.mpr ⟨hpiece, ih hrest hmore⟩

/-- Two texts of one placeholder, all others being the same, give the same path only if they are the
same. -/
theorem fill_eq_of_flatMap_eq {pieces : List Piece} {params params' : List (String × Json)}
    {name : String} (hname : .placeholder name ∈ pieces)
    (hothers : ∀ other ≠ name, Entries.find? other params' = Entries.find? other params)
    (h : pieces.flatMap (Piece.fill params') = pieces.flatMap (Piece.fill params)) :
    Piece.fill params' (.placeholder name) = Piece.fill params (.placeholder name) := by
  wlog hle : (Piece.fill params' (.placeholder name)).length
      ≤ (Piece.fill params (.placeholder name)).length generalizing params params'
  · exact (this (fun other hother => (hothers other hother).symm) h.symm
      (Nat.le_of_not_le hle)).symm
  refine eq_of_flatMap_eq (fun piece _ => ?_) h _ hname
  cases piece with
  | literal c => rfl
  | placeholder other =>
    by_cases hother : other = name
    · rwa [hother]
    · rw [Piece.fill, Piece.fill, hothers other hother]

/-! ### Targets -/

/-- A target without its query is the path. -/
theorem takeWhile_target {url : Url} (h : '?' ∉ url.path) :
    url.target.takeWhile (· ≠ '?') = url.path := by
  have hpath : ∀ c ∈ url.path, decide (c ≠ '?') = true := by
    rintro c hc
    rw [decide_eq_true_eq]
    rintro rfl
    exact h hc
  rw [Url.target, List.takeWhile_append_of_pos hpath]
  split
  · rw [List.takeWhile_cons_of_neg (by decide), List.append_nil]
  · rw [List.takeWhile_nil, List.append_nil]

theorem takeUser_path (url : Url) : url.takeUser.1.path = url.path := by
  unfold Url.takeUser
  split <;> rfl

section

variable {service : Config.Service} {front template : List Char} {path path' target : String}

/-- Up to its query a target is the plain path in front of it, escaped. -/
theorem Reaches.takeWhile_eq (h : Reaches service front path target) :
    target.toList.takeWhile (· ≠ '?') = escapeWhere isPathEscaped (front ++ path.toList) := by
  obtain ⟨scheme, place, hserves⟩ := h.serves
  obtain ⟨network, endpoints, request, server, hpath, hfirst⟩ := h.sent
  obtain ⟨sent, hsent, rfl⟩ := Option.map_eq_some_iff.mp hfirst
  cases hplan : Http.plan endpoints request with
  | error e =>
    rw [perform, hplan] at hsent
    cases hsent
  | ok plan =>
    obtain ⟨url, hurl, _, htarget⟩ := target_of_sent hplan hsent
    obtain rfl : plan.path = path := by
      rw [perform, hplan] at hpath
      dsimp only at hpath
      split at hpath <;> exact Option.some.inj hpath
    rw [String.toList_append] at hurl
    have htaken : (url.takeUser.1.addQuery plan.query).path
        = escapeWhere isPathEscaped (front ++ plan.path.toList) :=
      (takeUser_path url).trans (hserves.path_of_parse? h.plain hurl)
    rw [htarget, String.toList_ofList, takeWhile_target, htaken]
    rw [htaken]
    exact not_mem_escapeWhere (by decide) (by decide) _

/-- A plain path that has the shape of its template reaches the server in that shape. -/
theorem Reaches.hasShape (h : Reaches service front path target)
    (hshape : HasShape template path.toList) :
    HasShape (front ++ template) (target.toList.takeWhile (· ≠ '?')) := by
  have hlength := hshape.parts
  rw [length_splitOn, length_splitOn] at hlength
  rw [h.takeWhile_eq]
  refine ⟨?_, not_mem_escapeWhere (by decide) (by decide) _,
    not_mem_escapeWhere (by decide) (by decide) _⟩
  rw [length_splitOn, length_splitOn, count_escapeWhere_path, List.count_append,
    List.count_append]
  omega

/-- Plain paths can be told from each other by their targets. -/
theorem Reaches.path_eq (h : Reaches service front path target)
    (h' : Reaches service front path' target) : path' = path := by
  have hpercent {whole : List Char} (hwhole : IsPlain whole) : '%' ∉ whole :=
    fun hmem => hwhole.chars '%' hmem (by decide)
  have hescaped := h'.takeWhile_eq.symm.trans h.takeWhile_eq
  have hwhole := escapeWhere_injective (hpercent h'.plain) (hpercent h.plain) hescaped
  exact String.toList_inj.mp (List.append_cancel_left hwhole)

end

/-! ### All parameters -/

section

variable {params params' : List (String × Json)} {name template : String} {value value' : Json}

/-- A placeholder stands for the text of its parameter. -/
theorem fill_placeholder (h : Entries.find? name params = some value) :
    Piece.fill params (.placeholder name) = paramChars value := by
  rw [Piece.fill, h]
  rfl

theorem isFilled_iff : isFilled params template ↔
    ∀ name : String, HasPlaceholder template.toList name.toList →
      ∃ value, Entries.find? name params = some value := by
  simp only [isFilled, List.all_eq_true, mem_placeholders_iff, Option.isSome_iff_exists]

/-- The path is that of the chosen template. -/
theorem exists_selectPath?_eq {templates : List String}
    (hchosen : templates.find? (isFilled params) = some template) :
    ∃ left, selectPath? templates params = some (fillTemplate params template, left) := by
  rw [selectPath?, hchosen, Option.map_some]
  exact ⟨_, rfl⟩

/-- A path has the shape of its template exactly when no parameter that the template names has a
slash, a question mark or a hash in its text. -/
theorem hasShape_fillTemplate_iff (hfilled : isFilled params template)
    (hquery : '?' ∉ template.toList) (hfragment : '#' ∉ template.toList) :
    HasShape template.toList (fillTemplate params template).toList ↔
      ∀ (name : String) (value : Json), HasPlaceholder template.toList name.toList →
        Entries.find? name params = some value →
          ∀ c ∈ paramChars value, c ≠ '/' ∧ c ≠ '?' ∧ c ≠ '#' := by
  rw [fillTemplate, String.toList_ofList, (reads_pieces template).hasShape_iff hquery hfragment]
  simp only [← mem_placeholders_iff_mem_pieces, mem_placeholders_iff]
  constructor
  · intro h name value hname hvalue
    rw [← fill_placeholder hvalue]
    exact h name hname
  · intro h name hname
    obtain ⟨value, hvalue⟩ := isFilled_iff.mp hfilled name hname
    rw [fill_placeholder hvalue]
    exact h name value hname hvalue

/-- What is asked for is the same where one value changes. -/
theorem Changed.isFilled_eq (h : Changed name value value' params params') (template : String) :
    isFilled params' template = isFilled params template := by
  rw [isFilled, isFilled]
  congr 1
  funext other
  by_cases hother : other = name
  · rw [hother, h.before, h.after]
    rfl
  · rw [h.others other hother]

/-- A value can be told from others by the path, as far as its text goes. -/
theorem Changed.fillTemplate_eq_iff (h : Changed name value value' params params')
    (hname : HasPlaceholder template.toList name.toList) :
    fillTemplate params' template = fillTemplate params template ↔
      paramText value' = paramText value := by
  rw [← mem_placeholders_iff, mem_placeholders_iff_mem_pieces] at hname
  rw [fillTemplate, fillTemplate, String.ofList_inj, paramText, paramText, String.ofList_inj,
    ← fill_placeholder h.before, ← fill_placeholder h.after]
  constructor
  · exact fill_eq_of_flatMap_eq hname h.others
  · intro htext
    refine List.flatMap_congr fun piece _ => ?_
    cases piece with
    | literal c => rfl
    | placeholder other =>
      by_cases hother : other = name
      · rw [hother, htext]
      · rw [Piece.fill, Piece.fill, h.others other hother]

end

/-- **The shape of a path is that of its template as long as the parameters let it.** Take the
template that is chosen for parameters, with neither a question mark nor a hash in it. The path has
the shape of the template exactly when no parameter that the template names has a slash, a question
mark or a hash in its text. A plain path of that shape reaches the server in the same shape. Another
value of a placeholder gives another path exactly when it has another text, and then, where both
paths are plain, another target. -/
theorem shape_kept_iff (templates : List String) (params : List (String × Json))
    (template : String) (hchosen : templates.find? (isFilled params) = some template)
    (hquery : '?' ∉ template.toList) (hfragment : '#' ∉ template.toList) :
    ∃ path left, selectPath? templates params = some (path, left) ∧
      (HasShape template.toList path.toList ↔ ∀ (name : String) (value : Json),
        HasPlaceholder template.toList name.toList → Entries.find? name params = some value →
          ∀ c ∈ paramChars value, c ≠ '/' ∧ c ≠ '?' ∧ c ≠ '#') ∧
      (∀ service front target, Reaches service front path target →
        HasShape template.toList path.toList →
          HasShape (front ++ template.toList) (target.toList.takeWhile (· ≠ '?'))) ∧
      ∀ name value value' params', HasPlaceholder template.toList name.toList →
        Changed name value value' params params' →
          ∃ path' left', selectPath? templates params' = some (path', left') ∧
            (path' = path ↔ paramText value' = paramText value) ∧
            ∀ service front target, Reaches service front path target →
              Reaches service front path' target → paramText value' = paramText value := by
  have hfilled : isFilled params template := List.find?_some hchosen
  obtain ⟨left, hselect⟩ := exists_selectPath?_eq hchosen
  refine ⟨fillTemplate params template, left, hselect,
    hasShape_fillTemplate_iff hfilled hquery hfragment,
    fun _ _ _ hreaches hshape => hreaches.hasShape hshape,
    fun name value value' params' hname hchanged => ?_⟩
  have hsame : isFilled params' = isFilled params := funext hchanged.isFilled_eq
  obtain ⟨left', hselect'⟩ := exists_selectPath?_eq (hsame ▸ hchosen)
  have hpath := hchanged.fillTemplate_eq_iff hname
  exact ⟨fillTemplate params' template, left', hselect', hpath,
    fun _ _ _ hreaches hreaches' => hpath.mp (hreaches.path_eq hreaches')⟩

/-- A blank and a character beyond ASCII. -/
theorem shape_kept_of_blank :
    let template := "/\x7bindex\x7d/_doc/\x7bid\x7d"
    let params := [("index", Json.string "my books"), ("id", Json.string "ä")]
    [template, "/\x7bindex\x7d/_doc"].find? (isFilled params) = some template ∧
      '?' ∉ template.toList ∧ '#' ∉ template.toList ∧
      Reaches {} [] "/my books/_doc/ä" "/my%20books/_doc/%C3%A4" ∧
      HasShape template.toList ("/my%20books/_doc/%C3%A4".toList.takeWhile (· ≠ '?')) := by
  intro template params
  have hchosen : [template, "/\x7bindex\x7d/_doc"].find? (isFilled params) = some template := by
    decide +kernel
  have hquery : '?' ∉ template.toList := by decide
  have hfragment : '#' ∉ template.toList := by decide
  have hreaches : Reaches {} [] "/my books/_doc/ä" "/my%20books/_doc/%C3%A4" := by
    refine ⟨?serves, ?plain, ?sent⟩
    case serves =>
      exact ⟨"http".toList, "localhost:9200".toList, by decide, .inl rfl, by decide, by simp⟩
    case plain => exact ⟨by decide, by simp, by simp, by decide⟩
    case sent =>
      refine ⟨⟨"http://localhost:9200"⟩, [], ⟨"get", .object params, []⟩, [], ?_⟩
      decide +kernel
  refine ⟨hchosen, hquery, hfragment, hreaches, ?_⟩
  obtain ⟨path, left, hselect, hshape, htarget, _⟩ :=
    shape_kept_iff _ params template hchosen hquery hfragment
  have hpath : path = "/my books/_doc/ä" := by
    have hfirst : (selectPath? [template, "/\x7bindex\x7d/_doc"] params).map Prod.fst
        = some "/my books/_doc/ä" := by
      decide +kernel
    rw [hselect] at hfirst
    exact Option.some.inj hfirst
  subst hpath
  exact htarget _ _ _ hreaches ⟨by decide, by decide, by decide⟩

/-- Slashes and the signs of queries and fragments take a request elsewhere, and so do dots. -/
theorem shape_not_kept :
    let params := fun index : String => [("index", Json.string index)]
    let targets := fun index : String =>
      (perform ⟨"http://localhost:9200"⟩ {} [] ⟨"indices.create", .object (params index), []⟩
        []).1.sent.map (·.target)
    (selectPath? ["/\x7bindex\x7d"] (params "books/_doc")).map Prod.fst = some "/books/_doc" ∧
      ¬ HasShape "/\x7bindex\x7d".toList "/books/_doc".toList ∧
      targets "books/_doc" = ["/books/_doc"] ∧ targets "books?pretty" = ["/books?pretty"] ∧
      targets "books#1" = ["/books"] ∧ targets "books#2" = ["/books"] ∧ targets ".." = ["/"] := by
  refine ⟨by decide +kernel, fun hshape => absurd hshape.parts (by decide), ?_⟩
  decide +kernel

end ApiReplay.Http
