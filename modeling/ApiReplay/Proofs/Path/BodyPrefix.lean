import ApiReplay.Proofs.Path.Walks
import ApiReplay.Proofs.Path.Writing
import Mathlib.Data.List.Basic

/-!
# The leading `$body`

With `$body` and a dot in front an expression is walked segment by segment from the body. An
expression that has a dot of its own is walked anyway, and resolves to the same. One without a dot
names the entry of the body under exactly its own text, and here the prefix makes a difference: the
walk takes a numeral for a position in an array, it leaves backslashes out of keys, and along no
segment at all it yields the body itself. On all other texts the two agree.

## Main definitions

* `Path.IsSameBehindBody`: whether the prefix makes no difference.
* `Path.unescaped`: a text without its backslashes.
* `Path.BodyPrefixLaw`: where the prefix makes a difference.

## Main results

* `Path.resolve_body_append`: what an expression behind `$body` resolves to.
* `Path.resolve_of_not_mem_dot`: what an expression without dots resolves to.
* `Path.bodyPrefixLaw_resolve`: where the two are the same.
-/

namespace ApiReplay.Path

variable {vars : Variables} {response : Option Response} {e : String} {text : List Char}

/-! ### Segments behind `$body` -/

theorem toList_body_append (e : String) : ("$body." ++ e).toList = bodyPiece ++ '.' :: e.toList :=
  String.toList_append

/-- Behind `$body` an expression is walked from the body. -/
theorem resolve_body_append (vars : Variables) (response : Option Response) (e : String) :
    resolve vars response ("$body." ++ e)
      = walk vars (response.bind Response.body?) (segmentsOf e.toList) := by
  have hdot : '.' ∈ ("$body." ++ e).toList := by
    rw [toList_body_append]
    simp
  rw [resolve_of_dot hdot, parse, toList_body_append, properPieces_body_append]
  rfl

/-- The first piece of a text goes from its first character up to a dot. -/
theorem exists_pieces_cons {c : Char} (hc : c ≠ '.') (rest : List Char) :
    ∃ first others, pieces (c :: rest) = (c :: first) :: others := by
  obtain ⟨first, others, heq⟩ := List.exists_cons_of_ne_nil (piecesAfter_ne_nil (c = '\\') rest)
  refine ⟨first, others, ?_⟩
  rw [pieces, piecesAfter, if_neg fun h => hc h.1, heq]
  rfl

/-- An expression that starts with neither a dollar sign nor a dot has the segments of its text. -/
theorem parse_eq_segmentsOf (hdollar : e.toList.head? ≠ some '$')
    (hdot : e.toList.head? ≠ some '.') : parse e = segmentsOf e.toList := by
  unfold parse segmentsOf
  congr 1
  cases htext : e.toList with
  | nil => rfl
  | cons c rest =>
    rw [htext, List.head?_cons, Ne, Option.some.injEq] at hdollar hdot
    obtain ⟨first, others, hpieces⟩ := exists_pieces_cons hdot rest
    have hbody : c :: first ≠ bodyPiece := fun heq => hdollar (List.cons.inj heq).1
    rw [properPieces, hpieces, List.filter_cons_of_pos (by simp)]
    exact if_neg hbody

/-- A text without dots is one segment. -/
theorem segmentsOf_of_not_mem_dot (hne : text ≠ []) (hdot : '.' ∉ text) :
    segmentsOf text = [Segment.ofPiece text] := by
  rw [segmentsOf, pieces, piecesAfter_eq_singleton hdot,
    List.filter_cons_of_pos (by simpa using hne)]
  rfl

/-! ### Expressions without dots -/

/-- An expression without dots that asks for no attribute names an entry of the body. -/
theorem resolve_of_not_mem_dot (hdollar : e.toList.head? ≠ some '$') (hdot : '.' ∉ e.toList) :
    resolve vars response e = .ok ((response.bind Response.body?).bind (Json.get? e)) := by
  have hattribute : attributeName? e.toList = none := by
    unfold attributeName?
    split
    case h_1 heq => exact absurd (by rw [heq]; rfl) hdollar
    case h_2 => rfl
  rw [resolve, if_neg fun h => hdot (List.contains_iff_mem.mp h), hattribute]
  rfl

/-- A walk along one key or index is one step. -/
theorem walk_singleton {start : Option Json} {segment : Segment}
    (hvar : ∀ name, segment ≠ .variable name) :
    walk vars start [segment] = .ok (start.bind fun tree => step? tree segment) := by
  cases hnext : start.bind fun tree => step? tree segment with
  | some next =>
    obtain ⟨tree, rfl, hstep⟩ := Option.bind_eq_some_iff.mp hnext
    exact walk_cons_of_step? hstep
  | none => exact walk_cons_of_misses hvar (Option.bind_eq_none_iff.mp hnext)

/-! ### Where the prefix makes a difference -/

/-- Whether an expression resolves to the same behind `$body`. -/
def IsSameBehindBody (vars : Variables) (response : Option Response) (e : String) : Prop :=
  resolve vars response ("$body." ++ e) = resolve vars response e

/-- A text without its backslashes. -/
def unescaped (text : String) : String :=
  String.ofList (text.toList.filter (· ≠ '\\'))

/-- The expressions that resolve to the same behind `$body`. -/
structure BodyPrefixLaw (vars : Variables) (response : Option Response) (e : String) : Prop where
  /-- All that have a dot. -/
  of_dot : '.' ∈ e.toList → IsSameBehindBody vars response e
  /-- Without a dot an expression names the entry of the body under its own text. -/
  resolve_eq : '.' ∉ e.toList →
    resolve vars response e = .ok ((response.bind Response.body?).bind (Json.get? e))
  /-- All that are not empty, have no backslash and are no indices. -/
  of_plain : e ≠ "" → '\\' ∉ e.toList → index? e.toList = none →
    IsSameBehindBody vars response e
  /-- Backslashes count unless the key without them has the same value. -/
  key_iff : '.' ∉ e.toList → e ≠ "" → index? e.toList = none →
    (IsSameBehindBody vars response e ↔
      ∀ entries, response.bind Response.body? = some (.object entries) →
        Entries.find? (unescaped e) entries = Entries.find? e entries)
  /-- The decimal form of an index counts when the body is an array that has this position. -/
  index_iff : ∀ i, index? e.toList = some i →
    (∀ entries, response.bind Response.body? = some (.object entries) → intText i = e) →
    (IsSameBehindBody vars response e ↔
      ∀ items, response.bind Response.body? = some (.array items) →
        i < -(items.length : Int) ∨ items.length ≤ i)
  /-- Nothing behind `$body` names the body itself. -/
  empty_iff : e = "" → (IsSameBehindBody vars response e ↔ response.bind Response.body? = none)

/-- An expression of one segment resolves to the same behind `$body` when a step along this segment
leads from the body to its entry under that text. -/
theorem isSameBehindBody_iff (hdollar : e.toList.head? ≠ some '$') (hdot : '.' ∉ e.toList)
    (hne : e ≠ "") :
    IsSameBehindBody vars response e ↔ ∀ tree, response.bind Response.body? = some tree →
      step? tree (Segment.ofPiece e.toList) = tree.get? e := by
  have hvar : ∀ name, Segment.ofPiece e.toList ≠ .variable name := by
    rw [ofPiece_eq hdollar]
    cases index? e.toList <;> exact fun _ => Segment.noConfusion
  rw [IsSameBehindBody, resolve_body_append, resolve_of_not_mem_dot hdollar hdot,
    segmentsOf_of_not_mem_dot (by simpa using hne) hdot, walk_singleton hvar, Except.ok.injEq]
  cases response.bind Response.body? with
  | none => simp
  | some tree => simp

theorem unescaped_eq_self (h : '\\' ∉ e.toList) : unescaped e = e := by
  have hfilter : e.toList.filter (· ≠ '\\') = e.toList :=
    List.filter_eq_self.mpr fun c hc => by
      rw [decide_eq_true_eq]
      rintro rfl
      exact h hc
  rw [unescaped, hfilter, String.ofList_toList]

/-- An expression that is one key names the entry under the key without backslashes behind
`$body`. -/
theorem isSameBehindBody_iff_of_key (hdollar : e.toList.head? ≠ some '$') (hdot : '.' ∉ e.toList)
    (hne : e ≠ "") (hindex : index? e.toList = none) :
    IsSameBehindBody vars response e ↔
      ∀ entries, response.bind Response.body? = some (.object entries) →
        Entries.find? (unescaped e) entries = Entries.find? e entries := by
  rw [isSameBehindBody_iff hdollar hdot hne, ofPiece_eq hdollar, hindex, Option.elim_none]
  refine ⟨fun h entries hentries => h _ hentries, fun h tree htree => ?_⟩
  cases tree with
  | object entries => exact h entries htree
  | _ => rfl

/-- An index leads nowhere in an array that does not have its position, counted from either end. -/
theorem step?_index_eq_none_iff {items : List Json} {i : Int} :
    step? (.array items) (.index i) = none ↔ i < -(items.length : Int) ∨ items.length ≤ i := by
  refine ⟨fun h => ?_, step?_index_eq_none⟩
  by_contra hin
  obtain ⟨n, hn, hi⟩ : ∃ n < items.length, i = n ∨ i = n - (items.length : Int) := by
    by_cases hsign : 0 ≤ i
    · exact ⟨i.toNat, by omega, .inl (by omega)⟩
    · exact ⟨(i + items.length).toNat, by omega, .inr (by omega)⟩
  rw [step?_index_eq_getElem? hn hi, List.getElem?_eq_none_iff] at h
  omega

/-- No tree is an entry of itself. -/
theorem get?_ne_self (key : String) (tree : Json) : tree.get? key ≠ some tree := by
  cases tree with
  | object entries =>
    intro h
    have hentry := List.sizeOf_lt_of_mem (Entries.mem_of_find?_eq_some h)
    simp only [Prod.mk.sizeOf_spec, Json.object.sizeOf_spec] at hentry
    omega
  | _ => exact nofun

/-- **The leading `$body`.** For every response or none, whatever is bound, an expression that
starts with neither a dollar sign nor a dot resolves to the same with `$body` and a dot in front
when `BodyPrefixLaw` says so. -/
theorem bodyPrefixLaw_resolve (vars : Variables) (response : Option Response) (e : String)
    (hdollar : e.toList.head? ≠ some '$') (hdot : e.toList.head? ≠ some '.') :
    BodyPrefixLaw vars response e where
  of_dot h := by
    rw [IsSameBehindBody, resolve_body_append, resolve_of_dot h, parse_eq_segmentsOf hdollar hdot]
  resolve_eq := resolve_of_not_mem_dot hdollar
  of_plain hne hback hindex := by
    by_cases hmem : '.' ∈ e.toList
    · rw [IsSameBehindBody, resolve_body_append, resolve_of_dot hmem,
        parse_eq_segmentsOf hdollar hdot]
    · rw [isSameBehindBody_iff_of_key hdollar hmem hne hindex, unescaped_eq_self hback]
      exact fun entries _ => rfl
  key_iff hmem hne hindex := isSameBehindBody_iff_of_key hdollar hmem hne hindex
  index_iff i hindex hplain := by
    have hmem : '.' ∉ e.toList := fun h => by
      rw [index?_eq_none_of_mem h (by decide) (by decide)] at hindex
      cases hindex
    have hne : e ≠ "" := by
      rintro rfl
      cases hindex
    rw [isSameBehindBody_iff hdollar hmem hne, ofPiece_eq hdollar, hindex, Option.elim_some]
    refine ⟨fun h items hitems => step?_index_eq_none_iff.mp (h _ hitems), fun h tree htree => ?_⟩
    cases tree with
    | array items => exact step?_index_eq_none_iff.mpr (h items htree)
    | object entries => rw [step?, hplain entries htree, Json.get?]
    | _ => rfl
  empty_iff := by
    rintro rfl
    rw [IsSameBehindBody, resolve_body_append, resolve_of_not_mem_dot hdollar (by decide)]
    cases response.bind Response.body? with
    | none => exact iff_of_true rfl rfl
    | some tree =>
      refine iff_of_false (fun h => ?_) (Option.some_ne_none _)
      exact get?_ne_self "" tree (Except.ok.inj h).symm

/-- The item of a body that is an array is found behind `$body` only. -/
theorem item_found_behind_body_only :
    let response := some (Response.ok 200 (.array [.bool true]))
    "0".toList.head? ≠ some '$' ∧ "0".toList.head? ≠ some '.' ∧
      resolve .empty response "$body.0" = .ok (some (.bool true)) ∧
      resolve .empty response "0" = .ok none ∧ ¬ IsSameBehindBody .empty response "0" := by
  intro response
  refine ⟨by decide, by decide, rfl, rfl, fun h => ?_⟩
  change Except.ok (some (Json.bool true)) = Except.ok none at h
  cases h

/-- In a body that is an object a decimal number is found in either way, and a key without a
backslash is found by a text with one behind `$body` only. -/
theorem bodyPrefixLaw_resolve_of_object :
    let response := some (Response.ok 200 (.object [("0", .bool true), ("ab", .null)]))
    "0".toList.head? ≠ some '$' ∧ "0".toList.head? ≠ some '.' ∧
      IsSameBehindBody .empty response "0" ∧
      "a\\b".toList.head? ≠ some '$' ∧ "a\\b".toList.head? ≠ some '.' ∧
      ¬ IsSameBehindBody .empty response "a\\b" := by
  intro response
  have hnumber : "0".toList.head? ≠ some '$' ∧ "0".toList.head? ≠ some '.' := by decide
  have hkey : "a\\b".toList.head? ≠ some '$' ∧ "a\\b".toList.head? ≠ some '.' := by decide
  refine ⟨hnumber.1, hnumber.2, ?_, hkey.1, hkey.2, fun hsame => ?_⟩
  · have hlaw := bodyPrefixLaw_resolve .empty response "0" hnumber.1 hnumber.2
    exact (hlaw.index_iff 0 (by decide) fun _ _ => by decide).mpr fun _ => nofun
  · have hlaw := bodyPrefixLaw_resolve .empty response "a\\b" hkey.1 hkey.2
    have hfind := (hlaw.key_iff (by decide) (by decide) (by decide)).mp hsame _ rfl
    change some Json.null = none at hfind
    cases hfind

end ApiReplay.Path
