import ApiReplay.Proofs.Json.Texts
import ApiReplay.Proofs.Variables.Tokens

/-!
# Parameter binding over a tree

The parameters of a call need the tokens of all their texts, in document order: arrays and objects
are bound entry by entry, each entry with all that is below it, and a text from left to right. When
a name is not bound, the first such name is the error. Otherwise every text is substituted on its
own and nothing else changes. A variable that the tree does not name has no part in this, neither in
the value nor in the error.

## Main definitions

* `Json.tokens`: the names that a tree needs, in document order.
* `Variables.Substituted`: a tree of the same shape with every text substituted.
* `Variables.BindingLaw`: what binding makes of a tree.

## Main results

* `Variables.bindParams_eq_provided`: binding needs the tokens of a tree and renders its texts.
* `Variables.bindingLaw_bindParams`: the law of binding.
-/

namespace ApiReplay

/-- The names of the tokens in the texts of a tree, in document order. -/
def Json.tokens (tree : Json) : List String :=
  tree.texts.flatMap Variables.tokens

namespace Variables

open Json (texts itemTexts entryTexts mapTexts mapItems mapEntries)

/-! ### Trees of the same shape -/

/-- The second tree has the shape of the first: arrays of the same length and objects with the same
keys in the same order. Its texts are those of the first with the tokens substituted, and all else
is the same. -/
inductive Substituted (vars : Variables) : Json → Json → Prop
  | null : Substituted vars .null .null
  | bool (b : Bool) : Substituted vars (.bool b) (.bool b)
  | number (n : Number) : Substituted vars (.number n) (.number n)
  | string {s t : String} (h : vars.substitute s = .ok t) : Substituted vars (.string s) (.string t)
  | array {as bs : List Json} (hlength : as.length = bs.length)
      (hitems : ∀ i (ha : i < as.length) (hb : i < bs.length), Substituted vars as[i] bs[i]) :
      Substituted vars (.array as) (.array bs)
  | object {as bs : List (String × Json)} (hkeys : as.map Prod.fst = bs.map Prod.fst)
      (hvalues : ∀ i (ha : i < as.length) (hb : i < bs.length),
        Substituted vars as[i].2 bs[i].2) :
      Substituted vars (.object as) (.object bs)

/-- What binding makes of a tree. -/
structure BindingLaw (vars : Variables) (tree : Json) : Prop where
  /-- The names that the tree needs are those that stand in one of its texts as tokens. -/
  mem_tokens : ∀ name, name ∈ tree.tokens ↔
    ∃ text ∈ tree.texts, HasToken text.toList name.toList
  /-- Binding succeeds when all of them are bound. -/
  ok : (∃ bound, vars.bindParams tree = .ok bound) ↔
    ∀ name ∈ tree.tokens, ∃ value, vars.get? name = some value
  /-- The error is the first of them, in document order, that is not. -/
  error : ∀ e, vars.bindParams tree = .error e ↔ ∃ earlier later,
    tree.tokens = earlier ++ e.name :: later ∧
      (∀ name ∈ earlier, ∃ value, vars.get? name = some value) ∧ vars.get? e.name = none
  /-- The bound tree has the same shape, with every text substituted on its own. -/
  substituted : ∀ bound, vars.bindParams tree = .ok bound → Substituted vars tree bound
  /-- A tree without tokens stays as it is. -/
  unchanged : tree.tokens = [] → vars.bindParams tree = .ok tree
  /-- Variables that the tree does not name have no part in the result. -/
  agree : ∀ vars' : Variables, (∀ name ∈ tree.tokens, vars.get? name = vars'.get? name) →
    vars.bindParams tree = vars'.bindParams tree

/-! ### Binding needs tokens and renders texts -/

theorem bindItems_eq_provided {vars : Variables} {items : List Json}
    (h : ∀ item ∈ items,
      vars.bindParams item = vars.provided item.tokens (item.mapTexts vars.rendered)) :
    vars.bindItems items
      = vars.provided ((itemTexts items).flatMap tokens) (mapItems vars.rendered items) := by
  induction items with
  | nil => rfl
  | cons item rest ih =>
    obtain ⟨hitem, hrest⟩ := List.forall_mem_cons.mp h
    rw [bindItems, hitem, ih hrest, itemTexts, List.flatMap_append, mapItems]
    exact provided_bind _ _ _ _ _

theorem bindEntries_eq_provided {vars : Variables} {entries : List (String × Json)}
    (h : ∀ entry ∈ entries,
      vars.bindParams entry.2 = vars.provided entry.2.tokens (entry.2.mapTexts vars.rendered)) :
    vars.bindEntries entries
      = vars.provided ((entryTexts entries).flatMap tokens) (mapEntries vars.rendered entries) := by
  induction entries with
  | nil => rfl
  | cons entry rest ih =>
    obtain ⟨hentry, hrest⟩ := List.forall_mem_cons.mp h
    rw [bindEntries, hentry, ih hrest, entryTexts, List.flatMap_append, mapEntries]
    exact provided_bind _ _ _ _ _

/-- Binding needs the tokens of a tree and renders its texts. -/
theorem bindParams_eq_provided (vars : Variables) (tree : Json) :
    vars.bindParams tree = vars.provided tree.tokens (tree.mapTexts vars.rendered) := by
  induction tree using Json.induct with
  | string s =>
    rw [bindParams, substitute_eq_provided, provided_map, Json.tokens, texts,
      List.flatMap_singleton]
    rfl
  | array items ih => rw [bindParams, bindItems_eq_provided ih, provided_map]; rfl
  | object entries ih => rw [bindParams, bindEntries_eq_provided ih, provided_map]; rfl
  | _ => rfl

/-! ### What follows -/

/-- A tree whose names are all bound keeps its shape when its texts are rendered. -/
theorem substituted_mapTexts {vars : Variables} {tree : Json}
    (h : ∀ text ∈ tree.texts, ∀ name ∈ tokens text, (vars.get? name).isSome) :
    Substituted vars tree (tree.mapTexts vars.rendered) := by
  induction tree using Json.induct with
  | null => exact .null
  | bool b => exact .bool b
  | number n => exact .number n
  | string s =>
    refine .string ?_
    rw [substitute_eq_provided, provided_eq_ok_iff]
    exact ⟨h s (by simp [texts]), rfl⟩
  | array items ih =>
    rw [texts, Json.itemTexts_eq_flatMap] at h
    rw [mapTexts, Json.mapItems_eq_map]
    refine .array (by simp) fun i hi _ => ?_
    rw [List.getElem_map]
    have hmem := List.getElem_mem hi
    exact ih _ hmem fun text htext => h text (List.mem_flatMap.mpr ⟨_, hmem, htext⟩)
  | object entries ih =>
    rw [texts, Json.entryTexts_eq_flatMap] at h
    rw [mapTexts, Json.mapEntries_eq_map]
    refine .object (by simp) fun i hi _ => ?_
    rw [List.getElem_map]
    have hmem := List.getElem_mem hi
    exact ih _ hmem fun text htext => h text (List.mem_flatMap.mpr ⟨_, hmem, htext⟩)

/-- A tree without tokens stays as it is when its texts are rendered. -/
theorem mapTexts_rendered_eq_self {tree : Json} (h : tree.tokens = []) (vars : Variables) :
    tree.mapTexts vars.rendered = tree := by
  have htexts : ∀ text ∈ tree.texts, vars.rendered text = id text := fun text htext =>
    rendered_eq_self (List.flatMap_eq_nil_iff.mp h text htext) vars
  rw [Json.mapTexts_congr htexts, Json.mapTexts_id]

/-- **Law of binding.** For every store and every tree, binding succeeds exactly when all tokens in
the texts of the tree are bound, and fails with the first that is not; it keeps the shape of the
tree, and looks at no other variable. -/
theorem bindingLaw_bindParams (vars : Variables) (tree : Json) : BindingLaw vars tree where
  mem_tokens name := by simp only [Json.tokens, List.mem_flatMap, mem_tokens_iff]
  ok := by
    simp only [bindParams_eq_provided, provided_eq_ok_iff, exists_and_left, exists_eq',
      and_true, Option.isSome_iff_exists]
  error e := by
    simp only [bindParams_eq_provided, provided_eq_error_iff, Option.isSome_iff_exists]
  substituted bound h := by
    rw [bindParams_eq_provided, provided_eq_ok_iff] at h
    obtain ⟨hall, rfl⟩ := h
    exact substituted_mapTexts fun text htext name hname =>
      hall name (List.mem_flatMap.mpr ⟨text, htext, hname⟩)
  unchanged h := by
    rw [bindParams_eq_provided, mapTexts_rendered_eq_self h, h, provided_nil]
  agree vars' h := by
    have hvalue : tree.mapTexts vars.rendered = tree.mapTexts vars'.rendered :=
      Json.mapTexts_congr fun text htext => rendered_congr fun name hname =>
        h name (List.mem_flatMap.mpr ⟨text, htext, hname⟩)
    rw [bindParams_eq_provided, bindParams_eq_provided, hvalue]
    exact provided_congr _ h

end Variables

end ApiReplay
