import ApiReplay.Json.Basic

/-!
# The texts of a tree

The texts of a tree stand in document order: items and entries one after the other, each with all
that is below it. Keys do not count as texts.

## Main definitions

* `Json.texts`: the texts of a tree in document order.
* `Json.mapTexts`: the tree with every text replaced, and all else as it is.

## Main results

* `Json.induct`: what holds of a tree when it holds of the items and of the values below holds of
  every tree.
* `Json.mapTexts_congr`, `Json.mapTexts_id`: the new tree depends only on what becomes of the texts
  in the tree.
-/

namespace ApiReplay.Json

/-- Induction on trees. The trees below an array are its items, and those below an object are the
values of its entries. -/
@[elab_as_elim]
theorem induct {motive : Json → Prop} (null : motive .null) (bool : ∀ b, motive (.bool b))
    (number : ∀ n, motive (.number n)) (string : ∀ s, motive (.string s))
    (array : ∀ items, (∀ item ∈ items, motive item) → motive (.array items))
    (object : ∀ entries, (∀ entry ∈ entries, motive entry.2) → motive (.object entries))
    (tree : Json) : motive tree := by
  refine @Json.rec motive (fun items => ∀ item ∈ items, motive item)
    (fun entries => ∀ entry ∈ entries, motive entry.2) (fun entry => motive entry.2)
    null bool number string array object ?_ ?_ ?_ ?_ (fun _ _ h => h) tree
  · simp
  · exact fun _ _ h hrest => List.forall_mem_cons.mpr ⟨h, hrest⟩
  · simp
  · exact fun _ _ h hrest => List.forall_mem_cons.mpr ⟨h, hrest⟩

/-! ### Texts -/

mutual

/-- The texts of a tree in document order. -/
def texts : Json → List String
  | .string s => [s]
  | .array items => itemTexts items
  | .object entries => entryTexts entries
  | .null | .bool _ | .number _ => []

/-- The texts of items, one item after the other. -/
def itemTexts : List Json → List String
  | [] => []
  | item :: rest => texts item ++ itemTexts rest

/-- The texts of the values of entries, one entry after the other. -/
def entryTexts : List (String × Json) → List String
  | [] => []
  | (_, value) :: rest => texts value ++ entryTexts rest

end

theorem itemTexts_eq_flatMap (items : List Json) : itemTexts items = items.flatMap texts := by
  induction items with
  | nil => rfl
  | cons item rest ih => rw [itemTexts, ih, List.flatMap_cons]

theorem entryTexts_eq_flatMap (entries : List (String × Json)) :
    entryTexts entries = entries.flatMap fun entry => entry.2.texts := by
  induction entries with
  | nil => rfl
  | cons entry rest ih => rw [entryTexts, ih, List.flatMap_cons]

/-! ### Replaced texts -/

mutual

/-- The tree with every text replaced. Keys and everything that is no text stay as they are. -/
def mapTexts (f : String → String) : Json → Json
  | .string s => .string (f s)
  | .array items => .array (mapItems f items)
  | .object entries => .object (mapEntries f entries)
  | .null => .null
  | .bool b => .bool b
  | .number n => .number n

/-- The items with every text replaced. -/
def mapItems (f : String → String) : List Json → List Json
  | [] => []
  | item :: rest => mapTexts f item :: mapItems f rest

/-- The entries with every text of their values replaced. -/
def mapEntries (f : String → String) : List (String × Json) → List (String × Json)
  | [] => []
  | (key, value) :: rest => (key, mapTexts f value) :: mapEntries f rest

end

theorem mapItems_eq_map (f : String → String) (items : List Json) :
    mapItems f items = items.map (mapTexts f) := by
  induction items with
  | nil => rfl
  | cons item rest ih => rw [mapItems, ih, List.map_cons]

theorem mapEntries_eq_map (f : String → String) (entries : List (String × Json)) :
    mapEntries f entries = entries.map fun entry => (entry.1, entry.2.mapTexts f) := by
  induction entries with
  | nil => rfl
  | cons entry rest ih => rw [mapEntries, ih, List.map_cons]

/-- Only what becomes of the texts in the tree counts. -/
theorem mapTexts_congr {f g : String → String} {tree : Json}
    (h : ∀ text ∈ tree.texts, f text = g text) : tree.mapTexts f = tree.mapTexts g := by
  induction tree using induct with
  | string s => simp only [mapTexts, h s (by simp [texts])]
  | array items ih =>
    rw [texts, itemTexts_eq_flatMap] at h
    rw [mapTexts, mapTexts, mapItems_eq_map, mapItems_eq_map, array.injEq, List.map_inj_left]
    intro item hitem
    exact ih item hitem fun text htext => h text (List.mem_flatMap.mpr ⟨item, hitem, htext⟩)
  | object entries ih =>
    rw [texts, entryTexts_eq_flatMap] at h
    rw [mapTexts, mapTexts, mapEntries_eq_map, mapEntries_eq_map, object.injEq, List.map_inj_left]
    intro entry hentry
    rw [ih entry hentry fun text htext => h text (List.mem_flatMap.mpr ⟨entry, hentry, htext⟩)]
  | _ => rfl

theorem mapTexts_id (tree : Json) : tree.mapTexts id = tree := by
  induction tree using induct with
  | array items ih =>
    rw [mapTexts, mapItems_eq_map, List.map_congr_left ih, List.map_id']
  | object entries ih =>
    have hentry : ∀ entry ∈ entries, (entry.1, entry.2.mapTexts id) = entry := by
      intro entry hentry
      rw [ih entry hentry]
    rw [mapTexts, mapEntries_eq_map, List.map_congr_left hentry, List.map_id']
  | _ => rfl

end ApiReplay.Json
