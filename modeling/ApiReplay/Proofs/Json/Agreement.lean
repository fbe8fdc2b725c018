import ApiReplay.Session.Matching
import Mathlib.Data.List.Forall2
import Mathlib.Data.List.Perm.Subperm

/-!
# Agreement of values

Agreement of objects is decided from one side: the objects have the same size, and every entry of
the first agrees with the one of the same key in the second. Where keys are distinct this is no
different from the other side. Two objects agree exactly when their keys are a permutation of each
other and the values under each key agree (`Json.agrees_object_iff`). So agreement is an equivalence
on trees with distinct keys, the order of entries does not count at any depth, and matching against
an expected value that is not a text does not tell trees apart that agree.

## Main definitions

* `Json.DistinctKeys`, `Json.Tree`: the trees whose objects have distinct keys at every depth.
* `Json.Reordered`: trees that differ only in the order of the entries of objects.

## Main results

* `Json.agrees_refl`, `Json.agrees_symm`, `Json.agrees_trans`, `Json.agrees_of_reordered`.
* `Json.satisfies_congr`: matching against a value that is not a text respects agreement.
-/

namespace ApiReplay

namespace Json

/-! ### Trees with distinct keys -/

/-- Every object in the tree has distinct keys. -/
inductive DistinctKeys : Json → Prop
  | null : DistinctKeys .null
  | bool (b : Bool) : DistinctKeys (.bool b)
  | number (n : Number) : DistinctKeys (.number n)
  | string (s : String) : DistinctKeys (.string s)
  | array {items : List Json} (hitems : ∀ item ∈ items, DistinctKeys item) :
      DistinctKeys (.array items)
  | object {entries : List (String × Json)} (hkeys : (entries.map Prod.fst).Nodup)
      (hvalues : ∀ entry ∈ entries, DistinctKeys entry.2) : DistinctKeys (.object entries)

/-- A tree whose objects have distinct keys. -/
def Tree : Type :=
  { tree : Json // tree.DistinctKeys }

/-- Two trees that differ only in the order in which objects list their entries, at any depth. -/
inductive Reordered : Json → Json → Prop
  | null : Reordered .null .null
  | bool (b : Bool) : Reordered (.bool b) (.bool b)
  | number (n : Number) : Reordered (.number n) (.number n)
  | string (s : String) : Reordered (.string s) (.string s)
  | array {as bs : List Json} (hlength : as.length = bs.length)
      (hitems : ∀ i (ha : i < as.length) (hb : i < bs.length), Reordered as[i] bs[i]) :
      Reordered (.array as) (.array bs)
  | object {as bs : List (String × Json)} (hkeys : (as.map Prod.fst).Perm (bs.map Prod.fst))
      (hvalues : ∀ key a b, (key, a) ∈ as → (key, b) ∈ bs → Reordered a b) :
      Reordered (.object as) (.object bs)

/-! ### Agreement of arrays and of objects -/

theorem agreeItems_iff {as bs : List Json} :
    agreeItems as bs ↔ List.Forall₂ (fun a b => agrees a b) as bs := by
  induction as generalizing bs with
  | nil => cases bs <;> simp [agreeItems]
  | cons a as ih => cases bs <;> simp [agreeItems, ih]

theorem agrees_array_iff {as bs : List Json} :
    agrees (.array as) (.array bs) ↔ as.length = bs.length ∧
      ∀ i (ha : i < as.length) (hb : i < bs.length), agrees as[i] bs[i] := by
  rw [agrees, agreeItems_iff, List.forall₂_iff_get]
  rfl

theorem agreeEntries_iff {as bs : List (String × Json)} :
    agreeEntries as bs ↔
      ∀ key a, (key, a) ∈ as → ∃ b, Entries.find? key bs = some b ∧ agrees a b := by
  induction as with
  | nil => simp [agreeEntries]
  | cons entry rest ih =>
    obtain ⟨key, a⟩ := entry
    have hcons : agreeEntries ((key, a) :: rest) bs ↔
        (∃ b, Entries.find? key bs = some b ∧ agrees a b) ∧ agreeEntries rest bs := by
      rw [agreeEntries, Bool.and_eq_true]
      cases Entries.find? key bs <;> simp
    rw [hcons, ih]
    constructor
    · rintro ⟨hkey, hrest⟩ k x hx
      rcases List.mem_cons.mp hx with heq | hx
      · obtain ⟨rfl, rfl⟩ := Prod.mk.inj heq
        exact hkey
      · exact hrest k x hx
    · intro h
      exact ⟨h key a List.mem_cons_self, fun k x hx => h k x (List.mem_cons_of_mem _ hx)⟩

/-- Objects with distinct keys agree when they have the same keys in some order, and the values
under each key agree. -/
theorem agrees_object_iff {as bs : List (String × Json)} (ha : (as.map Prod.fst).Nodup)
    (hb : (bs.map Prod.fst).Nodup) :
    agrees (.object as) (.object bs) ↔ (as.map Prod.fst).Perm (bs.map Prod.fst) ∧
      ∀ key a b, (key, a) ∈ as → (key, b) ∈ bs → agrees a b := by
  rw [agrees, Bool.and_eq_true, beq_iff_eq, agreeEntries_iff]
  constructor
  · rintro ⟨hlength, hfound⟩
    -- Distinct keys that all occur on the other side are as many as there are.
    have hsub : as.map Prod.fst ⊆ bs.map Prod.fst := by
      intro key hkey
      obtain ⟨⟨_, a⟩, hmem, rfl⟩ := List.mem_map.mp hkey
      obtain ⟨b, hfind, _⟩ := hfound _ a hmem
      exact List.mem_map.mpr ⟨(_, b), Entries.mem_of_find?_eq_some hfind, rfl⟩
    refine ⟨(ha.subperm hsub).perm_of_length_le (by simp [hlength]), fun key a b hma hmb => ?_⟩
    obtain ⟨b', hfind, hagree⟩ := hfound key a hma
    obtain rfl : b' = b :=
      Option.some.inj (hfind.symm.trans (Entries.find?_eq_some_of_mem hb hmb))
    exact hagree
  · rintro ⟨hperm, hvalues⟩
    refine ⟨by simpa using hperm.length_eq, fun key a hma => ?_⟩
    have hkey : key ∈ bs.map Prod.fst := hperm.subset (List.mem_map.mpr ⟨(key, a), hma, rfl⟩)
    obtain ⟨⟨_, b⟩, hmb, rfl⟩ := List.mem_map.mp hkey
    exact ⟨b, Entries.find?_eq_some_of_mem hb hmb, hvalues _ a b hma hmb⟩

/-! ### Agreement is an equivalence -/

theorem agrees_refl {a : Json} (ha : a.DistinctKeys) : agrees a a := by
  induction ha with
  | array hitems ih => exact agrees_array_iff.mpr ⟨rfl, fun i hi _ => ih _ (List.getElem_mem hi)⟩
  | object hkeys hvalues ih =>
    refine (agrees_object_iff hkeys hkeys).mpr ⟨List.Perm.refl _, fun key a b hma hmb => ?_⟩
    obtain rfl : a = b := Option.some.inj
      ((Entries.find?_eq_some_of_mem hkeys hma).symm.trans (Entries.find?_eq_some_of_mem hkeys hmb))
    exact ih _ hma
  | _ => simp

theorem agrees_symm {a b : Json} (ha : a.DistinctKeys) (hb : b.DistinctKeys)
    (h : agrees a b) : agrees b a := by
  induction ha generalizing b with
  | array hitems ih =>
    cases hb with
    | array hitems' =>
      obtain ⟨hlength, hagree⟩ := agrees_array_iff.mp h
      refine agrees_array_iff.mpr ⟨hlength.symm, fun i hi hi' => ?_⟩
      exact ih _ (List.getElem_mem hi') (hitems' _ (List.getElem_mem hi)) (hagree i hi' hi)
    | _ => simp at h
  | object hkeys hvalues ih =>
    cases hb with
    | object hkeys' hvalues' =>
      obtain ⟨hperm, hagree⟩ := (agrees_object_iff hkeys hkeys').mp h
      refine (agrees_object_iff hkeys' hkeys).mpr ⟨hperm.symm, fun key b a hmb hma => ?_⟩
      exact ih _ hma (hvalues' _ hmb) (hagree key a b hma hmb)
    | _ => simp at h
  | _ => cases hb <;> simp_all

/-- With a repeated key agreement would depend on the side. -/
example :
    agrees (.object [("a", .null), ("a", .null)]) (.object [("a", .null), ("b", .null)]) ∧
      ¬ agrees (.object [("a", .null), ("b", .null)]) (.object [("a", .null), ("a", .null)]) := by
  decide

theorem agrees_trans {a b c : Json} (ha : a.DistinctKeys) (hab : agrees a b) (hbc : agrees b c) :
    agrees a c := by
  induction ha generalizing b c with
  | @array as hitems ih =>
    cases b <;> simp only [agrees, Bool.false_eq_true] at hab
    rename_i bs
    cases c <;> simp only [agrees, Bool.false_eq_true] at hbc
    rename_i cs
    obtain ⟨hlength, hagree⟩ := agrees_array_iff.mp hab
    obtain ⟨hlength', hagree'⟩ := agrees_array_iff.mp hbc
    refine agrees_array_iff.mpr ⟨hlength.trans hlength', fun i hi hi' => ?_⟩
    have hib : i < bs.length := hlength ▸ hi
    exact ih _ (List.getElem_mem hi) (hagree i hi hib) (hagree' i hib hi')
  | @object as hkeys hvalues ih =>
    cases b <;> simp only [agrees, Bool.false_eq_true] at hab
    rename_i bs
    cases c <;> simp only [agrees, Bool.false_eq_true] at hbc
    rename_i cs
    simp only [Bool.and_eq_true, beq_iff_eq, agreeEntries_iff] at hab hbc
    rw [agrees, Bool.and_eq_true, beq_iff_eq, agreeEntries_iff]
    refine ⟨hab.1.trans hbc.1, fun key a hma => ?_⟩
    obtain ⟨b, hfind, hagree⟩ := hab.2 key a hma
    obtain ⟨c, hfind', hagree'⟩ := hbc.2 key b (Entries.mem_of_find?_eq_some hfind)
    exact ⟨c, hfind', ih _ hma hagree hagree'⟩
  | _ =>
    cases b <;> simp only [agrees, Bool.false_eq_true, beq_iff_eq] at hab
    all_goals cases c <;> simp_all

/-- The order of entries does not count. -/
theorem agrees_of_reordered {a b : Json} (ha : a.DistinctKeys) (hb : b.DistinctKeys)
    (h : Reordered a b) : agrees a b := by
  induction h with
  | array hlength hitems ih =>
    cases ha with
    | array ha =>
      cases hb with
      | array hb =>
        refine agrees_array_iff.mpr ⟨hlength, fun i hi hi' => ?_⟩
        exact ih i hi hi' (ha _ (List.getElem_mem hi)) (hb _ (List.getElem_mem hi'))
  | object hkeys hvalues ih =>
    cases ha with
    | object ha ha' =>
      cases hb with
      | object hb hb' =>
        refine (agrees_object_iff ha hb).mpr ⟨hkeys, fun key a b hma hmb => ?_⟩
        exact ih key a b hma hmb (ha' _ hma) (hb' _ hmb)
  | _ => simp

/-! ### Matching respects agreement -/

section

variable {a a' e e' : Json}

theorem agrees_of_agrees (ha : a.DistinctKeys) (ha' : a'.DistinctKeys) (haa : agrees a a')
    (hee : agrees e e') (h : agrees a e) : agrees a' e' :=
  agrees_trans ha' (agrees_symm ha ha' haa) (agrees_trans ha h hee)

theorem agrees_congr (ha : a.DistinctKeys) (ha' : a'.DistinctKeys) (he : e.DistinctKeys)
    (he' : e'.DistinctKeys) (haa : agrees a a') (hee : agrees e e') :
    agrees a e = agrees a' e' := by
  rw [Bool.eq_iff_iff]
  constructor
  · exact agrees_of_agrees ha ha' haa hee
  · exact agrees_of_agrees ha' ha (agrees_symm ha ha' haa) (agrees_symm he he' hee)

/-- A value that agrees with one that is not a text is none either. -/
theorem string?_eq_none_of_agrees (he : e.string? = none) (h : agrees e e') :
    e'.string? = none := by
  cases e' with
  | string s => cases e <;> simp_all [string?]
  | _ => rfl

/-- Only a text is a pattern literal. -/
theorem satisfiesPattern_eq_false (he : e.string? = none) : satisfiesPattern a e = false := by
  cases e <;> simp_all [satisfiesPattern, string?]

/-- Only arrays contain a value that is not a text. -/
theorem contains_iff (he : e.string? = none) :
    contains a e ↔ ∃ items, a = .array items ∧ ∃ item ∈ items, agrees item e := by
  cases a with
  | array items => simp [contains]
  | object entries => cases e <;> simp_all [contains, string?]
  | string text => cases e <;> simp_all [contains, string?]
  | _ => simp [contains]

theorem contains_of_agrees (ha : a.DistinctKeys) (ha' : a'.DistinctKeys) (haa : agrees a a')
    (hee : agrees e e') (he : e.string? = none) (h : contains a e) : contains a' e' := by
  obtain ⟨items, rfl, item, hmem, hitem⟩ := (contains_iff he).mp h
  obtain ⟨i, hi, rfl⟩ := List.getElem_of_mem hmem
  cases ha with
  | array hitems =>
    cases ha' with
    | @array items' hitems' =>
      obtain ⟨hlength, hagree⟩ := agrees_array_iff.mp haa
      have hi' : i < items'.length := hlength ▸ hi
      refine (contains_iff (string?_eq_none_of_agrees he hee)).mpr
        ⟨items', rfl, items'[i], List.getElem_mem hi', ?_⟩
      exact agrees_of_agrees (hitems _ hmem) (hitems' _ (List.getElem_mem hi')) (hagree i hi hi')
        hee hitem
    | _ => simp at haa

/-- Matching against a value that is not a text respects agreement. -/
theorem satisfies_congr (ha : a.DistinctKeys) (ha' : a'.DistinctKeys) (he : e.DistinctKeys)
    (he' : e'.DistinctKeys) (haa : agrees a a') (hee : agrees e e') (hs : e.string? = none) :
    satisfies a e = satisfies a' e' := by
  have hs' : e'.string? = none := string?_eq_none_of_agrees hs hee
  have hcontains : contains a e = contains a' e' := by
    rw [Bool.eq_iff_iff]
    constructor
    · exact contains_of_agrees ha ha' haa hee hs
    · exact contains_of_agrees ha' ha (agrees_symm ha ha' haa) (agrees_symm he he' hee) hs'
  rw [satisfies, satisfies, agrees_congr ha ha' he he' haa hee, hcontains,
    satisfiesPattern_eq_false hs, satisfiesPattern_eq_false hs']

end

end Json

end ApiReplay
