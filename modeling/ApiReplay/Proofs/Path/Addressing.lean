import ApiReplay.Path.Resolve
import ApiReplay.Proofs.Path.Pieces

/-!
# Addressing the nodes of a body

A node of a tree is reached along keys of objects and positions in arrays; a position may be counted
from the end. Written as an expression, with backslashes before the dots of keys, such a location
resolves to its node. A key may read as a number, since numbers name keys of objects as well, as
long as it is written the way that number is. A position that the array does not have resolves to
nothing.

Arrays are indexed by integers of 64 bits, and lengths have 64 bits too. `Path.wordPosition?` is the
position computed on such words, where all arithmetic wraps around; it never differs from the exact
one.

## Main definitions

* `Path.Step`, `Path.expression`: the steps to a node, and how they are written.
* `Path.Located`: where steps lead.
* `Path.Step.Writable`: the steps that can be written.
* `Path.wordPosition?`: positions computed on words.

## Main results

* `Path.resolve_expression`: a written location is walked step by step.
* `Path.walk_of_located`: the walk along a location leads to its node.
* `Path.resolve_located`: written locations resolve to their nodes.
-/

namespace ApiReplay.Path

/-! ### Locations -/

/-- A step from a node of a tree to one below it. -/
inductive Step where
  | key (name : String)
  /-- A position in an array, or, when negative, one counted from the end. -/
  | item (index : Int)

/-- A step as it is written. -/
def Step.chars : Step → List Char
  | key name => escapeDots name.toList
  | item index => intChars index

/-- The expression for steps from the body. -/
def expression (steps : List Step) : String :=
  String.ofList (bodyPiece ++ '.' :: List.intercalate ['.'] (steps.map Step.chars))

/-- Steps lead from one node to another: along the keys of objects, and along positions in arrays,
which are counted from either end. -/
inductive Located : Json → List Step → Json → Prop
  | here (tree : Json) : Located tree [] tree
  | key {entries : List (String × Json)} {name : String} {value node : Json} {steps : List Step}
      (hvalue : Entries.find? name entries = some value) (hrest : Located value steps node) :
      Located (.object entries) (.key name :: steps) node
  | item {items : List Json} {i : Nat} {index : Int} {value node : Json} {steps : List Step}
      (hvalue : items[i]? = some value) (hindex : index = i ∨ index = i - items.length)
      (hrest : Located value steps node) :
      Located (.array items) (.item index :: steps) node

/-- The steps that can be written: an index has 64 bits, and a key has at least one character and no
backslash, is no reference to a variable, and where it reads as an index it is written like one. -/
def Step.Writable : Step → Prop
  | key name => name.toList ≠ [] ∧ '\\' ∉ name.toList ∧ name.toList.head? ≠ some '$' ∧
      ∀ i ∈ index? name.toList, intText i = name
  | item index => Integer.isSigned 64 index

/-! ### Single steps -/

/-- The segment that a written step is read as. -/
def Step.segment (step : Step) : Segment :=
  Segment.ofPiece step.chars

theorem isWhole_chars {step : Step} (h : step.Writable) : IsWhole step.chars := by
  cases step with
  | key name => exact isWhole_escapeDots h.1 h.2.1
  | item index => exact isWhole_intChars index

/-- A written key is read as itself or as the index whose text it is. -/
theorem segment_key {name : String} (h : (Step.key name).Writable) :
    (Step.key name).segment = .key name ∨
      ∃ i, (Step.key name).segment = .index i ∧ intText i = name := by
  obtain ⟨_, hback, hdollar, hindex⟩ := h
  rw [Step.segment, Step.chars, ofPiece_escapeDots hback hdollar]
  cases hread : index? name.toList with
  | some i => exact .inr ⟨i, rfl, hindex i hread⟩
  | none => exact .inl (congrArg Segment.key String.ofList_toList)

theorem segment_item {index : Int} (h : (Step.item index).Writable) :
    (Step.item index).segment = .index index :=
  ofPiece_intChars h

/-- No written step refers to a variable. -/
theorem segment_ne_variable {step : Step} (h : step.Writable) (name : String) :
    step.segment ≠ .variable name := by
  cases step with
  | key k =>
    rcases segment_key h with hk | ⟨i, hi, _⟩
    · simp [hk]
    · simp [hi]
  | item index => simp [segment_item h]

/-- A written key leads to the value under it. -/
theorem step?_segment_key {name : String} (h : (Step.key name).Writable)
    (entries : List (String × Json)) :
    step? (.object entries) (Step.key name).segment = Entries.find? name entries := by
  rcases segment_key h with hk | ⟨i, hi, rfl⟩
  · rw [hk]
    rfl
  · rw [hi]
    rfl

/-- A position counted from either end leads to its item. -/
theorem step?_index_eq_getElem? {items : List Json} {i : Nat} {index : Int}
    (hi : i < items.length) (hindex : index = i ∨ index = i - items.length) :
    step? (.array items) (.index index) = items[i]? := by
  have hposition : position? items.length index = some i := by
    unfold position?
    rcases hindex with rfl | rfl
    · rw [if_pos (by omega), Int.toNat_natCast]
    · rw [if_neg (by omega), if_pos (by omega), Option.some.injEq]
      omega
  rw [step?, hposition, Option.bind_some]

/-- A position that the array does not have leads nowhere. -/
theorem step?_index_eq_none {items : List Json} {index : Int}
    (h : index < -(items.length : Int) ∨ items.length ≤ index) :
    step? (.array items) (.index index) = none := by
  rw [step?, Option.bind_eq_none_iff]
  intro n hn
  rw [List.getElem?_eq_none_iff]
  unfold position? at hn
  split at hn
  · obtain rfl := Option.some.inj hn
    omega
  · split at hn
    · omega
    · cases hn

/-! ### Walks -/

section

variable {vars : Variables} {tree next : Json} {segment : Segment} {rest : List Segment}

/-- A walk goes on from where a step leads. -/
theorem walk_cons_of_step? (h : step? tree segment = some next) :
    walk vars (some tree) (segment :: rest) = walk vars (some next) rest := by
  cases segment with
  | «variable» name => cases h
  | _ => rw [walk, Option.bind_some, h]; simp

/-- A walk ends with nothing where a step leads nowhere. -/
theorem walk_cons_of_step?_eq_none (hvar : ∀ name, segment ≠ .variable name)
    (h : step? tree segment = none) :
    walk vars (some tree) (segment :: rest) = .ok none := by
  cases segment with
  | «variable» name => exact absurd rfl (hvar name)
  | _ => rw [walk, Option.bind_some, h]; simp

end

/-- The walk along a location leads to its node, and goes on from there. -/
theorem walk_of_located {tree node : Json} {steps : List Step} (h : Located tree steps node)
    (hw : ∀ step ∈ steps, step.Writable) (vars : Variables) (more : List Segment) :
    walk vars (some tree) (steps.map Step.segment ++ more) = walk vars (some node) more := by
  induction h with
  | here tree => rfl
  | key hvalue _ ih =>
    obtain ⟨hkey, hrest⟩ := List.forall_mem_cons.mp hw
    rw [List.map_cons, List.cons_append, walk_cons_of_step?, ih hrest]
    rw [step?_segment_key hkey, hvalue]
  | @item items i index _ _ _ hvalue hindex _ ih =>
    obtain ⟨hitem, hrest⟩ := List.forall_mem_cons.mp hw
    have hi : i < items.length := (List.getElem?_eq_some_iff.mp hvalue).1
    rw [List.map_cons, List.cons_append, walk_cons_of_step?, ih hrest]
    rw [segment_item hitem, step?_index_eq_getElem? hi hindex, hvalue]

/-! ### Expressions -/

/-- A written location is read step by step. -/
theorem parse_expression {steps : List Step} (h : ∀ step ∈ steps, step.Writable) :
    parse (expression steps) = steps.map Step.segment := by
  have hwhole : ∀ text ∈ steps.map Step.chars, IsWhole text := by
    intro text htext
    obtain ⟨step, hstep, rfl⟩ := List.mem_map.mp htext
    exact isWhole_chars (h step hstep)
  rw [parse, expression, String.toList_ofList, properPieces_body hwhole, List.map_map]
  rfl

/-- A written location is walked from the body. -/
theorem resolve_expression {steps : List Step} (h : ∀ step ∈ steps, step.Writable)
    (vars : Variables) (reply : Reply) :
    resolve vars (some (.reply reply)) (expression steps)
      = walk vars (some reply.body) (steps.map Step.segment) := by
  have hdot : (expression steps).toList.contains '.' := by
    simp [expression]
  rw [resolve, if_pos hdot, parse_expression h]
  rfl

/-! ### Words -/

/-- The position in an array that an index stands for, computed on words of 64 bits whose arithmetic
wraps around; the sign of the index is its highest bit. -/
def wordPosition? (length index : BitVec 64) : Option (BitVec 64) :=
  if index.msb then
    if -index ≤ length then some (length - -index) else none
  else some index

/-- No word overflows: the position computed on words is the exact one. -/
theorem map_toNat_wordPosition? (length index : BitVec 64) :
    (wordPosition? length index).map BitVec.toNat = position? length.toNat index.toInt := by
  have hlt := index.isLt
  cases hsign : index.msb with
  | false =>
    have hint : index.toInt = index.toNat := BitVec.toInt_eq_toNat_of_msb hsign
    rw [wordPosition?, if_neg (by simp [hsign]), hint, position?, if_pos (by omega)]
    rfl
  | true =>
    have hge : 2 ^ 63 ≤ index.toNat := BitVec.le_toNat_of_msb_true hsign
    have hint : index.toInt = index.toNat - 2 ^ 64 := by
      rw [BitVec.toInt_eq_msb_cond, if_pos hsign]
      norm_cast
    have habs : (-index).toNat = index.toInt.natAbs := by
      rw [BitVec.toNat_neg, Nat.mod_eq_of_lt (by omega)]
      omega
    have hneg : ¬ 0 ≤ index.toInt := by omega
    rw [wordPosition?, if_pos hsign, position?, if_neg hneg, ← habs]
    by_cases hle : -index ≤ length
    · rw [if_pos hle, if_pos (BitVec.le_def.mp hle), Option.map_some, BitVec.toNat_sub_of_le hle]
    · rw [if_neg hle, if_neg fun h => hle (BitVec.le_def.mpr h), Option.map_none]

/-! ### The nodes of a body -/

/-- **Every node of a body has an expression.** In the body of a structured response every written
location resolves to its node, whatever variables are bound. An index that the array at a location
does not have resolves to nothing, however the expression goes on; this holds for every index of 64
bits, since positions computed on words are exact. -/
theorem resolve_located (vars : Variables) (reply : Reply) :
    (∀ steps node, Located reply.body steps node → (∀ step ∈ steps, step.Writable) →
      resolve vars (some (.reply reply)) (expression steps) = .ok (some node)) ∧
    (∀ steps items index rest, Located reply.body steps (.array items) →
      (∀ step ∈ steps ++ .item index :: rest, step.Writable) →
      index < -(items.length : Int) ∨ items.length ≤ index →
      resolve vars (some (.reply reply)) (expression (steps ++ .item index :: rest)) = .ok none) ∧
    ∀ length index : BitVec 64,
      (wordPosition? length index).map BitVec.toNat = position? length.toNat index.toInt := by
  refine ⟨fun steps node hloc hw => ?_, fun steps items index rest hloc hw hout => ?_,
    map_toNat_wordPosition?⟩
  · have hwalk := walk_of_located hloc hw vars []
    rw [List.append_nil] at hwalk
    rw [resolve_expression hw, hwalk]
    rfl
  · have hsteps : ∀ step ∈ steps, step.Writable := fun step hstep =>
      hw step (List.mem_append_left _ hstep)
    have hindex : (Step.item index).Writable :=
      hw _ (List.mem_append_right _ List.mem_cons_self)
    have hmiss : step? (.array items) (Step.item index).segment = none := by
      rw [segment_item hindex, step?_index_eq_none hout]
    rw [resolve_expression hw, List.map_append, walk_of_located hloc hsteps, List.map_cons]
    exact walk_cons_of_step?_eq_none (segment_ne_variable hindex) hmiss

/-- The value under the key `7` in the last item of the array under the key `a.b`, and a position in
front of the first item. -/
theorem resolve_located_of_nested :
    let items : List Json := [.bool true, .object [("7", .null)]]
    let response : Response := .ok 200 (.object [("a.b", .array items)])
    let steps : Int → List Step := fun index => [.key "a.b", .item index, .key "7"]
    resolve .empty (some response) (expression (steps (-1))) = .ok (some .null) ∧
      resolve .empty (some response) (expression (steps (-3))) = .ok none := by
  intro items response steps
  have hkey : (Step.key "a.b").Writable ∧ (Step.key "7").Writable :=
    ⟨⟨by decide, by decide, by decide, by decide⟩, ⟨by decide, by decide, by decide, by decide⟩⟩
  have hwritable : ∀ index, Integer.isSigned 64 index → ∀ step ∈ steps index, step.Writable := by
    intro index hindex
    simp only [steps, List.forall_mem_cons]
    exact ⟨hkey.1, hindex, hkey.2, by simp⟩
  obtain ⟨hnode, hmiss, _⟩ := resolve_located .empty ⟨200, [], .object [("a.b", .array items)]⟩
  refine ⟨hnode (steps (-1)) _ ?_ (hwritable _ (by decide)),
    hmiss [.key "a.b"] items (-3) [.key "7"] ?_ (hwritable _ (by decide)) (.inl (by decide))⟩
  · exact .key rfl (.item (i := 1) rfl (.inr (by decide)) (.key rfl (.here _)))
  · exact .key rfl (.here _)

end ApiReplay.Path
