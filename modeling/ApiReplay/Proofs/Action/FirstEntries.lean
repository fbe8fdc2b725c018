import ApiReplay.Action.Reader
import Mathlib.Data.List.Basic

/-!
# What reading a step leaves out

A step is read by its first entry, and so is the mapping under the keyword of a binding, a match, a
length or a comparison. Entries behind the first are left out, on both levels and without an error,
so that a second assertion in a step is never checked. Nothing is left out of the steps with one
entry on each of these levels. A call is read as a whole: the mapping under its keyword has exactly
one entry that is no option, and two operations are an error.

## Main definitions

* `Action.Reading`: the action that a step states by its first entries, and the entries left out.
* `Action.IsSingle`: the steps that have no further entries.

## Main results

* `Call.filter_isOperation_of_parse`: the one operation of a call.
* `Action.parse_eq_some_iff`: the actions that steps are read as.
* `Action.reading_complete_iff`: the steps of which nothing is left out.
-/

namespace ApiReplay

/-- A computation in two parts succeeds when both parts do. -/
theorem exists_of_bind_eq_ok {ε α β : Type} {x : Except ε α} {f : α → Except ε β} {b : β}
    (h : (x >>= f) = .ok b) : ∃ a, x = .ok a ∧ f a = .ok b := by
  cases x with
  | error e => cases h
  | ok a => exact ⟨a, rfl, h⟩

/-! ### Calls -/

namespace Call

/-- The call of the only operation among some. -/
def ofOperations (expected : Option String) (headers : List (String × String)) :
    List (String × Json) → Except DocumentFault Call
  | [] => .error .noOperation
  | [(operation, tree)] => .ok ⟨operation, parameters tree, expected, headers⟩
  | (first, _) :: (second, _) :: _ => .error (.twoOperations first second)

/-- Of a mapping the headers are read first, and then the operation. -/
theorem ofEntries_eq (entries : List (String × Json)) :
    ofEntries entries = (do
      let headers ← (Entries.find? "headers" entries).elim (.ok []) parseHeaders
      ofOperations ((Entries.find? "catch" entries).map Json.plainText) headers
        (entries.filter isOperation)) := by
  unfold ofEntries
  cases Entries.find? "headers" entries <;> rfl

/-- A call that is read from a mapping is that of its only operation. -/
theorem filter_isOperation_of_parse {entries : List (String × Json)} {c : Call}
    (h : parse (.object entries) = .ok c) : ∃ tree,
      entries.filter isOperation = [(c.operation, tree)] ∧ c.params = parameters tree := by
  change ofEntries entries = .ok c at h
  rw [ofEntries_eq] at h
  obtain ⟨headers, -, h⟩ := exists_of_bind_eq_ok h
  unfold ofOperations at h
  split at h
  case h_1 => cases h
  case h_2 operation tree hfilter =>
    obtain rfl := Except.ok.inj h
    exact ⟨tree, hfilter, rfl⟩
  case h_3 => cases h

end Call

namespace Action

/-! ### Readings -/

/-- A step states an action by its first entries. Left out are `more`, the further entries of the
step, and `others`, those of the mapping under its keyword. -/
inductive Reading : Json → Action → List (String × Json) → List (String × Json) → Prop
  | call {tree : Json} {c : Call} (h : Call.parse tree = .ok c) (more : List (String × Json)) :
      Reading (.object (("do", tree) :: more)) (.call c) more []
  | bind (path : String) (name : Json) (more others : List (String × Json)) :
      Reading (.object (("set", .object ((path, name) :: others)) :: more))
        (.bind path name.plainText) more others
  | equal (path : String) (expected : Json) (more others : List (String × Json)) :
      Reading (.object (("match", .object ((path, expected) :: others)) :: more))
        (.equal path expected) more others
  | length (path : String) {count : Json} {n : Nat} (h : count.nat? = some n)
      (more others : List (String × Json)) :
      Reading (.object (("length", .object ((path, count) :: others)) :: more))
        (.length path n) more others
  | isTrue (tree : Json) (more : List (String × Json)) :
      Reading (.object (("is_true", tree) :: more)) (.isTrue (target tree)) more []
  | isFalse (tree : Json) (more : List (String × Json)) :
      Reading (.object (("is_false", tree) :: more)) (.isFalse (target tree)) more []
  | compare (comparison : Comparison) (path : String) (expected : Json)
      (more others : List (String × Json)) :
      Reading (.object ((comparison.keyword, .object ((path, expected) :: others)) :: more))
        (.compare comparison path expected) more others

variable {keyword : String} {tree step : Json} {action : Action} {entry : String × Json}
  {more others : List (String × Json)}

theorem firstEntry_eq_ok_iff :
    firstEntry keyword tree = .ok entry ↔ ∃ others, tree = .object (entry :: others) := by
  constructor
  · intro h
    unfold firstEntry at h
    split at h
    case h_1 first others =>
      obtain rfl := Except.ok.inj h
      exact ⟨others, rfl⟩
    case h_2 => cases h
  · rintro ⟨others, rfl⟩
    rfl

/-- What is read from the first entry of a mapping is read from one that has it. -/
theorem exists_of_bind_firstEntry {α : Type} {f : String × Json → Except DocumentFault α} {x : α}
    (h : (firstEntry keyword tree >>= f) = .ok x) :
    ∃ path value others, tree = .object ((path, value) :: others) ∧ f (path, value) = .ok x := by
  obtain ⟨entry, hentry, hread⟩ := exists_of_bind_eq_ok h
  obtain ⟨others, rfl⟩ := firstEntry_eq_ok_iff.mp hentry
  exact ⟨entry.1, entry.2, others, rfl, hread⟩

theorem keyword_of_ofKeyword? {comparison : Comparison}
    (h : Comparison.ofKeyword? keyword = some comparison) : comparison.keyword = keyword := by
  unfold Comparison.ofKeyword? at h
  split at h
  all_goals cases h <;> rfl

/-- An action is read from the first entry of a step. -/
theorem exists_reading_of_ofEntry (h : ofEntry keyword tree = .ok (some action))
    (more : List (String × Json)) :
    ∃ others, Reading (.object ((keyword, tree) :: more)) action more others := by
  unfold ofEntry at h
  split at h
  case h_1 =>
    obtain ⟨c, hcall, hread⟩ := exists_of_bind_eq_ok h
    obtain rfl := Option.some.inj (Except.ok.inj hread)
    exact ⟨[], .call hcall more⟩
  case h_2 =>
    obtain ⟨path, name, others, rfl, hread⟩ := exists_of_bind_firstEntry h
    obtain rfl := Option.some.inj (Except.ok.inj hread)
    exact ⟨others, .bind path name more others⟩
  case h_3 =>
    obtain ⟨path, expected, others, rfl, hread⟩ := exists_of_bind_firstEntry h
    obtain rfl := Option.some.inj (Except.ok.inj hread)
    exact ⟨others, .equal path expected more others⟩
  case h_4 =>
    obtain ⟨path, count, others, rfl, hread⟩ := exists_of_bind_firstEntry h
    cases hcount : count.nat? with
    | none =>
      simp only [hcount] at hread
      cases hread
    | some n =>
      simp only [hcount] at hread
      obtain rfl := Option.some.inj (Except.ok.inj hread)
      exact ⟨others, .length path hcount more others⟩
  case h_5 =>
    obtain rfl := Option.some.inj (Except.ok.inj h)
    exact ⟨[], .isTrue tree more⟩
  case h_6 =>
    obtain rfl := Option.some.inj (Except.ok.inj h)
    exact ⟨[], .isFalse tree more⟩
  case h_7 =>
    split at h
    case h_1 comparison hkeyword =>
      obtain ⟨path, expected, others, rfl, hread⟩ := exists_of_bind_firstEntry h
      obtain rfl := Option.some.inj (Except.ok.inj hread)
      rw [← keyword_of_ofKeyword? hkeyword]
      exact ⟨others, .compare comparison path expected more others⟩
    case h_2 => cases h

/-- A call is read from all that stands under its keyword. -/
theorem parse_call (tree : Json) (more : List (String × Json)) :
    parse (.object (("do", tree) :: more)) = (Call.parse tree).map fun c => some (call c) := by
  change (Call.parse tree >>= fun c => pure (some (call c))) = _
  cases Call.parse tree <;> rfl

/-- A length is read from the first entry under its keyword, which states a count. -/
theorem parse_length (path : String) (count : Json) (more others : List (String × Json)) :
    parse (.object (("length", .object ((path, count) :: others)) :: more))
      = count.nat?.elim (.error (.count path count)) fun n => .ok (some (length path n)) := by
  simp only [parse, ofEntry, firstEntry, Bind.bind, Except.bind]
  cases count.nat? <;> rfl

/-- A step is read as the action that its first entries state. -/
theorem Reading.parse_eq (h : Reading step action more others) :
    parse step = .ok (some action) := by
  cases h with
  | call h more =>
    rw [parse_call, h]
    rfl
  | length path h more others =>
    rw [parse_length, h]
    rfl
  | compare comparison path expected more others => cases comparison <;> rfl
  | _ => rfl

/-- The actions that steps are read as, with the entries that are left out. -/
theorem parse_eq_some_iff :
    parse step = .ok (some action) ↔ ∃ more others, Reading step action more others := by
  constructor
  · intro h
    unfold parse at h
    split at h
    case h_1 keyword tree more => exact ⟨more, exists_reading_of_ofEntry h more⟩
    case h_2 => cases h
  · rintro ⟨more, others, h⟩
    exact h.parse_eq

/-! ### Steps without further entries -/

/-- The keywords under which a mapping with one entry stands. -/
def entryKeywords : List String :=
  ["set", "match", "length", "lt", "lte", "gt", "gte"]

/-- A step is a mapping with one entry, and under such a keyword stands one with one entry too. -/
def IsSingle (step : Json) : Prop :=
  ∃ keyword tree, step = .object [(keyword, tree)] ∧
    (keyword ∈ entryKeywords → ∃ entry, tree = .object [entry])

theorem isSingle_cons_iff : IsSingle (.object ((keyword, tree) :: more)) ↔
    more = [] ∧ (keyword ∈ entryKeywords → ∃ entry, tree = .object [entry]) := by
  simp only [IsSingle, Json.object.injEq, List.cons.injEq, Prod.mk.injEq]
  constructor
  · rintro ⟨_, _, ⟨⟨rfl, rfl⟩, hmore⟩, hentry⟩
    exact ⟨hmore, hentry⟩
  · rintro ⟨hmore, hentry⟩
    exact ⟨keyword, tree, ⟨⟨rfl, rfl⟩, hmore⟩, hentry⟩

theorem isSingle_cons_cons_iff (h : keyword ∈ entryKeywords) :
    IsSingle (.object ((keyword, .object (entry :: others)) :: more)) ↔
      more = [] ∧ others = [] := by
  simp [isSingle_cons_iff, h]

/-- Nothing is left out of a step just when it has no further entries. -/
theorem Reading.isSingle_iff (h : Reading step action more others) :
    IsSingle step ↔ more = [] ∧ others = [] := by
  cases h with
  | call h more => simp [isSingle_cons_iff, entryKeywords]
  | bind path name more others => exact isSingle_cons_cons_iff (by decide)
  | equal path expected more others => exact isSingle_cons_cons_iff (by decide)
  | length path h more others => exact isSingle_cons_cons_iff (by decide)
  | isTrue tree more => simp [isSingle_cons_iff, entryKeywords]
  | isFalse tree more => simp [isSingle_cons_iff, entryKeywords]
  | compare comparison path expected more others =>
    exact isSingle_cons_cons_iff (by cases comparison <;> decide)

/-- **What reading a step leaves out.** A step is read as an action just when its first entries
state that action, whatever entries stand behind them. Nothing is left out just when there are none.
A call that names two operations is an error. -/
theorem reading_complete_iff (step : Json) :
    (∀ action, parse step = .ok (some action) ↔ ∃ more others, Reading step action more others) ∧
    (∀ action, Reading step action [] [] ↔ parse step = .ok (some action) ∧ IsSingle step) ∧
    ∀ entries more, step = .object (("do", .object entries) :: more) →
      2 ≤ (entries.filter Call.isOperation).length → ∃ fault, parse step = .error fault := by
  refine ⟨fun action => parse_eq_some_iff, fun action => ⟨fun h => ?_, fun ⟨h, hsingle⟩ => ?_⟩,
    fun entries more hstep htwo => ?_⟩
  · exact ⟨h.parse_eq, h.isSingle_iff.mpr ⟨rfl, rfl⟩⟩
  · obtain ⟨more, others, hreading⟩ := parse_eq_some_iff.mp h
    obtain ⟨rfl, rfl⟩ := hreading.isSingle_iff.mp hsingle
    exact hreading
  · subst hstep
    cases hcall : Call.parse (.object entries) with
    | ok c =>
      obtain ⟨tree, hfilter, -⟩ := Call.filter_isOperation_of_parse hcall
      rw [hfilter, List.length_singleton] at htwo
      omega
    | error fault =>
      refine ⟨fault, ?_⟩
      rw [parse_call, hcall]
      rfl

/-- The second assertion under a keyword and the second action of a step are left out. -/
theorem second_assertion_left_out :
    let step : Json := .object [("match", .object [("a", .nat 1), ("b", .nat 2)])]
    let other : Json := .object [("is_true", .string "a"), ("match", .object [("b", .nat 2)])]
    (parse step = .ok (some (.equal "a" (.nat 1))) ∧ ¬ IsSingle step ∧
      ¬ Reading step (.equal "a" (.nat 1)) [] []) ∧
    parse other = .ok (some (.isTrue "a")) ∧ ¬ IsSingle other ∧
      ¬ Reading other (.isTrue "a") [] [] := by
  intro step other
  have hstep : ¬ IsSingle step := by
    rw [isSingle_cons_cons_iff (by decide)]
    exact fun h => nomatch h.2
  have hother : ¬ IsSingle other := by
    rw [isSingle_cons_iff]
    exact fun h => nomatch h.1
  exact ⟨⟨rfl, hstep, fun h => hstep (h.isSingle_iff.mpr ⟨rfl, rfl⟩)⟩,
    rfl, hother, fun h => hother (h.isSingle_iff.mpr ⟨rfl, rfl⟩)⟩

/-- A comparison with one entry is read completely, and a call with an option and two operations is
an error. -/
theorem reading_complete_of_gte :
    let step : Json := .object [("gte", .object [("took", .nat 0)])]
    let entries : List (String × Json) := [("catch", .string "missing"), ("ping", .null),
      ("info", .null)]
    Reading step (.compare .gte "took" (.nat 0)) [] [] ∧
      2 ≤ (entries.filter Call.isOperation).length ∧
      ∃ fault, parse (.object [("do", .object entries)]) = .error fault := by
  intro step entries
  have hsingle : IsSingle step := (isSingle_cons_cons_iff (by decide)).mpr ⟨rfl, rfl⟩
  have htwo : 2 ≤ (entries.filter Call.isOperation).length := by decide
  exact ⟨((reading_complete_iff step).2.1 _).mpr ⟨rfl, hsingle⟩, htwo,
    (reading_complete_iff _).2.2 entries [] rfl htwo⟩

end Action

end ApiReplay
