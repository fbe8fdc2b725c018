import ApiReplay.Proofs.Action.FirstEntries
import Mathlib.Data.List.Perm.Basic

/-!
# Calls that mappings state

A call is stated by a mapping in which exactly one key is no option. The options may stand before
the operation, behind it and among each other: a key stands in a mapping only once, so that each of
them is looked up, and the order of the entries shows in nothing that is read. Only the headers of
the call keep an order, that of the mapping in which they are given.

## Main definitions

* `Call.Stated`: the call that the entries of a mapping state, in terms of which entries there are.

## Main results

* `Call.parse_object_eq_ok_iff`: reading in parts.
* `Call.parse_mapping_iff_stated`: which mappings are read, what they are read as, and that their
  order does not matter.
-/

namespace ApiReplay.Call

variable {entries : List (String × Json)} {c : Call} {key : String} {tree : Json}

/-- A key that is no option stands in a mapping. -/
def NamesOperation (entries : List (String × Json)) (key : String) : Prop :=
  key ∉ options ∧ ∃ tree, (key, tree) ∈ entries

/-- The call that the entries of a mapping state. -/
structure Stated (entries : List (String × Json)) (c : Call) : Prop where
  /-- The operation is the one key that is no option. -/
  operation : ∀ key, NamesOperation entries key ↔ key = c.operation
  /-- The parameters are those of the operation. -/
  params : ∀ tree, (c.operation, tree) ∈ entries →
    (tree = .null → c.params = .object []) ∧ (tree ≠ .null → c.params = tree)
  /-- The category is the text of the option of that name. -/
  expected : ∀ category,
    c.expected = some category ↔ ∃ tree, ("catch", tree) ∈ entries ∧ category = tree.plainText
  /-- The headers are those of the mapping under their option, in its order. -/
  headers : ∀ tree, ("headers", tree) ∈ entries →
    ∃ given, tree = .object given ∧ c.headers = given.map fun header =>
      (header.1, header.2.plainText)
  /-- Without that option there are none. -/
  noHeaders : (∀ tree, ("headers", tree) ∉ entries) → c.headers = []

/-! ### Reading in parts -/

theorem ofOperations_eq_ok_iff {expected : Option String} {headers : List (String × String)}
    {operations : List (String × Json)} : ofOperations expected headers operations = .ok c ↔
      ∃ tree, operations = [(c.operation, tree)] ∧ c.params = parameters tree ∧
        c.expected = expected ∧ c.headers = headers := by
  constructor
  · intro h
    unfold ofOperations at h
    split at h
    case h_1 => cases h
    case h_2 operation tree =>
      obtain rfl := Except.ok.inj h
      exact ⟨tree, rfl, rfl, rfl, rfl⟩
    case h_3 => cases h
  · rintro ⟨tree, rfl, hparams, rfl, rfl⟩
    rw [ofOperations, ← hparams]

/-- A call is read from a mapping when its headers are, and when there is one operation. -/
theorem parse_object_eq_ok_iff : parse (.object entries) = .ok c ↔
    (Entries.find? "headers" entries).elim (.ok []) parseHeaders = .ok c.headers ∧
      (Entries.find? "catch" entries).map Json.plainText = c.expected ∧
      ∃ tree, entries.filter isOperation = [(c.operation, tree)] ∧ c.params = parameters tree := by
  change ofEntries entries = .ok c ↔ _
  rw [ofEntries_eq]
  constructor
  · intro h
    obtain ⟨headers, hheaders, h⟩ := exists_of_bind_eq_ok h
    obtain ⟨tree, hfilter, hparams, hexpected, rfl⟩ := ofOperations_eq_ok_iff.mp h
    exact ⟨hheaders, hexpected.symm, tree, hfilter, hparams⟩
  · rintro ⟨hheaders, hexpected, tree, hfilter, hparams⟩
    rw [hheaders]
    exact ofOperations_eq_ok_iff.mpr ⟨tree, hfilter, hparams, hexpected.symm, rfl⟩

theorem toOption_parse_eq_some_iff : (parse tree).toOption = some c ↔ parse tree = .ok c := by
  cases parse tree <;> simp [Except.toOption]

theorem isOperation_iff {entry : String × Json} : isOperation entry ↔ entry.1 ∉ options := by
  simp [isOperation]

theorem parseHeaders_eq_ok_iff {headers : List (String × String)} :
    parseHeaders tree = .ok headers ↔ ∃ given, tree = .object given ∧
      headers = given.map fun header => (header.1, header.2.plainText) := by
  constructor
  · intro h
    unfold parseHeaders at h
    split at h
    case h_1 given => exact ⟨given, rfl, (Except.ok.inj h).symm⟩
    case h_2 => cases h
  · rintro ⟨given, rfl, rfl⟩
    rfl

theorem eq_parameters_iff {params : Json} : params = parameters tree ↔
    (tree = .null → params = .object []) ∧ (tree ≠ .null → params = tree) := by
  cases tree <;> simp [parameters]

/-! ### Reading by the keys -/

/-- Where keys are distinct, one entry is left when the options are taken away just when one key is
no option. -/
theorem filter_isOperation_iff (hkeys : (entries.map Prod.fst).Nodup) :
    entries.filter isOperation = [(key, tree)] ↔
      (key, tree) ∈ entries ∧ ∀ other, NamesOperation entries other ↔ other = key := by
  constructor
  · intro h
    have hmem (entry : String × Json) :
        entry ∈ entries ∧ entry.1 ∉ options ↔ entry = (key, tree) := by
      rw [← isOperation_iff, ← List.mem_filter, h, List.mem_singleton]
    have hkey := (hmem (key, tree)).mpr rfl
    refine ⟨hkey.1, fun other => ⟨?_, ?_⟩⟩
    · rintro ⟨hoption, value, hvalue⟩
      exact congrArg Prod.fst ((hmem (other, value)).mp ⟨hvalue, hoption⟩)
    · rintro rfl
      exact ⟨hkey.2, tree, hkey.1⟩
  · rintro ⟨hmem, hone⟩
    rw [← Entries.filter_key_eq hkeys hmem]
    refine List.filter_congr fun entry hentry => ?_
    rw [Bool.eq_iff_iff, isOperation_iff, decide_eq_true_iff, ← hone]
    exact (and_iff_left ⟨entry.2, hentry⟩).symm

/-- Where keys are distinct, the headers are read just when the option, if it is there, is a
mapping. -/
theorem find?_headers_eq_ok_iff (hkeys : (entries.map Prod.fst).Nodup)
    {headers : List (String × String)} :
    (Entries.find? "headers" entries).elim (.ok []) parseHeaders = .ok headers ↔
      (∀ tree, ("headers", tree) ∈ entries → ∃ given, tree = .object given ∧
        headers = given.map fun header => (header.1, header.2.plainText)) ∧
      ((∀ tree, ("headers", tree) ∉ entries) → headers = []) := by
  simp only [← Entries.find?_eq_some_iff_mem hkeys]
  cases Entries.find? "headers" entries with
  | none => simp [eq_comm]
  | some tree => simp [parseHeaders_eq_ok_iff]

/-- Where keys are distinct, a mapping is read as the call that its entries state. -/
theorem parse_object_iff_stated (hkeys : (entries.map Prod.fst).Nodup) :
    parse (.object entries) = .ok c ↔ Stated entries c := by
  have hexpected : (Entries.find? "catch" entries).map Json.plainText = c.expected ↔
      ∀ category, c.expected = some category ↔
        ∃ tree, ("catch", tree) ∈ entries ∧ category = tree.plainText := by
    simp only [← Entries.find?_eq_some_iff_mem hkeys, eq_comm (b := Json.plainText _),
      ← Option.map_eq_some_iff]
    exact ⟨fun h category => by rw [h], fun h => Option.ext fun category => (h category).symm⟩
  rw [parse_object_eq_ok_iff, find?_headers_eq_ok_iff hkeys, hexpected]
  simp only [filter_isOperation_iff hkeys, eq_parameters_iff]
  constructor
  · rintro ⟨⟨hgiven, hnone⟩, hcategory, tree, ⟨hmem, hone⟩, hparams⟩
    refine ⟨hone, fun other hother => ?_, hcategory, hgiven, hnone⟩
    obtain rfl := Option.some.inj ((Entries.find?_eq_some_of_mem hkeys hother).symm.trans
      (Entries.find?_eq_some_of_mem hkeys hmem))
    exact hparams
  · intro h
    obtain ⟨-, tree, hmem⟩ := (h.operation c.operation).mpr rfl
    exact ⟨⟨h.headers, h.noHeaders⟩, h.expected, tree, ⟨hmem, h.operation⟩, h.params tree hmem⟩

/-- What entries state does not depend on their order. -/
theorem Stated.of_perm {entries' : List (String × Json)} (h : Stated entries c)
    (hperm : entries'.Perm entries) : Stated entries' c := by
  have hmem (entry : String × Json) : entry ∈ entries' ↔ entry ∈ entries := hperm.mem_iff
  refine ⟨fun key => ?_, fun tree => ?_, fun category => ?_, fun tree => ?_, ?_⟩
  · simpa only [NamesOperation, hmem] using h.operation key
  · simpa only [hmem] using h.params tree
  · simpa only [hmem] using h.expected category
  · simpa only [hmem] using h.headers tree
  · simpa only [hmem] using h.noHeaders

/-- A mapping with one operation is read when its headers, if it has any, are a mapping. -/
theorem exists_parse_object (hkeys : (entries.map Prod.fst).Nodup)
    (hone : ∃! key, NamesOperation entries key)
    (hheaders : ∀ tree, ("headers", tree) ∈ entries → ∃ given, tree = .object given) :
    ∃ c, parse (.object entries) = .ok c := by
  obtain ⟨key, ⟨hkey, tree, hmem⟩, hunique⟩ := hone
  have hfilter : entries.filter isOperation = [(key, tree)] :=
    (filter_isOperation_iff hkeys).mpr ⟨hmem, fun other => ⟨hunique other, by
      rintro rfl
      exact ⟨hkey, tree, hmem⟩⟩⟩
  obtain ⟨headers, hread⟩ : ∃ headers,
      (Entries.find? "headers" entries).elim (.ok []) parseHeaders = .ok headers := by
    cases hfind : Entries.find? "headers" entries with
    | none => exact ⟨[], rfl⟩
    | some value =>
      obtain ⟨given, rfl⟩ := hheaders value (Entries.mem_of_find?_eq_some hfind)
      exact ⟨_, rfl⟩
  exact ⟨⟨key, parameters tree, (Entries.find? "catch" entries).map Json.plainText, headers⟩,
    parse_object_eq_ok_iff.mpr ⟨hread, rfl, tree, hfilter, rfl⟩⟩

/-- **Reading a call from a mapping.** A mapping is read as a call just when exactly one of its keys
is no option and its headers, if it has any, are a mapping. What it is read as is told by the
entries that it has, so that reading succeeds or fails alike, and with the same call, when they
stand in another order. -/
theorem parse_mapping_iff_stated (entries : List (String × Json))
    (hkeys : (entries.map Prod.fst).Nodup) :
    ((∃ c, parse (.object entries) = .ok c) ↔
      (∃! key, NamesOperation entries key) ∧
        ∀ tree, ("headers", tree) ∈ entries → ∃ given, tree = .object given) ∧
    (∀ c, parse (.object entries) = .ok c ↔ Stated entries c) ∧
    ∀ entries' : List (String × Json), entries'.Perm entries →
      (parse (.object entries')).toOption = (parse (.object entries)).toOption := by
  refine ⟨⟨?_, fun ⟨hone, hheaders⟩ => exists_parse_object hkeys hone hheaders⟩,
    fun c => parse_object_iff_stated hkeys, fun entries' hperm => Option.ext fun c => ?_⟩
  · rintro ⟨c, hc⟩
    have h := (parse_object_iff_stated hkeys).mp hc
    refine ⟨⟨c.operation, (h.operation _).mpr rfl, fun key => (h.operation key).mp⟩,
      fun tree hmem => ?_⟩
    obtain ⟨given, rfl, -⟩ := h.headers tree hmem
    exact ⟨given, rfl⟩
  · have hkeys' : (entries'.map Prod.fst).Nodup := (hperm.map Prod.fst).nodup_iff.mpr hkeys
    rw [toOption_parse_eq_some_iff, toOption_parse_eq_some_iff, parse_object_iff_stated hkeys,
      parse_object_iff_stated hkeys']
    exact ⟨fun h => h.of_perm hperm.symm, fun h => h.of_perm hperm⟩

/-- Options on both sides of the operation, whose parameters are null, and the same entries in
another order. -/
theorem parse_mapping_iff_stated_of_catch :
    let entries : List (String × Json) :=
      [("catch", .nat 404), ("warnings", .array []), ("indices.get", .null),
        ("headers", .object [("X-Id", .bool true), ("Accept", .string "text/plain")])]
    let reordered : List (String × Json) :=
      [("headers", .object [("X-Id", .bool true), ("Accept", .string "text/plain")]),
        ("indices.get", .null), ("warnings", .array []), ("catch", .nat 404)]
    (entries.map Prod.fst).Nodup ∧ reordered.Perm entries ∧
      Stated entries ⟨"indices.get", .object [], some "404",
        [("X-Id", "true"), ("Accept", "text/plain")]⟩ ∧
      (parse (.object reordered)).toOption = (parse (.object entries)).toOption := by
  intro entries reordered
  have hkeys : (entries.map Prod.fst).Nodup := by decide
  have hperm : reordered.Perm entries := List.reverse_perm entries
  obtain ⟨-, hstated, hsame⟩ := parse_mapping_iff_stated entries hkeys
  exact ⟨hkeys, hperm, (hstated _).mp (by rfl), hsame reordered hperm⟩

end ApiReplay.Call
