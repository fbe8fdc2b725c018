/-!
# Entries under distinct keys

A list of entries is looked up by key; setting a key that is there keeps its place. Built with
`Entries.insert` alone, a list has distinct keys and keeps the order in which they first came.

## Main definitions

* `Entries.find?`, `Entries.insert`; `Entries.find?_insert` is the law of the two, and
  `Entries.find?_eq_some_of_mem` ties look-up to membership.
* `Entries.ofList`: the entries that assignments leave, each key with its last value
  (`Entries.find?_ofList_eq_some_iff`).
* `Entries.remove`: removal, by which the last entry takes the place of the removed one and all
  others stay (`Entries.remove_perm`).
-/

namespace ApiReplay.Entries

variable {α : Type}

/-- The value of the first entry with the given key. -/
def find? (key : String) : List (String × α) → Option α
  | [] => none
  | (k, v) :: rest => if k = key then some v else find? key rest

/-- Sets the value of a key: in place when the key is there, else behind all other entries. -/
def insert (key : String) (value : α) : List (String × α) → List (String × α)
  | [] => [(key, value)]
  | (k, v) :: rest => if k = key then (key, value) :: rest else (k, v) :: insert key value rest

/-- A key that was set has its new value, and all other keys keep theirs. -/
theorem find?_insert (key k : String) (value : α) (entries : List (String × α)) :
    find? k (insert key value entries) = if key = k then some value else find? k entries := by
  induction entries with
  | nil => simp [insert, find?]
  | cons entry rest ih =>
    obtain ⟨k', v⟩ := entry
    by_cases h : k' = key
    · subst h
      by_cases hk : k' = k <;> simp [insert, find?, hk]
    · by_cases hk : k' = k
      · subst hk
        simp [insert, find?, h, Ne.symm h]
      · simp [insert, find?, h, hk, ih]

/-- Entries behind others are found under the keys that those do not have. -/
theorem find?_append (key : String) (first more : List (String × α)) :
    find? key (first ++ more) = (find? key first).or (find? key more) := by
  induction first with
  | nil => rfl
  | cons entry rest ih =>
    by_cases hk : entry.1 = key <;> simp [find?, hk, ih]

/-- Nothing is found under a key that no entry has. -/
theorem find?_eq_none_iff {key : String} {entries : List (String × α)} :
    find? key entries = none ↔ ∀ entry ∈ entries, entry.1 ≠ key := by
  induction entries with
  | nil => simp [find?]
  | cons entry rest ih =>
    by_cases hk : entry.1 = key <;> simp [find?, hk, ih]

/-- What is found under a key is the first entry that has it. -/
theorem find?_eq_some_iff {key : String} {value : α} {entries : List (String × α)} :
    find? key entries = some value ↔ ∃ earlier later,
      entries = earlier ++ (key, value) :: later ∧ ∀ entry ∈ earlier, entry.1 ≠ key := by
  constructor
  · intro h
    induction entries with
    | nil => cases h
    | cons entry rest ih =>
      obtain ⟨k, v⟩ := entry
      rw [find?] at h
      split at h
      case isTrue hk =>
        obtain rfl := Option.some.inj h
        exact ⟨[], rest, by rw [hk]; rfl, by simp⟩
      case isFalse hk =>
        obtain ⟨earlier, later, rfl, hearlier⟩ := ih h
        exact ⟨(k, v) :: earlier, later, rfl, by simpa [hk] using hearlier⟩
  · rintro ⟨earlier, later, rfl, hearlier⟩
    rw [find?_append, find?_eq_none_iff.mpr hearlier]
    simp [find?]

/-- What is found under a key is an entry. -/
theorem mem_of_find?_eq_some {key : String} {value : α} {entries : List (String × α)}
    (h : find? key entries = some value) : (key, value) ∈ entries := by
  obtain ⟨earlier, later, rfl, -⟩ := find?_eq_some_iff.mp h
  exact List.mem_append_right earlier List.mem_cons_self

/-- Where keys are distinct, every entry is found under its key. -/
theorem find?_eq_some_of_mem {key : String} {value : α} {entries : List (String × α)}
    (hkeys : (entries.map Prod.fst).Nodup) (h : (key, value) ∈ entries) :
    find? key entries = some value := by
  induction entries with
  | nil => cases h
  | cons entry rest ih =>
    rw [List.map_cons, List.nodup_cons] at hkeys
    rw [find?]
    rcases List.mem_cons.mp h with rfl | hrest
    · exact if_pos rfl
    · have hne : entry.1 ≠ key := by
        intro heq
        exact hkeys.1 (List.mem_map.mpr ⟨(key, value), hrest, heq.symm⟩)
      rw [if_neg hne]
      exact ih hkeys.2 hrest

/-- Where keys are distinct, the entries are what is found. -/
theorem find?_eq_some_iff_mem {key : String} {value : α} {entries : List (String × α)}
    (hkeys : (entries.map Prod.fst).Nodup) :
    find? key entries = some value ↔ (key, value) ∈ entries :=
  ⟨mem_of_find?_eq_some, find?_eq_some_of_mem hkeys⟩

/-- Where keys are distinct, an entry is the only one under its key. -/
theorem filter_key_eq {key : String} {value : α} {entries : List (String × α)}
    (hkeys : (entries.map Prod.fst).Nodup) (h : (key, value) ∈ entries) :
    entries.filter (fun entry => entry.1 = key) = [(key, value)] := by
  obtain ⟨earlier, later, rfl⟩ := List.append_of_mem h
  rw [List.map_append, List.map_cons, List.nodup_append, List.nodup_cons] at hkeys
  have hearlier : earlier.filter (fun entry => entry.1 = key) = [] :=
    List.filter_eq_nil_iff.mpr fun entry hentry => by
      simpa using hkeys.2.2 entry.1 (List.mem_map_of_mem hentry) key List.mem_cons_self
  have hlater : later.filter (fun entry => entry.1 = key) = [] := by
    refine List.filter_eq_nil_iff.mpr fun entry hentry => ?_
    rw [decide_eq_true_eq]
    rintro rfl
    exact hkeys.2.1.1 (List.mem_map.mpr ⟨entry, hentry, rfl⟩)
  rw [List.filter_append, hearlier, List.filter_cons_of_pos (by simp), hlater, List.nil_append]

/-- The entries with distinct keys that a list of assignments leaves behind. -/
def ofList (assignments : List (String × α)) : List (String × α) :=
  assignments.foldl (fun entries entry => insert entry.1 entry.2 entries) []

/-- Setting a key brings no other key in, and this one at most once. -/
theorem map_fst_insert (key : String) (value : α) (entries : List (String × α)) :
    (insert key value entries).map Prod.fst
      = if key ∈ entries.map Prod.fst then entries.map Prod.fst
        else entries.map Prod.fst ++ [key] := by
  induction entries with
  | nil => rfl
  | cons entry rest ih =>
    obtain ⟨k, v⟩ := entry
    by_cases hk : k = key
    · simp [insert, hk]
    · by_cases hkey : key ∈ rest.map Prod.fst <;> simp_all [insert, Ne.symm hk]

theorem nodup_keys_insert {key : String} {value : α} {entries : List (String × α)}
    (hkeys : (entries.map Prod.fst).Nodup) : ((insert key value entries).map Prod.fst).Nodup := by
  rw [map_fst_insert]
  split
  case isTrue => exact hkeys
  case isFalse hkey =>
    rw [List.nodup_append]
    refine ⟨hkeys, by simp, fun k hk k' hk' => ?_⟩
    obtain rfl := List.mem_singleton.mp hk'
    exact fun heq => hkey (heq ▸ hk)

theorem nodup_keys_foldl_insert (assignments : List (String × α)) {entries : List (String × α)}
    (hkeys : (entries.map Prod.fst).Nodup) :
    ((assignments.foldl (fun entries entry => insert entry.1 entry.2 entries) entries).map
      Prod.fst).Nodup := by
  induction assignments generalizing entries with
  | nil => exact hkeys
  | cons entry rest ih => exact ih (nodup_keys_insert hkeys)

/-- Assignments leave distinct keys behind. -/
theorem nodup_keys_ofList (assignments : List (String × α)) :
    ((ofList assignments).map Prod.fst).Nodup :=
  nodup_keys_foldl_insert assignments List.nodup_nil

/-- Assignments are looked up from the last one to the first. -/
theorem find?_foldl_insert (key : String) (assignments entries : List (String × α)) :
    find? key (assignments.foldl (fun entries entry => insert entry.1 entry.2 entries) entries)
      = (find? key assignments.reverse).or (find? key entries) := by
  induction assignments generalizing entries with
  | nil => rfl
  | cons entry rest ih =>
    obtain ⟨k, v⟩ := entry
    rw [List.foldl_cons, ih, find?_insert, List.reverse_cons, find?_append]
    by_cases hk : k = key <;> simp [find?, hk]

theorem find?_ofList (key : String) (assignments : List (String × α)) :
    find? key (ofList assignments) = find? key assignments.reverse := by
  simp [ofList, find?_foldl_insert, find?]

/-- The value of a key is the one that was assigned to it last. -/
theorem find?_ofList_eq_some_iff {key : String} {value : α} {assignments : List (String × α)} :
    find? key (ofList assignments) = some value ↔ ∃ earlier later,
      assignments = earlier ++ (key, value) :: later ∧ ∀ entry ∈ later, entry.1 ≠ key := by
  rw [find?_ofList, find?_eq_some_iff]
  constructor
  · rintro ⟨later, earlier, hsplit, hlater⟩
    refine ⟨earlier.reverse, later.reverse, ?_, by simpa using hlater⟩
    rw [← List.reverse_reverse assignments, hsplit]
    simp
  · rintro ⟨earlier, later, rfl, hlater⟩
    exact ⟨later.reverse, earlier.reverse, by simp, by simpa using hlater⟩

/-- Assignments leave no entry behind that is not one of them. -/
theorem mem_of_mem_ofList {entry : String × α} {assignments : List (String × α)}
    (h : entry ∈ ofList assignments) : entry ∈ assignments := by
  have hfind := find?_eq_some_of_mem (nodup_keys_ofList assignments) h
  obtain ⟨earlier, later, rfl, -⟩ := find?_ofList_eq_some_iff.mp hfind
  exact List.mem_append_right earlier List.mem_cons_self

/-- The entries without that of a key, whose place the last entry takes. -/
def remove (key : String) (entries : List (String × α)) : List (String × α) :=
  match entries.getLast? with
  | none => []
  | some last =>
    if (find? key entries).isNone then entries
    else if last.1 = key then entries.dropLast
    else entries.dropLast.map fun entry => if entry.1 = key then last else entry

/-- The entries under other keys are all of them where a key has none. -/
theorem filter_ne_eq_self {key : String} {entries : List (String × α)}
    (h : ∀ entry ∈ entries, entry.1 ≠ key) :
    (entries.filter fun entry => entry.1 ≠ key) = entries :=
  List.filter_eq_self.mpr fun entry hentry => by simpa using h entry hentry

/-- Putting an entry in the place of another one keeps the rest, in some order. -/
theorem map_replace_perm {key : String} {entries : List (String × α)} (last : String × α)
    (hkeys : (entries.map Prod.fst).Nodup) (hfound : find? key entries ≠ none) :
    (entries.map fun entry => if entry.1 = key then last else entry).Perm
      (entries.filter (fun entry => entry.1 ≠ key) ++ [last]) := by
  obtain ⟨value, hvalue⟩ := Option.ne_none_iff_exists'.mp hfound
  obtain ⟨earlier, later, rfl, hearlier⟩ := find?_eq_some_iff.mp hvalue
  have hlater : ∀ entry ∈ later, entry.1 ≠ key := by
    rw [List.map_append, List.map_cons, List.nodup_append, List.nodup_cons] at hkeys
    rintro entry hentry rfl
    exact hkeys.2.1.1 (List.mem_map.mpr ⟨entry, hentry, rfl⟩)
  have hsame {part : List (String × α)} (hpart : ∀ entry ∈ part, entry.1 ≠ key) :
      (part.map fun entry => if entry.1 = key then last else entry) = part := by
    rw [List.map_congr_left fun entry h => if_neg (hpart entry h), List.map_id']
  rw [List.map_append, List.map_cons, hsame hearlier, hsame hlater, if_pos rfl,
    List.filter_append, List.filter_cons_of_neg (by simp), filter_ne_eq_self hearlier,
    filter_ne_eq_self hlater, List.append_assoc]
  exact (List.perm_append_singleton last later).symm.append_left earlier

/-- Removal keeps all other entries, in some order. -/
theorem remove_perm {key : String} {entries : List (String × α)}
    (hkeys : (entries.map Prod.fst).Nodup) :
    (remove key entries).Perm (entries.filter fun entry => entry.1 ≠ key) := by
  unfold remove
  split
  case h_1 hlast =>
    rw [List.getLast?_eq_none_iff.mp hlast]
    exact .refl []
  case h_2 last hlast =>
    obtain ⟨front, rfl⟩ := List.getLast?_eq_some_iff.mp hlast
    rw [List.dropLast_concat]
    rw [List.map_append, List.nodup_append] at hkeys
    split
    case isTrue hnone =>
      rw [filter_ne_eq_self (find?_eq_none_iff.mp (Option.isNone_iff_eq_none.mp hnone))]
    case isFalse hfound =>
      rw [List.filter_append]
      split
      case isTrue hlastKey =>
        have hfront : ∀ entry ∈ front, entry.1 ≠ key := fun entry h =>
          hlastKey ▸ hkeys.2.2 entry.1 (List.mem_map_of_mem h) last.1 (by simp)
        rw [filter_ne_eq_self hfront, List.filter_cons_of_neg (by simp [hlastKey]),
          List.filter_nil, List.append_nil]
      case isFalse hlastKey =>
        rw [List.filter_cons_of_pos (by simpa using hlastKey), List.filter_nil]
        refine map_replace_perm last hkeys.1 fun hnone => hfound ?_
        rw [find?_append, hnone]
        simp [find?, hlastKey]

end ApiReplay.Entries
