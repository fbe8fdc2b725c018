import ApiReplay.Fetch
import ApiReplay.Proofs.Files.Emptying
import Mathlib.Data.Set.Card

/-!
# What a published archive leaves

A corpus is published as an archive of directories and files inside one wrapper. Their order is
free, and a directory need not be listed. When no file is in the place of another file or of a
directory, the archive is unpacked to the end: the destination then holds the files, with what is
in them, the directories that are listed, and those around either. Nothing else is there that was
not before.

## Main definitions

* `Fetch.Node`: a directory or a file of a corpus, under the names that lead to it.
* `Fetch.Node.at?`: what a node puts under names.
* `Fetch.Node.Apart`: two nodes of which neither is a file in the way of the other.
* `Fetch.Archived`: an entry that is a node inside the wrapper.
* `Fetch.Agrees`: a destination in which nothing is in the way of a node.
* `Fetch.Stored`: a destination that holds some nodes and nothing else.

## Main results

* `Fetch.exists_place`: a node is placed where nothing is in its way.
* `Fetch.Stored.exists_unpackFrom`: the entries of a corpus are all placed, and tests are counted.
* `Fetch.Stored.countP_isTest`: the count is that of the test documents in the destination.
-/

namespace ApiReplay.Fetch

open FilePath (Component)
open Files (Disk Location)

/-! ### Nodes -/

/-- A directory or a file of a corpus, under the names that lead to it. -/
structure Node where
  names : List String
  /-- The contents of a file. -/
  contents : Option (List UInt8)
  named : contents.isSome → names ≠ []

namespace Node

variable {node a b : Node} {names : List String} {entry entry' : Files.Entry}

/-- What a node is on a disk. -/
def own (node : Node) : Files.Entry :=
  node.contents.elim .directory .file

/-- What a node puts under names: itself, and directories around it. -/
def at? (node : Node) (names : List String) : Option Files.Entry :=
  if names = node.names then some node.own
  else if names <+: node.names then some .directory
  else none

/-- Whether a node is a test document. -/
def isTest (node : Node) : Bool :=
  node.contents.isSome && node.names.getLast?.any FilePath.isYamlName

/-- Neither of two nodes is a file in the place of the other one or of a directory around it. -/
structure Apart (a b : Node) : Prop where
  left : a.contents.isSome → ¬ a.names <+: b.names
  right : b.contents.isSome → ¬ b.names <+: a.names

theorem at?_around (h : names <+: node.names) (hne : names ≠ node.names) :
    node.at? names = some .directory := by
  rw [at?, if_neg hne, if_pos h]

theorem isPrefix_of_at? (h : node.at? names = some entry) : names <+: node.names := by
  unfold at? at h
  split at h
  · rename_i heq
    exact heq ▸ List.prefix_rfl
  · split at h
    · assumption
    · cases h

theorem at?_eq_file_iff {contents : List UInt8} : node.at? names = some (.file contents) ↔
    names = node.names ∧ node.contents = some contents := by
  unfold at? own
  split
  · cases node.contents <;> simp [*]
  · split <;> simp [*]

/-- A directory puts directories under all beginnings of its names. -/
theorem at?_of_directory (h : node.contents = none) (names : List String) :
    node.at? names = if names <+: node.names then some .directory else none := by
  unfold at? own
  rw [h]
  split
  · rename_i heq
    rw [if_pos (heq ▸ List.prefix_rfl)]
    rfl
  · rfl

/-- Every node puts a directory around everything. -/
theorem at?_nil (node : Node) : node.at? [] = some .directory := by
  cases h : node.contents with
  | none => rw [at?_of_directory h, if_pos List.nil_prefix]
  | some contents => exact at?_around List.nil_prefix (node.named (by rw [h]; rfl)).symm

/-- A file puts itself under its names, and directories under those that it lies in. -/
theorem at?_of_file {contents : List UInt8} {outer : List String} {text : String}
    (h : node.contents = some contents) (hnames : node.names = outer ++ [text])
    (names : List String) :
    node.at? names = if names = outer ++ [text] then some (.file contents)
      else if names <+: outer then some .directory else none := by
  unfold at? own
  rw [h, hnames]
  split
  · rfl
  · rename_i hne
    simp only [List.prefix_concat_iff, hne, false_or]

/-- Nodes that are apart put the same under the same names. -/
theorem Apart.agree (h : a.Apart b) (ha : a.at? names = some entry)
    (hb : b.at? names = some entry') : entry = entry' := by
  cases entry with
  | file contents =>
    obtain ⟨rfl, hcontents⟩ := at?_eq_file_iff.mp ha
    exact absurd (isPrefix_of_at? hb) (h.left (by rw [hcontents]; rfl))
  | directory =>
    cases entry' with
    | directory => rfl
    | file contents =>
      obtain ⟨rfl, hcontents⟩ := at?_eq_file_iff.mp hb
      exact absurd (isPrefix_of_at? ha) (h.right (by rw [hcontents]; rfl))

end Node

/-! ### Entries -/

variable {p : Location → Prop} {disk disk' : Disk} {destination : List Component}
  {base : Location} {wrapper : String} {node : Node} {done nodes : List Node}
  {entry : Archive.Entry} {entries : List Archive.Entry}

/-- An entry that is a node inside a wrapper: its name is that of the wrapper with the names of the
node, and it can be read. -/
structure Archived (wrapper : String) (node : Node) (entry : Archive.Entry) : Prop where
  path : FilePath.components entry.name = .name wrapper :: node.names.map .name
  noNul : '\x00' ∉ entry.name.toList
  kind : Archive.isDirectory entry.name = node.contents.isNone
  readable : ∃ contents, entry.contents = .ok contents ∧
    ∀ bytes, node.contents = some bytes → contents = { bytes }

/-- Names lead out of no place. -/
theorem staysInside_names (depth : Nat) (names : List String) :
    Archive.staysInside depth (names.map .name) = true := by
  induction names generalizing depth with
  | nil => rw [List.map_nil, Archive.staysInside]
  | cons text rest ih =>
    rw [List.map_cons, Archive.staysInside]
    exact ih (depth + 1)

/-- Only the wrapper itself has no place in the destination. -/
theorem Archived.inner?_eq (h : Archived wrapper node entry) : Archive.inner? entry.name
    = if node.names = [] then none else some (node.names.map .name) := by
  have henclosed : Archive.isEnclosed entry.name = true := by
    have hnul : entry.name.toList.contains '\x00' = false := by simpa using h.noNul
    rw [Archive.isEnclosed, hnul, h.path]
    exact staysInside_names 0 (wrapper :: node.names)
  rw [Archive.inner?, if_pos henclosed, h.path]
  cases node.names <;> rfl

theorem lastName?_names (names : List String) :
    FilePath.lastName? (names.map .name) = names.getLast? := by
  rw [FilePath.lastName?, List.getLast?_map]
  cases names.getLast? <;> rfl

/-! ### Placing a node -/

/-- Whatever is below a location where a node puts something is what the node puts there. -/
def Agrees (disk : Disk) (base : Location) (node : Node) : Prop :=
  ∀ names entry found, node.at? names = some entry →
    disk.get? (base ++ names) = some found → found = entry

theorem Agrees.ne_file (h : Agrees disk base node) {names : List String}
    (hnode : node.at? names = some .directory) (contents : List UInt8) :
    disk.get? (base ++ names) ≠ some (.file contents) := fun hfile => by
  cases h names .directory _ hnode hfile

theorem exists_place_directory (h : disk.Opens p destination base)
    (hp : ∀ q, q <+: node.names → p (base ++ q)) (hagrees : Agrees disk base node)
    (hkind : node.contents = none) (contents : Archive.Contents) :
    ∃ disk', place (destination ++ node.names.map .name) true contents disk = (.ok (), disk') ∧
      disk'.Opens p destination base ∧
      ∀ names, disk'.get? (base ++ names) = (node.at? names).or (disk.get? (base ++ names)) := by
  obtain ⟨disk', hmake, hopens, -, hget⟩ := h.exists_makeDirectories hp fun q hq =>
    hagrees.ne_file (by rw [Node.at?_of_directory hkind, if_pos hq])
  refine ⟨disk', ?_, hopens, fun names => ?_⟩
  · simp only [place, makeDirectories, hmake, if_true]
  · rw [hget, Node.at?_of_directory hkind]
    split <;> rfl

theorem exists_place_file (h : disk.Opens p destination base)
    (hp : ∀ q, q <+: node.names → p (base ++ q)) (hagrees : Agrees disk base node)
    {bytes : List UInt8} (hkind : node.contents = some bytes) :
    ∃ disk', place (destination ++ node.names.map .name) false { bytes } disk = (.ok (), disk') ∧
      disk'.Opens p destination base ∧
      ∀ names, disk'.get? (base ++ names) = (node.at? names).or (disk.get? (base ++ names)) := by
  obtain ⟨outer, text, hnames⟩ : ∃ outer text, node.names = outer ++ [text] := by
    have hne : node.names ≠ [] := node.named (by rw [hkind]; rfl)
    exact ⟨_, _, (List.dropLast_append_getLast hne).symm⟩
  have hput := Node.at?_of_file hkind hnames
  have hlonger {q : List String} (hq : q <+: outer) : q ≠ outer ++ [text] := fun heq => by
    have hlength := hq.length_le
    rw [heq, List.length_append, List.length_singleton] at hlength
    omega
  -- The directories around the file are made first; none of them is where the file comes.
  have hp₁ (q : List String) (hq : q <+: outer) : p (base ++ q) :=
    hp q (hnames ▸ hq.trans (List.prefix_append outer [text]))
  have hp₂ : p (base ++ outer ++ [text]) := by
    rw [List.append_assoc, ← hnames]
    exact hp node.names List.prefix_rfl
  obtain ⟨disk₁, hmake, hopens₁, hinner₁, hget₁⟩ := h.exists_makeDirectories hp₁ fun q hq =>
    hagrees.ne_file (by rw [hput, if_neg (hlonger hq), if_pos hq])
  have hnodir : disk₁.get? (base ++ outer ++ [text]) ≠ some .directory := by
    rw [List.append_assoc, hget₁, if_neg fun hq => hlonger hq rfl]
    intro hdir
    cases hagrees _ (.file bytes) _ (by rw [hput, if_pos rfl]) hdir
  obtain ⟨disk', hwrite, hclosed, hallows, hcurrent, hget⟩ :=
    hinner₁.exists_write hp₂ hnodir bytes
  refine ⟨disk', ?_, hopens₁.keep hclosed hallows hcurrent fun l hdir => ?_, fun names => ?_⟩
  · rw [hnames, List.map_append, List.map_singleton, ← List.append_assoc]
    simp only [place, makeDirectories, writeFile, Bool.false_eq_true, if_false,
      List.dropLast_concat, hmake, hwrite, Option.elim_none]
  · rw [hget, if_neg, hdir]
    rintro rfl
    exact hnodir hdir
  · simp only [hget, List.append_assoc, List.append_right_inj, hget₁, hput]
    split
    · rfl
    · split <;> rfl

/-- A node is placed where nothing is in its way, and nothing else changes in the destination. -/
theorem exists_place (h : disk.Opens p destination base)
    (hp : ∀ q, q <+: node.names → p (base ++ q)) (hagrees : Agrees disk base node)
    {contents : Archive.Contents}
    (hcontents : ∀ bytes, node.contents = some bytes → contents = { bytes }) :
    ∃ disk', place (destination ++ node.names.map .name) node.contents.isNone contents disk
        = (.ok (), disk') ∧ disk'.Opens p destination base ∧
      ∀ names, disk'.get? (base ++ names) = (node.at? names).or (disk.get? (base ++ names)) := by
  cases hkind : node.contents with
  | none => exact exists_place_directory h hp hagrees hkind contents
  | some bytes =>
    obtain rfl := hcontents bytes hkind
    exact exists_place_file h hp hagrees hkind

/-! ### Placing all of them -/

/-- A destination that holds some nodes, with the directories around them, and nothing else. -/
structure Stored (disk : Disk) (p : Location → Prop) (destination : List Component)
    (base : Location) (nodes : List Node) : Prop extends disk.Opens p destination base where
  get?_iff : ∀ names entry, disk.get? (base ++ names) = some entry ↔
    (names = [] ∧ entry = .directory) ∨ ∃ node ∈ nodes, node.at? names = some entry

/-- What is stored is not in the way of a node that is apart from it. -/
theorem Stored.agrees (h : Stored disk p destination base done)
    (hapart : ∀ other ∈ done, other.Apart node) : Agrees disk base node := by
  intro names entry found hnode hfound
  rcases (h.get?_iff names found).mp hfound with ⟨rfl, rfl⟩ | ⟨other, hmem, hother⟩
  · rw [Node.at?_nil] at hnode
    exact Option.some.inj hnode
  · exact (hapart other hmem).agree hother hnode

/-- A destination with one node more. -/
theorem Stored.concat (h : Stored disk p destination base done)
    (hapart : ∀ other ∈ done, other.Apart node) (hopens : disk'.Opens p destination base)
    (hget : ∀ names,
      disk'.get? (base ++ names) = (node.at? names).or (disk.get? (base ++ names))) :
    Stored disk' p destination base (done ++ [node]) where
  toOpens := hopens
  get?_iff names entry := by
    have hold (hfound : disk.get? (base ++ names) = some entry) :
        (node.at? names).or (disk.get? (base ++ names)) = some entry := by
      cases hnode : node.at? names with
      | none => rw [Option.none_or, hfound]
      | some entry' => rw [Option.some_or, h.agrees hapart names entry' entry hnode hfound]
    rw [hget]
    constructor
    · intro hor
      rcases Option.or_eq_some_iff.mp hor with hnode | ⟨-, hfound⟩
      · exact .inr ⟨node, List.mem_concat_self, hnode⟩
      · rcases (h.get?_iff names entry).mp hfound with hbase | ⟨other, hmem, hother⟩
        · exact .inl hbase
        · exact .inr ⟨other, List.mem_append_left _ hmem, hother⟩
    · rintro (hbase | ⟨other, hmem, hother⟩)
      · exact hold ((h.get?_iff names entry).mpr (.inl hbase))
      · rcases List.mem_append.mp hmem with hdone | hlast
        · exact hold ((h.get?_iff names entry).mpr (.inr ⟨other, hdone, hother⟩))
        · rw [← List.mem_singleton.mp hlast, hother, Option.some_or]

/-- The wrapper itself adds nothing. -/
theorem Stored.concat_wrapper (h : Stored disk p destination base done)
    (hapart : ∀ other ∈ done, other.Apart node) (hnames : node.names = []) :
    Stored disk p destination base (done ++ [node]) := by
  refine h.concat hapart h.toOpens fun names => ?_
  cases names with
  | nil =>
    rw [Node.at?_nil, List.append_nil, h.isDirectory]
    rfl
  | cons text rest =>
    have hnone : node.at? (text :: rest) = none := by
      simp [Node.at?, hnames]
    rw [hnone, Option.none_or]

/-- The entries of a corpus are unpacked one after the other, and its tests are counted. -/
theorem Stored.exists_unpackFrom (hentries : List.Forall₂ (Archived wrapper) nodes entries)
    (h : Stored disk p destination base done)
    (hp : ∀ node ∈ nodes, ∀ q, q <+: node.names → p (base ++ q))
    (hapart : (done ++ nodes).Pairwise Node.Apart) (index : Nat) :
    ∃ disk', unpackFrom destination index entries disk
        = (.ok (nodes.countP Node.isTest), disk') ∧
      Stored disk' p destination base (done ++ nodes) := by
  induction hentries generalizing disk done index with
  | nil => exact ⟨disk, rfl, by rwa [List.append_nil]⟩
  | @cons node entry nodes entries hentry _ ih =>
    have hnew : ∀ other ∈ done, other.Apart node := fun other hmem =>
      (List.pairwise_append.mp hapart).2.2 other hmem node List.mem_cons_self
    rw [List.append_cons] at hapart ⊢
    obtain ⟨hnode, hrest⟩ := List.forall_mem_cons.mp hp
    obtain ⟨contents, hread, hcontents⟩ := hentry.readable
    by_cases hnames : node.names = []
    · obtain ⟨disk', hrun, hstored⟩ := ih (h.concat_wrapper hnew hnames) hrest hapart (index + 1)
      refine ⟨disk', ?_, hstored⟩
      have hno : node.isTest = false := by simp [Node.isTest, hnames]
      simp only [unpackFrom, hread, hentry.inner?_eq, if_pos hnames, hrun, hno,
        List.countP_cons_of_neg, Bool.false_eq_true, not_false_eq_true]
    · obtain ⟨disk₁, hplace, hopens, hget⟩ :=
        exists_place h.toOpens hnode (h.agrees hnew) hcontents
      obtain ⟨disk', hrun, hstored⟩ := ih (h.concat hnew hopens hget) hrest hapart (index + 1)
      refine ⟨disk', ?_, hstored⟩
      have htest : (!node.contents.isNone && node.names.getLast?.any FilePath.isYamlName)
          = node.isTest := by
        rw [Option.not_isNone, Node.isTest]
      simp only [unpackFrom, hread, hentry.inner?_eq, if_neg hnames, hentry.kind, hplace, hrun,
        lastName?_names, htest, List.countP_cons, Except.map]
      cases node.isTest <;> simp [Nat.add_comm]

/-! ### Counting tests -/

/-- The tests of a corpus are the test documents in its destination. -/
theorem Stored.countP_isTest (h : Stored disk p destination base nodes)
    (hapart : nodes.Pairwise Node.Apart) :
    nodes.countP Node.isTest = {names : List String |
      (∃ contents, disk.get? (base ++ names) = some (.file contents)) ∧
        names.getLast?.any FilePath.isYamlName = true}.ncard := by
  have hnodup : ((nodes.filter Node.isTest).map Node.names).Nodup := by
    refine List.pairwise_map.mpr ((List.pairwise_filter.mpr ?_))
    refine hapart.imp fun {a b} hab ha _ heq => ?_
    have hfile : a.contents.isSome := by
      rw [Node.isTest, Bool.and_eq_true] at ha
      exact ha.1
    exact hab.left hfile (heq ▸ List.prefix_rfl)
  rw [List.countP_eq_length_filter, ← List.length_map Node.names,
    ← List.toFinset_card_of_nodup hnodup, ← Set.ncard_coe_finset]
  congr 1
  ext names
  simp only [List.coe_toFinset, Set.mem_ofPred_eq, List.mem_map, List.mem_filter, h.get?_iff,
    reduceCtorEq, and_false, false_or, Node.at?_eq_file_iff]
  constructor
  · rintro ⟨node, ⟨hmem, htest⟩, rfl⟩
    rw [Node.isTest, Bool.and_eq_true] at htest
    obtain ⟨bytes, hbytes⟩ := Option.isSome_iff_exists.mp htest.1
    exact ⟨⟨bytes, node, hmem, rfl, hbytes⟩, htest.2⟩
  · rintro ⟨⟨bytes, node, hmem, rfl, hbytes⟩, hyaml⟩
    refine ⟨node, ⟨hmem, ?_⟩, rfl⟩
    rw [Node.isTest, hbytes, hyaml]
    rfl

end ApiReplay.Fetch
