import ApiReplay.Proofs.Path.Pieces
import Mathlib.Data.List.Basic

/-!
# Cuts at byte offsets

A text is stored as bytes, one to four for a character, and a part of it is taken out by the byte
offsets of its ends. That fails when an offset lies inside a character, or when the ends are in the
wrong order. A single scan over the characters cuts a text into its pieces in this way: it keeps the
offset where the part being read starts and the character read last, and cuts at each dot that does
not follow a backslash.

No cut of the scan fails. Its parts are the pieces of the text, and joined by dots they are the text
again; a dot lies inside a part when a backslash stands right before it, and else between two parts.

## Main definitions

* `Path.slice?`: the part of a text between two byte offsets.
* `Path.Scan`, `Path.Scan.next?`: a scan of a text, and how it reads a character.
* `Path.split?`: the parts that a scan cuts a text into.
* `Path.DotAt`: the dots of a text, by their byte offsets.
* `Path.Scan.Reached`: what holds of a scan wherever it stands.
* `Path.SplitLaw`: what holds of the parts of a text.

## Main results

* `Path.isSome_slice?_iff`: the offsets between which there is a part.
* `Path.exists_slice?`: a part of a text can be taken out by the offsets of its ends.
* `Path.Scan.Reached.exists_next?`: a scan goes on at every character.
* `Path.exists_splitLaw`: a text is cut at its dots that do not follow a backslash.
-/

namespace ApiReplay.Path

/-! ### Parts by byte offsets -/

/-- The part of a text from one byte offset to another. There is none when an offset is not a
boundary of characters, or when the second is smaller than the first. -/
def slice? (text : String) (start stop : String.Pos.Raw) : Option String.Slice := do
  let first ← text.pos? start
  let last ← text.pos? stop
  text.slice? first last

/-- A slice is the part of a text that stands right behind `before`. -/
structure IsPart (text before part : String) (slice : String.Slice) : Prop where
  str_eq : slice.str = text
  start_eq : slice.startInclusive.offset = before.rawEndPos
  stop_eq : slice.endExclusive.offset = (before ++ part).rawEndPos
  copy_eq : slice.copy = part

theorem pos?_eq_some_iff {text : String} {offset : String.Pos.Raw} {p : text.Pos} :
    text.pos? offset = some p ↔ p.offset = offset := by
  rw [String.pos?, String.Slice.pos?]
  constructor
  · intro h
    split at h
    · obtain rfl := Option.some.inj h
      rfl
    · cases h
  · rintro rfl
    have hvalid : p.offset.isValidForSlice text.toSlice = true := by
      rw [String.Pos.Raw.isValidForSlice_eq_true_iff, String.Pos.Raw.isValidForSlice_toSlice_iff]
      exact p.isValid
    rw [dif_pos hvalid]
    rfl

/-- Between two positions of a text there is a part when they are in order. -/
theorem slice?_offset {text : String} (first last : text.Pos) :
    slice? text first.offset last.offset = text.slice? first last := by
  rw [slice?, pos?_eq_some_iff.mpr rfl, pos?_eq_some_iff.mpr rfl]
  rfl

/-- Between two offsets there is a part just when both are boundaries, in order. -/
theorem isSome_slice?_iff {text : String} {start stop : String.Pos.Raw} :
    (slice? text start stop).isSome ↔
      start.IsValid text ∧ stop.IsValid text ∧ start ≤ stop := by
  constructor
  · intro h
    obtain ⟨slice, hslice⟩ := Option.isSome_iff_exists.mp h
    obtain ⟨first, hfirst, hrest⟩ := Option.bind_eq_some_iff.mp hslice
    obtain ⟨last, hlast, hcut⟩ := Option.bind_eq_some_iff.mp hrest
    obtain rfl := pos?_eq_some_iff.mp hfirst
    obtain rfl := pos?_eq_some_iff.mp hlast
    rw [String.slice?, Option.dite_none_right_eq_some] at hcut
    exact ⟨first.isValid, last.isValid, hcut.1⟩
  · rintro ⟨hstart, hstop, hle⟩
    have hslice := slice?_offset (text.pos start hstart) (text.pos stop hstop)
    rw [String.offset_pos, String.offset_pos] at hslice
    have hpos : text.pos start hstart ≤ text.pos stop hstop := hle
    rw [hslice, String.slice?, dif_pos hpos]
    rfl

/-- An offset inside a character. -/
example : slice? "é" 0 ⟨1⟩ = none := by
  decide

/-- A text has a boundary behind each of its beginnings. -/
theorem exists_splits {text before after : String} (h : text = before ++ after) :
    ∃ p : text.Pos, p.Splits before after :=
  ⟨text.pos before.rawEndPos
    (String.Pos.Raw.isValid_iff_exists_append.mpr ⟨before, after, h, rfl⟩), h, String.offset_pos⟩

/-- A part of a text can be taken out between the boundaries at its ends. -/
theorem exists_slice? {text before part after : String} (h : text = before ++ part ++ after) :
    ∃ slice, slice? text before.rawEndPos (before ++ part).rawEndPos = some slice ∧
      IsPart text before part slice := by
  obtain ⟨first, hfirst⟩ : ∃ p : text.Pos, p.Splits before (part ++ after) :=
    exists_splits (by rw [h, String.append_assoc])
  obtain ⟨last, hlast⟩ := exists_splits h
  obtain ⟨hle, hcopy⟩ := String.copy_slice_eq_iff_splits.mpr ⟨before, after, hfirst, hlast⟩
  refine ⟨text.slice first last hle, ?_, rfl, ?_, ?_, hcopy⟩
  · rw [← hfirst.offset_eq_rawEndPos, ← hlast.offset_eq_rawEndPos, slice?_offset]
    exact dif_pos hle
  · rw [String.startInclusive_slice, hfirst.offset_eq_rawEndPos]
  · rw [String.endExclusive_slice, hlast.offset_eq_rawEndPos]

/-! ### The scan -/

/-- A scan of a text that has read some of its characters. -/
structure Scan where
  /-- The parts that are cut off. -/
  parts : List String.Slice
  /-- Where the next part starts. -/
  start : String.Pos.Raw
  /-- Where the next character starts. -/
  offset : String.Pos.Raw
  /-- The character that was read last. -/
  previous : Option Char

namespace Scan

/-- A scan that has read nothing. -/
def initial : Scan where
  parts := []
  start := 0
  offset := 0
  previous := none

/-- Reads the next character; fails when a part cannot be cut off. -/
def next? (text : String) (scan : Scan) (c : Char) : Option Scan :=
  if c = '.' ∧ scan.previous ≠ some '\\' then do
    let part ← slice? text scan.start scan.offset
    return {
      parts := scan.parts ++ [part]
      start := scan.offset.inc
      offset := scan.offset + c
      previous := some c }
  else
    return { scan with offset := scan.offset + c, previous := some c }

end Scan

/-- The parts of a text between its dots, other than dots right behind a backslash. -/
def split? (text : String) : Option (List String.Slice) := do
  let scan ← text.toList.foldlM (Scan.next? text) .initial
  let last ← slice? text scan.start text.rawEndPos
  return scan.parts ++ [last]

/-! ### Dots -/

/-- A dot stands at an offset of a text; `escaped` tells whether the character right before it is a
backslash. -/
def DotAt (text : String) (offset : String.Pos.Raw) (escaped : Bool) : Prop :=
  ∃ before after, text = before ++ "." ++ after ∧ offset = before.rawEndPos ∧
    escaped = (before.toList.getLast? = some '\\' : Bool)

/-- The byte at an offset lies inside a part. -/
def Holds (part : String.Slice) (offset : String.Pos.Raw) : Prop :=
  part.startInclusive.offset ≤ offset ∧ offset < part.endExclusive.offset

/-- The byte at an offset lies between two parts: one ends right before it, and one starts right
behind it. -/
def IsCut (parts : List String.Slice) (offset : String.Pos.Raw) : Prop :=
  offset ∈ parts.map (·.endExclusive.offset) ∧ offset.inc ∈ parts.map (·.startInclusive.offset)

section

variable {text front : String} {c : Char} {offset : String.Pos.Raw} {escaped : Bool}
  {parts : List String.Slice} {slice : String.Slice}

theorem exists_holds_concat_iff : (∃ part ∈ parts ++ [slice], Holds part offset) ↔
    (∃ part ∈ parts, Holds part offset) ∨ Holds slice offset := by
  simp only [List.mem_append, List.mem_singleton, or_and_right, exists_or, exists_eq_left]

theorem dotAt_iff_exists : DotAt text offset escaped ↔
    ∃ before : String, before.toList ++ ['.'] <+: text.toList ∧ offset = before.rawEndPos ∧
      escaped = (before.toList.getLast? = some '\\' : Bool) := by
  constructor
  · rintro ⟨before, after, rfl, hoffset, hescaped⟩
    refine ⟨before, ⟨after.toList, ?_⟩, hoffset, hescaped⟩
    rw [String.toList_append, String.toList_append]
    rfl
  · rintro ⟨before, ⟨after, htext⟩, hoffset, hescaped⟩
    refine ⟨before, String.ofList after, ?_, hoffset, hescaped⟩
    rw [← String.toList_inj, ← htext, String.toList_append, String.toList_append,
      String.toList_ofList, String.toList_ofList]

/-- The dots of a text with a character behind it. -/
theorem dotAt_push : DotAt (front.push c) offset escaped ↔ DotAt front offset escaped ∨
    c = '.' ∧ offset = front.rawEndPos ∧
      escaped = (front.toList.getLast? = some '\\' : Bool) := by
  rw [dotAt_iff_exists, dotAt_iff_exists, String.toList_push]
  constructor
  · rintro ⟨before, hprefix, hoffset, hescaped⟩
    rcases List.prefix_concat_iff.mp hprefix with heq | hfront
    · obtain ⟨hbefore, hc⟩ := List.append_inj' heq rfl
      obtain rfl := String.toList_inj.mp hbefore
      exact .inr ⟨(List.singleton_inj.mp hc).symm, hoffset, hescaped⟩
    · exact .inl ⟨before, hfront, hoffset, hescaped⟩
  · rintro (⟨before, hprefix, hoffset, hescaped⟩ | ⟨rfl, hoffset, hescaped⟩)
    · exact ⟨before, List.prefix_concat_iff.mpr (.inr hprefix), hoffset, hescaped⟩
    · exact ⟨front, List.prefix_rfl, hoffset, hescaped⟩

theorem DotAt.lt (h : DotAt text offset escaped) : offset < text.rawEndPos := by
  obtain ⟨before, after, rfl, rfl, -⟩ := h
  have hdot : ".".utf8ByteSize = 1 := rfl
  rw [String.Pos.Raw.lt_iff, String.byteIdx_rawEndPos, String.byteIdx_rawEndPos,
    String.utf8ByteSize_append, String.utf8ByteSize_append, hdot]
  omega

end

/-! ### Characters behind a text -/

theorem append_push (before part : String) (c : Char) :
    before ++ part.push c = (before ++ part).push c := by
  rw [← String.append_singleton, ← String.append_assoc, String.append_singleton]

theorem push_append_ofList (front : String) (c : Char) (rest : List Char) :
    front.push c ++ String.ofList rest = front ++ String.ofList (c :: rest) := by
  rw [← String.append_singleton, String.append_assoc, ← String.ofList_cons]

/-- A dot has one byte. -/
theorem inc_rawEndPos (front : String) : front.rawEndPos.inc = (front.push '.').rawEndPos := by
  rw [String.rawEndPos_push, String.Pos.Raw.add_char_eq]
  rfl

theorem rawEndPos_le_append (before part : String) :
    before.rawEndPos ≤ (before ++ part).rawEndPos := by
  rw [String.Pos.Raw.le_iff, String.byteIdx_rawEndPos, String.byteIdx_rawEndPos,
    String.utf8ByteSize_append]
  exact Nat.le_add_right _ _

/-! ### What a scan has read -/

namespace Scan

variable {text before part : String} {rest more : List Char} {scan : Scan} {c : Char}
  {slice : String.Slice} {offset : String.Pos.Raw} {escaped : Bool}

/-- A scan of a text has cut off what is read up to the end of `before`, behind that it has read
`part`, and `rest` is left. -/
structure Reached (text before part : String) (rest : List Char) (scan : Scan) : Prop where
  text_eq : text = before ++ part ++ String.ofList rest
  start_eq : scan.start = before.rawEndPos
  offset_eq : scan.offset = (before ++ part).rawEndPos
  previous_eq : scan.previous = (before ++ part).toList.getLast?
  str_eq : ∀ slice ∈ scan.parts, slice.str = text
  stop_le : ∀ slice ∈ scan.parts, slice.endExclusive.offset ≤ (before ++ part).rawEndPos
  /-- The next piece starts with `part`. -/
  pieces_eq : pieces text.toList = scan.parts.map (·.copy.toList) ++
    (piecesAfter (scan.previous = some '\\') rest).modifyHead (part.toList ++ ·)
  /-- The dots right behind a backslash lie in the parts that are cut off or behind the last cut. -/
  kept_iff : ∀ offset escaped, DotAt (before ++ part) offset escaped →
    ((∃ slice ∈ scan.parts, Holds slice offset) ∨ scan.start ≤ offset ↔ escaped = true)
  /-- The other dots are the cuts. -/
  cut_iff : ∀ offset, offset ∈ scan.parts.map (·.endExclusive.offset) ∧
      offset.inc ∈ scan.parts.map (·.startInclusive.offset) ++ [scan.start] ↔
    DotAt (before ++ part) offset false

theorem reached_initial (text : String) : Reached text "" "" text.toList initial := by
  have hdot : ∀ offset escaped, ¬ DotAt ("" ++ "") offset escaped :=
    fun offset escaped h => Nat.not_lt_zero _ h.lt
  constructor
  case text_eq => rw [String.ofList_toList, String.append_empty, String.empty_append]
  case start_eq => rfl
  case offset_eq => rfl
  case previous_eq => rfl
  case str_eq => exact List.forall_mem_nil _
  case stop_le => exact List.forall_mem_nil _
  case pieces_eq => exact (congrFun List.modifyHead_id _).symm
  case kept_iff => exact fun offset escaped h => absurd h (hdot offset escaped)
  case cut_iff =>
    exact fun offset => iff_of_false (fun h => List.not_mem_nil h.1) (hdot offset false)

/-- What is read behind the last cut can be cut off. -/
theorem Reached.exists_slice? (h : Reached text before part rest scan) :
    ∃ slice, slice? text scan.start scan.offset = some slice ∧ IsPart text before part slice := by
  rw [h.start_eq, h.offset_eq]
  exact Path.exists_slice? h.text_eq

/-- With what is read behind the last cut as one more part, the dots inside parts are those right
behind a backslash. -/
theorem Reached.holds_iff (h : Reached text before part rest scan)
    (hslice : IsPart text before part slice) (hdot : DotAt (before ++ part) offset escaped) :
    (∃ other ∈ scan.parts ++ [slice], Holds other offset) ↔ escaped = true := by
  rw [exists_holds_concat_iff, ← h.kept_iff offset escaped hdot, Holds, hslice.start_eq,
    hslice.stop_eq, and_iff_left hdot.lt, h.start_eq]

/-- The character to be read next lies in no part. -/
theorem Reached.not_holds (h : Reached text before part rest scan)
    (hslice : IsPart text before part slice) :
    ¬ ∃ other ∈ scan.parts ++ [slice], Holds other scan.offset := by
  rw [exists_holds_concat_iff, h.offset_eq]
  rintro (⟨other, hother, -, hlt⟩ | ⟨-, hlt⟩)
  · exact Nat.not_lt_of_le (h.stop_le other hother) hlt
  · exact Nat.lt_irrefl _ (hslice.stop_eq ▸ hlt)

/-- The offsets of a scan are boundaries. -/
theorem Reached.isValid (h : Reached text before part rest scan) :
    scan.start.IsValid text ∧ scan.offset.IsValid text := by
  obtain ⟨slice, hslice, -⟩ := h.exists_slice?
  obtain ⟨hstart, hoffset, -⟩ := isSome_slice?_iff.mp (Option.isSome_of_eq_some hslice)
  exact ⟨hstart, hoffset⟩

/-- A dot that does not follow a backslash is a cut. -/
theorem Reached.cut (h : Reached text before part ('.' :: rest) scan)
    (hprevious : scan.previous ≠ some '\\') (hslice : IsPart text before part slice) :
    Reached text ((before ++ part).push '.') "" rest {
      parts := scan.parts ++ [slice]
      start := scan.offset.inc
      offset := scan.offset + '.'
      previous := some '.' } := by
  have hstop : slice.endExclusive.offset = scan.offset := by rw [hslice.stop_eq, h.offset_eq]
  have hstart : slice.startInclusive.offset = scan.start := by rw [hslice.start_eq, h.start_eq]
  constructor
  case text_eq => rw [String.append_empty, push_append_ofList, h.text_eq]
  case start_eq => rw [h.offset_eq, inc_rawEndPos]
  case offset_eq => rw [h.offset_eq, String.append_empty, String.rawEndPos_push]
  case previous_eq => rw [String.append_empty, String.toList_push, List.getLast?_concat]
  case str_eq =>
    exact List.forall_mem_append.mpr ⟨h.str_eq, List.forall_mem_singleton.mpr hslice.str_eq⟩
  case stop_le =>
    have hle : (before ++ part).rawEndPos ≤ ((before ++ part).push '.').rawEndPos := by
      rw [← String.append_singleton]
      exact rawEndPos_le_append _ _
    rw [String.append_empty]
    refine List.forall_mem_append.mpr ⟨fun other hother => ?_, List.forall_mem_singleton.mpr ?_⟩
    · exact String.Pos.Raw.le_trans (h.stop_le other hother) hle
    · rwa [hslice.stop_eq]
  case pieces_eq =>
    have hcut : piecesAfter (scan.previous = some '\\') ('.' :: rest)
        = [] :: piecesAfter false rest :=
      if_pos ⟨rfl, decide_eq_false hprevious⟩
    rw [h.pieces_eq, hcut, List.modifyHead_cons, List.append_nil, List.map_append,
      List.map_singleton, hslice.copy_eq, List.append_assoc, List.singleton_append]
    exact congrArg (_ ++ part.toList :: ·) (congrFun List.modifyHead_id _).symm
  case kept_iff =>
    intro offset escaped hdot
    rw [String.append_empty, dotAt_push, ← h.offset_eq, ← h.previous_eq] at hdot
    rcases hdot with hdot | ⟨-, rfl, rfl⟩
    · have hlt : offset < scan.offset := h.offset_eq ▸ hdot.lt
      have hbehind : ¬ scan.offset.inc ≤ offset := Nat.not_le_of_lt (Nat.lt_succ_of_lt hlt)
      rw [or_iff_left hbehind, h.holds_iff hslice hdot]
    · -- The dot itself lies between the new part and what is read behind it.
      have hbehind : ¬ scan.offset.inc ≤ scan.offset := Nat.not_succ_le_self _
      rw [or_iff_left hbehind]
      exact iff_of_false (h.not_holds hslice) (by simpa using hprevious)
  case cut_iff =>
    intro offset
    have hinj : offset.inc = scan.offset.inc ↔ offset = scan.offset := by
      simp [String.Pos.Raw.ext_iff]
    rw [String.append_empty, dotAt_push, ← h.cut_iff, ← h.offset_eq, ← h.previous_eq]
    simp only [List.map_append, List.map_singleton, List.mem_append, List.mem_singleton, hstart,
      hstop, hinj]
    by_cases heq : offset = scan.offset
    · simp [heq, hprevious]
    · simp [heq]

/-- A character that is no cut goes to the next part. -/
theorem Reached.keep (h : Reached text before part (c :: rest) scan)
    (hkeep : c = '.' → scan.previous = some '\\') :
    Reached text before (part.push c) rest
      { scan with offset := scan.offset + c, previous := some c } := by
  have hpush := append_push before part c
  constructor
  case text_eq => rw [hpush, push_append_ofList, h.text_eq]
  case start_eq => exact h.start_eq
  case offset_eq => rw [h.offset_eq, hpush, String.rawEndPos_push]
  case previous_eq => rw [hpush, String.toList_push, List.getLast?_concat]
  case str_eq => exact h.str_eq
  case stop_le =>
    intro other hother
    rw [hpush, ← String.append_singleton]
    exact String.Pos.Raw.le_trans (h.stop_le other hother) (rawEndPos_le_append _ _)
  case pieces_eq =>
    have hpiece : piecesAfter (scan.previous = some '\\') (c :: rest)
        = (piecesAfter (some c = some '\\') rest).modifyHead (c :: ·) := by
      rw [piecesAfter, if_neg fun hcut => of_decide_eq_false hcut.2 (hkeep hcut.1)]
      simp only [Option.some.injEq]
    have happend : (part.toList ++ ·) ∘ (c :: ·) = ((part.push c).toList ++ ·) := by
      funext piece
      rw [Function.comp_apply, String.toList_push, List.append_assoc, List.singleton_append]
    rw [h.pieces_eq, hpiece, List.modifyHead_modifyHead, happend]
  case kept_iff =>
    intro offset escaped hdot
    rw [hpush, dotAt_push, ← h.offset_eq, ← h.previous_eq] at hdot
    rcases hdot with hdot | ⟨hc, rfl, rfl⟩
    · exact h.kept_iff offset escaped hdot
    · have hstart : scan.start ≤ scan.offset := by
        rw [h.start_eq, h.offset_eq]
        exact rawEndPos_le_append before part
      exact iff_of_true (.inr hstart) (decide_eq_true (hkeep hc))
  case cut_iff =>
    intro offset
    rw [h.cut_iff, hpush, dotAt_push, ← h.previous_eq, or_iff_left]
    rintro ⟨hc, -, hescaped⟩
    rw [hkeep hc] at hescaped
    exact absurd hescaped (by decide)

/-- A scan goes on at every character. -/
theorem Reached.exists_next? (h : Reached text before part (c :: rest) scan) :
    ∃ next before' part', scan.next? text c = some next ∧
      before' ++ part' = (before ++ part).push c ∧ Reached text before' part' rest next := by
  rw [next?]
  split
  case isTrue hcut =>
    obtain ⟨rfl, hprevious⟩ := hcut
    obtain ⟨slice, hslice, hpart⟩ := h.exists_slice?
    rw [hslice]
    exact ⟨_, _, _, rfl, String.append_empty, h.cut hprevious hpart⟩
  case isFalse hkeep =>
    have hprevious : c = '.' → scan.previous = some '\\' :=
      fun hc => not_not.mp fun hne => hkeep ⟨hc, hne⟩
    exact ⟨_, before, part.push c, rfl, append_push before part c, h.keep hprevious⟩

/-- A scan reads everything that is left. -/
theorem Reached.exists_foldlM (h : Reached text before part (more ++ rest) scan) :
    ∃ next before' part', more.foldlM (next? text) scan = some next ∧
      before' ++ part' = before ++ part ++ String.ofList more ∧
      Reached text before' part' rest next := by
  induction more generalizing before part scan with
  | nil => exact ⟨scan, before, part, rfl, String.append_empty.symm, h⟩
  | cons c more ih =>
    obtain ⟨next, before', part', hnext, hfront, hreached⟩ := h.exists_next?
    obtain ⟨last, before'', part'', hlast, hfront', hreached'⟩ := ih hreached
    refine ⟨last, before'', part'', ?_, ?_, hreached'⟩
    · rw [List.foldlM_cons, hnext]
      exact hlast
    · rw [hfront', hfront, push_append_ofList]

end Scan

/-! ### The parts of a text -/

/-- What holds of the parts of a text. -/
structure SplitLaw (text : String) (parts : List String.Slice) : Prop where
  /-- The parts are taken out of the text, between boundaries of characters. -/
  boundary : ∀ part ∈ parts, part.str = text ∧ part.startInclusive.offset.IsValid text ∧
    part.endExclusive.offset.IsValid text
  /-- They are the pieces of the text. -/
  pieces_eq : parts.map (·.copy.toList) = pieces text.toList
  joined : ".".intercalate (parts.map String.Slice.copy) = text
  /-- A dot lies inside a part just when the character right before it is a backslash. -/
  kept_iff : ∀ offset escaped, DotAt text offset escaped →
    ((∃ part ∈ parts, Holds part offset) ↔ escaped = true)
  /-- The text is cut just at its other dots. -/
  cut_iff : ∀ offset, IsCut parts offset ↔ DotAt text offset false

section

variable {text before part : String} {scan : Scan} {slice : String.Slice}

theorem Scan.Reached.text_eq_append (h : Reached text before part [] scan) :
    text = before ++ part := by
  rw [h.text_eq, String.ofList_nil, String.append_empty]

/-- The law of the parts holds at the end of a scan. -/
theorem Scan.Reached.splitLaw (h : Reached text before part [] scan)
    (hslice : IsPart text before part slice) : SplitLaw text (scan.parts ++ [slice]) := by
  have htext := h.text_eq_append
  have hpieces : (scan.parts ++ [slice]).map (·.copy.toList) = pieces text.toList := by
    rw [h.pieces_eq, List.map_append, List.map_singleton, hslice.copy_eq, piecesAfter,
      List.modifyHead_cons, List.append_nil]
  have hboundary : ∀ part ∈ scan.parts ++ [slice], part.str = text ∧
      part.startInclusive.offset.IsValid text ∧ part.endExclusive.offset.IsValid text := by
    intro part hpart
    have hstr : part.str = text :=
      List.forall_mem_append.mpr ⟨h.str_eq, List.forall_mem_singleton.mpr hslice.str_eq⟩ part hpart
    exact hstr ▸ ⟨rfl, part.startInclusive.isValid, part.endExclusive.isValid⟩
  constructor
  case boundary => exact hboundary
  case pieces_eq => exact hpieces
  case joined =>
    have hjoined := intercalate_pieces text.toList
    rw [← hpieces] at hjoined
    rw [← String.toList_inj, String.toList_intercalate, List.map_map]
    exact hjoined
  case kept_iff =>
    intro offset escaped hdot
    exact h.holds_iff hslice (htext ▸ hdot)
  case cut_iff =>
    intro offset
    have hstarts : (scan.parts ++ [slice]).map (·.startInclusive.offset)
        = scan.parts.map (·.startInclusive.offset) ++ [scan.start] := by
      rw [List.map_append, List.map_singleton, hslice.start_eq, h.start_eq]
    -- The part at the end is no cut, since no part starts behind the end.
    have hne : offset.inc ∈ (scan.parts ++ [slice]).map (·.startInclusive.offset) →
        offset ≠ slice.endExclusive.offset := by
      rintro hstart rfl
      obtain ⟨other, hother, heq⟩ := List.mem_map.mp hstart
      have hle := (hboundary other hother).2.1.le_rawEndPos
      rw [heq, hslice.stop_eq, htext] at hle
      exact Nat.not_succ_le_self _ hle
    rw [htext, ← h.cut_iff, ← hstarts]
    refine and_congr_left fun hstart => ?_
    rw [List.map_append, List.map_singleton, List.mem_append, List.mem_singleton,
      or_iff_left (hne hstart)]

end

/-- **A text is cut at its dots that do not follow a backslash, and no cut fails.** However much of a
text is read, the scan stands right behind it and knows its last character, and both offsets of the
scan are boundaries of characters. At the end the scan yields parts between such boundaries: they
are the pieces of the text, joined by dots they are the text, a dot lies inside a part just when the
character right before it is a backslash, and the other dots, and nothing else, lie between two
parts. -/
theorem exists_splitLaw (text : String) :
    (∀ n, ∃ scan, (text.toList.take n).foldlM (Scan.next? text) .initial = some scan ∧
      scan.offset = (String.ofList (text.toList.take n)).rawEndPos ∧
      scan.previous = (text.toList.take n).getLast? ∧
      scan.start.IsValid text ∧ scan.offset.IsValid text) ∧
    ∃ parts, split? text = some parts ∧ SplitLaw text parts := by
  constructor
  · intro n
    have hinitial := Scan.reached_initial text
    rw [← List.take_append_drop n text.toList] at hinitial
    obtain ⟨scan, before, part, hscan, hfront, hreached⟩ := hinitial.exists_foldlM
    rw [String.append_empty, String.empty_append] at hfront
    refine ⟨scan, hscan, ?_, ?_, hreached.isValid⟩
    · rw [hreached.offset_eq, hfront]
    · rw [hreached.previous_eq, hfront, String.toList_ofList]
  · have hinitial := Scan.reached_initial text
    rw [← List.append_nil text.toList] at hinitial
    obtain ⟨scan, before, part, hscan, -, hreached⟩ := hinitial.exists_foldlM
    obtain ⟨last, hlast, hpart⟩ := hreached.exists_slice?
    rw [hreached.offset_eq, ← hreached.text_eq_append] at hlast
    refine ⟨scan.parts ++ [last], ?_, hreached.splitLaw hpart⟩
    exact Option.bind_eq_some_iff.mpr
      ⟨scan, hscan, Option.bind_eq_some_iff.mpr ⟨last, hlast, rfl⟩⟩

/-- Dots at both ends, and one right behind a backslash. -/
example : (split? ".é\\.b..").map (·.map String.Slice.copy) = some ["", "é\\.b", "", ""] := by
  decide +kernel

end ApiReplay.Path
