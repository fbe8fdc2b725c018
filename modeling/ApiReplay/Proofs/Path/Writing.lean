import ApiReplay.Proofs.Path.Pieces

/-!
# Writing segments

A segment is written as a piece: a key with a backslash before every dot, an index in decimal, a
variable behind a dollar sign. Read back, the piece is that segment, provided that the segment can
be written at all; a key with a backslash and a variable with a dot in its name cannot, for example.
Written segments joined by dots are read back one by one wherever they stand behind a dot. Only at
the start of an expression `$body` is not read as a variable.

## Main definitions

* `Path.segmentsOf`: the segments that a text stands for behind a dot.
* `Path.Segment.chars`, `Path.written`: a segment and a list of segments as they are written.
* `Path.Segment.IsWritable`: the segments that can be written.

## Main results

* `Path.parse_append_dot`: the segments of an expression, behind its first piece.
* `Path.segmentsOf_written`: written segments are read back.
-/

namespace ApiReplay.Path

/-! ### Segments behind a dot -/

/-- The segments that a text stands for when it follows a dot of an expression. -/
def segmentsOf (text : List Char) : List Segment :=
  ((pieces text).filter (· ≠ [])).map Segment.ofPiece

/-- The first piece of an expression is one segment, and what follows its dot is read on its own. -/
theorem parse_append_dot {first : List Char} (h : IsWhole first) (hbody : first ≠ bodyPiece)
    (rest : List Char) :
    parse (String.ofList (first ++ '.' :: rest)) = Segment.ofPiece first :: segmentsOf rest := by
  have hpieces : pieces (first ++ '.' :: rest) = first :: pieces rest := by
    rw [pieces, piecesAfter_append_dot h.escapedAfter_eq, ← pieces, h.pieces_eq,
      List.singleton_append]
  have hproper : properPieces (first ++ '.' :: rest)
      = first :: (pieces rest).filter (· ≠ []) := by
    rw [properPieces, hpieces, List.filter_cons_of_pos (by simpa using h.ne_nil)]
    exact if_neg hbody
  rw [parse, String.toList_ofList, hproper]
  rfl

/-! ### Texts without dots -/

theorem piecesAfter_eq_singleton {text : List Char} (h : '.' ∉ text) (escaped : Bool) :
    piecesAfter escaped text = [text] := by
  induction text generalizing escaped with
  | nil => rfl
  | cons c rest ih =>
    rw [List.mem_cons, not_or] at h
    rw [piecesAfter, if_neg fun hcut => h.1 hcut.1.symm, ih h.2]
    rfl

/-- A backslash stands right before what follows a text when the text ends in one. -/
theorem escapedAfter_concat (escaped : Bool) (text : List Char) (c : Char) :
    escapedAfter escaped (text ++ [c]) = (c = '\\' : Bool) := by
  induction text generalizing escaped with
  | nil => rfl
  | cons d rest ih => exact ih _

/-- A text without dots that does not end in a backslash is read back as one piece. -/
theorem isWhole_of_not_mem {text : List Char} (hne : text ≠ []) (hdot : '.' ∉ text)
    (hlast : text.getLast? ≠ some '\\') : IsWhole text where
  ne_nil := hne
  pieces_eq := piecesAfter_eq_singleton hdot false
  escapedAfter_eq := by
    obtain ⟨front, c, rfl⟩ := (List.eq_nil_or_concat text).resolve_left hne
    rw [List.concat_eq_append, escapedAfter_concat]
    simpa using hlast

/-! ### Written segments -/

namespace Segment

/-- A segment as it is written. -/
def chars : Segment → List Char
  | key name => escapeDots name.toList
  | index i => intChars i
  | «variable» name => '$' :: name.toList

/-- The segments that can be written. A key has at least one character and no backslash, is no
reference to a variable and does not read as an index; an index has 64 bits; the name of a variable
has at least one character and no dots, and does not end in a backslash. -/
def IsWritable : Segment → Prop
  | key name => name.toList ≠ [] ∧ '\\' ∉ name.toList ∧ name.toList.head? ≠ some '$' ∧
      index? name.toList = none
  | index i => Integer.isSigned 64 i
  | «variable» name => name.toList ≠ [] ∧ '.' ∉ name.toList ∧ name.toList.getLast? ≠ some '\\'

variable {segment : Segment}

/-- A written segment is one piece. -/
theorem IsWritable.isWhole (h : segment.IsWritable) : IsWhole segment.chars := by
  cases segment with
  | key name => exact isWhole_escapeDots h.1 h.2.1
  | index i => exact isWhole_intChars i
  | «variable» name =>
    obtain ⟨hne, hdot, hlast⟩ := h
    obtain ⟨c, rest, hname⟩ := List.exists_cons_of_ne_nil hne
    refine isWhole_of_not_mem (List.cons_ne_nil _ _) (by simpa [chars] using hdot) ?_
    rwa [chars, hname, List.getLast?_cons_cons, ← hname]

/-- A dollar sign with a name behind it is a variable. -/
theorem ofPiece_variable {name : String} (h : name.toList ≠ []) :
    ofPiece ('$' :: name.toList) = .variable name := by
  have hindex : index? ('$' :: name.toList) = none :=
    index?_eq_none_of_mem List.mem_cons_self (by decide) (by decide)
  obtain ⟨c, rest, hname⟩ := List.exists_cons_of_ne_nil h
  unfold ofPiece
  rw [hindex, hname]
  change Segment.variable (String.ofList (c :: rest)) = _
  rw [← hname, String.ofList_toList]

/-- A written segment is read back. -/
theorem ofPiece_chars (h : segment.IsWritable) : ofPiece segment.chars = segment := by
  cases segment with
  | key name =>
    obtain ⟨-, hback, hdollar, hindex⟩ := h
    rw [chars, ofPiece_escapeDots hback hdollar, hindex, Option.elim_none, String.ofList_toList]
  | index i => exact ofPiece_intChars h
  | «variable» name => exact ofPiece_variable h.1

end Segment

section

variable {segments : List Segment}

/-- Every written segment is one piece. -/
theorem isWhole_of_mem_map_chars (h : ∀ segment ∈ segments, segment.IsWritable) :
    ∀ text ∈ segments.map Segment.chars, IsWhole text := by
  intro text htext
  obtain ⟨segment, hsegment, rfl⟩ := List.mem_map.mp htext
  exact (h segment hsegment).isWhole

/-- Written segments are read back one by one. -/
theorem map_ofPiece_map_chars (h : ∀ segment ∈ segments, segment.IsWritable) :
    (segments.map Segment.chars).map Segment.ofPiece = segments := by
  rw [List.map_map]
  exact (List.map_congr_left fun s hs => Segment.ofPiece_chars (h s hs)).trans (List.map_id _)

/-- Segments as they are written, with dots between them. -/
def written (segments : List Segment) : List Char :=
  List.intercalate ['.'] (segments.map Segment.chars)

/-- Written segments are read back. -/
theorem segmentsOf_written (h : ∀ segment ∈ segments, segment.IsWritable) :
    segmentsOf (written segments) = segments := by
  rw [segmentsOf, written, filter_pieces_intercalate (isWhole_of_mem_map_chars h),
    map_ofPiece_map_chars h]

end

end ApiReplay.Path
