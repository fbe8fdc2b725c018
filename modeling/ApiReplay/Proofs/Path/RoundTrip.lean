import ApiReplay.Proofs.Path.Writing

/-!
# Reading segments back

Segments are written as pieces with dots around them: between two of them there is at least one dot,
and there may be any number in front and behind. A piece `$body` may lead. Read back, such an
expression has just these segments. Without the leading piece the first segment must not be the
variable `body`, which at that place names the start of the walk.

## Main definitions

* `Path.IsWriting`: the expressions that segments are written as.

## Main results

* `Path.Dotted.properPieces`, `Path.Dotted.properPieces_body`: the pieces of such an expression.
* `Path.isWriting_body_written`: segments with single dots between them, behind `$body`.
* `Path.parse_of_isWriting`: the segments are read back.
-/

namespace ApiReplay.Path

variable {segments : List Segment} {texts : List (List Char)} {text : List Char} {expr : String}

/-! ### Pieces -/

/-- Every piece counts when the first is not `$body`. -/
theorem Dotted.properPieces (h : Dotted texts text) (hwhole : ∀ piece ∈ texts, IsWhole piece)
    (hbody : texts.head? ≠ some bodyPiece) : properPieces text = texts := by
  rw [Path.properPieces, h.filter_pieces hwhole]
  cases texts with
  | nil => rfl
  | cons first rest => exact if_neg fun heq => hbody (congrArg some heq)

/-- A leading `$body` does not count. -/
theorem Dotted.properPieces_body (h : Dotted (bodyPiece :: texts) text)
    (hwhole : ∀ piece ∈ texts, IsWhole piece) : Path.properPieces text = texts := by
  rw [Path.properPieces,
    h.filter_pieces (List.forall_mem_cons.mpr ⟨isWhole_bodyPiece, hwhole⟩)]
  exact if_pos rfl

/-! ### Expressions -/

/-- The expressions that segments are written as: the segments in order, with dots between, in front
and behind, and maybe `$body` before the first. -/
inductive IsWriting (segments : List Segment) (expr : String) : Prop
  | plain (hfirst : segments.head? ≠ some (.variable "body"))
      (h : Dotted (segments.map Segment.chars) expr.toList) : IsWriting segments expr
  | body (h : Dotted (bodyPiece :: segments.map Segment.chars) expr.toList) :
      IsWriting segments expr

/-- Segments are written with single dots between them, behind `$body`. -/
theorem isWriting_body_written (segments : List Segment) :
    IsWriting segments (String.ofList (bodyPiece ++ '.' :: written segments)) := by
  refine .body ?_
  rw [String.toList_ofList]
  exact .cons bodyPiece (dotted_intercalate _)

/-- Only the variable `body` is written as `$body`. -/
theorem Segment.IsWritable.chars_ne_bodyPiece {segment : Segment} (h : segment.IsWritable)
    (hne : segment ≠ .variable "body") : segment.chars ≠ bodyPiece := by
  intro heq
  have hread : Segment.ofPiece bodyPiece = .variable "body" := rfl
  exact hne (by rw [← Segment.ofPiece_chars h, heq, hread])

theorem head?_map_chars_ne (h : ∀ segment ∈ segments, segment.IsWritable)
    (hfirst : segments.head? ≠ some (.variable "body")) :
    (segments.map Segment.chars).head? ≠ some bodyPiece := by
  cases segments with
  | nil => simp
  | cons segment rest =>
    have hne : segment ≠ .variable "body" := fun heq => hfirst (congrArg some heq)
    rw [List.map_cons, List.head?_cons, Ne, Option.some.injEq]
    exact (h segment List.mem_cons_self).chars_ne_bodyPiece hne

/-- **Reading undoes writing.** Segments that can be written are read back from every expression
that they are written as. -/
theorem parse_of_isWriting (h : ∀ segment ∈ segments, segment.IsWritable)
    (hwriting : IsWriting segments expr) : parse expr = segments := by
  have hwhole := isWhole_of_mem_map_chars h
  have hpieces : properPieces expr.toList = segments.map Segment.chars := by
    cases hwriting with
    | plain hfirst hdotted => exact hdotted.properPieces hwhole (head?_map_chars_ne h hfirst)
    | body hdotted => exact hdotted.properPieces_body hwhole
  rw [parse, hpieces, map_ofPiece_map_chars h]

/-- A key with a dot, an index, a variable with a backslash in its name, and a key of digits that
are too many for an index; dots stand everywhere around them. -/
theorem parse_of_isWriting_of_dots :
    let segments : List Segment :=
      [.key "a.b", .index (-7), .variable "x\\y", .key "99999999999999999999"]
    let expr := "..$body...a\\.b.-7..$x\\y.99999999999999999999."
    (∀ segment ∈ segments, segment.IsWritable) ∧ IsWriting segments expr ∧
      parse expr = segments := by
  intro segments expr
  have hwritable : ∀ segment ∈ segments, segment.IsWritable := by
    simp only [segments, List.forall_mem_cons]
    exact ⟨⟨by decide, by decide, by decide, by decide⟩, (by decide : Integer.isSigned 64 (-7)),
      ⟨by decide, by decide, by decide⟩, ⟨by decide, by decide, by decide, by decide⟩, by simp⟩
  have hdotted := Dotted.dot (.dot (.cons bodyPiece (.dot (.dot (.cons (Segment.key "a.b").chars
    (.cons (Segment.index (-7)).chars (.dot (.cons (Segment.variable "x\\y").chars
      (.cons (Segment.key "99999999999999999999").chars .nil)))))))))
  have hwriting : IsWriting segments expr := .body (Eq.subst (by decide) hdotted)
  exact ⟨hwritable, hwriting, parse_of_isWriting hwritable hwriting⟩

end ApiReplay.Path
