import ApiReplay.Path.Basic
import ApiReplay.Proofs.Text.Numbers

/-!
# Writing pieces of a path

A piece is written so that it is read back as one piece: it is not empty, no dot in it stands
without a backslash right before, and it does not end in a backslash, which would hold on to the dot
behind it. Such pieces joined by dots are cut at these dots and nowhere else. Keys without
backslashes become pieces when every dot gets a backslash, and decimal numbers are pieces as they
are.

## Main definitions

* `Path.escapedAfter`: whether a backslash stands right before what follows a text.
* `Path.IsWhole`: the texts that are read back as one piece.
* `Path.Dotted`: pieces with dots between, in front and behind.
* `Path.escapeDots`: a text with a backslash before every dot.

## Main results

* `Path.intercalate_pieces`: the pieces of a text joined by dots are the text.
* `Path.piecesAfter_append_dot`: a dot behind a text cuts it off.
* `Path.Dotted.filter_pieces`: a text is cut at the dots around its pieces.
* `Path.properPieces_body`: the pieces behind a leading `$body` are those that were joined.
* `Path.ofPiece_eq`: the segment of a piece that refers to no variable.
* `Path.ofPiece_escapeDots`, `Path.ofPiece_intChars`: the segments of written keys and numbers.
-/

namespace ApiReplay.Path

/-! ### Cuts at dots -/

/-- Whether a backslash stands right before what follows a text, where `escaped` tells whether one
stands before the text. -/
def escapedAfter (escaped : Bool) : List Char → Bool
  | [] => escaped
  | c :: rest => escapedAfter (c = '\\') rest

theorem piecesAfter_ne_nil (escaped : Bool) (text : List Char) : piecesAfter escaped text ≠ [] := by
  induction text generalizing escaped with
  | nil => exact List.cons_ne_nil _ _
  | cons c rest ih =>
    rw [piecesAfter]
    split
    · exact List.cons_ne_nil _ _
    · simp [ih]

theorem intercalate_piecesAfter (escaped : Bool) (text : List Char) :
    List.intercalate ['.'] (piecesAfter escaped text) = text := by
  induction text generalizing escaped with
  | nil => rfl
  | cons c rest ih =>
    rw [piecesAfter]
    split
    case isTrue hcut =>
      have hrest := ih false
      obtain ⟨piece, more, heq⟩ := List.exists_cons_of_ne_nil (piecesAfter_ne_nil false rest)
      rw [heq] at hrest ⊢
      rw [List.intercalate_cons_cons, hrest, hcut.1]
      rfl
    case isFalse =>
      have hrest := ih (c = '\\')
      obtain ⟨piece, more, heq⟩ := List.exists_cons_of_ne_nil (piecesAfter_ne_nil (c = '\\') rest)
      rw [heq] at hrest ⊢
      rw [List.modifyHead_cons]
      cases more with
      | nil =>
        rw [List.intercalate_singleton] at hrest ⊢
        rw [hrest]
      | cons next others =>
        rw [List.intercalate_cons_cons] at hrest ⊢
        rw [← hrest]
        rfl

/-- The pieces of a text joined by dots are the text. -/
theorem intercalate_pieces (text : List Char) : List.intercalate ['.'] (pieces text) = text :=
  intercalate_piecesAfter false text

/-- A dot behind a text cuts it off, unless the text ends in a backslash. -/
theorem piecesAfter_append_dot {escaped : Bool} {text : List Char}
    (h : escapedAfter escaped text = false) (rest : List Char) :
    piecesAfter escaped (text ++ '.' :: rest) = piecesAfter escaped text ++ pieces rest := by
  induction text generalizing escaped with
  | nil =>
    obtain rfl : escaped = false := h
    rfl
  | cons c more ih =>
    rw [List.cons_append, piecesAfter, piecesAfter]
    split
    case isTrue hcut =>
      have hdot : (c = '\\' : Bool) = false := by rw [hcut.1]; rfl
      rw [escapedAfter, hdot] at h
      rw [ih h, List.cons_append]
    case isFalse =>
      rw [ih h]
      obtain ⟨first, others, heq⟩ :=
        List.exists_cons_of_ne_nil (piecesAfter_ne_nil (c = '\\') more)
      rw [heq]
      rfl

/-- A text that is read back as one piece wherever it stands between dots. -/
structure IsWhole (text : List Char) : Prop where
  ne_nil : text ≠ []
  pieces_eq : pieces text = [text]
  /-- It does not end in a backslash. -/
  escapedAfter_eq : escapedAfter false text = false

/-- Pieces in order with dots around them: at least one dot stands between two pieces, and any
number of them in front and behind. -/
inductive Dotted : List (List Char) → List Char → Prop
  | nil : Dotted [] []
  | dot {texts : List (List Char)} {rest : List Char} (h : Dotted texts rest) :
      Dotted texts ('.' :: rest)
  | last (text : List Char) : Dotted [text] text
  | cons (text : List Char) {texts : List (List Char)} {rest : List Char} (h : Dotted texts rest) :
      Dotted (text :: texts) (text ++ '.' :: rest)

theorem dotted_intercalate (texts : List (List Char)) :
    Dotted texts (List.intercalate ['.'] texts) := by
  induction texts with
  | nil => exact .nil
  | cons text rest ih =>
    cases rest with
    | nil =>
      rw [List.intercalate_singleton]
      exact .last text
    | cons next more =>
      rw [List.intercalate_cons_cons, List.append_assoc, List.singleton_append]
      exact .cons text ih

/-- A text is cut at the dots around its pieces and nowhere else. -/
theorem Dotted.filter_pieces {texts : List (List Char)} {expr : List Char} (h : Dotted texts expr)
    (hwhole : ∀ text ∈ texts, IsWhole text) : (pieces expr).filter (· ≠ []) = texts := by
  have hself : ∀ text, IsWhole text → [text].filter (· ≠ []) = [text] := fun text htext =>
    List.filter_cons_of_pos (by simpa using htext.ne_nil)
  induction h with
  | nil => rfl
  | dot _ ih => exact ih hwhole
  | last text =>
    have htext := hwhole text List.mem_cons_self
    rw [htext.pieces_eq, hself text htext]
  | cons text _ ih =>
    obtain ⟨htext, hrest⟩ := List.forall_mem_cons.mp hwhole
    rw [pieces, piecesAfter_append_dot htext.escapedAfter_eq, List.filter_append, ih hrest,
      ← pieces, htext.pieces_eq, hself text htext, List.singleton_append]

/-- Pieces joined by dots are cut at these dots. -/
theorem filter_pieces_intercalate {texts : List (List Char)} (h : ∀ text ∈ texts, IsWhole text) :
    (pieces (List.intercalate ['.'] texts)).filter (· ≠ []) = texts :=
  (dotted_intercalate texts).filter_pieces h

theorem isWhole_bodyPiece : IsWhole bodyPiece :=
  ⟨by decide, by decide, by decide⟩

/-- What follows a leading `$body` is read on its own. -/
theorem properPieces_body_append (rest : List Char) :
    properPieces (bodyPiece ++ '.' :: rest) = (pieces rest).filter (· ≠ []) := by
  have hpieces : pieces (bodyPiece ++ '.' :: rest) = bodyPiece :: pieces rest := by
    rw [pieces, piecesAfter_append_dot isWhole_bodyPiece.escapedAfter_eq]
    rfl
  rw [properPieces, hpieces, List.filter_cons_of_pos (by decide)]
  exact if_pos rfl

/-- Behind a leading `$body` stand the pieces that were joined. -/
theorem properPieces_body {texts : List (List Char)} (h : ∀ text ∈ texts, IsWhole text) :
    properPieces (bodyPiece ++ '.' :: List.intercalate ['.'] texts) = texts := by
  rw [properPieces_body_append, filter_pieces_intercalate h]

/-! ### Keys -/

/-- A text with a backslash before every dot. -/
def escapeDots (text : List Char) : List Char :=
  text.flatMap fun c => if c = '.' then ['\\', '.'] else [c]

theorem escapeDots_cons (c : Char) (rest : List Char) :
    escapeDots (c :: rest) = (if c = '.' then ['\\', '.'] else [c]) ++ escapeDots rest :=
  List.flatMap_cons

theorem escapeDots_eq_self {text : List Char} (h : '.' ∉ text) : escapeDots text = text := by
  induction text with
  | nil => rfl
  | cons c rest ih =>
    rw [List.mem_cons, not_or] at h
    rw [escapeDots_cons, if_neg (Ne.symm h.1), ih h.2, List.singleton_append]

/-- The backslashes before dots are the only ones, and without them the text is back. -/
theorem filter_escapeDots {text : List Char} (h : '\\' ∉ text) :
    (escapeDots text).filter (· ≠ '\\') = text := by
  induction text with
  | nil => rfl
  | cons c rest ih =>
    rw [List.mem_cons, not_or] at h
    rw [escapeDots_cons, List.filter_append, ih h.2]
    by_cases hc : c = '.'
    · subst hc
      rfl
    · rw [if_neg hc, List.filter_cons_of_pos (by simpa using Ne.symm h.1)]
      rfl

/-- No dot of such a text is a cut, and it does not end in a backslash. -/
theorem piecesAfter_escapeDots {text : List Char} (h : '\\' ∉ text) :
    piecesAfter false (escapeDots text) = [escapeDots text] ∧
      escapedAfter false (escapeDots text) = false := by
  induction text with
  | nil => exact ⟨rfl, rfl⟩
  | cons c rest ih =>
    rw [List.mem_cons, not_or] at h
    obtain ⟨hpieces, hescaped⟩ := ih h.2
    by_cases hc : c = '.'
    · simp [escapeDots_cons, hc, piecesAfter, escapedAfter, hpieces, hescaped]
    · simp [escapeDots_cons, hc, piecesAfter, escapedAfter, hpieces, hescaped, Ne.symm h.1]

theorem isWhole_escapeDots {text : List Char} (hne : text ≠ []) (h : '\\' ∉ text) :
    IsWhole (escapeDots text) where
  ne_nil := by
    obtain ⟨c, rest, rfl⟩ := List.exists_cons_of_ne_nil hne
    rw [escapeDots_cons]
    split <;> simp
  pieces_eq := (piecesAfter_escapeDots h).1
  escapedAfter_eq := (piecesAfter_escapeDots h).2

/-! ### Numbers -/

/-- A decimal number is read back. -/
theorem digits?_natChars (n : Nat) : digits? (natChars n) = some n := by
  have hdigits : (natChars n).all Char.isDigit :=
    List.all_eq_true.mpr fun c hc => isDigit_of_mem_natChars hc
  rw [digits?, if_pos ⟨Nat.toDigits_ne_nil, hdigits⟩]
  exact congrArg some Nat.ofDigitChars_ten_toDigits

/-- Digits alone have no sign to be read. -/
theorem integer?_eq_digits? {text : List Char} (h : ∀ c ∈ text, c.isDigit) :
    integer? text = (digits? text).map fun n => (n : Int) := by
  unfold integer?
  split
  case h_1 rest => exact absurd (h '-' List.mem_cons_self) (by decide)
  case h_2 rest => exact absurd (h '+' List.mem_cons_self) (by decide)
  case h_3 => rfl

theorem integer?_intChars (i : Int) : integer? (intChars i) = some i := by
  cases i with
  | ofNat n =>
    rw [intChars, integer?_eq_digits? fun c hc => isDigit_of_mem_natChars hc, digits?_natChars]
    rfl
  | negSucc n =>
    rw [intChars, integer?, digits?_natChars]
    rfl

/-- An integer of 64 bits is read back as an index. -/
theorem index?_intChars {i : Int} (h : Integer.isSigned 64 i) : index? (intChars i) = some i := by
  rw [index?, integer?_intChars, Option.filter_some, if_pos h]

/-- What has a character that is neither a digit nor a sign is no index. -/
theorem index?_eq_none_of_mem {text : List Char} {c : Char} (hmem : c ∈ text)
    (hdigit : c.isDigit = false) (hsign : c ≠ '-' ∧ c ≠ '+') : index? text = none := by
  have hnone : ∀ rest : List Char, c ∈ rest → digits? rest = none := by
    intro rest hrest
    rw [digits?, if_neg]
    rintro ⟨_, hall⟩
    rw [List.all_eq_true.mp hall c hrest] at hdigit
    cases hdigit
  have hinteger : integer? text = none := by
    unfold integer?
    split
    case h_1 rest => rw [hnone rest (List.mem_of_ne_of_mem hsign.1 hmem)]; rfl
    case h_2 rest => rw [hnone rest (List.mem_of_ne_of_mem hsign.2 hmem)]; rfl
    case h_3 => rw [hnone text hmem]; rfl
  rw [index?, hinteger]
  rfl

/-- Dots and the backslashes before them make no number. -/
theorem index?_escapeDots (text : List Char) : index? (escapeDots text) = index? text := by
  by_cases h : '.' ∈ text
  · have hescaped : '.' ∈ escapeDots text := List.mem_flatMap.mpr ⟨'.', h, by simp⟩
    rw [index?_eq_none_of_mem h (by decide) (by decide),
      index?_eq_none_of_mem hescaped (by decide) (by decide)]
  · rw [escapeDots_eq_self h]

theorem isWhole_intChars (i : Int) : IsWhole (intChars i) := by
  have hmem : ∀ c ∈ intChars i, c ≠ '.' ∧ c ≠ '\\' := by
    intro c hc
    rcases isDigit_or_eq_of_mem_intChars hc with hdigit | rfl
    · constructor <;> rintro rfl <;> cases hdigit
    · decide
  have hne : intChars i ≠ [] := by
    cases i with
    | ofNat n => exact Nat.toDigits_ne_nil
    | negSucc n => exact List.cons_ne_nil _ _
  rw [← escapeDots_eq_self fun hdot => (hmem _ hdot).1 rfl]
  exact isWhole_escapeDots hne fun hback => (hmem _ hback).2 rfl

/-! ### Segments -/

/-- A written number is an index. -/
theorem ofPiece_intChars {i : Int} (h : Integer.isSigned 64 i) :
    Segment.ofPiece (intChars i) = .index i := by
  unfold Segment.ofPiece
  rw [index?_intChars h]

theorem head?_escapeDots_ne {text : List Char} (h : text.head? ≠ some '$') :
    (escapeDots text).head? ≠ some '$' := by
  cases text with
  | nil => simp [escapeDots]
  | cons c rest =>
    rw [escapeDots_cons]
    split
    · simp
    · exact h

/-- A piece without a dollar sign in front is an index if it reads as one, and else the key that is
left of it without backslashes. -/
theorem ofPiece_eq {text : List Char} (h : text.head? ≠ some '$') :
    Segment.ofPiece text
      = (index? text).elim (.key (String.ofList (text.filter (· ≠ '\\')))) Segment.index := by
  unfold Segment.ofPiece
  cases index? text with
  | some i => rfl
  | none =>
    rw [Option.elim_none]
    dsimp only
    split
    case h_1 c rest => exact absurd rfl h
    case h_2 => rfl

/-- A written key is that key, unless it reads as an index. -/
theorem ofPiece_escapeDots {text : List Char} (hback : '\\' ∉ text)
    (hdollar : text.head? ≠ some '$') :
    Segment.ofPiece (escapeDots text)
      = (index? text).elim (.key (String.ofList text)) Segment.index := by
  rw [ofPiece_eq (head?_escapeDots_ne hdollar), index?_escapeDots, filter_escapeDots hback]

end ApiReplay.Path
