import ApiReplay.Action.ExpectedFailure
import ApiReplay.Proofs.Text.Ends

/-!
# Categories of failures

A category that is one of eight words stands for a kind of error. Any other category counts only by
what is left of it without white space and slashes at its ends: the names of exceptions that it
mentions are mentioned in that part, and it is that part that is searched for in the message. So
slashes around such a category change nothing, and neither does white space outside of the slashes or
right inside them. A category with slashes around it already is another matter, as two more of them
make these a part of the text.

## Main definitions

* `ExpectedFailure.words`: the categories that stand for a kind of error.
* `ExpectedFailure.describes`: whether an error is the failure that a text describes.
* `ExpectedFailure.IsPadding`, `ExpectedFailure.IsBare`: what may stand around a category without a
  meaning, and texts without it at their ends.

## Main results

* `ExpectedFailure.exists_eq_append_literal`: what is left out of a category.
* `ExpectedFailure.holds_eq_describes`: what a category means that is no word.
* `ExpectedFailure.holds_slashed`: slashes around a category.
-/

namespace ApiReplay.ExpectedFailure

open Text

variable {category : String} {error : ClientError}

/-! ### Words and texts -/

/-- The categories that stand for a kind of error by themselves. -/
def words : List String :=
  ["request_timeout", "missing", "conflict", "request", "bad_request", "param", "unauthorized",
    "forbidden"]

/-- Whether an error is the failure that a text describes: by the name of an exception that the text
mentions, or else by what is searched for in the message. -/
def describes (text : List Char) (error : ClientError) : Bool :=
  let mentions := fun name : String => occursIn name.toList text
  if mentions "resource_not_found_exception" then error.kind = .notFound
  else if mentions "error parsing field" ∨ mentions "illegal_argument_exception" then
    occurs "[400]" error.message || error.kind = .badRequest
  else if mentions "NullPointerException" then occurs "[400]" error.message
  else if mentions "status_exception" then occurs "[409]" error.message
  else searches (String.ofList text) error.message

/-! ### What is left out of a category -/

/-- A character that means nothing at the ends of a category. -/
def IsPadding (c : Char) : Prop :=
  isBlank c ∨ c = '/'

instance (c : Char) : Decidable (IsPadding c) :=
  inferInstanceAs (Decidable (_ ∨ _))

/-- A text that neither starts nor ends with padding. -/
def IsBare (text : List Char) : Prop :=
  text ≠ [] ∧ (text.head?.all fun c => ¬ IsPadding c) ∧ text.getLast?.all fun c => ¬ IsPadding c

instance (text : List Char) : Decidable (IsBare text) :=
  inferInstanceAs (Decidable (_ ∧ _ ∧ _))

theorem IsBare.head {text : List Char} (h : IsBare text) : ∀ c ∈ text.head?, ¬ IsPadding c := by
  simpa [Option.all_eq_true] using h.2.1

theorem IsBare.last {text : List Char} (h : IsBare text) : ∀ c ∈ text.getLast?, ¬ IsPadding c := by
  simpa [Option.all_eq_true] using h.2.2

theorem isPadding_of_isBlanks {text : List Char} (h : IsBlanks text) : ∀ c ∈ text, IsPadding c :=
  fun c hc => .inl (h c hc)

/-- White space, a slash and white space are padding. -/
theorem isPadding_of_slash {outer inner : List Char} (houter : IsBlanks outer)
    (hinner : IsBlanks inner) : ∀ c ∈ outer ++ '/' :: inner, IsPadding c :=
  List.forall_mem_append.mpr ⟨isPadding_of_isBlanks houter,
    List.forall_mem_cons.mpr ⟨.inr rfl, isPadding_of_isBlanks hinner⟩⟩

/-- White space and slashes are left out of a category at its ends. -/
theorem exists_eq_append_literal (category : List Char) :
    ∃ before after, (∀ c ∈ before, IsPadding c) ∧ (∀ c ∈ after, IsPadding c) ∧
      category = before ++ literal category ++ after := by
  obtain ⟨before, after, hbefore, hafter, heq⟩ := exists_eq_append_trim category
  unfold literal
  split
  case h_1 inner hinner =>
    obtain ⟨opening, closing, hopening, hclosing, hin⟩ := exists_eq_append_trim inner
    refine ⟨before ++ '/' :: opening, closing ++ '/' :: after, isPadding_of_slash hbefore hopening,
      isPadding_of_slash hclosing hafter, ?_⟩
    rw [between?_eq_some_iff] at hinner
    nth_rewrite 1 [heq, hinner, hin]
    simp only [List.append_assoc, List.cons_append, List.nil_append]
  case h_2 =>
    exact ⟨before, after, isPadding_of_isBlanks hbefore, isPadding_of_isBlanks hafter, heq⟩

/-- A name that neither starts nor ends with padding is mentioned in what is left of a category. -/
theorem occursIn_literal {name : List Char} (h : IsBare name) (category : List Char) :
    occursIn name (literal category) = occursIn name category := by
  obtain ⟨before, after, hbefore, hafter, heq⟩ := exists_eq_append_literal category
  rw [Bool.eq_iff_iff, occursIn_iff, occursIn_iff]
  nth_rewrite 2 [heq]
  exact (infix_append_append_iff h.1 h.head h.last hbefore hafter).symm

/-- A category that is no word means what is left of it describes. -/
theorem holds_eq_describes (h : category ∉ words) (error : ClientError) :
    holds category error = describes (literal category.toList) error := by
  have hmentions : ∀ name ∈ ["resource_not_found_exception", "error parsing field",
      "illegal_argument_exception", "NullPointerException", "status_exception"],
      occursIn name.toList (literal category.toList) = occurs name category := by
    intro name hname
    have hbare : IsBare name.toList := by
      revert name
      decide
    exact occursIn_literal hbare category.toList
  simp only [List.forall_mem_cons] at hmentions
  obtain ⟨hmissing, hparsing, hargument, hpointer, hstatus, -⟩ := hmentions
  simp only [words, List.mem_cons, List.not_mem_nil, or_false, not_or] at h
  obtain ⟨h₁, h₂, h₃, h₄, h₅, h₆, h₇, h₈⟩ := h
  simp only [holds, describes, h₁, h₂, h₃, h₄, h₅, h₆, h₇, h₈, if_false, false_or, hmissing,
    hparsing, hargument, hpointer, hstatus]

/-! ### Slashes -/

/-- No word starts with white space or a slash. -/
theorem not_mem_words (h : ∃ c ∈ category.toList.head?, IsPadding c) : category ∉ words := by
  intro hmem
  have hbare : ∀ word ∈ words, IsBare word.toList := by decide
  obtain ⟨c, hc, hpadding⟩ := h
  exact (hbare category hmem).head c hc hpadding

/-- Of a category without slashes around it, only white space at its ends is left out. -/
theorem literal_eq_trim {text : List Char} (h : ∀ inner, trim text ≠ '/' :: (inner ++ ['/'])) :
    literal text = trim text := by
  unfold literal
  split
  case h_1 inner hinner => exact absurd (between?_eq_some_iff.mp hinner) (h inner)
  case h_2 => rfl

/-- Of a category with slashes around it, the slashes are left out, and white space on either side
of them. -/
theorem literal_slashed {before opening closing after : List Char} (hbefore : IsBlanks before)
    (hopening : IsBlanks opening) (hclosing : IsBlanks closing) (hafter : IsBlanks after)
    (text : List Char) :
    literal (before ++ '/' :: (opening ++ text ++ closing ++ ['/']) ++ after) = trim text := by
  have htight : IsTight ('/' :: (opening ++ text ++ closing ++ ['/'])) := by
    refine ⟨?_, ?_⟩
    · rintro c ⟨⟩
      decide
    · intro c hc
      rw [← List.cons_append, List.getLast?_concat] at hc
      obtain rfl := Option.some.inj hc
      decide
  have hbetween := between?_eq_some_iff.mpr (rfl : '/' :: (opening ++ text ++ closing ++ ['/']) = _)
  rw [literal, trim_append_of_isTight hbefore htight hafter, hbetween]
  exact trim_append hopening hclosing text

/-- **Slashes around a category do not count.** A category that is no word, and that does not start
and end with a slash apart from white space, describes the same failures with slashes around it, and
with white space around these or right inside them. It describes what its text does without the
white space at its ends. -/
theorem holds_slashed (category : String) (error : ClientError) (hword : category ∉ words)
    (hplain : ∀ inner, trim category.toList ≠ '/' :: (inner ++ ['/'])) :
    holds category error = describes (trim category.toList) error ∧
      holds ("/" ++ category ++ "/") error = holds category error ∧
      ∀ before opening closing after : String, IsBlanks before.toList → IsBlanks opening.toList →
        IsBlanks closing.toList → IsBlanks after.toList →
          holds (before ++ "/" ++ opening ++ category ++ closing ++ "/" ++ after) error
            = holds category error := by
  have hself : holds category error = describes (trim category.toList) error := by
    rw [holds_eq_describes hword, literal_eq_trim hplain]
  have hslashed : ∀ before opening closing after : String, IsBlanks before.toList →
      IsBlanks opening.toList → IsBlanks closing.toList → IsBlanks after.toList →
        holds (before ++ "/" ++ opening ++ category ++ closing ++ "/" ++ after) error
          = holds category error := by
    intro before opening closing after hbefore hopening hclosing hafter
    have htext : (before ++ "/" ++ opening ++ category ++ closing ++ "/" ++ after).toList
        = before.toList ++ '/' :: (opening.toList ++ category.toList ++ closing.toList ++ ['/'])
          ++ after.toList := by
      simp [String.toList_append]
    have hnone : before ++ "/" ++ opening ++ category ++ closing ++ "/" ++ after ∉ words := by
      refine not_mem_words ?_
      rw [htext]
      cases hb : before.toList with
      | nil => exact ⟨'/', rfl, .inr rfl⟩
      | cons c rest => exact ⟨c, rfl, .inl (hbefore c (by rw [hb]; exact List.mem_cons_self))⟩
    rw [holds_eq_describes hnone, htext, literal_slashed hbefore hopening hclosing hafter, hself]
  refine ⟨hself, ?_, hslashed⟩
  have hnil : IsBlanks "".toList := by decide
  simpa using hslashed "" "" "" "" hnil hnil hnil hnil

/-- A category with a slash on one side only, which is no pattern, and white space on both sides of
the slashes around it. -/
theorem holds_slashed_of_half_open :
    let category := "/[books"
    let error : ClientError := ⟨.notFound, "[404] no such path: /[books]"⟩
    category ∉ words ∧ (∀ inner, trim category.toList ≠ '/' :: (inner ++ ['/'])) ∧
      IsBlanks "\t ".toList ∧ holds category error ∧ holds "\t //[books\t /\t " error := by
  intro category error
  have hword : category ∉ words := by decide
  have hplain : ∀ inner, trim category.toList ≠ '/' :: (inner ++ ['/']) := by
    intro inner heq
    have hlast : (trim category.toList).getLast? = some 's' := by decide
    rw [heq, ← List.cons_append, List.getLast?_concat] at hlast
    cases hlast
  have hblanks : IsBlanks "\t ".toList := by decide
  obtain ⟨hself, -, hslashed⟩ := holds_slashed category error hword hplain
  have hholds : holds category error := by
    rw [hself]
    decide +kernel
  refine ⟨hword, hplain, hblanks, hholds, ?_⟩
  rw [← hslashed "\t " "" "\t " "\t " hblanks (by decide) hblanks hblanks] at hholds
  exact hholds

end ApiReplay.ExpectedFailure
