import ApiReplay.Http.Percent
import Mathlib.Data.List.Basic
import Mathlib.Tactic.IntervalCases

/-!
# Escaped texts

A text without percent signs can be read off its escaped form, whatever characters are escaped: the
bytes that the form stands for are those of the text. So different texts have different escaped
forms. A text that holds a percent sign may be taken for the escaped form of another one.

## Main results

* `Http.unescape_escapeWhere`: the bytes of an escaped text.
* `Http.escapeWhere_injective`: texts without percent signs with the same escaped form.
-/

namespace ApiReplay.Http

/-! ### Bytes -/

theorem hexValue?_hexSign {n : Nat} (hn : n < 16) : Text.hexValue? (hexSign n) = some n := by
  interval_cases n <;> rfl

/-- An escaped byte stands for itself. -/
theorem unescape_escapeByte (b : UInt8) (rest : List Char) :
    unescape (escapeByte b ++ rest) = b :: unescape rest := by
  have hb : b.toNat < 256 := UInt8.toNat_lt_size b
  rw [escapeByte, List.cons_append, List.cons_append, List.cons_append, List.nil_append, unescape,
    hexValue?_hexSign (by omega), hexValue?_hexSign (by omega)]
  simp only [Nat.div_add_mod, UInt8.ofNat_toNat]

theorem unescape_flatMap_escapeByte (bytes : List UInt8) (rest : List Char) :
    unescape (bytes.flatMap escapeByte ++ rest) = bytes ++ unescape rest := by
  induction bytes with
  | nil => rfl
  | cons b bytes ih =>
    rw [List.flatMap_cons, List.append_assoc, unescape_escapeByte, ih, List.cons_append]

/-- A character other than the percent sign stands for itself. -/
theorem unescape_cons {c : Char} (hc : c ≠ '%') (rest : List Char) :
    unescape (c :: rest) = String.utf8EncodeChar c ++ unescape rest := by
  rw [unescape]
  rintro a b more rfl
  exact absurd rfl hc

/-! ### Texts -/

/-- The escaped form of a text without percent signs stands for the bytes of the text. -/
theorem unescape_escapeWhere (escaped : Char → Bool) {text : List Char} (h : '%' ∉ text) :
    unescape (escapeWhere escaped text) = text.flatMap String.utf8EncodeChar := by
  induction text with
  | nil => rw [escapeWhere, List.flatMap_nil, List.flatMap_nil, unescape]
  | cons c rest ih =>
    rw [List.mem_cons, not_or] at h
    have hrest := ih h.2
    rw [escapeWhere] at hrest ⊢
    rw [List.flatMap_cons, List.flatMap_cons]
    split
    · rw [escapeChar, unescape_flatMap_escapeByte, hrest]
    · rw [List.singleton_append, unescape_cons (Ne.symm h.1), hrest]

/-- A text is determined by its bytes. -/
theorem flatMap_utf8EncodeChar_injective {text text' : List Char}
    (h : text.flatMap String.utf8EncodeChar = text'.flatMap String.utf8EncodeChar) :
    text = text' := by
  have hbytes : (String.ofList text).toByteArray = (String.ofList text').toByteArray := by
    rw [String.toByteArray_ofList, String.toByteArray_ofList, List.utf8Encode, List.utf8Encode, h]
  exact String.ofList_inj.mp (String.toByteArray_inj.mp hbytes)

/-- Texts without percent signs that have the same escaped form are the same. -/
theorem escapeWhere_injective {escaped : Char → Bool} {text text' : List Char} (h : '%' ∉ text)
    (h' : '%' ∉ text') (heq : escapeWhere escaped text = escapeWhere escaped text') :
    text = text' := by
  have hbytes := congrArg unescape heq
  rw [unescape_escapeWhere escaped h, unescape_escapeWhere escaped h'] at hbytes
  exact flatMap_utf8EncodeChar_injective hbytes

end ApiReplay.Http
