import ApiReplay.Text.Utf8
import Mathlib.Data.List.Lex
import Mathlib.Data.String.Basic

/-!
# The order of texts

Texts are ordered by their code points: at the first place where two texts differ the smaller code
point decides, and a text comes before its continuations. The bytes of the texts are in the same
order. A greater character has a greater byte at the first place where the bytes of the two differ,
and that place is never behind the end of one of them.

## Main results

* `Text.map_toNat_lt_iff`: texts are ordered by code points.
* `Text.encode_lt_iff`: and so are their bytes.
-/

namespace ApiReplay.Text

/-! ### Code points -/

/-- A map that keeps the order of texts does not make up any. -/
theorem lt_iff_of_strictMono {α : Type} [LT α] [Std.Asymm (· < · : α → α → Prop)]
    {f : List Char → List α} (hf : ∀ s t, s < t → f s < f t) (s t : List Char) :
    f s < f t ↔ s < t := by
  refine ⟨fun h => ?_, hf s t⟩
  rcases lt_trichotomy s t with hlt | rfl | hgt
  · exact hlt
  · exact absurd h (List.lt_irrefl _)
  · exact absurd h (List.lt_asymm (hf t s hgt))

/-- Texts are ordered by code points. -/
theorem map_toNat_lt_iff (s t : List Char) : s.map Char.toNat < t.map Char.toNat ↔ s < t :=
  lt_iff_of_strictMono (f := List.map Char.toNat) (fun _ _ => List.map_lt fun _ _ h => h) s t

/-! ### Bytes -/

theorem ofNat_cons_lt_iff {a b : Nat} (ha : a < 256) (hb : b < 256) {xs ys : List UInt8} :
    UInt8.ofNat a :: xs < UInt8.ofNat b :: ys ↔ a < b ∨ a = b ∧ xs < ys := by
  rw [List.cons_lt_cons_iff, UInt8.lt_iff_toNat_lt, ← UInt8.toNat_inj, UInt8.toNat_ofNat',
    UInt8.toNat_ofNat', Nat.mod_eq_of_lt ha, Nat.mod_eq_of_lt hb]

/-- The bytes of a character come before those of a greater one, whatever follows. -/
theorem encodeChar_append_lt {c d : Char} (h : c < d) (xs ys : List UInt8) :
    String.utf8EncodeChar c ++ xs < String.utf8EncodeChar d ++ ys := by
  have hlt : c.val.toNat < d.val.toNat := h
  have hd : d.val.toNat < 0x110000 := by
    rcases d.valid with hvalid | ⟨_, hvalid⟩
    · exact hvalid.trans (by decide)
    · exact hvalid
  -- The bytes behind the first are digits to base 64, and the first has the one that remains.
  have hdigits (n : Nat) (hn : n < 0x110000) : n / 64 / 64 = n / 4096 ∧
      n / 4096 / 64 = n / 262144 ∧ n / 262144 % 8 = n / 262144 := by omega
  have hcdigits := hdigits c.val.toNat (hlt.trans hd)
  have hddigits := hdigits d.val.toNat hd
  simp only [String.utf8EncodeChar]
  -- Characters with as many bytes differ in a digit, and a longer one has a greater first byte.
  split_ifs
  all_goals try omega
  all_goals
    simp (disch := omega) only [List.cons_append, List.nil_append, ofNat_cons_lt_iff]
    omega

theorem encodeChar_ne_nil (c : Char) : String.utf8EncodeChar c ≠ [] := by
  simp only [String.utf8EncodeChar]
  split_ifs <;> exact List.cons_ne_nil _ _

/-- The bytes of a text come before those of a greater one. -/
theorem encode_lt_encode {s t : List Char} (h : s < t) : encode s < encode t := by
  induction (h : List.Lex (· < ·) s t) with
  | @nil d t =>
    obtain ⟨b, bytes, hbytes⟩ := List.exists_cons_of_ne_nil (encodeChar_ne_nil d)
    rw [encode, encode, List.flatMap_nil, List.flatMap_cons, hbytes]
    exact List.nil_lt_cons _ _
  | rel hlt =>
    rw [encode, encode, List.flatMap_cons, List.flatMap_cons]
    exact encodeChar_append_lt hlt _ _
  | cons _ ih =>
    rw [encode, encode, List.flatMap_cons, List.flatMap_cons]
    exact List.append_left_lt ih

/-- The bytes of texts are in the order of the texts. -/
theorem encode_lt_iff (s t : List Char) : encode s < encode t ↔ s < t :=
  lt_iff_of_strictMono (fun _ _ => encode_lt_encode) s t

end ApiReplay.Text
