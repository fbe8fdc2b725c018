import ApiReplay.Proofs.Path.Walks
import ApiReplay.Proofs.Path.Writing
import Mathlib.Data.List.Basic

/-!
# Numerals as keys

A numeral in an expression names a position in an array, and the entry of an object under a key. It
is read as a number first, so that the key it names is that number in decimal. A numeral that is
written the way a number is names the entry under its own text, and so does one whose number has
more than 64 bits, which is not read at all. Any other numeral, with a plus sign, a zero too many in
front or a minus sign before zero, names the entry under another text, or nothing, even where the
object has an entry under its own.

## Main definitions

* `Path.IsNumeral`: digits with or without a sign.
* `Path.IsPlain`: the numerals that are written the way numbers are.
* `Path.IsLarge`: the numerals whose number has more than 64 bits.
* `Path.numeralKey`: the key that a numeral names.
* `Path.onwards`: how an expression goes on behind the entry under a key.

## Main results

* `Path.isPlain_iff`: the plain numerals are the decimal forms of numbers.
* `Path.numeralKey_eq_iff`: which numerals name the entry under their own text.
* `Path.numeral_names_own_entry_iff`: what this means for expressions.
-/

namespace ApiReplay.Path

/-! ### Numerals -/

/-- Decimal digits, at least one. -/
def IsDigits (digits : List Char) : Prop :=
  digits ≠ [] ∧ ∀ c ∈ digits, c.isDigit

/-- Digits with or without a sign. -/
inductive IsNumeral : List Char → Prop
  | unsigned {digits : List Char} (hdigits : IsDigits digits) : IsNumeral digits
  | minus {digits : List Char} (hdigits : IsDigits digits) : IsNumeral ('-' :: digits)
  | plus {digits : List Char} (hdigits : IsDigits digits) : IsNumeral ('+' :: digits)

/-- The numerals without a plus sign, a zero in front of other digits, or a minus sign before
zero. -/
inductive IsPlain : List Char → Prop
  | natural {digits : List Char} (hdigits : IsDigits digits)
      (hzero : digits.head? = some '0' → digits = ['0']) : IsPlain digits
  | negative {digits : List Char} (hdigits : IsDigits digits)
      (hzero : digits.head? ≠ some '0') : IsPlain ('-' :: digits)

variable {digits k : List Char} {i : Int} {n : Nat}

theorem isDigits_of_all (hne : digits ≠ []) (h : digits.all Char.isDigit) : IsDigits digits :=
  ⟨hne, List.all_eq_true.mp h⟩

theorem digits?_eq_some (h : IsDigits digits) :
    digits? digits = some (Nat.ofDigitChars 10 digits 0) := by
  rw [digits?, if_pos ⟨h.1, List.all_eq_true.mpr h.2⟩]
  rfl

/-- Every numeral is read as a number. -/
theorem IsNumeral.exists_integer? (h : IsNumeral k) : ∃ i, integer? k = some i := by
  cases h with
  | unsigned hdigits =>
    rw [integer?_eq_digits? hdigits.2, digits?_eq_some hdigits]
    exact ⟨_, rfl⟩
  | minus hdigits =>
    rw [integer?, digits?_eq_some hdigits]
    exact ⟨_, rfl⟩
  | plus hdigits =>
    rw [integer?, digits?_eq_some hdigits]
    exact ⟨_, rfl⟩

/-- A numeral consists of digits and signs. -/
theorem IsNumeral.mem (h : IsNumeral k) {c : Char} (hc : c ∈ k) :
    c.isDigit ∨ c = '-' ∨ c = '+' := by
  cases h with
  | unsigned hdigits => exact .inl (hdigits.2 c hc)
  | minus hdigits => exact (List.mem_cons.mp hc).elim (.inr ∘ .inl) (.inl ∘ hdigits.2 c)
  | plus hdigits => exact (List.mem_cons.mp hc).elim (.inr ∘ .inr) (.inl ∘ hdigits.2 c)

theorem IsNumeral.not_mem (h : IsNumeral k) {c : Char} (hc : c = '.' ∨ c = '\\' ∨ c = '$') :
    c ∉ k := by
  intro hmem
  rcases h.mem hmem with hdigit | hsign
  · rcases hc with rfl | rfl | rfl <;> cases hdigit
  · rcases hc with rfl | rfl | rfl <;> revert hsign <;> decide

theorem IsNumeral.ne_nil (h : IsNumeral k) : k ≠ [] := by
  cases h with
  | unsigned hdigits => exact hdigits.1
  | _ => exact List.cons_ne_nil _ _

/-! ### Decimal forms -/

theorem exists_digitChar_eq {c : Char} (h : c.isDigit) : ∃ d < 10, Nat.digitChar d = c := by
  obtain ⟨hlow, hhigh⟩ := Char.isDigit_iff_toNat.mp h
  change 48 ≤ c.toNat at hlow
  change c.toNat ≤ 57 at hhigh
  refine ⟨c.toNat - 48, by omega, Char.toNat_inj.mp ?_⟩
  rw [Nat.toNat_digitChar_of_lt_ten (by omega)]
  omega

/-- Digits behind the decimal form of a number other than zero extend it. -/
theorem natChars_append (hn : 0 < n) (hdigits : ∀ c ∈ digits, c.isDigit) :
    natChars n ++ digits = natChars (Nat.ofDigitChars 10 digits n) := by
  induction digits generalizing n with
  | nil => rw [List.append_nil, Nat.ofDigitChars_nil]
  | cons c rest ih =>
    obtain ⟨hc, hrest⟩ := List.forall_mem_cons.mp hdigits
    obtain ⟨d, hd, rfl⟩ := exists_digitChar_eq hc
    have hnext : natChars n ++ [Nat.digitChar d] = natChars (10 * n + d) := by
      rw [natChars, ← Nat.toDigits_of_lt_base hd,
        Nat.toDigits_append_toDigits (by decide) hn hd]
      rfl
    rw [Nat.ofDigitChars_cons_digitChar_of_lt_ten hd, ← ih (by omega) hrest, ← hnext,
      List.append_assoc, List.singleton_append]

/-- Digits without superfluous zeros are the decimal form of their number. -/
theorem natChars_ofDigitChars (h : IsDigits digits)
    (hzero : digits.head? = some '0' → digits = ['0']) :
    natChars (Nat.ofDigitChars 10 digits 0) = digits := by
  obtain ⟨c, rest, rfl⟩ := List.exists_cons_of_ne_nil h.1
  obtain ⟨hc, hrest⟩ := List.forall_mem_cons.mp h.2
  obtain ⟨d, hd, rfl⟩ := exists_digitChar_eq hc
  rcases Nat.eq_zero_or_pos d with rfl | hpos
  · rw [hzero rfl]
    rfl
  · rw [Nat.ofDigitChars_cons_digitChar_of_lt_ten hd, Nat.mul_zero, Nat.zero_add,
      ← natChars_append hpos hrest, natChars, Nat.toDigits_of_lt_base hd, List.singleton_append]

/-- Only zero has a decimal form that starts with a zero. -/
theorem eq_zero_of_head?_natChars (h : (natChars n).head? = some '0') : n = 0 := by
  induction n using Nat.strongRecOn with
  | ind n ih =>
    rcases Nat.lt_or_ge n 10 with hlt | hge
    · rw [natChars, Nat.toDigits_of_lt_base hlt, List.head?_cons, Option.some.injEq] at h
      exact Nat.digitChar_eq_zero.mp h
    · rw [natChars, Nat.toDigits_of_base_le (by decide) hge,
        List.head?_append_of_ne_nil _ Nat.toDigits_ne_nil] at h
      have hquotient := ih (n / 10) (by omega) h
      omega

/-- The plain numerals are the decimal forms of numbers. -/
theorem isPlain_iff : IsPlain k ↔ ∃ i, intChars i = k := by
  constructor
  · rintro (⟨hdigits, hzero⟩ | ⟨hdigits, hzero⟩)
    · exact ⟨.ofNat _, natChars_ofDigitChars hdigits hzero⟩
    · have hchars := natChars_ofDigitChars hdigits fun h => absurd h hzero
      cases hm : Nat.ofDigitChars 10 _ 0 with
      | zero =>
        rw [hm] at hchars
        exact absurd (hchars ▸ rfl) hzero
      | succ m =>
        rw [hm] at hchars
        exact ⟨.negSucc m, congrArg ('-' :: ·) hchars⟩
  · rintro ⟨i, rfl⟩
    have hdigits (n : Nat) : IsDigits (natChars n) :=
      ⟨Nat.toDigits_ne_nil, fun c => isDigit_of_mem_natChars⟩
    cases i with
    | ofNat n =>
      refine .natural (hdigits n) fun h => ?_
      rw [eq_zero_of_head?_natChars h]
      rfl
    | negSucc n => exact .negative (hdigits (n + 1)) fun h => nomatch eq_zero_of_head?_natChars h

/-! ### The key of a numeral -/

/-- A numeral whose number has more than 64 bits. -/
def IsLarge (k : List Char) : Prop :=
  ∃ i, integer? k = some i ∧ ¬ Integer.isSigned 64 i

/-- The key that a numeral names in an object: its number in decimal when that has 64 bits, and
otherwise its text. -/
def numeralKey (k : List Char) : String :=
  (index? k).elim (String.ofList k) intText

/-- A numeral of 64 bits names the decimal form of its number. -/
theorem numeralKey_eq_intText (hi : integer? k = some i) (h : Integer.isSigned 64 i) :
    numeralKey k = intText i := by
  rw [numeralKey, index?, hi, Option.filter_some, if_pos h]
  rfl

/-- The numerals that name their own text. -/
theorem numeralKey_eq_iff (h : IsNumeral k) :
    numeralKey k = String.ofList k ↔ IsPlain k ∨ IsLarge k := by
  obtain ⟨i, hi⟩ := h.exists_integer?
  by_cases hsigned : Integer.isSigned 64 i
  · rw [numeralKey_eq_intText hi hsigned, intText, String.ofList_inj, isPlain_iff]
    constructor
    · exact fun heq => .inl ⟨i, heq⟩
    · rintro (⟨j, rfl⟩ | ⟨j, hj, hlarge⟩)
      · rw [integer?_intChars] at hi
        rw [Option.some.inj hi]
      · obtain rfl := Option.some.inj (hi.symm.trans hj)
        exact absurd hsigned hlarge
  · refine iff_of_true ?_ (.inr ⟨i, hi, hsigned⟩)
    rw [numeralKey, index?, hi, Option.filter_some, if_neg hsigned]
    rfl

/-- A numeral is an index, or else a key. -/
theorem ofPiece_eq_of_isNumeral (h : IsNumeral k) :
    Segment.ofPiece k = (index? k).elim (.key (String.ofList k)) Segment.index := by
  have hdollar : k.head? ≠ some '$' := fun heq =>
    h.not_mem (.inr (.inr rfl)) (List.mem_of_mem_head? heq)
  rw [← ofPiece_escapeDots (h.not_mem (.inr (.inl rfl))) hdollar,
    escapeDots_eq_self (h.not_mem (.inl rfl))]

/-- In an object a numeral leads to the entry under its key. -/
theorem step?_of_isNumeral (h : IsNumeral k) (entries : List (String × Json)) :
    step? (.object entries) (Segment.ofPiece k) = Entries.find? (numeralKey k) entries := by
  rw [ofPiece_eq_of_isNumeral h, numeralKey]
  cases index? k <;> rfl

/-! ### Expressions -/

/-- What an expression resolves to behind an object, when it goes on with the entry under a key. -/
def onwards (vars : Variables) (entries : List (String × Json)) (key : String)
    (rest : List Segment) : Except UnboundVariable (Option Json) :=
  match Entries.find? key entries with
  | some value => walk vars (some value) rest
  | none => .ok none

/-- An expression with dots reaches an object behind some pieces, and goes on with another one. -/
structure Arrives (vars : Variables) (response : Option Response) (expr : String)
    (before : List (List Char)) (entries : List (String × Json)) (k : List Char)
    (after : List (List Char)) : Prop where
  dot : '.' ∈ expr.toList
  properPieces_eq : properPieces expr.toList = before ++ k :: after
  leads : Leads vars (response.bind Response.body?) (before.map Segment.ofPiece)
    (some (.object entries))

variable {vars : Variables} {response : Option Response} {expr : String}
  {before after : List (List Char)} {entries : List (String × Json)}

/-- An expression goes on from an object with the entry under the key of a numeral. -/
theorem Arrives.resolve_eq (h : Arrives vars response expr before entries k after)
    (hk : IsNumeral k) : resolve vars response expr
      = onwards vars entries (numeralKey k) (after.map Segment.ofPiece) := by
  have hstep := step?_of_isNumeral hk entries
  rw [resolve_of_dot h.dot, parse, h.properPieces_eq, List.map_append, List.map_cons,
    walk_append_of_leads h.leads, onwards]
  cases hfind : Entries.find? (numeralKey k) entries with
  | some value => rw [walk_cons_of_step? (hstep.trans hfind)]
  | none =>
    refine walk_cons_of_step?_eq_none (fun name => ?_) (hstep.trans hfind)
    rw [ofPiece_eq_of_isNumeral hk]
    cases index? k <;> exact Segment.noConfusion

/-- A numeral behind `$body` is asked of the body itself. -/
theorem arrives_body (hk : IsNumeral k) (vars : Variables) (entries : List (String × Json)) :
    Arrives vars (some (.ok 200 (.object entries))) (String.ofList (bodyPiece ++ '.' :: k)) []
      entries k [] where
  dot := by simp
  properPieces_eq := by
    rw [String.toList_ofList]
    have hwhole : IsWhole k :=
      isWhole_of_not_mem hk.ne_nil (hk.not_mem (.inl rfl)) fun hlast =>
        hk.not_mem (.inr (.inl rfl)) (List.mem_of_getLast? hlast)
    have hone : ∀ text ∈ [k], IsWhole text := by simpa using hwhole
    have hpieces := properPieces_body hone
    rwa [List.intercalate_singleton] at hpieces
  leads := .here _

/-- **Numerals as keys.** A numeral names the entry under its own text in every object that the walk
of an expression reaches just when it is plain or large. Any numeral names the entry under
`numeralKey`; where it is neither plain nor large, this is the decimal form of its number, which is
another text. -/
theorem numeral_names_own_entry_iff (hk : IsNumeral k) :
    ((∀ vars response expr before entries after,
        Arrives vars response expr before entries k after →
        resolve vars response expr
          = onwards vars entries (String.ofList k) (after.map Segment.ofPiece)) ↔
      IsPlain k ∨ IsLarge k) ∧
    (∀ vars response expr before entries after,
      Arrives vars response expr before entries k after →
      resolve vars response expr
        = onwards vars entries (numeralKey k) (after.map Segment.ofPiece)) ∧
    (¬ IsPlain k → ¬ IsLarge k →
      ∃ i, integer? k = some i ∧ numeralKey k = intText i ∧ intText i ≠ String.ofList k) := by
  refine ⟨⟨fun hown => ?only, fun h => ?own⟩, fun _ _ _ _ _ _ h => h.resolve_eq hk,
    fun hplain hlarge => ?other⟩
  case only =>
    rw [← numeralKey_eq_iff hk]
    by_contra hne
    -- The object has an entry under the key of the numeral and none under its text.
    have harrives := arrives_body hk .empty [(numeralKey k, .null)]
    have hother := harrives.resolve_eq hk
    rw [hown _ _ _ _ _ _ harrives] at hother
    simp [onwards, Entries.find?, hne, walk] at hother
  case own =>
    intro vars response expr before entries after harrives
    rw [harrives.resolve_eq hk, (numeralKey_eq_iff hk).mpr h]
  case other =>
    obtain ⟨i, hi⟩ := hk.exists_integer?
    have hsigned : Integer.isSigned 64 i := by
      by_contra hnot
      exact hlarge ⟨i, hi, hnot⟩
    have hkey := numeralKey_eq_intText hi hsigned
    refine ⟨i, hi, hkey, fun heq => ?_⟩
    exact ((numeralKey_eq_iff hk).mp (hkey.trans heq)).elim hplain hlarge

/-- Zeros too many in front lead to the entry under another text, whether there is one under the
own text or not. -/
theorem numeral_names_other_entry :
    let k : List Char := ['0', '0', '7']
    let other : String × Json := ("7", .string "other")
    let entries : List (String × Json) := [("007", .string "own"), other]
    let response : List (String × Json) → Response := fun entries =>
      .ok 200 (.object [("shards", .object entries)])
    IsNumeral k ∧ Entries.find? (String.ofList k) entries = some (.string "own") ∧
      resolve .empty (some (response entries)) "shards.007" = .ok (some (.string "other")) ∧
      Entries.find? (String.ofList k) [other] = none ∧
      resolve .empty (some (response [other])) "shards.007" = .ok (some (.string "other")) :=
  ⟨.unsigned (isDigits_of_all (by decide) rfl), rfl, rfl, rfl, rfl⟩

/-- A number of more than 64 bits is not read, so that even its plus sign is part of the key, and
nothing is found where only the number itself is a key. -/
theorem numeral_names_own_entry_of_large :
    let k : List Char := "+9223372036854775808".toList
    let expr := "shards.+9223372036854775808.state"
    let response : String → Response := fun key =>
      .ok 200 (.object [("shards", .object [(key, .object [("state", .bool true)])])])
    IsNumeral k ∧ ¬ IsPlain k ∧ IsLarge k ∧
      resolve .empty (some (response (String.ofList k))) expr = .ok (some (.bool true)) ∧
      resolve .empty (some (response "9223372036854775808")) expr = .ok none := by
  intro k expr response
  have hk : IsNumeral k := .plus (isDigits_of_all (by decide) rfl)
  have hplain : ¬ IsPlain k := by
    rw [isPlain_iff]
    rintro ⟨i, hi⟩
    have hplus : '+' ∈ intChars i := hi ▸ by decide
    exact absurd (isDigit_or_eq_of_mem_intChars hplus) (by decide)
  have hlarge : IsLarge k := ⟨9223372036854775808, by decide, by decide⟩
  have harrives (key : String) : Arrives .empty (some (response key)) expr ["shards".toList]
      [(key, .object [("state", .bool true)])] k ["state".toList] :=
    ⟨by decide, by decide, .step rfl (.here _)⟩
  have hown := (numeral_names_own_entry_iff hk).1.mpr (.inr hlarge)
  refine ⟨hk, hplain, hlarge, ?_, ?_⟩
  · rw [hown _ _ _ _ _ _ (harrives (String.ofList k))]
    rfl
  · rw [hown _ _ _ _ _ _ (harrives "9223372036854775808")]
    rfl

end ApiReplay.Path
