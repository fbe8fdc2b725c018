import ApiReplay.Proofs.Variables.Tokens

/-!
# Substitution in a text

Every text is read in one way: as literal texts with tokens between them, where each token is the
leftmost one behind the token before it and reaches as far as it can, and no token is left in a
literal text. Substitution looks at these tokens alone. It fails at the first of them that is not
bound, and otherwise puts the texts of the variables in their places. The result is never read
again, so that it does not matter what tokens the new text holds or makes up with its surroundings.

The tokens may also be found by two scans of the text, one that checks that all of them are bound
and one that replaces them. The second scan has to put something in the place of a token that is not
bound. It never does, because both scans find the same tokens.

## Main definitions

* `Variables.IsName`, `Variables.Occurs`, `Variables.IsFirst`: names, where a dollar sign with a
  name stands in a text, and the leftmost longest of these places.
* `Variables.Reading`, `Variables.Reading.IsOf`: literal texts with tokens between them, and that a
  text is read so.
* `Variables.substituteByScans`: substitution by two scans.
* `Variables.SubstitutionLaw`: what substitution makes of a text.

## Main results

* `Variables.isOf_ofPieces`, `Variables.Reading.IsOf.unique`: the reading of a text.
* `Variables.substituteByScans_eq`: the two scans see the same tokens.
* `Variables.substitutionLaw_substitute`: the law of substitution.
-/

namespace ApiReplay.Variables

/-! ### Tokens in a text -/

/-- A name has at least one character, and characters of names only. -/
def IsName (name : List Char) : Prop :=
  name ≠ [] ∧ ∀ c ∈ name, isNameChar c

/-- A dollar sign with a name stands between two parts of a text. What follows need not end the
name. -/
structure Occurs (text before name after : List Char) : Prop where
  text_eq : text = before ++ '$' :: (name ++ after)
  isName : IsName name

/-- No dollar sign with a name stands in a text. -/
def IsLiteral (text : List Char) : Prop :=
  ∀ before name after, ¬ Occurs text before name after

/-- A dollar sign with a name stands in a text, none stands further to the left, and none in the
same place has a longer name. -/
structure IsFirst (text before name after : List Char) : Prop extends
    Occurs text before name after where
  leftmost : ∀ before' name' after', Occurs text before' name' after' →
    before.length ≤ before'.length
  longest : ∀ before' name' after', Occurs text before' name' after' →
    before'.length = before.length → name'.length ≤ name.length

/-- A text has at most one token that is the first. -/
theorem IsFirst.unique {text before name after before' name' after' : List Char}
    (h : IsFirst text before name after) (h' : IsFirst text before' name' after') :
    before = before' ∧ name = name' ∧ after = after' := by
  have hplace : before.length = before'.length :=
    Nat.le_antisymm (h.leftmost _ _ _ h'.toOccurs) (h'.leftmost _ _ _ h.toOccurs)
  have hlength : name.length = name'.length :=
    Nat.le_antisymm (h'.longest _ _ _ h.toOccurs hplace) (h.longest _ _ _ h'.toOccurs hplace.symm)
  obtain ⟨rfl, htail⟩ := List.append_inj (h.text_eq.symm.trans h'.text_eq) hplace
  obtain ⟨rfl, rfl⟩ := List.append_inj (List.cons.inj htail).2 hlength
  exact ⟨rfl, rfl, rfl⟩

/-- Behind the first character a dollar sign with a name stands in the rest of a text, unless the
text starts with it. -/
theorem occurs_cons {c : Char} {rest before name after : List Char}
    (h : Occurs (c :: rest) before name after) :
    (before = [] ∧ c = '$' ∧ rest = name ++ after) ∨
      ∃ more, before = c :: more ∧ Occurs rest more name after := by
  obtain ⟨htext, hname⟩ := h
  cases before with
  | nil =>
    obtain ⟨rfl, rfl⟩ := List.cons.inj htext
    exact .inl ⟨rfl, rfl, rfl⟩
  | cons b more =>
    obtain ⟨rfl, rfl⟩ := List.cons.inj htext
    exact .inr ⟨more, rfl, rfl, hname⟩

/-- A name that a text starts with is found by taking characters of names. -/
theorem IsName.takeWhile_ne_nil {name after : List Char} (h : IsName name) :
    (name ++ after).takeWhile isNameChar ≠ [] := by
  rw [List.takeWhile_append_of_pos h.2]
  exact fun hnil => h.1 (List.append_eq_nil_iff.mp hnil).1

theorem isName_takeWhile {text : List Char} (h : text.takeWhile isNameChar ≠ []) :
    IsName (text.takeWhile isNameChar) :=
  ⟨h, List.all_eq_true.mp List.all_takeWhile⟩

/-- A text that starts with a dollar sign and a name has its first token there. -/
theorem isFirst_takeWhile {rest : List Char} (h : rest.takeWhile isNameChar ≠ []) :
    IsFirst ('$' :: rest) [] (rest.takeWhile isNameChar) (rest.dropWhile isNameChar) where
  text_eq := by rw [List.takeWhile_append_dropWhile, List.nil_append]
  isName := isName_takeWhile h
  leftmost _ _ _ _ := Nat.zero_le _
  longest before' name' after' hoccurs hlength := by
    obtain rfl := List.eq_nil_of_length_eq_zero hlength
    obtain rfl : rest = name' ++ after' := (List.cons.inj hoccurs.text_eq).2
    rw [List.takeWhile_append_of_pos hoccurs.isName.2, List.length_append]
    exact Nat.le_add_right _ _

section

variable {c : Char} {rest before name after : List Char}
  (hc : ¬ (c = '$' ∧ rest.takeWhile isNameChar ≠ []))

include hc

/-- A character that starts no token leaves everything further to the right. -/
theorem exists_of_occurs_cons (h : Occurs (c :: rest) before name after) :
    ∃ more, before = c :: more ∧ Occurs rest more name after := by
  refine (occurs_cons h).resolve_left ?_
  rintro ⟨_, rfl, rfl⟩
  exact hc ⟨rfl, h.isName.takeWhile_ne_nil⟩

theorem isLiteral_cons (h : IsLiteral rest) : IsLiteral (c :: rest) := by
  intro before name after hoccurs
  obtain ⟨more, _, hmore⟩ := exists_of_occurs_cons hc hoccurs
  exact h more name after hmore

theorem isFirst_cons (h : IsFirst rest before name after) :
    IsFirst (c :: rest) (c :: before) name after where
  text_eq := by rw [h.text_eq, List.cons_append]
  isName := h.isName
  leftmost before' name' after' hoccurs := by
    obtain ⟨more, rfl, hmore⟩ := exists_of_occurs_cons hc hoccurs
    exact Nat.succ_le_succ (h.leftmost more name' after' hmore)
  longest before' name' after' hoccurs hlength := by
    obtain ⟨more, rfl, hmore⟩ := exists_of_occurs_cons hc hoccurs
    exact h.longest more name' after' hmore (Nat.succ.inj hlength)

end

/-- Nothing stands in the text in front of the first token. -/
theorem IsFirst.isLiteral {text before name after : List Char}
    (h : IsFirst text before name after) : IsLiteral before := by
  intro b n a hoccurs
  have hleft := h.leftmost b n (a ++ '$' :: (name ++ after))
    ⟨by rw [h.text_eq, hoccurs.text_eq]; simp, hoccurs.isName⟩
  rw [hoccurs.text_eq, List.length_append, List.length_cons] at hleft
  omega

/-! ### Readings of a text -/

/-- Literal texts, each in front of the name of a token, and a last literal text. -/
structure Reading where
  parts : List (List Char × String)
  last : List Char

namespace Reading

/-- The names of the tokens, from left to right. -/
def names (r : Reading) : List String :=
  r.parts.map Prod.snd

/-- The literal texts, from left to right. -/
def literals (r : Reading) : List (List Char) :=
  r.parts.map Prod.fst ++ [r.last]

/-- The literal texts with a text in the place of every token. -/
def fill (r : Reading) (value : String → List Char) : List Char :=
  r.parts.flatMap (fun part => part.1 ++ value part.2) ++ r.last

/-- A text is read as literal texts and tokens: each token is the first of what stands behind the
token before it, and no token stands behind the last. -/
inductive IsOf : Reading → List Char → Prop
  | literal {text : List Char} (h : IsLiteral text) : IsOf ⟨[], text⟩ text
  | token {text before after last : List Char} {name : String} {parts : List (List Char × String)}
      (hfirst : IsFirst text before name.toList after) (hrest : IsOf ⟨parts, last⟩ after) :
      IsOf ⟨(before, name) :: parts, last⟩ text

variable {r r' : Reading} {text : List Char}

/-- A text is read in one way. -/
theorem IsOf.unique (h : r.IsOf text) (h' : r'.IsOf text) : r = r' := by
  induction h generalizing r' with
  | literal hliteral =>
    cases h' with
    | literal _ => rfl
    | token hfirst _ => exact absurd hfirst.toOccurs (hliteral _ _ _)
  | token hfirst _ ih =>
    cases h' with
    | literal hliteral => exact absurd hfirst.toOccurs (hliteral _ _ _)
    | token hfirst' hrest' =>
      obtain ⟨rfl, hname, rfl⟩ := hfirst.unique hfirst'
      obtain rfl := String.toList_injective hname
      obtain ⟨rfl, rfl⟩ := Reading.mk.inj (ih hrest')
      rfl

/-- With its tokens written back a reading is the text. -/
theorem IsOf.fill_written (h : r.IsOf text) : r.fill (fun name => '$' :: name.toList) = text := by
  induction h with
  | literal _ => rfl
  | token hfirst _ ih => simpa [fill, hfirst.text_eq] using ih

/-- No token stands in a literal text. -/
theorem IsOf.isLiteral (h : r.IsOf text) : ∀ literal ∈ r.literals, IsLiteral literal := by
  induction h with
  | literal hliteral => simpa [literals] using hliteral
  | token hfirst _ ih => simpa [literals, hfirst.isLiteral] using ih

/-- A character more in front of the first literal text. -/
def cons (c : Char) : Reading → Reading
  | ⟨[], last⟩ => ⟨[], c :: last⟩
  | ⟨(before, name) :: parts, last⟩ => ⟨(c :: before, name) :: parts, last⟩

@[simp]
theorem names_cons (c : Char) (r : Reading) : (r.cons c).names = r.names := by
  obtain ⟨_ | _, _⟩ := r <;> rfl

@[simp]
theorem fill_cons (c : Char) (r : Reading) (value : String → List Char) :
    (r.cons c).fill value = c :: r.fill value := by
  obtain ⟨_ | _, _⟩ := r <;> rfl

/-- A character that starts no token is read as a literal one. -/
theorem IsOf.cons {c : Char} (hc : ¬ (c = '$' ∧ text.takeWhile isNameChar ≠ []))
    (h : r.IsOf text) : (r.cons c).IsOf (c :: text) := by
  cases h with
  | literal hliteral => exact .literal (isLiteral_cons hc hliteral)
  | token hfirst hrest => exact .token (isFirst_cons hc hfirst) hrest

/-- The reading that a list of pieces makes up. -/
def ofPieces : List Piece → Reading
  | [] => ⟨[], []⟩
  | .literal c :: rest => (ofPieces rest).cons c
  | .token name :: rest =>
    ⟨([], String.ofList name) :: (ofPieces rest).parts, (ofPieces rest).last⟩

theorem names_ofPieces (list : List Piece) : (ofPieces list).names = list.filterMap Piece.name? := by
  induction list with
  | nil => rfl
  | cons piece rest ih =>
    cases piece with
    | literal c => rw [ofPieces, names_cons, ih]; rfl
    | token name => exact congrArg (String.ofList name :: ·) ih

/-- The text that a piece stands for, where names stand for texts. -/
def pieceText (value : String → List Char) : Piece → List Char
  | .literal c => [c]
  | .token name => value (String.ofList name)

theorem fill_ofPieces (list : List Piece) (value : String → List Char) :
    (ofPieces list).fill value = list.flatMap (pieceText value) := by
  induction list with
  | nil => rfl
  | cons piece rest ih =>
    rw [List.flatMap_cons, ← ih]
    cases piece with
    | literal c => rw [ofPieces, fill_cons]; rfl
    | token name => simp [ofPieces, fill, pieceText]

end Reading

open Reading (ofPieces)

/-- The pieces of a text make up its reading. -/
theorem isOf_ofPieces (text : List Char) : (ofPieces (pieces text)).IsOf text := by
  fun_induction pieces text with
  | case1 => exact .literal fun before name after h => by simpa using h.text_eq
  | case2 c rest h ih =>
    obtain ⟨rfl, hname⟩ := h
    have hfirst := isFirst_takeWhile hname
    rw [← String.toList_ofList (l := rest.takeWhile isNameChar)] at hfirst
    exact .token hfirst ih
  | case3 c rest h ih => exact ih.cons h

section

variable {vars : Variables} {text : String} {r : Reading}

theorem Reading.IsOf.eq_ofPieces (h : r.IsOf text.toList) : r = ofPieces (pieces text.toList) :=
  h.unique (isOf_ofPieces text.toList)

/-- The tokens of a text are those of its reading. -/
theorem Reading.IsOf.names_eq (h : r.IsOf text.toList) : r.names = tokens text := by
  rw [h.eq_ofPieces, Reading.names_ofPieces, tokens]

/-- Substitution fills the reading of a text with the texts of the variables. -/
theorem Reading.IsOf.rendered_eq (h : r.IsOf text.toList) {values : String → Json}
    (hvalues : ∀ name ∈ r.names, vars.get? name = some (values name)) :
    vars.rendered text = String.ofList (r.fill fun name => (values name).plainText.toList) := by
  rw [rendered, h.eq_ofPieces, Reading.fill_ofPieces]
  congr 1
  refine List.flatMap_congr fun piece hpiece => ?_
  cases piece with
  | literal c => rfl
  | token name =>
    have hname : String.ofList name ∈ r.names := by
      rw [h.names_eq]
      exact List.mem_filterMap.mpr ⟨_, hpiece, rfl⟩
    rw [pieceValue, hvalues _ hname]
    rfl

end

/-! ### Substitution by two scans -/

/-- The first scan: the names of the tokens, found one after the other. -/
def scanNames : List Char → List String
  | [] => []
  | c :: rest =>
    if c = '$' ∧ rest.takeWhile isNameChar ≠ [] then
      String.ofList (rest.takeWhile isNameChar) :: scanNames (rest.dropWhile isNameChar)
    else scanNames rest
termination_by text => text.length
decreasing_by
  · have := (List.dropWhile_sublist (l := rest) isNameChar).length_le
    simp only [List.length_cons]; omega
  · simp

/-- The second scan: the text with a text in the place of every token. -/
def scanReplace (value : String → List Char) : List Char → List Char
  | [] => []
  | c :: rest =>
    if c = '$' ∧ rest.takeWhile isNameChar ≠ [] then
      value (String.ofList (rest.takeWhile isNameChar))
        ++ scanReplace value (rest.dropWhile isNameChar)
    else c :: scanReplace value rest
termination_by text => text.length
decreasing_by
  · have := (List.dropWhile_sublist (l := rest) isNameChar).length_le
    simp only [List.length_cons]; omega
  · simp

theorem scanNames_eq (text : List Char) :
    scanNames text = (pieces text).filterMap Piece.name? := by
  fun_induction pieces text with
  | case1 => rw [scanNames]; rfl
  | case2 c rest h ih => rw [scanNames, if_pos h, ih]; rfl
  | case3 c rest h ih => rw [scanNames, if_neg h, ih]; rfl

theorem scanReplace_eq (value : String → List Char) (text : List Char) :
    scanReplace value text = (pieces text).flatMap (Reading.pieceText value) := by
  fun_induction pieces text with
  | case1 => rw [scanReplace]; rfl
  | case2 c rest h ih => rw [scanReplace, if_pos h, ih]; rfl
  | case3 c rest h ih => rw [scanReplace, if_neg h, ih]; rfl

/-- Looks up names one after the other. -/
def lookupAll (vars : Variables) : List String → Except UnboundVariable Unit
  | [] => .ok ()
  | name :: rest =>
    match vars.lookup name with
    | .ok _ => vars.lookupAll rest
    | .error e => .error e

/-- Substitution by two scans. A text without a dollar sign is not looked at. The second scan puts
`fallback` in the place of a token that is not bound. -/
def substituteByScans (fallback : List Char) (vars : Variables) (text : String) :
    Except UnboundVariable String :=
  if '$' ∈ text.toList then
    (vars.lookupAll (scanNames text.toList)).map fun _ =>
      String.ofList (scanReplace
        (fun name => ((vars.get? name).map fun value => value.plainText.toList).getD fallback)
        text.toList)
  else .ok text

theorem lookupAll_eq_provided (vars : Variables) (names : List String) :
    vars.lookupAll names = vars.provided names () := by
  induction names with
  | nil => rfl
  | cons name rest ih =>
    rw [lookupAll, lookup, provided, List.find?_cons]
    cases vars.get? name with
    | some value => exact ih
    | none => rfl

/-- A text without a dollar sign has no tokens. -/
theorem tokens_eq_nil {text : String} (h : '$' ∉ text.toList) : tokens text = [] := by
  refine List.eq_nil_iff_forall_not_mem.mpr fun name hname => ?_
  obtain ⟨before, after, htext, -⟩ := mem_tokens_iff.mp hname
  exact h (htext ▸ List.mem_append_right before List.mem_cons_self)

/-- Whatever the second scan puts in the place of a token that is not bound, the two scans come to
the same as substitution in one go. -/
theorem substituteByScans_eq (fallback : List Char) (vars : Variables) (text : String) :
    vars.substituteByScans fallback text = vars.substitute text := by
  rw [substitute_eq_provided, substituteByScans]
  split
  case isFalse hdollar =>
    rw [tokens_eq_nil hdollar, provided_nil, rendered_eq_self (tokens_eq_nil hdollar)]
  case isTrue =>
    rw [lookupAll_eq_provided, provided_map, scanNames_eq, ← tokens, scanReplace_eq]
    unfold provided
    split
    case h_1 name hfind => rfl
    case h_2 hfind =>
      -- All tokens are bound, so that no fallback is left.
      have hbound : ∀ name ∈ tokens text, (vars.get? name).isSome := fun name hname => by
        simpa [Option.isSome_iff_ne_none] using List.find?_eq_none.mp hfind name hname
      congr 2
      refine List.flatMap_congr fun piece hpiece => ?_
      cases piece with
      | literal c => rfl
      | token name =>
        have hname := hbound _ (List.mem_filterMap.mpr ⟨_, hpiece, rfl⟩)
        obtain ⟨value, hvalue⟩ := Option.isSome_iff_exists.mp hname
        rw [Reading.pieceText, pieceValue, hvalue]
        rfl

/-! ### The law -/

/-- What substitution makes of a text. -/
structure SubstitutionLaw (vars : Variables) (text : String) : Prop where
  /-- The text is read in exactly one way as literal texts and leftmost longest tokens. -/
  existsUnique : ∃! r : Reading, r.IsOf text.toList
  /-- Nothing is lost: with its tokens written back the reading is the text. -/
  written : ∀ r : Reading, r.IsOf text.toList →
    r.fill (fun name => '$' :: name.toList) = text.toList
  /-- No token stands in a literal text. -/
  literal : ∀ r : Reading, r.IsOf text.toList → ∀ literal ∈ r.literals, IsLiteral literal
  /-- Substitution fails at the first token that is not bound. -/
  error : ∀ r : Reading, r.IsOf text.toList → ∀ e, vars.substitute text = .error e ↔
    ∃ earlier later, r.names = earlier ++ e.name :: later ∧
      (∀ name ∈ earlier, ∃ value, vars.get? name = some value) ∧ vars.get? e.name = none
  /-- When all are bound, the texts of their values stand in their places, each as it is, between
  the literal texts, each as it was. -/
  ok : ∀ r : Reading, r.IsOf text.toList → ∀ values : String → Json,
    (∀ name ∈ r.names, vars.get? name = some (values name)) →
    vars.substitute text
      = .ok (String.ofList (r.fill fun name => (values name).plainText.toList))
  /-- Two scans, of which the first checks and the second replaces, come to the same, whatever the
  second would put in the place of a token that is not bound. -/
  scans : ∀ fallback, vars.substituteByScans fallback text = vars.substitute text

/-- **Law of substitution.** For every store and every text, substitution replaces the leftmost
longest tokens of the text in a single pass, fails at the first of them that is not bound, and never
falls back on anything else. -/
theorem substitutionLaw_substitute (vars : Variables) (text : String) :
    SubstitutionLaw vars text where
  existsUnique := ⟨_, isOf_ofPieces text.toList, fun r h => h.eq_ofPieces⟩
  written r h := h.fill_written
  literal r h := h.isLiteral
  error r h e := by
    simp only [substitute_eq_provided, h.names_eq, provided_eq_error_iff,
      Option.isSome_iff_exists]
  ok r h values hvalues := by
    have hbound : ∀ name ∈ tokens text, (vars.get? name).isSome := fun name hname => by
      rw [hvalues name (h.names_eq ▸ hname)]
      rfl
    rw [substitute_eq_provided, provided_eq_ok_iff]
    exact ⟨hbound, h.rendered_eq hvalues⟩
  scans fallback := substituteByScans_eq fallback vars text

/-- Dollar signs without a name stay, and the token in the new text is not replaced. -/
example : (Variables.empty.bind "a" (.string "$b")).substitute "$$a$" = .ok "$$b$" := by cbv

end ApiReplay.Variables
