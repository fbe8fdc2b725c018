import ApiReplay.Http.Url
import ApiReplay.Proofs.Http.Escaping
import Mathlib.Data.List.TakeDrop

/-!
# Paths in addresses

A path is put behind the address of a service as it is, and the text that results is read as an
address. Reading leaves a path alone, but for escapes, when there is nothing in it that reading takes
for something else: the signs of a query and of a fragment, backslashes, which count as slashes,
what is dropped from all texts, and parts of dots, which stand for other places. A percent sign is
left alone as well, but then the path cannot be told from others any more.

## Main definitions

* `Http.IsPlain`: the paths that reading leaves alone.
* `Http.Serves`: the addresses of services.

## Main results

* `Http.path_of_parse?`: the path of an address that is a service's with a plain path behind it.
* `Http.count_escapeWhere_path`: escapes bring no slashes into a path.
-/

namespace ApiReplay.Http

/-- There is nothing in a path that would be taken for something else in an address. -/
structure IsPlain (path : List Char) : Prop where
  rooted : path.head? = some '/'
  chars : ∀ c ∈ path, c ∉ ['?', '#', '\\', '%', '\t', '\n', '\r']
  visible : ∀ c ∈ path.getLast?, 0x20 < c.toNat
  parts : ∀ part ∈ path.splitOn '/', part ≠ ['.'] ∧ part ≠ ['.', '.']

/-- The address of a service: a scheme, whom it names, and the path in front of all others. -/
structure Serves (address scheme place front : List Char) : Prop where
  shape : address = scheme ++ ':' :: '/' :: '/' :: (place ++ front)
  scheme : scheme = "http".toList ∨ scheme = "https".toList
  named : place ≠ []
  place : ∀ c ∈ place, 0x20 < c.toNat ∧ c ∉ ['/', '\\', '?', '#']

/-! ### Escapes -/

/-- An escaped character is written in percent signs and hexadecimal digits. -/
theorem mem_escapeChar {c x : Char} (h : x ∈ escapeChar c) : x = '%' ∨ x.isAlphanum := by
  have hsign : ∀ n < 16, (hexSign n).isAlphanum := by decide
  rw [escapeChar, List.mem_flatMap] at h
  obtain ⟨b, _, hx⟩ := h
  have hb : b.toNat < 256 := UInt8.toNat_lt_size b
  simp only [escapeByte, List.mem_cons, List.not_mem_nil, or_false] at hx
  rcases hx with rfl | rfl | rfl
  · exact .inl rfl
  · exact .inr (hsign _ (by omega))
  · exact .inr (hsign _ (by omega))

/-- A sign that an escaped text holds as it is occurs there as often as before. -/
theorem count_escapeWhere {escaped : Char → Bool} {sign : Char} (hkept : escaped sign = false)
    (hsign : sign ≠ '%' ∧ ¬ sign.isAlphanum) (text : List Char) :
    (escapeWhere escaped text).count sign = text.count sign := by
  induction text with
  | nil => rfl
  | cons c rest ih =>
    rw [escapeWhere] at ih ⊢
    rw [List.flatMap_cons, List.count_append, ih, List.count_cons, Nat.add_comm]
    congr 1
    split
    case isTrue hc =>
      have hne : c ≠ sign := by
        rintro rfl
        rw [hkept] at hc
        cases hc
      have hmem : sign ∉ escapeChar c := fun h =>
        (mem_escapeChar h).elim hsign.1 hsign.2
      rw [List.count_eq_zero.mpr hmem, if_neg (by simpa using hne)]
    case isFalse => rw [List.count_singleton]

theorem count_escapeWhere_path (path : List Char) :
    (escapeWhere isPathEscaped path).count '/' = path.count '/' :=
  count_escapeWhere (by decide) (by decide) path

/-- An escaped text does not hold a sign that is escaped. -/
theorem not_mem_escapeWhere {escaped : Char → Bool} {sign : Char} (hescaped : escaped sign)
    (hsign : sign ≠ '%' ∧ ¬ sign.isAlphanum) (text : List Char) :
    sign ∉ escapeWhere escaped text := by
  intro h
  rw [escapeWhere, List.mem_flatMap] at h
  obtain ⟨c, _, hc⟩ := h
  split at hc
  case isTrue => exact (mem_escapeChar hc).elim hsign.1 hsign.2
  case isFalse hkept =>
    obtain rfl := List.mem_singleton.mp hc
    exact hkept hescaped

/-! ### Parts of dots -/

/-- A text that is taken for dots, however they are written, stands for the bytes of dots. -/
theorem unescape_of_dotsOf {text : List Char} {n : Nat}
    (h : Url.dotsOf text = List.replicate n '.') :
    unescape text = (List.replicate n '.').flatMap String.utf8EncodeChar := by
  induction text using Url.dotsOf.induct generalizing n with
  | case1 x rest ih =>
    rw [Url.dotsOf] at h
    split at h
    case isTrue hx =>
      obtain ⟨m, rfl⟩ : ∃ m, n = m + 1 := Nat.exists_eq_succ_of_ne_zero (by rintro rfl; cases h)
      rw [List.replicate_succ, List.singleton_append, List.cons.injEq] at h
      have hsign : Text.hexValue? x = some 14 := by
        rcases hx with rfl | rfl <;> rfl
      rw [unescape, hsign, show Text.hexValue? '2' = some 2 from rfl, ih h.2,
        List.replicate_succ, List.flatMap_cons]
      rfl
    case isFalse =>
      cases n <;> cases h
  | case2 c rest hescape ih =>
    rw [Url.dotsOf.eq_2 _ _ hescape] at h
    obtain ⟨m, rfl⟩ : ∃ m, n = m + 1 := Nat.exists_eq_succ_of_ne_zero (by rintro rfl; cases h)
    rw [List.replicate_succ, List.cons.injEq] at h
    obtain ⟨rfl, hrest⟩ := h
    rw [unescape_cons (by decide), ih hrest, List.replicate_succ, List.flatMap_cons]
  | case3 =>
    obtain rfl : n = 0 := by simpa [Url.dotsOf] using h.symm
    rw [unescape]
    rfl

/-- A part without percent signs is not taken for dots unless it is made of them. -/
theorem eq_replicate_of_dotsOf {part : List Char} {n : Nat} (hpart : '%' ∉ part)
    (h : Url.dotsOf (escapeWhere isPathEscaped part) = List.replicate n '.') :
    part = List.replicate n '.' := by
  have hbytes := unescape_of_dotsOf h
  rw [unescape_escapeWhere _ hpart] at hbytes
  exact flatMap_utf8EncodeChar_injective hbytes

/-- Parts that are not taken for dots all stay. -/
theorem resolveParts_eq {parts : List (List Char)}
    (h : ∀ part ∈ parts, Url.dotsOf part ≠ ['.'] ∧ Url.dotsOf part ≠ ['.', '.'])
    (before : List (List Char)) :
    Url.resolveParts before parts = before.reverse ++ parts := by
  induction parts generalizing before with
  | nil => rw [Url.resolveParts, List.append_nil]
  | cons part rest ih =>
    obtain ⟨⟨hone, htwo⟩, hrest⟩ := List.forall_mem_cons.mp h
    have hkept : Url.resolveParts before (part :: rest)
        = Url.resolveParts (part :: before) rest := by
      rw [Url.resolveParts]
      split
      case h_1 heq => exact absurd heq hone
      case h_2 heq => exact absurd heq htwo
      case h_3 => rfl
    rw [hkept, ih hrest, List.reverse_cons, List.append_assoc, List.singleton_append]

/-! ### Plain paths -/

/-- The parts of a path, each behind a slash, are the path. -/
theorem flatMap_splitOn (rest : List Char) :
    (rest.splitOn '/').flatMap ('/' :: ·) = '/' :: rest := by
  induction rest with
  | nil => rfl
  | cons c rest ih =>
    obtain ⟨part, more, hparts⟩ := List.exists_cons_of_ne_nil (List.splitOn_ne_nil '/' rest)
    rw [hparts, List.flatMap_cons, List.cons_append, List.cons.injEq] at ih
    rw [List.splitOn_cons_eq_if_modifyHead, hparts]
    split
    case isTrue hslash =>
      rw [List.flatMap_cons, List.flatMap_cons, List.cons_append, List.cons_append, ih.2,
        eq_of_beq hslash]
      rfl
    case isFalse =>
      rw [List.modifyHead_cons, List.flatMap_cons, List.cons_append, List.cons_append, ih.2]

/-- Escaping a path escapes its parts. -/
theorem flatMap_map_escapeWhere (parts : List (List Char)) :
    (parts.map (escapeWhere isPathEscaped)).flatMap ('/' :: ·)
      = escapeWhere isPathEscaped (parts.flatMap ('/' :: ·)) := by
  rw [List.flatMap_map, escapeWhere, List.flatMap_assoc]
  rfl

/-- A plain path is left alone, but for escapes. -/
theorem IsPlain.pathOf_eq {path : List Char} (h : IsPlain path) :
    Url.pathOf true [] (path.drop 1) = escapeWhere isPathEscaped path := by
  obtain ⟨rest, rfl⟩ := List.head?_eq_some_iff.mp h.rooted
  have hslashed : rest.map (fun c => if Url.isSlash true c then '/' else c) = rest := by
    refine (List.map_congr_left fun c hc => ?_).trans (List.map_id rest)
    have hback : c ≠ '\\' := by
      rintro rfl
      exact h.chars '\\' (List.mem_cons_of_mem _ hc) (by decide)
    by_cases hslash : c = '/'
    · simp [hslash]
    · simp [Url.isSlash, hslash, hback]
  have hpercent : '%' ∉ '/' :: rest := fun hmem => h.chars '%' hmem (by decide)
  have hkept : ∀ part ∈ (rest.splitOn '/').map (escapeWhere isPathEscaped),
      Url.dotsOf part ≠ ['.'] ∧ Url.dotsOf part ≠ ['.', '.'] := by
    intro escapedPart hmem
    obtain ⟨part, hpart, rfl⟩ := List.mem_map.mp hmem
    have hparts := h.parts part (by
      rw [List.splitOn_cons_eq_if_modifyHead, if_pos (by rfl)]
      exact List.mem_cons_of_mem _ hpart)
    have hclean : '%' ∉ part := fun hc => hpercent (by
      rw [← flatMap_splitOn, List.mem_flatMap]
      exact ⟨part, hpart, List.mem_cons_of_mem _ hc⟩)
    exact ⟨fun hone => hparts.1 (eq_replicate_of_dotsOf (n := 1) hclean hone),
      fun htwo => hparts.2 (eq_replicate_of_dotsOf (n := 2) hclean htwo)⟩
  simp only [Url.pathOf, List.drop_one, List.tail_cons]
  rw [hslashed, resolveParts_eq hkept, List.reverse_nil, List.nil_append,
    flatMap_map_escapeWhere, flatMap_splitOn]

/-! ### Addresses with a path behind them -/

/-- A text that starts and ends with what counts, and holds nothing that is dropped, is read as it
is. -/
theorem clean_eq_self {text : List Char} (hhead : ∀ c ∈ text.head?, 0x20 < c.toNat)
    (hlast : ∀ c ∈ text.getLast?, 0x20 < c.toNat)
    (hkept : ∀ c ∈ text, c ≠ '\t' ∧ c ≠ '\n' ∧ c ≠ '\r') : Url.clean text = text := by
  have hdrop : ∀ part : List Char, (∀ c ∈ part.head?, 0x20 < c.toNat) →
      part.dropWhile (fun c => c.toNat ≤ 0x20) = part := by
    intro part hpart
    cases part with
    | nil => rfl
    | cons c rest =>
      have hc := hpart c rfl
      exact List.dropWhile_cons_of_neg (by simpa using hc)
  have hback : ∀ c ∈ text.reverse.head?, 0x20 < c.toNat := by
    rwa [List.head?_reverse]
  simp only [Url.clean]
  rw [hdrop text hhead, hdrop text.reverse hback, List.reverse_reverse]
  refine List.filter_eq_self.mpr fun c hc => ?_
  simpa [and_assoc] using hkept c hc

theorem cutAt_append {stop : Char → Bool} {front behind : List Char}
    (hfront : ∀ c ∈ front, stop c = false) (hbehind : ∀ c ∈ behind.head?, stop c) :
    Url.cutAt stop (front ++ behind) = (front, behind) := by
  rw [Url.cutAt, List.span_eq_takeWhile_dropWhile]
  have hpos : ∀ c ∈ front, (!stop c) = true := fun c hc => by rw [hfront c hc]; rfl
  rw [List.takeWhile_append_of_pos hpos, List.dropWhile_append_of_pos hpos]
  cases behind with
  | nil => simp
  | cons c rest =>
    have hc : stop c = true := hbehind c rfl
    simp [hc]

/-- A service is read as its scheme and what follows. -/
theorem Serves.splitScheme? {address scheme place front : List Char}
    (h : Serves address scheme place front) (path : List Char) :
    Url.splitScheme? (address ++ path)
      = some (scheme, '/' :: '/' :: (place ++ (front ++ path))) := by
  rw [h.shape]
  rcases h.scheme with rfl | rfl <;> simp [Url.splitScheme?]

/-- Behind its scheme a service is read as whom it names and the path. -/
theorem Serves.path_of_withAuthority? {address scheme place front : List Char}
    (h : Serves address scheme place front) {path : List Char} (hpath : IsPlain path) {url : Url}
    (hurl : Url.withAuthority? scheme (place ++ path) = some url) :
    url.path = escapeWhere isPathEscaped path := by
  have hspecial : Url.isSpecial scheme = true ∧ Url.isLocal scheme = false := by
    rcases h.scheme with rfl | rfl <;> decide
  have hplace : Url.cutAt (fun c => Url.isSlash true c || c = '?' || c = '#') (place ++ path)
      = (place, path) := by
    refine cutAt_append (fun c hc => ?_) fun c hc => ?_
    · have hsigns := (h.place c hc).2
      simp_all [Url.isSlash]
    · rw [hpath.rooted] at hc
      obtain rfl := Option.some.inj hc
      rfl
  have htail : Url.cutAt (fun c => c = '?' || c = '#') (path ++ []) = (path, []) := by
    refine cutAt_append (fun c hc => ?_) (by simp)
    have hsigns := hpath.chars c hc
    simp_all
  rw [List.append_nil] at htail
  have hne : path.isEmpty = false := by
    obtain ⟨rest, rfl⟩ := List.head?_eq_some_iff.mp hpath.rooted
    rfl
  simp only [Url.withAuthority?, hspecial, hplace, htail, hne, Option.bind_eq_bind] at hurl
  obtain ⟨authority, _, hurl⟩ := Option.bind_eq_some_iff.mp hurl
  obtain rfl := Option.some.inj hurl
  simpa using hpath.pathOf_eq

/-- Nothing of a service with a plain path behind it is dropped. -/
theorem Serves.clean_eq_self {address scheme place front path : List Char}
    (h : Serves address scheme place front) (hpath : IsPlain (front ++ path)) :
    Url.clean (address ++ path) = address ++ path := by
  have hscheme : ∀ c ∈ scheme, 0x20 < c.toNat := by
    rcases h.scheme with rfl | rfl <;> simp
  have hvisible : ∀ c ∈ scheme ++ ':' :: '/' :: '/' :: place, 0x20 < c.toNat := by
    simp only [List.forall_mem_append, List.forall_mem_cons]
    exact ⟨hscheme, by decide, by decide, by decide, fun c hc => (h.place c hc).1⟩
  have hsplit : address ++ path = (scheme ++ ':' :: '/' :: '/' :: place) ++ (front ++ path) := by
    rw [h.shape]
    simp
  rw [hsplit]
  refine Http.clean_eq_self (fun c hc => ?head) (fun c hc => ?last) fun c hc => ?kept
  case head =>
    rw [List.head?_append_of_ne_nil _ (by simp)] at hc
    exact hvisible c (List.mem_of_mem_head? hc)
  case last =>
    have hne : front ++ path ≠ [] := fun hnil => by
      have hrooted := hpath.rooted
      rw [hnil] at hrooted
      cases hrooted
    rw [List.getLast?_append_of_ne_nil _ hne] at hc
    exact hpath.visible c hc
  case kept =>
    rcases List.mem_append.mp hc with hc | hc
    · have hc := hvisible c hc
      refine ⟨?_, ?_, ?_⟩ <;> rintro rfl <;> exact absurd hc (by decide)
    · have hsigns := hpath.chars c hc
      simp_all

/-- **Plain paths reach the server.** The path of an address that is a service's with a plain path
behind it is that path, escaped. -/
theorem Serves.path_of_parse? {address scheme place front path : List Char}
    (h : Serves address scheme place front) (hpath : IsPlain (front ++ path)) {url : Url}
    (hurl : Url.parse? (address ++ path) = some url) :
    url.path = escapeWhere isPathEscaped (front ++ path) := by
  have hspecial : Url.isLocal scheme = false ∧ Url.isSpecial scheme = true := by
    rcases h.scheme with rfl | rfl <;> decide
  have hdrop : ('/' :: '/' :: (place ++ (front ++ path))).dropWhile (Url.isSlash true)
      = place ++ (front ++ path) := by
    obtain ⟨c, more, rfl⟩ := List.exists_cons_of_ne_nil h.named
    have hsigns := (h.place c List.mem_cons_self).2
    have hc : Url.isSlash true c = false := by simp_all [Url.isSlash]
    rw [List.dropWhile_cons_of_pos (by rfl), List.dropWhile_cons_of_pos (by rfl),
      List.cons_append, List.dropWhile_cons_of_neg (by simp [hc])]
  rw [Url.parse?, h.clean_eq_self hpath, h.splitScheme?, Option.bind_some] at hurl
  simp only [Url.absolute?, hspecial, hdrop] at hurl
  exact h.path_of_withAuthority? hpath hurl

end ApiReplay.Http
