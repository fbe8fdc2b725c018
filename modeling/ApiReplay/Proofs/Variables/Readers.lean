import ApiReplay.Proofs.Path.Walks
import ApiReplay.Proofs.Path.Writing
import ApiReplay.Proofs.Variables.Substitution
import Mathlib.Data.List.TakeWhile

/-!
# The readers of a variable

A variable is read in three places, each with a way of its own to get at the name: an expected value
is a reference when the whole text is one, parameters hold references as tokens, and an expression
may start with one. On names made of the characters of names the three agree. They all fail when the
name is not bound. Otherwise the first reads the value, the second its text, and the third walks on
from it, whatever the last response is. The name `body` is the exception, since an expression that
starts with `$body` starts from the body.

## Main definitions

* `Variables.reference`: a dollar sign with a name.

## Main results

* `Variables.expand_reference`, `Variables.substitute_reference`, `Path.resolve_reference`: the
  three readers.
* `Variables.readers_agree`: they agree.
-/

namespace ApiReplay

namespace Variables

variable {name : String}

/-- A dollar sign with a name. -/
def reference (name : String) : String :=
  "$" ++ name

theorem toList_reference (name : String) : (reference name).toList = '$' :: name.toList := by
  rw [reference, String.toList_append]
  rfl

/-! ### Expected values -/

/-- A reference as an expected value stands for the value of its variable. -/
theorem expand_reference (hname : name ≠ "") (vars : Variables) :
    vars.expand (.string (reference name)) = vars.lookup name := by
  have hne : name.toList ≠ [] := fun hnil => hname (String.toList_eq_nil_iff.mp hnil)
  obtain ⟨c, rest, hchars⟩ := List.exists_cons_of_ne_nil hne
  have htext : (reference name).toList = '$' :: c :: rest := by rw [toList_reference, hchars]
  simp only [expand, htext]
  rw [← hchars, String.ofList_toList]

/-- Any expected value but a reference stands for itself. -/
theorem expand_eq_self (vars : Variables) {e : Json}
    (h : ∀ name, name ≠ "" → e ≠ .string (reference name)) : vars.expand e = .ok e := by
  unfold expand
  split
  case h_1 text =>
    split
    case h_1 c rest htext =>
      have hreference : text = reference (String.ofList (c :: rest)) := by
        apply String.toList_injective
        rw [htext, toList_reference, String.toList_ofList]
      exact absurd (congrArg Json.string hreference) (h _ (by simp))
    case h_2 => rfl
  case h_2 => rfl

/-! ### Parameters -/

/-- A reference is a single token. -/
theorem pieces_reference (hname : IsName name.toList) :
    pieces (reference name).toList = [.token name.toList] := by
  have htake : name.toList.takeWhile isNameChar = name.toList :=
    List.takeWhile_eq_self_iff.mpr hname.2
  have hdrop : name.toList.dropWhile isNameChar = [] :=
    List.dropWhile_eq_nil_iff.mpr hname.2
  rw [toList_reference, pieces, htake, hdrop, if_pos ⟨rfl, hname.1⟩, pieces]

/-- A reference as a parameter stands for the text of its variable. -/
theorem substitute_reference (hname : IsName name.toList) (vars : Variables) :
    vars.substitute (reference name) = (vars.lookup name).map Json.plainText := by
  rw [substitute, pieces_reference hname, pieceTexts, pieceText, pieceTexts, String.ofList_toList]
  cases vars.lookup name with
  | error e => rfl
  | ok value =>
    change Except.ok (String.ofList (value.plainText.toList ++ [])) = _
    rw [List.append_nil, String.ofList_toList]
    rfl

end Variables

/-! ### Expressions -/

namespace Path

open Variables (IsName reference)

variable {name : String}

/-- A name can be written as a variable. -/
theorem isWritable_variable (hname : IsName name.toList) :
    (Segment.variable name).IsWritable := by
  refine ⟨hname.1, fun hdot => ?_, fun hlast => ?_⟩
  · exact absurd (hname.2 '.' hdot) (by decide)
  · exact absurd (hname.2 '\\' (List.mem_of_getLast? hlast)) (by decide)

/-- An expression that starts with a reference is walked from the variable. -/
theorem resolve_reference (hname : IsName name.toList) (hbody : name ≠ "body") (vars : Variables)
    (response : Option Response) (rest : String) :
    resolve vars response (reference name ++ "." ++ rest)
      = walk vars (response.bind Response.body?) (.variable name :: segmentsOf rest.toList) := by
  have hchars : (reference name ++ "." ++ rest).toList
      = ('$' :: name.toList) ++ '.' :: rest.toList := by
    rw [String.toList_append, String.toList_append, Variables.toList_reference,
      List.append_assoc]
    rfl
  have hfirst : '$' :: name.toList ≠ bodyPiece := fun heq =>
    hbody (String.toList_injective (List.cons.inj heq).2)
  have hparse := parse_append_dot (isWritable_variable hname).isWhole hfirst rest.toList
  rw [Segment.ofPiece_chars (isWritable_variable hname)] at hparse
  have hexpr : reference name ++ "." ++ rest
      = String.ofList ((Segment.variable name).chars ++ '.' :: rest.toList) := by
    rw [← String.ofList_toList (s := reference name ++ "." ++ rest), hchars]
    rfl
  rw [resolve_of_dot (by rw [hchars]; simp), hexpr, hparse]

end Path

/-! ### Agreement -/

namespace Variables

open ApiReplay.Path (segmentsOf walk written)

/-- **The readers of a variable agree.** For every name other than `body`, all three fail with that
name when it is not bound. When it is bound to a value, an expected reference is that value, a
parameter is its text, and an expression goes on from it: along the segments that stand behind the
reference, in particular along every list of segments that can be written there. The response has
no part in this. -/
theorem readers_agree (name : String) (hname : IsName name.toList) (hbody : name ≠ "body")
    (vars : Variables) (response : Option Response) :
    (vars.get? name = none →
      vars.expand (.string (reference name)) = .error ⟨name⟩ ∧
      vars.bindParams (.string (reference name)) = .error ⟨name⟩ ∧
      ∀ rest, Path.resolve vars response (reference name ++ "." ++ rest) = .error ⟨name⟩) ∧
    ∀ value, vars.get? name = some value →
      vars.expand (.string (reference name)) = .ok value ∧
      vars.bindParams (.string (reference name)) = .ok (.string value.plainText) ∧
      (∀ rest, Path.resolve vars response (reference name ++ "." ++ rest)
        = walk vars (some value) (segmentsOf rest.toList)) ∧
      ∀ segments : List Path.Segment, (∀ s ∈ segments, s.IsWritable) →
        Path.resolve vars response (reference name ++ "." ++ String.ofList (written segments))
          = walk vars (some value) segments := by
  have hne : name ≠ "" := fun heq => hname.1 (by rw [heq]; rfl)
  rw [expand_reference hne, bindParams, substitute_reference hname]
  simp only [Path.resolve_reference hname hbody]
  constructor
  · intro hnone
    have hlookup : vars.lookup name = .error ⟨name⟩ := by rw [lookup, hnone]
    refine ⟨hlookup, by rw [hlookup]; rfl, fun rest => ?_⟩
    rw [walk, hlookup]
  · intro value hvalue
    have hlookup : vars.lookup name = .ok value := by rw [lookup, hvalue]
    refine ⟨hlookup, by rw [hlookup]; rfl, fun rest => Path.walk_cons_variable hvalue,
      fun segments hsegments => ?_⟩
    rw [Path.walk_cons_variable hvalue, String.toList_ofList, Path.segmentsOf_written hsegments]

/-- A name of digits and a hyphen, with a key behind it that has a dot, and a name that is not
bound. -/
theorem readers_agree_of_digits :
    let value : Json := .object [("a.b", .bool true)]
    let vars := Variables.empty.bind "0-7" value
    vars.expand (.string "$0-7") = .ok value ∧
      vars.bindParams (.string "$0-7") = .ok (.string "\x7b\"a.b\":true\x7d") ∧
      Path.resolve vars none "$0-7.a\\.b" = .ok (some (.bool true)) ∧
      Path.resolve vars none "$07.a\\.b" = .error ⟨"07"⟩ := by
  intro value vars
  have hname : IsName "0-7".toList ∧ IsName "07".toList :=
    ⟨⟨by decide, List.all_eq_true.mp rfl⟩, by decide, List.all_eq_true.mp rfl⟩
  have hwritable : (Path.Segment.key "a.b").IsWritable :=
    ⟨by decide, by decide, by decide, by decide⟩
  obtain ⟨hexpand, hparams, -, hpath⟩ :=
    (readers_agree "0-7" hname.1 (by decide) vars none).2 value rfl
  obtain ⟨-, -, hunbound⟩ := (readers_agree "07" hname.2 (by decide) vars none).1 rfl
  have hwalk := hpath [.key "a.b"] (by simpa using hwritable)
  exact ⟨hexpand, hparams, hwalk, hunbound "a\\.b"⟩

end Variables

end ApiReplay
