/-!
# Text styles

A terminal shows text in a style that a control sequence switches on and another one switches off.
Where the text itself switches styles off, its own style is switched on again behind that.

## Main definitions

* `Report.Color`, `Report.Style`: the styles.
* `Report.Style.apply`: a text in a style.
-/

namespace ApiReplay.Report

/-- The colors of text. -/
inductive Color where
  | red
  | green
  | yellow
  | cyan
  | white

/-- The code of a color. -/
def Color.code : Color → String
  | red => "31"
  | green => "32"
  | yellow => "33"
  | cyan => "36"
  | white => "37"

/-- A style of text. -/
structure Style where
  bold : Bool := false
  dimmed : Bool := false
  color : Option Color := none

namespace Style

/-- The text of a color. -/
def colored (color : Color) : Style := { color }

/-- The text of a color, in bold. -/
def strong (color : Color) : Style := { bold := true, color }

/-- The codes of a style. -/
def codes (s : Style) : List String :=
  (if s.bold then ["1"] else []) ++ (if s.dimmed then ["2"] else [])
    ++ (s.color.map Color.code).toList

/-- The sequence that switches a style on. -/
def start (s : Style) : List Char :=
  '\x1b' :: '[' :: ((String.intercalate ";" s.codes).toList ++ ['m'])

/-- The sequence that switches styles off. -/
def stop : List Char :=
  ['\x1b', '[', '0', 'm']

/-- A text with the style switched on again wherever the text switches it off. -/
def resume (s : Style) : List Char → List Char
  | '\x1b' :: '[' :: '0' :: 'm' :: rest => stop ++ s.start ++ resume s rest
  | c :: rest => c :: resume s rest
  | [] => []

/-- A text in a style. -/
def apply (s : Style) (text : String) : String :=
  String.ofList (s.start ++ s.resume text.toList ++ stop)

end Style

end ApiReplay.Report
