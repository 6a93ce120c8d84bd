import Logbook.Text.Search
import Logbook.View.Color

/-!
# Styled text

A report is a list of spans, each with a style. Written without colors it is the texts of the spans;
written with colors each styled span stands between a control sequence that switches its style on
and one that switches all styles off.

* `Style`, `Span`, `Document`: text and how it is shown;
* **`Document.render`**: the written form, with or without colors;
* **`Document.render_false`**: without colors only the texts are left.
-/

namespace Logbook.Report

/-- How strong a text is shown. -/
inductive Emphasis where
  | bold
  | dimmed
  deriving DecidableEq, Repr

/-- The color of letters. -/
inductive Ink where
  | black
  | red
  | yellow
  | cyan
  | gray
  deriving DecidableEq, Repr

/-- How a text is shown. -/
structure Style where
  emphasis : Option Emphasis := none
  ground : Option Rgb := none
  ink : Option Ink := none
  deriving DecidableEq, Repr

/-- The number of an emphasis in a control sequence. -/
def Emphasis.code : Emphasis → List Char
  | .bold => ['1']
  | .dimmed => ['2']

/-- The number of a color of letters in a control sequence. -/
def Ink.code : Ink → List Char
  | .black => ['3', '0']
  | .red => ['3', '1']
  | .yellow => ['3', '3']
  | .cyan => ['3', '6']
  | .gray => ['9', '0']

/-- The numbers of a background in a control sequence. -/
def groundCode (c : Rgb) : List Char :=
  "48;2;".toList ++ Text.decimal c.red.toNat ++ ';' :: Text.decimal c.green.toNat
    ++ ';' :: Text.decimal c.blue.toNat

namespace Style

/-- The numbers of a style. -/
def codes (s : Style) : List (List Char) :=
  (s.emphasis.map Emphasis.code).toList ++ (s.ground.map groundCode).toList
    ++ (s.ink.map Ink.code).toList

/-- What every control sequence starts with. -/
def introducer : List Char := ['\x1b', '[']

/-- The control sequence that switches a style on. -/
def switchOn (s : Style) : List Char := introducer ++ [';'].intercalate s.codes ++ ['m']

/-- The control sequence that switches all styles off. -/
def switchOff : List Char := introducer ++ ['0', 'm']

/-- A text between the control sequences of a style. Where the text itself switches all styles off,
its style is switched on again. -/
def wrap (s : Style) (text : List Char) : List Char :=
  s.switchOn ++ Text.replaceAll switchOff (switchOff ++ s.switchOn) text ++ switchOff

end Style

/-- A piece of text with its style. -/
structure Span where
  text : List Char
  style : Style := {}

/-- The written form of a span. -/
def Span.render (colored : Bool) (s : Span) : List Char :=
  if colored && !s.style.codes.isEmpty then s.style.wrap s.text else s.text

theorem Span.render_false (s : Span) : s.render false = s.text := by simp [Span.render]

theorem Span.render_unstyled (colored : Bool) (text : List Char) :
    Span.render colored { text } = text := by simp [Span.render, Style.codes]

/-- A report. -/
abbrev Document := List Span

namespace Document

/-- **The written form of a report.** -/
def render (colored : Bool) (d : Document) : List Char := d.flatMap (Span.render colored)

/-- The texts of a report. -/
def text (d : Document) : List Char := d.flatMap Span.text

theorem render_append (colored : Bool) (d e : Document) :
    render colored (d ++ e) = render colored d ++ render colored e := by simp [render]

/-- **Without colors only the texts are left.** -/
theorem render_false (d : Document) : render false d = d.text := by
  simp only [render, text]
  exact congrArg (List.flatMap · d) (funext Span.render_false)

end Document

end Logbook.Report
