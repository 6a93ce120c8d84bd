/-!
# Tables of runs

Sets of characters are kept as texts. A run of characters that follow one another is written as the
number of characters left out before it and, behind a colon, its length where that is not one.

* `RunTable`: such texts by name;
* `readRuns`: the runs of a text, each by its first and its last character;
* `RunTable.runs?`: the runs of a name.
-/

namespace Logbook.Text

/-- Texts of runs, in several lines, by name. -/
abbrev RunTable := List (String × List String)

/-- Reads runs that each end with a blank. Behind the last run the text goes on at `place`; `gap`
and `count` are the numbers read so far for the next one. -/
def readRunsFrom : Nat → Nat → Option Nat → List Char → List (Nat × Nat)
  | _, _, _, [] => []
  | place, gap, count, c :: cs =>
    let digit := c.toNat - '0'.toNat
    if c = ' ' then
      let next := place + gap + count.getD 1
      (place + gap, next - 1) :: readRunsFrom next 0 none cs
    else if c = ':' then readRunsFrom place gap (some 0) cs
    else match count with
      | none => readRunsFrom place (10 * gap + digit) none cs
      | some n => readRunsFrom place gap (some (10 * n + digit)) cs

/-- The runs that lines of text stand for. -/
def readRuns (lines : List String) : List (Nat × Nat) :=
  readRunsFrom 0 0 none (lines.flatMap fun line => line.toList ++ [' '])

/-- The runs of a name. -/
def RunTable.runs? (t : RunTable) (name : String) : Option (List (Nat × Nat)) :=
  (t.find? fun e => e.1 == name).map fun e => readRuns e.2

/-- The runs of a name, none if the table does not have it. -/
def RunTable.runs (t : RunTable) (name : String) : List (Nat × Nat) := (t.runs? name).getD []

example : readRuns ["48:10 7:6", "26"] = [(48, 57), (65, 70), (97, 97)] := by decide

end Logbook.Text
