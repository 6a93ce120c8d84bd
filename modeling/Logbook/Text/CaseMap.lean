import Logbook.Text.CaseTable

/-!
# Upper and lower case

The case maps of Unicode, without regard to a language. A sigma at the end of a word has a lower
case of its own.

* `inRanges`: membership in a table of runs;
* `lowerOf`, `upperOf`: the other case of one character, one or several characters;
* `lower`, `upper`: the other case of a text.
-/

namespace Logbook.Text

/-- Whether `n` lies in one of the runs. -/
def inRanges (table : List (Nat × Nat)) (n : Nat) : Bool :=
  table.any fun r => r.1 ≤ n && n ≤ r.2

/-- The other case of `c` by a table of runs and a table of single characters. -/
def mapCase (runs : List CaseRun) (words : List (Nat × List Nat)) (c : Char) : List Char :=
  let n := c.toNat
  match words.find? (·.1 == n) with
  | some w => w.2.map Char.ofNat
  | none =>
    match runs.find? fun r => r.first ≤ n && n ≤ r.last && (n - r.first) % r.step == 0 with
    | some r => [Char.ofNat ((n : Int) + r.shift).toNat]
    | none => [c]

/-- The lower case of one character. -/
def lowerOf (c : Char) : List Char := mapCase lowerRuns lowerWords c

/-- The upper case of one character. -/
def upperOf (c : Char) : List Char := mapCase upperRuns upperWords c

/-- A letter with case. -/
def isCased (c : Char) : Bool := inRanges casedRanges c.toNat

/-- A character that does not separate a letter from its word. -/
def isCaseIgnorable (c : Char) : Bool := inRanges caseIgnorableRanges c.toNat

/-- Whether the next character that counts is a letter with case. -/
def meetsCased (cs : List Char) : Bool :=
  match cs.dropWhile isCaseIgnorable with
  | [] => false
  | c :: _ => isCased c

/-- The lower case of `rest`, with the characters `before` it nearest first. -/
def lowerFrom (before : List Char) : List Char → List Char
  | [] => []
  | c :: rest =>
    let this :=
      if c = 'Σ' then if meetsCased before && !meetsCased rest then ['ς'] else ['σ']
      else lowerOf c
    this ++ lowerFrom (c :: before) rest

/-- The lower case of a text. -/
def lower (cs : List Char) : List Char := lowerFrom [] cs

/-- The upper case of a text. -/
def upper (cs : List Char) : List Char := cs.flatMap upperOf

end Logbook.Text
