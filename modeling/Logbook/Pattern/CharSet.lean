import Logbook.Text.Blank
import Logbook.Text.Category
import Logbook.Text.Folding
import Logbook.Text.PropertyTable

/-!
# Sets of characters

A set of characters is kept as its runs, in ascending order and apart from each other.

* `CharSet.ofRuns`: the set of any runs;
* `union`, `inter`, `diff`, `symmDiff`, `compl`: the operations on sets;
* `fold`, `foldAscii`: a set with the characters that differ in case alone;
* `digit`, `blank`, `word`: the sets of the class letters.
-/

namespace Logbook

/-- A set of characters: the first and the last character of each run. -/
structure CharSet where
  runs : List (Nat × Nat)
  deriving DecidableEq

namespace CharSet

/-! ## Runs -/

/-- Joins runs that meet or overlap; they are in the order of their first characters. -/
def joinRuns : List (Nat × Nat) → List (Nat × Nat)
  | r :: s :: rest =>
    if s.1 ≤ r.2 + 1 then joinRuns ((r.1, max r.2 s.2) :: rest) else r :: joinRuns (s :: rest)
  | runs => runs
termination_by runs => runs.length

/-- Whether a character is in one of the runs, which are in ascending order. -/
def runsContain : List (Nat × Nat) → Nat → Bool
  | [], _ => false
  | r :: rest, n => if n < r.1 then false else n ≤ r.2 || runsContain rest n

/-- The runs between runs in ascending order, from `first` on. -/
def gapsFrom (first : Nat) : List (Nat × Nat) → List (Nat × Nat)
  | [] => if first ≤ 0x10FFFF then [(first, 0x10FFFF)] else []
  | r :: rest =>
    if first < r.1 then (first, r.1 - 1) :: gapsFrom (r.2 + 1) rest else gapsFrom (r.2 + 1) rest

/-! ## Sets -/

/-- The set of the characters in any runs. -/
def ofRuns (runs : List (Nat × Nat)) : CharSet := ⟨joinRuns (runs.mergeSort fun r s => r.1 ≤ s.1)⟩

/-- The set of no character. -/
def empty : CharSet := ⟨[]⟩

/-- The set of all characters. -/
def all : CharSet := ⟨[(0, 0x10FFFF)]⟩

/-- The set of one character. -/
def single (c : Char) : CharSet := ⟨[(c.toNat, c.toNat)]⟩

/-- Whether a character is in the set. -/
def contains (s : CharSet) (c : Char) : Bool := runsContain s.runs c.toNat

/-- The only character of a set. -/
def onlyChar? (s : CharSet) : Option Char :=
  match s.runs with
  | [(a, b)] => if a = b then some (Char.ofNat a) else none
  | _ => none

/-- Whether there are only ASCII characters in the set. -/
def isAscii (s : CharSet) : Bool := s.runs.all fun r => r.2 < 0x80

/-- The characters of either set. -/
def union (s t : CharSet) : CharSet := ofRuns (s.runs ++ t.runs)

/-- The characters that are not in the set. -/
def compl (s : CharSet) : CharSet := ⟨gapsFrom 0 s.runs⟩

/-- The characters of both sets. -/
def inter (s t : CharSet) : CharSet := (s.compl.union t.compl).compl

/-- The characters of the first set alone. -/
def diff (s t : CharSet) : CharSet := s.inter t.compl

/-- The characters of just one of the sets. -/
def symmDiff (s t : CharSet) : CharSet := (s.union t).diff (s.inter t)

/-- The complement, if it is asked for. -/
def complIf (negated : Bool) (s : CharSet) : CharSet := if negated then s.compl else s

/-! ## Case -/

/-- The set with all characters that differ in case alone from one of it. -/
def fold (s : CharSet) : CharSet :=
  let met := Text.foldOrbits.filter fun orbit => orbit.any (runsContain s.runs)
  ofRuns (s.runs ++ met.flatMap fun orbit => orbit.map fun n => (n, n))

/-- The set with the other case of its ASCII letters. -/
def foldAscii (s : CharSet) : CharSet :=
  let letters := (List.range 26).filter fun k =>
    runsContain s.runs (0x41 + k) || runsContain s.runs (0x61 + k)
  ofRuns (s.runs ++ letters.flatMap fun k => [(0x41 + k, 0x41 + k), (0x61 + k, 0x61 + k)])

/-! ## Class letters -/

/-- The characters of some general categories and of some tabled properties. -/
def made (categories properties : List String) : CharSet :=
  ofRuns (Text.categoryRuns categories ++ properties.flatMap Text.propertyTable.runs)

/-- The categories of letters. -/
def letters : List String := ["Lu", "Ll", "Lt", "Lm", "Lo"]

/-- What makes letters of characters that are none by their category. -/
def otherAlphabetic : List String := ["otherlowercase", "otheruppercase", "otheralphabetic"]

/-- Decimal digits of every script. -/
def digit : CharSet := made ["Nd"] []

/-- Blanks. -/
def blank : CharSet := made [] ["whitespace"]

/-- Characters of words: letters, marks, digits, connectors and joiners. -/
def word : CharSet :=
  made (letters ++ ["Nl", "Mn", "Mc", "Me", "Nd", "Pc"]) (otherAlphabetic ++ ["joincontrol"])

end CharSet

end Logbook
