import Logbook.Text.Units

/-!
# Paths

* `lastSegment`: what follows the last slash or backslash of a path;
* `logName`: the name of the log in a file, without an extension of at least three characters.
-/

namespace Logbook

/-- A slash or a backslash. -/
def isPathSeparator (c : Char) : Bool := c == '/' || c == '\\'

/-- The characters after the last one that satisfies `p`. -/
def afterLast (p : Char → Bool) (cs : List Char) : List Char :=
  (cs.reverse.takeWhile fun c => !p c).reverse

/-- The characters in front of the last one that satisfies `p`, if there is one. -/
def beforeLast? (p : Char → Bool) (cs : List Char) : Option (List Char) :=
  match cs.reverse.dropWhile fun c => !p c with
  | _ :: rest => some rest.reverse
  | [] => none

/-- What follows the last separator of a path. -/
def lastSegment (path : List Char) : List Char := afterLast isPathSeparator path

/-- The name of the log in a file: the name of the file, without its extension where both are at
least three bytes long. -/
def logName (path : String) : String :=
  let file := lastSegment path.toList
  match beforeLast? (· == '.') file with
  | some stem =>
    if 3 ≤ Text.byteSize stem ∧ Text.byteSize stem + 3 < Text.byteSize file then
      String.ofList stem
    else String.ofList file
  | none => String.ofList file

theorem not_isPathSeparator_of_mem_lastSegment {path : List Char} {c : Char}
    (h : c ∈ lastSegment path) : isPathSeparator c = false := by
  have hall := List.all_takeWhile (l := path.reverse) (p := fun c => !isPathSeparator c)
  have hc := List.all_eq_true.1 hall c (List.mem_reverse.1 h)
  simpa using hc

end Logbook
