/-!
# Lines

* `pieces`: the parts of a text between two occurrences of one character;
* `lines`: the parts between line feeds, each without one carriage return at its end;
* `lineRun`: the same without a last line that is empty;
* **`intercalate_pieces`**: the parts with that character between them are the text.
-/

namespace Logbook.Text

/-- The parts of a text between two occurrences of `sep`; there is always at least one. -/
def pieces (sep : Char) : List Char → List (List Char)
  | [] => [[]]
  | c :: cs =>
    if c = sep then [] :: pieces sep cs
    else
      match pieces sep cs with
      | [] => [[c]]
      | p :: ps => (c :: p) :: ps

/-- A line without one carriage return at its end. -/
def dropReturn (line : List Char) : List Char :=
  match line.getLast? with
  | some '\r' => line.dropLast
  | _ => line

/-- The lines of a text; a text that ends in a line feed has an empty last line. -/
def lines (cs : List Char) : List (List Char) := (pieces '\n' cs).map dropReturn

/-- The lines of a text in which a line feed ends a line and does not begin another one. -/
def lineRun (cs : List Char) : List (List Char) :=
  let ps := pieces '\n' cs
  match ps.getLast? with
  | some [] => ps.dropLast.map dropReturn
  | some last => ps.dropLast.map dropReturn ++ [last]
  | none => []

theorem pieces_ne_nil (sep : Char) (cs : List Char) : pieces sep cs ≠ [] := by
  cases cs with
  | nil => simp [pieces]
  | cons c cs =>
    unfold pieces
    split
    · simp
    · split <;> simp

/-- **The parts with the separator between them are the text.** -/
theorem intercalate_pieces (sep : Char) (cs : List Char) :
    [sep].intercalate (pieces sep cs) = cs := by
  induction cs with
  | nil => simp [pieces, List.intercalate]
  | cons c cs ih =>
    unfold pieces
    split
    · next h =>
      subst h
      cases hp : pieces c cs with
      | nil => exact absurd hp (pieces_ne_nil c cs)
      | cons p ps => rw [hp] at ih; simpa [List.intercalate] using ih
    · split
      · next hp => exact absurd hp (pieces_ne_nil sep cs)
      · next p ps hp =>
        rw [hp] at ih
        cases ps <;> simpa [List.intercalate] using ih

end Logbook.Text
