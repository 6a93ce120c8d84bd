import Logbook.Proofs.Expr.Spelling
import Logbook.Proofs.Number.Bits
import Logbook.Proofs.Number.Literals

/-!
# Tokens in a line

Tokens are written one after the other with a single space between two of them, and are read back,
each at the place where it was written.

* `Lexeme`: a token as it is written, a text with a backslash in front of each quote and backslash;
* `spells_lexeme`: it is one of the ways to write its token;
* `line`: lexemes with single spaces between them, `before`: what stands in front of the next one;
* **`tokenize_line`**: the tokens of a line, with their columns.
-/

namespace Logbook.Expr

/-- A token as it is written: a name, a mark, a number in decimal digits, or a text between single
quotes. -/
inductive Lexeme where
  | name (n : String) (h : IsName n)
  | mark (m : Mark)
  | integer (ds : List Char) (n : Nat) (h : Text.Writes ds n)
  | text (s : String)

/-- A text with a backslash in front of each single quote and of each backslash. -/
def guarded (cs : List Char) : List Char :=
  cs.flatMap fun c => if c = '\'' ∨ c = '\\' then ['\\', c] else [c]

namespace Lexeme

/-- The characters that a token is written with. -/
def chars : Lexeme → List Char
  | name n _ => n.toList
  | mark m => m.text.toList
  | integer ds _ _ => ds
  | text s => '\'' :: (guarded s.toList ++ ['\''])

/-- The token itself. -/
def token : Lexeme → Token
  | name n _ => .name n
  | mark m => .mark m
  | integer _ n _ => .number (Binary64.ofNat n)
  | text s => .text s

/-- Lexemes with single spaces between them. -/
def line (ls : List Lexeme) : List Char := [' '].intercalate (ls.map chars)

/-- What stands in front of the lexeme that follows these. -/
def before (ls : List Lexeme) : List Char := ls.flatMap fun l => l.chars ++ [' ']

end Lexeme

/-! ## Spellings -/

theorem quoted_guarded (cs : List Char) : Quoted '\'' (guarded cs) cs := by
  induction cs with
  | nil => exact .nil
  | cons c cs ih =>
    rw [guarded, List.flatMap_cons]
    split
    · next hc =>
      obtain rfl | rfl := hc
      · exact .letter (c := '\'') (by decide) (by decide) ih
      · exact .letter (c := '\\') (by decide) (by decide) ih
    · next hc =>
      obtain ⟨hquote, hslash⟩ := not_or.1 hc
      exact .plain hquote hslash ih

theorem isDecimal_of_writes {ds : List Char} {n : Nat} (h : Text.Writes ds n) : IsDecimal ds :=
  ⟨ds, [], [], by simp, h.isDigit, .inl rfl, .inl rfl, .inl h.ne_nil⟩

theorem toFloat?_of_writes {ds : List Char} {n : Nat} (h : Text.Writes ds n) :
    Literal.toFloat? ds = some (Binary64.ofNat n) := by
  have hwritten : Literal.Written ds ⟨false, ds, [], none⟩ := by
    have hwritten := Literal.Written.intro (l := ⟨false, ds, [], none⟩) .none h.isDigit .none .none
      (.inl h.ne_nil)
    simpa using hwritten
  rw [Literal.toFloat?, Literal.read?_eq_some_iff.2 hwritten]
  simp [Literal.value, h.readNat, nearestDecimal_zero]

theorem spells_lexeme (l : Lexeme) : Spells l.token l.chars := by
  cases l with
  | name n h => exact .name h
  | mark m => exact .mark m
  | integer ds n h => exact .number (isDecimal_of_writes h) (toFloat?_of_writes h)
  | text s =>
    have hspells := Spells.text (.inl rfl) (quoted_guarded s.toList)
    rwa [String.ofList_toList] at hspells

/-! ## Lines -/

namespace Lexeme

theorem line_cons_cons (l l' : Lexeme) (ls : List Lexeme) :
    line (l :: l' :: ls) = l.chars ++ ' ' :: line (l' :: ls) := by
  simp [line, List.intercalate]

@[simp] theorem before_nil : before [] = [] := rfl

@[simp] theorem before_cons (l : Lexeme) (ls : List Lexeme) :
    before (l :: ls) = l.chars ++ ' ' :: before ls := by
  simp [before]

/-- Each lexeme stands in its line behind those before it. -/
theorem line_of_getElem? {ls : List Lexeme} {i : Nat} {l : Lexeme} (h : ls[i]? = some l) :
    ∃ after, line ls = before (ls.take i) ++ (l.chars ++ after) := by
  induction ls generalizing i with
  | nil => simp at h
  | cons first ls ih =>
    cases i with
    | zero =>
      obtain rfl : first = l := by simpa using h
      cases ls with
      | nil => exact ⟨[], by simp [line]⟩
      | cons next ls => exact ⟨' ' :: line (next :: ls), by simp [line_cons_cons]⟩
    | succ i =>
      rw [List.getElem?_cons_succ] at h
      obtain ⟨after, hafter⟩ := ih h
      cases ls with
      | nil => simp at h
      | cons next ls => exact ⟨after, by rw [line_cons_cons, hafter]; simp⟩

end Lexeme

open Lexeme

theorem tokensFrom_append (l : Lexeme) {tail : List Char} (htail : Ends tail) (column : Nat)
    {fuel : Nat} (h : (l.chars ++ tail).length ≤ fuel) :
    ∃ left, tail.length ≤ left ∧ tokensFrom fuel column (l.chars ++ tail) =
      (tokensFrom left (column + l.chars.length) tail).map (⟨l.token, column⟩ :: ·) := by
  obtain ⟨c, cs, hchars, hblank, hread⟩ := readToken_append (spells_lexeme l) htail column
  rw [hchars] at h hread ⊢
  simp only [List.cons_append, List.length_cons, List.length_append] at h
  obtain ⟨fuel, rfl⟩ : ∃ k, fuel = k + 1 := ⟨fuel - 1, by omega⟩
  refine ⟨fuel, by omega, ?_⟩
  simp only [List.cons_append, tokensFrom, hblank, hread, Bool.false_eq_true, if_false, bind,
    Except.bind]
  cases tokensFrom fuel (column + (c :: cs).length) tail <;> rfl

/-- The tokens of a line whose first character stands at `column`. -/
theorem tokensFrom_line (ls : List Lexeme) (column : Nat) {fuel : Nat}
    (h : (line ls).length ≤ fuel) : tokensFrom fuel column (line ls) =
      .ok (ls.mapIdx fun i l => ⟨l.token, column + (before (ls.take i)).length⟩) := by
  induction ls generalizing fuel column with
  | nil => cases fuel <;> rfl
  | cons l ls ih =>
    cases ls with
    | nil =>
      have hline : line [l] = l.chars ++ [] := by simp [line]
      rw [hline] at h ⊢
      obtain ⟨left, -, hrest⟩ := @tokensFrom_append l [] nofun column _ h
      rw [hrest]
      cases left <;> rfl
    | cons next ls =>
      rw [line_cons_cons] at h ⊢
      have hends : Ends (' ' :: line (next :: ls)) := by rintro _ ⟨⟩; decide
      obtain ⟨left, hleft, hrest⟩ := tokensFrom_append l hends column h
      rw [List.length_cons] at hleft
      obtain ⟨left, rfl⟩ : ∃ k, left = k + 1 := ⟨left - 1, by omega⟩
      -- the space between the two is passed over
      have hspace : tokensFrom (left + 1) (column + l.chars.length) (' ' :: line (next :: ls)) =
          tokensFrom left (column + l.chars.length + 1) (line (next :: ls)) := rfl
      rw [hrest, hspace, ih _ (by omega), List.mapIdx_cons]
      simp [Except.map, Nat.add_assoc, Nat.add_comm, Nat.add_left_comm]

/-- **The tokens of a line**: they are the tokens that were written, and the column of each one is
the place, counted from 1, where it was written. -/
theorem tokenize_line (ls : List Lexeme) :
    tokenize (line ls) = .ok (ls.mapIdx fun i l => ⟨l.token, (before (ls.take i)).length + 1⟩) ∧
    ∀ i : Fin ls.length, ∃ after, line ls = before (ls.take i) ++ (ls[i].chars ++ after) := by
  refine ⟨?_, fun i => line_of_getElem? (by simp)⟩
  rw [tokenize, tokensFrom_line ls 1 (Nat.le_refl _)]
  simp only [Nat.add_comm 1]

end Logbook.Expr
