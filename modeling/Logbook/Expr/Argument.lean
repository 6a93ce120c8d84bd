import Logbook.Expr.Error
import Logbook.Value.Relation

/-!
# Arguments of calls

An argument is a value or an arrow function. A missing argument, and an arrow function where a value
is wanted, read as `undefined`.

* `Arrow`, `Argument`, `Arguments`: what is passed in a call;
* `Arguments.value`, `Arguments.number`, `Arguments.text`, `Arguments.arrow`: one of them;
* `position`, `relativeIndex`, `absoluteIndex`, `itemAt?`: positions in a list given by numbers.
-/

namespace Logbook.Expr

/-- An arrow function, applied to the values of its parameters. -/
abbrev Arrow := List Value → Except RunError Value

/-- An argument. -/
inductive Argument where
  | value (v : Value)
  | arrow (f : Arrow)

/-- The arguments of a call. -/
abbrev Arguments := List Argument

/-- An argument as a value. -/
def Argument.toValue : Argument → Value
  | .value v => v
  | .arrow _ => .undefined

namespace Arguments

/-- The value of argument `i`. -/
def value (args : Arguments) (i : Nat) : Value :=
  match args[i]? with
  | some a => a.toValue
  | none => .undefined

/-- All arguments as values. -/
def values (args : Arguments) : List Value := args.map Argument.toValue

/-- The number of argument `i`, or `default` where that is `undefined`. -/
def number (args : Arguments) (i : Nat) (default : Float) : Float :=
  match args.value i with
  | .undefined => default
  | v => v.toNumber

/-- The text of argument `i`. -/
def text (args : Arguments) (i : Nat) : List Char := (args.value i).displayChars

/-- The arrow function that argument `i` has to be. -/
def arrow (args : Arguments) (i : Nat) (method : String) : Except RunError Arrow :=
  match args[i]? with
  | some (.arrow f) => .ok f
  | _ => .error (.type (.expectsArrow method))

end Arguments

/-! ## Positions -/

/-- A position, or -1. -/
def position : Option Nat → Value
  | some i => .ofNat i
  | none => .num (Binary64.ofInt (-1))

/-- The integer part of a number, moved into the bounds where it lies outside; NaN is zero. -/
def wholeWithin (low high : Int) (x : Float) : Int :=
  if x.isNaN then 0
  else
    match Binary64.integerPart? x with
    | some n => max low (min n high)
    | none => if Binary64.isNegative x then low else high

/-- The position that a number names in a list of `len` items; a negative one counts from the
end. -/
def relativeIndex (x : Float) (len : Nat) : Nat :=
  let p := wholeWithin (-len) len x
  if p < 0 then (len + p).toNat else p.toNat

/-- The position that a number names, counted from the start. -/
def absoluteIndex (x : Float) (len : Nat) : Nat := (wholeWithin 0 len x).toNat

/-- The item at the position that a number names; a negative one counts from the end. -/
def itemAt? {α : Type} (xs : List α) (x : Float) : Option α :=
  match Binary64.integerPart? x with
  | some n =>
    let n := if n < 0 then n + xs.length else n
    if n < 0 then none else xs[n.toNat]?
  | none => none

/-- The items from one position to another one. -/
def sliceOf {α : Type} (xs : List α) (start stop : Nat) : List α := (xs.take stop).drop start

theorem relativeIndex_le (x : Float) (len : Nat) : relativeIndex x len ≤ len := by
  have h : wholeWithin (-len) len x ≤ len := by
    unfold wholeWithin
    split
    · omega
    · split
      · omega
      · split <;> omega
  unfold relativeIndex
  simp only
  split <;> omega

theorem absoluteIndex_le (x : Float) (len : Nat) : absoluteIndex x len ≤ len := by
  have h : wholeWithin 0 len x ≤ len := by
    unfold wholeWithin
    split
    · omega
    · split
      · omega
      · split <;> omega
  unfold absoluteIndex
  omega

end Logbook.Expr
