import Logbook.Expr.Argument
import Logbook.Pattern.Matcher
import Logbook.Pattern.Reader
import Logbook.Text.Search
import Logbook.Text.CaseMap
import Logbook.Text.Units

/-!
# Methods of texts

Positions in a text count characters.

* `TextMethod`, `TextMethod.ofName?`: the methods;
* `TextMethod.apply`: what a method gives for a text and arguments.
-/

namespace Logbook.Expr

/-- The methods of texts. -/
inductive TextMethod where
  | identity
  | startsWith
  | endsWith
  | includes
  | indexOf
  | lastIndexOf
  | slice
  | substring
  | charAt
  | item
  | toLowerCase
  | toUpperCase
  | trim
  | trimStart
  | trimEnd
  | split
  | replace
  | replaceAll
  | matchPattern
  | search
  | repeated
  | padStart
  | padEnd
  | concat
  deriving DecidableEq, Repr

namespace TextMethod

/-- The method of that name. -/
def ofName? : String → Option TextMethod
  | "toString" | "valueOf" => some identity
  | "startsWith" => some startsWith
  | "endsWith" => some endsWith
  | "includes" => some includes
  | "indexOf" => some indexOf
  | "lastIndexOf" => some lastIndexOf
  | "slice" => some slice
  | "substring" => some substring
  | "charAt" => some charAt
  | "at" => some item
  | "toLowerCase" => some toLowerCase
  | "toUpperCase" => some toUpperCase
  | "trim" => some trim
  | "trimStart" => some trimStart
  | "trimEnd" => some trimEnd
  | "split" => some split
  | "replace" => some replace
  | "replaceAll" => some replaceAll
  | "match" => some matchPattern
  | "search" => some search
  | "repeat" => some repeated
  | "padStart" => some padStart
  | "padEnd" => some padEnd
  | "concat" => some concat
  | _ => none

/-- The longest text that a method builds. -/
def maxBuilt : Nat := 0x100000

/-- A text for each character. -/
def characters (cs : List Char) : List Value := cs.map fun c => .ofChars [c]

/-- Whether `p` is found at a position that a number names. -/
def startsAt (p cs : List Char) (x : Float) : Bool :=
  p.isPrefixOf (cs.drop (absoluteIndex x cs.length))

/-- Whether `p` ends at a position that a number names. -/
def endsAt (p cs : List Char) (x : Float) : Bool :=
  p.isSuffixOf (cs.take (absoluteIndex x cs.length))

/-- The characters between two positions, of which a negative one counts from the end. -/
def sliceText (cs : List Char) (a b : Float) : List Char :=
  sliceOf cs (relativeIndex a cs.length) (relativeIndex b cs.length)

/-- The characters between two positions, which may come in either order. -/
def substringText (cs : List Char) (a b : Float) : List Char :=
  let a := absoluteIndex a cs.length
  let b := absoluteIndex b cs.length
  sliceOf cs (min a b) (max a b)

/-- The character at a position, or nothing; NaN is the first position. -/
def charText (cs : List Char) (x : Float) : List Char :=
  let i := if x.isNaN then some 0 else Binary64.integerPart? x
  match i with
  | some n => if n < 0 then [] else (cs[n.toNat]?).toList
  | none => []

/-- The pieces of a text: all of it where there is no separator, its characters where that is
empty. -/
def splitText (cs : List Char) (separator : Value) : List Value :=
  match separator with
  | .undefined => [.ofChars cs]
  | v =>
    match v.displayChars with
    | [] => characters cs
    | p => (Text.splitOn p cs).map .ofChars

/-- The first match of a pattern. -/
def searchPattern (cs pattern : List Char) :
    Except RunError (Option (List (Option (Nat × Nat)))) :=
  match Pattern.ofText? pattern with
  | some p => .ok (p.search? cs)
  | none => .error (.argument .pattern)

/-- The texts of the groups of a match, or `null`. -/
def groupTexts (cs : List Char) : Option (List (Option (Nat × Nat))) → Value
  | none => .null
  | some groups => .arr <| groups.map fun
    | some (a, b) => .ofChars (sliceOf cs a b)
    | none => .undefined

/-- The place of a match. -/
def matchPlace : Option (List (Option (Nat × Nat))) → Value
  | some (some (a, _) :: _) => .ofNat a
  | _ => position none

/-- A text so many times. -/
def repeatText (cs : List Char) (x : Float) : Except RunError (List Char) :=
  match Binary64.integerPart? x with
  | some n =>
    if x < 0 then .error (.argument (.repeatCount x))
    else if maxBuilt < Text.byteSize cs * n.toNat then .error (.argument .repeatTooLong)
    else .ok (if cs.isEmpty then [] else (List.replicate n.toNat cs).flatten)
  | none => .error (.argument (.repeatCount x))

/-- So many characters of a text that goes on from its start again and again. -/
def cycled (fill : List Char) (n : Nat) : List Char :=
  ((List.replicate (n / fill.length + 1) fill).flatten).take n

/-- The characters that are missing to a length. -/
def paddingFor (method : String) (cs : List Char) (args : Arguments) :
    Except RunError (List Char) :=
  let target := args.number 0 (Binary64.ofNat 0)
  if Binary64.ofNat maxBuilt < target then .error (.argument (.padTooLong method))
  else
    let target := absoluteIndex target maxBuilt
    let fill := match args.value 1 with
      | .undefined => [' ']
      | v => v.displayChars
    .ok (if target ≤ cs.length || fill.isEmpty then [] else cycled fill (target - cs.length))

/-- **What a method gives.** -/
def apply (m : TextMethod) (cs : List Char) (args : Arguments) : Except RunError Value :=
  let zero := Binary64.ofNat 0
  let len := Binary64.ofNat cs.length
  match m with
  | identity => .ok (.ofChars cs)
  | startsWith => .ok (.bool (startsAt (args.text 0) cs (args.number 1 zero)))
  | endsWith => .ok (.bool (endsAt (args.text 0) cs (args.number 1 len)))
  | includes => .ok (.bool (Text.indexOf? (args.text 0) cs).isSome)
  | indexOf => .ok (position (Text.indexOf? (args.text 0) cs))
  | lastIndexOf => .ok (position (Text.lastIndexOf? (args.text 0) cs))
  | slice => .ok (.ofChars (sliceText cs (args.number 0 zero) (args.number 1 len)))
  | substring => .ok (.ofChars (substringText cs (args.number 0 zero) (args.number 1 len)))
  | charAt => .ok (.ofChars (charText cs (args.number 0 zero)))
  | item =>
    .ok (match itemAt? cs (args.number 0 zero) with
      | some c => .ofChars [c]
      | none => .undefined)
  | toLowerCase => .ok (.ofChars (Text.lower cs))
  | toUpperCase => .ok (.ofChars (Text.upper cs))
  | trim => .ok (.ofChars (Text.trim cs))
  | trimStart => .ok (.ofChars (Text.trimStart cs))
  | trimEnd => .ok (.ofChars (Text.trimEnd cs))
  | split =>
    let parts := splitText cs (args.value 0)
    .ok (.arr (parts.take (absoluteIndex (args.number 1 Binary64.infinity) parts.length)))
  | replace => .ok (.ofChars (Text.replaceFirst (args.text 0) (args.text 1) cs))
  | replaceAll =>
    if (args.text 0).isEmpty then .error (.argument .emptyPattern)
    else .ok (.ofChars (Text.replaceAll (args.text 0) (args.text 1) cs))
  | matchPattern => (searchPattern cs (args.text 0)).map (groupTexts cs)
  | search => (searchPattern cs (args.text 0)).map matchPlace
  | repeated => (repeatText cs (args.number 0 zero)).map .ofChars
  | padStart => (paddingFor "padStart" cs args).map fun padding => .ofChars (padding ++ cs)
  | padEnd => (paddingFor "padEnd" cs args).map fun padding => .ofChars (cs ++ padding)
  | concat => .ok (.ofChars (cs ++ args.values.flatMap Value.displayChars))

end TextMethod

end Logbook.Expr
