import Logbook.Number.Literal
import Logbook.Toml.Basic

/-!
# Numbers, dates and truth values

A value that is neither text nor a container is one word, or two where a space stands between a date
and a time.

* `integer?`, `isFloat`, `isDate`, `isTime`: the kinds of words;
* **`scalar?`**: the value at the start of a text.
-/

namespace Logbook.Toml

/-- A character of a word. -/
def isWordChar (c : Char) : Bool := c.isAlphanum || ['+', '-', '.', '_', ':'].contains c

/-- A sign, and what follows it. -/
def signAndRest : List Char → Option Char × List Char
  | '+' :: cs => (some '+', cs)
  | '-' :: cs => (some '-', cs)
  | cs => (none, cs)

/-! ## Digits -/

/-- Digits in which underscores stand between two digits only, without the underscores. -/
def digitGroup? (isDigit : Char → Bool) : List Char → Option (List Char)
  | [] => none
  | [c] => if isDigit c then some [c] else none
  | c :: '_' :: rest => if isDigit c then (digitGroup? isDigit rest).map (c :: ·) else none
  | c :: d :: rest => if isDigit c then (digitGroup? isDigit (d :: rest)).map (c :: ·) else none

/-- Decimal digits without a zero in front. -/
def wholeDigits? (cs : List Char) : Option (List Char) :=
  match cs with
  | ['0'] => some ['0']
  | '0' :: _ => none
  | _ => digitGroup? Char.isDigit cs

/-- The number that digits of a base write. -/
def readBase (base : Nat) (cs : List Char) : Nat :=
  cs.foldl (fun n c => base * n + (Text.hexVal? c).getD 0) 0

/-- A digit of a base. -/
def isBaseDigit (base : Nat) (c : Char) : Bool := (Text.hexVal? c).any (· < base)

/-- A number in a base, below `2 ^ 63`. -/
def based? (base : Nat) (cs : List Char) : Option Int :=
  (digitGroup? (isBaseDigit base) cs).bind fun ds =>
    let n := readBase base ds
    if n < 0x8000000000000000 then some n else none

/-- A decimal number with an optional sign, from `-2 ^ 63` to below `2 ^ 63`. -/
def signed? (cs : List Char) : Option Int :=
  let (sign, rest) := signAndRest cs
  (wholeDigits? rest).bind fun ds =>
    let n : Int := if sign = some '-' then -(Text.readNat ds : Int) else Text.readNat ds
    if -0x8000000000000000 ≤ n ∧ n < 0x8000000000000000 then some n else none

/-- An integer. -/
def integer? : List Char → Option Int
  | '0' :: 'x' :: cs => based? 16 cs
  | '0' :: 'o' :: cs => based? 8 cs
  | '0' :: 'b' :: cs => based? 2 cs
  | cs => signed? cs

/-! ## Floats -/

/-- A fraction and an exponent, at least one of them. -/
def isFloatTail (cs : List Char) : Bool :=
  let isExponent := fun ds => (digitGroup? Char.isDigit (signAndRest ds).2).isSome
  match cs with
  | '.' :: rest =>
    let fraction := rest.takeWhile fun c => c.isDigit || c == '_'
    (digitGroup? Char.isDigit fraction).isSome
      && match rest.drop fraction.length with
        | [] => true
        | c :: ds => (c == 'e' || c == 'E') && isExponent ds
  | c :: ds => (c == 'e' || c == 'E') && isExponent ds
  | [] => false

/-- Whether a literal, which may hold underscores, is too large for a double. -/
def isTooLarge (cs : List Char) : Bool :=
  match Literal.toFloat? (cs.filter (· != '_')) with
  | some x => !x.isFinite && !Binary64.isNegative x
  | none => false

/-- A floating-point number; one that is not below the largest double has to be negative. -/
def isFloat (cs : List Char) : Bool :=
  let rest := (signAndRest cs).2
  let whole := rest.takeWhile fun c => c.isDigit || c == '_'
  rest == ['i', 'n', 'f'] || rest == ['n', 'a', 'n']
    || ((wholeDigits? whole).isSome && isFloatTail (rest.drop whole.length) && !isTooLarge cs)

/-! ## Dates -/

/-- Two digits at the start of a text, at most `most`. -/
def twoDigits? (most : Nat) : List Char → Option (Nat × List Char)
  | a :: b :: rest =>
    if a.isDigit && b.isDigit && Text.readNat [a, b] ≤ most then some (Text.readNat [a, b], rest)
    else none
  | _ => none

/-- The days of a month. -/
def monthDays (year month : Nat) : Nat :=
  if month = 2 then if year % 4 = 0 ∧ (year % 100 ≠ 0 ∨ year % 400 = 0) then 29 else 28
  else if month = 4 ∨ month = 6 ∨ month = 9 ∨ month = 11 then 30
  else 31

/-- What follows a date at the start of a text. -/
def dropDate? : List Char → Option (List Char)
  | a :: b :: c :: d :: '-' :: rest =>
    if [a, b, c, d].all Char.isDigit then
      match twoDigits? 12 rest with
      | some (month, '-' :: rest) =>
        match twoDigits? (monthDays (Text.readNat [a, b, c, d]) month) rest with
        | some (day, rest) => if 1 ≤ month ∧ 1 ≤ day then some rest else none
        | none => none
      | _ => none
    else none
  | _ => none

/-- What follows a fraction of a second. -/
def dropFraction? : List Char → Option (List Char)
  | '.' :: c :: rest => if c.isDigit then some (rest.dropWhile Char.isDigit) else none
  | '.' :: [] => none
  | cs => some cs

/-- What follows a time of day at the start of a text. -/
def dropTime? (cs : List Char) : Option (List Char) :=
  match twoDigits? 23 cs with
  | some (_, ':' :: cs) =>
    match twoDigits? 59 cs with
    | some (_, ':' :: cs) => (twoDigits? 60 cs).bind fun s => dropFraction? s.2
    | _ => none
  | _ => none

/-- A time of day. -/
def isTime (cs : List Char) : Bool := dropTime? cs == some []

/-- The difference from universal time. -/
def isOffset : List Char → Bool
  | ['Z'] => true
  | ['z'] => true
  | c :: cs =>
    (c == '+' || c == '-')
      && match twoDigits? 23 cs with
        | some (_, ':' :: cs) => (twoDigits? 59 cs).any fun m => m.2.isEmpty
        | _ => false
  | [] => false

/-- A time of day, and perhaps the difference from universal time. -/
def isOffsetTime (cs : List Char) : Bool :=
  match dropTime? cs with
  | some [] => true
  | some rest => isOffset rest
  | none => false

/-- A date, and perhaps a time behind a letter. -/
def isDate (cs : List Char) : Bool :=
  match dropDate? cs with
  | some [] => true
  | some (c :: rest) => (c == 'T' || c == 't') && isOffsetTime rest
  | none => false

/-! ## Words -/

/-- The value of a word. -/
def word? (cs : List Char) : Option Toml :=
  if cs = "true".toList ∨ cs = "false".toList then some .boolean
  else
    match integer? cs with
    | some n => some (.integer n)
    | none =>
      if isFloat cs then some .float
      else if isDate cs ∨ isTime cs then some .date
      else none

/-- **The value at the start of a text**, and what follows it. -/
def scalar? (cs : List Char) : Option (Toml × List Char) :=
  let word := cs.takeWhile isWordChar
  let rest := cs.dropWhile isWordChar
  match rest with
  | ' ' :: c :: more =>
    if dropDate? word == some [] && c.isDigit then
      let time := (c :: more).takeWhile isWordChar
      if isOffsetTime time then some (.date, (c :: more).dropWhile isWordChar) else none
    else (word? word).map (·, rest)
  | _ => (word? word).map (·, rest)

end Logbook.Toml
