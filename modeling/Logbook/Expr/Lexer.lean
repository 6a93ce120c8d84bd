import Logbook.Expr.Error
import Logbook.Text.Blank

/-!
# From text to tokens

Blanks separate tokens; of the marks the longest one counts. Columns count characters from 1.

* `readText`: the rest of a quoted text, with its escapes;
* `readNumber`: a number, hexadecimal or decimal;
* `readMark`: a mark;
* **`tokenize`**: the tokens of a text.
-/

namespace Logbook.Expr

/-- What a reader takes from a text: a result, how many characters it is written with, and the
rest. -/
structure Taken (α : Type) where
  result : α
  size : Nat
  rest : List Char

/-! ## Quoted texts -/

/-- The character of an escape by number, whose letter stands at `column`. -/
def numberedEscape (column : Nat) (digits : List Char) : Except CompileError Char :=
  match Text.readHex? 0x100000000 digits with
  | some v => if v.isValidChar then .ok (Char.ofNat v) else .error (.at column .malformedEscape)
  | none => .error (.at column .malformedEscape)

/-- The character of an escape by letter; most characters stand for themselves. -/
def letterEscape (c : Char) : Char :=
  if c = 'n' then '\n' else if c = 't' then '\t' else if c = 'r' then '\r'
  else if c = '0' then '\x00' else c

/-- Puts a character in front of a text that was taken, written with `n` more characters. -/
def Taken.cons (c : Char) (n : Nat) (t : Taken (List Char)) : Taken (List Char) :=
  { t with result := c :: t.result, size := t.size + n }

/-- The text up to the closing quote. The quote that opens it stands at column `start`, and
`column` is that of the next character. -/
def readText (quote : Char) (start : Nat) :
    Nat → List Char → Except CompileError (Taken (List Char))
  | _, [] => .error (.at start .unterminatedText)
  | _, ['\\'] => .error (.at start .unterminatedText)
  | column, '\\' :: 'x' :: a :: b :: rest => do
    let c ← numberedEscape (column + 1) [a, b]
    (readText quote start (column + 4) rest).map (·.cons c 4)
  | column, '\\' :: 'x' :: _ => .error (.at (column + 1) .malformedEscape)
  | column, '\\' :: 'u' :: a :: b :: c :: d :: rest => do
    let e ← numberedEscape (column + 1) [a, b, c, d]
    (readText quote start (column + 6) rest).map (·.cons e 6)
  | column, '\\' :: 'u' :: _ => .error (.at (column + 1) .malformedEscape)
  | column, '\\' :: c :: rest =>
    (readText quote start (column + 2) rest).map (·.cons (letterEscape c) 2)
  | column, c :: rest =>
    if c = quote then .ok ⟨[], 1, rest⟩
    else (readText quote start (column + 1) rest).map (·.cons c 1)

/-! ## Numbers -/

/-- An exponent at the start of a text, where a digit follows its letter and its sign. -/
def takeExponent (cs : List Char) : List Char × List Char :=
  match cs with
  | e :: rest =>
    if e = 'e' ∨ e = 'E' then
      let sign := (rest.take 1).filter fun c => c == '+' || c == '-'
      let rest := rest.drop sign.length
      let digits := rest.takeWhile Char.isDigit
      if digits.isEmpty then ([], cs) else (e :: (sign ++ digits), rest.dropWhile Char.isDigit)
    else ([], cs)
  | [] => ([], cs)

/-- A fraction at the start of a text, perhaps without digits. -/
def takeFraction (cs : List Char) : List Char × List Char :=
  match cs with
  | '.' :: rest => ('.' :: rest.takeWhile Char.isDigit, rest.dropWhile Char.isDigit)
  | _ => ([], cs)

/-- The longest decimal literal at the start of a text. -/
def takeLiteral (cs : List Char) : List Char × List Char :=
  let whole := cs.takeWhile Char.isDigit
  let (fraction, rest) := takeFraction (cs.dropWhile Char.isDigit)
  let (exponent, rest) := takeExponent rest
  (whole ++ fraction ++ exponent, rest)

/-- A number at the start of a text, which stands at `column`. -/
def readNumber (column : Nat) (cs : List Char) : Except CompileError (Taken Float) :=
  match hexDigits? cs with
  | some rest =>
    let digits := rest.takeWhile Text.isHex
    match Text.readHex? 0x10000000000000000 digits with
    | some n => .ok ⟨Binary64.ofNat n, digits.length + 2, rest.dropWhile Text.isHex⟩
    | none => .error (.at column .malformedHex)
  | none =>
    let (text, rest) := takeLiteral cs
    if (rest.take 1).any isNameStart then .error (.at (column + text.length) .nameAfterNumber)
    else
      match Literal.toFloat? text with
      | some x => .ok ⟨x, text.length, rest⟩
      | none => .error (.at column (.malformedNumber (String.ofList text)))

/-! ## Marks -/

/-- Characters that mean something elsewhere and nothing here. -/
def unsupported : List Char := ['\x7b', '\x7d', ';', '=']

/-- A mark at the start of `c :: rest`, which stands at `column`. A question mark in front of a
number that starts with its point is no chain. -/
def readMark (column : Nat) (c : Char) (rest : List Char) : Except CompileError (Taken Mark) :=
  match Mark.all.find? fun m => m.text.toList.isPrefixOf (c :: rest) with
  | some m =>
    if m = .chain ∧ ((rest.drop 1).take 1).any Char.isDigit then .ok ⟨.question, 1, rest⟩
    else .ok ⟨m, m.text.length, rest.drop (m.text.length - 1)⟩
  | none =>
    .error (.at column (if unsupported.contains c then .unsupported c else .unexpectedChar c))

/-! ## All tokens -/

/-- Whether `c :: rest` starts with a number. -/
def startsNumber (c : Char) (rest : List Char) : Bool :=
  c.isDigit || (c == '.' && (rest.take 1).any Char.isDigit)

/-- The token at the start of `c :: rest`, which stands at `column` and is no blank. -/
def readToken (column : Nat) (c : Char) (rest : List Char) : Except CompileError (Taken Token) :=
  if startsNumber c rest then do
    let t ← readNumber column (c :: rest)
    .ok ⟨.number t.result, t.size, t.rest⟩
  else if c = '\'' ∨ c = '"' then do
    let t ← readText c column (column + 1) rest
    .ok ⟨.text (String.ofList t.result), t.size + 1, t.rest⟩
  else if isNameStart c then
    let name := c :: rest.takeWhile isNamePart
    .ok ⟨.name (String.ofList name), name.length, rest.dropWhile isNamePart⟩
  else do
    let t ← readMark column c rest
    .ok ⟨.mark t.result, t.size, t.rest⟩

/-- The tokens of a text whose first character stands at `column`; each step takes at least one
character, so as many steps as characters are enough. -/
def tokensFrom : Nat → Nat → List Char → Except CompileError (List Placed)
  | 0, _, _ => .ok []
  | _ + 1, _, [] => .ok []
  | fuel + 1, column, c :: rest =>
    if Text.isBlank c then tokensFrom fuel (column + 1) rest
    else do
      let t ← readToken column c rest
      let more ← tokensFrom fuel (column + t.size) t.rest
      .ok (⟨t.result, column⟩ :: more)

/-- **The tokens of a text.** -/
def tokenize (cs : List Char) : Except CompileError (List Placed) := tokensFrom cs.length 1 cs

end Logbook.Expr
