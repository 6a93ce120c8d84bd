import Logbook.Text.Digit
import Logbook.Toml.Scalar

/-!
# Reading configuration text

* `basicText?`, `literalText?`, `longText?`, `longLiteralText?`: texts between quotes;
* `keyPath?`: the parts of a key;
* `Reader.value?`: a value; containers are nested less than eighty levels deep;
* **`Toml.parse?`**: the entries of a whole text.
-/

namespace Logbook.Toml

/-! ## Blanks and comments -/

/-- A space or a tab. -/
def isBlank (c : Char) : Bool := c == ' ' || c == '\t'

/-- Without blanks at the start. -/
def dropBlanks (cs : List Char) : List Char := cs.dropWhile isBlank

/-- What follows a line break at the start of a text. -/
def dropBreak? : List Char → Option (List Char)
  | '\n' :: cs => some cs
  | '\r' :: '\n' :: cs => some cs
  | _ => none

/-- A character that may stand on a line: a tab, or no control character. -/
def isLineChar (c : Char) : Bool := c == '\t' || (0x20 ≤ c.toNat && c.toNat != 0x7F)

/-- What follows the end of a line, with blanks and a comment ahead of it. -/
def dropLineEnd? (cs : List Char) : Option (List Char) :=
  let rest := match dropBlanks cs with
    | '#' :: rest => rest.dropWhile isLineChar
    | rest => rest
  if rest.isEmpty then some [] else dropBreak? rest

/-- What follows blanks, line breaks and comments; none if a comment does not end a line. -/
def dropGaps? (inComment : Bool) : List Char → Option (List Char)
  | [] => if inComment then none else some []
  | '\n' :: cs => dropGaps? false cs
  | '\r' :: '\n' :: cs => dropGaps? false cs
  | c :: cs =>
    if inComment then if isLineChar c then dropGaps? true cs else none
    else if isBlank c then dropGaps? false cs
    else if c = '#' then dropGaps? true cs
    else some (c :: cs)

/-! ## Texts -/

/-- A text and what follows it. -/
abbrev TextAndRest := Option (List Char × List Char)

/-- A character in front of a text. -/
def withChar (c : Char) (t : TextAndRest) : TextAndRest := t.map fun p => (c :: p.1, p.2)

/-- The character with the number that hexadecimal digits write. -/
def hexChar? (ds : List Char) : Option Char :=
  let n := Text.readHexDigits ds
  if ds.all Text.isHex && n.isValidChar then some (Char.ofNat n) else none

/-- The character that a letter stands for behind a backslash. -/
def escapeOf? : Char → Option Char
  | 'b' => some '\x08'
  | 't' => some '\t'
  | 'n' => some '\n'
  | 'f' => some '\x0c'
  | 'r' => some '\r'
  | '"' => some '"'
  | '\\' => some '\\'
  | _ => none

/-- A character given by some digits in front of a text. -/
def withHex (ds : List Char) (t : TextAndRest) : TextAndRest :=
  match hexChar? ds with
  | some c => withChar c t
  | none => none

/-- A text up to its closing quote, with escapes. -/
def basicText? : List Char → TextAndRest
  | [] => none
  | '"' :: rest => some ([], rest)
  | '\\' :: 'u' :: a :: b :: c :: d :: rest => withHex [a, b, c, d] (basicText? rest)
  | '\\' :: 'U' :: a :: b :: c :: d :: e :: f :: g :: h :: rest =>
    withHex [a, b, c, d, e, f, g, h] (basicText? rest)
  | '\\' :: x :: rest =>
    match escapeOf? x with
    | some c => withChar c (basicText? rest)
    | none => none
  | c :: rest => if isLineChar c && c != '\\' then withChar c (basicText? rest) else none

/-- A text up to its closing apostrophe, as it stands. -/
def literalText? (cs : List Char) : TextAndRest :=
  match cs.dropWhile fun c => isLineChar c && c != '\'' with
  | '\'' :: rest => some (cs.takeWhile fun c => isLineChar c && c != '\'', rest)
  | _ => none

/-- The end of a text of several lines: up to two quotes ahead of the three that close it belong to
the text. -/
def closeLong? (quote : Char) (cs : List Char) : TextAndRest :=
  let n := min 5 (cs.takeWhile (· == quote)).length
  if 3 ≤ n then some (List.replicate (n - 3) quote, cs.drop n) else none

/-- A text of several lines up to its closing quotes. A backslash at the end of a line takes away
what follows up to the next character that is no blank and no line break. -/
def longText? (skipping : Bool) : List Char → TextAndRest
  | [] => none
  | '\n' :: rest => if skipping then longText? true rest else withChar '\n' (longText? false rest)
  | '\r' :: '\n' :: rest =>
    if skipping then longText? true rest else withChar '\n' (longText? false rest)
  | '"' :: rest =>
    match closeLong? '"' ('"' :: rest) with
    | some r => some r
    | none => withChar '"' (longText? false rest)
  | '\\' :: 'u' :: a :: b :: c :: d :: rest => withHex [a, b, c, d] (longText? false rest)
  | '\\' :: 'U' :: a :: b :: c :: d :: e :: f :: g :: h :: rest =>
    withHex [a, b, c, d, e, f, g, h] (longText? false rest)
  | '\\' :: x :: rest =>
    match escapeOf? x with
    | some c => withChar c (longText? false rest)
    | none =>
      if (dropBreak? (dropBlanks (x :: rest))).isSome then longText? true (x :: rest) else none
  | c :: rest =>
    if skipping && isBlank c then longText? true rest
    else if isLineChar c && c != '\\' then withChar c (longText? false rest)
    else none

/-- A text of several lines up to its closing apostrophes, as it stands. -/
def longLiteralText? : List Char → TextAndRest
  | [] => none
  | '\n' :: rest => withChar '\n' (longLiteralText? rest)
  | '\r' :: '\n' :: rest => withChar '\n' (longLiteralText? rest)
  | '\'' :: rest =>
    match closeLong? '\'' ('\'' :: rest) with
    | some r => some r
    | none => withChar '\'' (longLiteralText? rest)
  | c :: rest => if isLineChar c then withChar c (longLiteralText? rest) else none

/-- Without a line break at the start. -/
def dropFirstBreak (cs : List Char) : List Char := (dropBreak? cs).getD cs

/-- A text on one line. -/
def shortQuoted? : List Char → TextAndRest
  | '"' :: rest => basicText? rest
  | '\'' :: rest => literalText? rest
  | _ => none

/-- A text. -/
def quoted? : List Char → TextAndRest
  | '"' :: '"' :: '"' :: rest => longText? false (dropFirstBreak rest)
  | '\'' :: '\'' :: '\'' :: rest => longLiteralText? (dropFirstBreak rest)
  | cs => shortQuoted? cs

/-! ## Keys -/

/-- A character of a key without quotes. -/
def isKeyChar (c : Char) : Bool := c.isAlphanum || c == '-' || c == '_'

/-- One part of a key. -/
def keyPart? (cs : List Char) : TextAndRest :=
  let bare := cs.takeWhile isKeyChar
  if bare.isEmpty then shortQuoted? cs else some (bare, cs.dropWhile isKeyChar)

/-- How deep containers are nested at most, and how many parts a key has. -/
def maxNesting : Nat := 79

/-- The parts of a key, at most `most` of them, and what follows the blanks behind it. -/
def keyPath? : Nat → List Char → Option (List String × List Char)
  | 0, _ => none
  | most + 1, cs =>
    match keyPart? (dropBlanks cs) with
    | none => none
    | some (part, rest) =>
      match dropBlanks rest with
      | '.' :: rest => (keyPath? most rest).map fun p => (String.ofList part :: p.1, p.2)
      | rest => some ([String.ofList part], rest)

/-- A key and the equals sign behind it. -/
def keyAndEquals? (cs : List Char) : Option (List String × List Char) :=
  match keyPath? maxNesting cs with
  | some (path, '=' :: rest) => some (path, dropBlanks rest)
  | _ => none

/-! ## Values -/

namespace Reader

mutual

/-- The value at the start of a text, in which containers are nested `depth` levels deep at most. -/
def value? : Nat → Nat → List Char → Option (Toml × List Char)
  | 0, _, _ => none
  | fuel + 1, depth, cs =>
    match cs, depth with
    | '[' :: rest, depth + 1 => (items? fuel depth rest).map fun p => (.array p.1, p.2)
    | '\x7b' :: rest, depth + 1 =>
      match dropBlanks rest with
      | '\x7d' :: rest => some (.table .inline [], rest)
      | rest => (pairs? fuel depth [] rest).map fun p => (.table .inline p.1, p.2)
    | '"' :: _, _ => (quoted? cs).map fun p => (.text (String.ofList p.1), p.2)
    | '\'' :: _, _ => (quoted? cs).map fun p => (.text (String.ofList p.1), p.2)
    | _, _ => scalar? cs

/-- The items of an array up to its bracket. -/
def items? : Nat → Nat → List Char → Option (List Toml × List Char)
  | 0, _, _ => none
  | fuel + 1, depth, cs =>
    match dropGaps? false cs with
    | none => none
    | some (']' :: rest) => some ([], rest)
    | some cs =>
      match value? fuel depth cs with
      | none => none
      | some (v, rest) =>
        match dropGaps? false rest with
        | some (',' :: rest) => (items? fuel depth rest).map fun p => (v :: p.1, p.2)
        | some (']' :: rest) => some ([v], rest)
        | _ => none

/-- The entries of a table between braces, after those in `t`. -/
def pairs? : Nat → Nat → Entries → List Char → Option (Entries × List Char)
  | 0, _, _, _ => none
  | fuel + 1, depth, t, cs =>
    match keyAndEquals? cs with
    | none => none
    | some (path, cs) =>
      match value? fuel depth cs with
      | none => none
      | some (v, rest) =>
        match t.assignHere? path v .inline, dropBlanks rest with
        | some t, ',' :: rest => pairs? fuel depth t rest
        | some t, '\x7d' :: rest => some (t, rest)
        | _, _ => none

end

/-- A value, with fuel for every character of the text. -/
def wholeValue? (cs : List Char) : Option (Toml × List Char) :=
  value? (2 * cs.length + 2) maxNesting cs

/-- A path between one or two brackets, and what follows the line. -/
def header? (closing : List Char) (cs : List Char) : Option (List String × List Char) :=
  match keyPath? maxNesting cs with
  | some (path, rest) =>
    if closing.isPrefixOf rest then (dropLineEnd? (rest.drop closing.length)).map (path, ·)
    else none
  | none => none

/-- The lines of a text, where those ahead of them have written `root` and opened `header`. -/
def lines? : Nat → List String → Entries → List Char → Option Entries
  | 0, _, _, _ => none
  | fuel + 1, header, root, cs =>
    match dropBlanks cs with
    | [] => some root
    | '[' :: '[' :: rest =>
      match header? [']', ']'] rest with
      | some (path, rest) => (root.openRow? path).bind fun root => lines? fuel path root rest
      | none => none
    | '[' :: rest =>
      match header? [']'] rest with
      | some (path, rest) => (root.open? path).bind fun root => lines? fuel path root rest
      | none => none
    | rest =>
      match dropLineEnd? rest with
      | some rest => lines? fuel header root rest
      | none =>
        match keyAndEquals? rest with
        | none => none
        | some (path, rest) =>
          match wholeValue? rest with
          | none => none
          | some (v, rest) =>
            match dropLineEnd? rest with
            | none => none
            | some rest =>
              (root.assign? header path v).bind fun root => lines? fuel header root rest

end Reader

/-- Without a byte order mark at the start. -/
def dropMark : List Char → List Char
  | '\uFEFF' :: cs => cs
  | cs => cs

/-- **The entries of a whole text**, if it is one. -/
def parse? (cs : List Char) : Option Entries :=
  let cs := dropMark cs
  Reader.lines? (cs.length + 1) [] [] cs

end Logbook.Toml
