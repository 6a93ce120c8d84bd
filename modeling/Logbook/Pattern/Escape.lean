import Logbook.Pattern.Basic
import Logbook.Pattern.Property
import Logbook.Text.Digit
import Logbook.Text.Search

/-!
# Flags and escapes

What a backslash stands for in a pattern, inside and outside of brackets.

* `Flags`: what the letters of `(?imsUuRx)` switch;
* `Flags.skip`: the text after blanks and comments, where they do not count;
* `readCount?`: the numbers of repetitions;
* `Escape`, `readEscape?`: what is written behind a backslash.
-/

namespace Logbook.Pattern

/-- What the flags of a pattern switch. -/
structure Flags where
  ignoreCase : Bool := false
  multiLine : Bool := false
  dotAll : Bool := false
  swapGreed : Bool := false
  unicode : Bool := true
  crlf : Bool := false
  ignoreSpace : Bool := false

/-- A set with the characters that differ in case alone, where case is ignored. -/
def Flags.fold (f : Flags) (s : CharSet) : CharSet :=
  if f.ignoreCase then if f.unicode then s.fold else s.foldAscii else s

/-- A set as it is asked for, and its complement if that is. Case is ignored first. Without Unicode
there is no complement, as it would take bytes apart. -/
def Flags.foldIf? (f : Flags) (negated : Bool) (s : CharSet) : Option CharSet :=
  if negated && !f.unicode then none else some ((f.fold s).complIf negated)

/-! ## Blanks and numbers -/

/-- The text after blanks and comments; as many steps as characters are enough. -/
def skipBlanks : Nat → List Char → List Char
  | 0, cs => cs
  | fuel + 1, cs =>
    match cs with
    | c :: rest =>
      if Text.isBlank c then skipBlanks fuel rest
      else if c = '#' then skipBlanks fuel (rest.dropWhile (· != '\n'))
      else cs
    | [] => []

/-- The text after blanks and comments, where the flags leave them out. -/
def Flags.skip (f : Flags) (cs : List Char) : List Char :=
  if f.ignoreSpace then skipBlanks cs.length cs else cs

/-- The characters that satisfy `p` at the start of a text, and the rest. Blanks and comments behind
them are left out, where they do not count. -/
def Flags.span (f : Flags) (p : Char → Bool) : Nat → List Char → List Char × List Char
  | 0, cs => ([], cs)
  | fuel + 1, cs =>
    match cs with
    | c :: rest =>
      if p c then
        let (taken, rest) := f.span p fuel (f.skip rest)
        (c :: taken, rest)
      else ([], cs)
    | [] => ([], [])

/-- A decimal number of 32 bits, perhaps between blanks. -/
def readCount? (f : Flags) (cs : List Char) : Option (Nat × List Char) :=
  let (digits, rest) := f.span Char.isDigit cs.length (cs.dropWhile Text.isBlank)
  let (_, rest) := f.span Text.isBlank rest.length rest
  (Text.readBounded? 0x100000000 digits).map (·, rest)

/-! ## Escapes -/

/-- What an escape stands for. -/
inductive Escape where
  /-- A character; `byte` if it is written as one byte. -/
  | char (c : Char) (byte : Bool)
  | set (s : CharSet)
  | look (l : Look)

/-- A character that may follow a backslash and stands for itself. -/
def isEscapable (c : Char) : Bool :=
  c.toNat < 0x80 && !c.isAlphanum && c != '<' && c != '>'

/-- The character with the number that hexadecimal digits write. -/
def charOfHex? (digits : List Char) : Option Char :=
  if digits.isEmpty || !digits.all Text.isHex then none
  else
    let n := Text.readHexDigits digits
    if n.isValidChar then some (Char.ofNat n) else none

/-- The first `n` characters and the rest, without what does not count behind each. -/
def Flags.take? (f : Flags) : Nat → List Char → Option (List Char × List Char)
  | 0, cs => some ([], cs)
  | _ + 1, [] => none
  | n + 1, c :: rest => (f.take? n (f.skip rest)).map fun (taken, rest) => (c :: taken, rest)

/-- A character by its number, in braces or with `width` digits. -/
def readHexEscape? (f : Flags) (width : Nat) (cs : List Char) : Option (Escape × List Char) :=
  match f.skip cs with
  | '\x7b' :: cs => do
    let (digits, rest) := f.span (· != '\x7d') cs.length (f.skip cs)
    match rest with
    | _ :: rest => (charOfHex? digits).map fun c => (.char c false, f.skip rest)
    | [] => none
  | cs => do
    let (digits, rest) ← f.take? width cs
    (charOfHex? digits).map fun c => (.char c (width == 2), rest)

/-- The texts before and behind the first occurrence of `mark`. -/
def cutAt? (mark cs : List Char) : Option (List Char × List Char) :=
  (Text.indexOf? mark cs).map fun i => (cs.take i, cs.drop (i + mark.length))

/-- The set of a property between braces, and whether its complement is meant. -/
def namedSet? (name : List Char) : Option (CharSet × Bool) :=
  match cutAt? ['!', '='] name with
  | some (property, value) => (CharSet.ofValue? property value).map (·, true)
  | none =>
    match (cutAt? [':'] name).or (cutAt? ['='] name) with
    | some (property, value) => (CharSet.ofValue? property value).map (·, false)
    | none => (CharSet.ofName? name).map (·, false)

/-- A property after its letter: one letter, or a name in braces. -/
def readProperty? (f : Flags) (negated : Bool) (cs : List Char) : Option (Escape × List Char) := do
  let ((s, differs), rest) ← match f.skip cs with
    | '\x7b' :: cs =>
      let (name, rest) := f.span (· != '\x7d') cs.length (f.skip cs)
      match rest with
      | _ :: rest => (namedSet? name).map (·, rest)
      | [] => none
    | c :: rest =>
      if c = '\\' then none
      else (CharSet.ofName? [c]).map fun s => ((s, false), f.skip rest)
    | [] => none
  (f.foldIf? (negated != differs) s).map fun s => (.set s, rest)

/-- The set of a class letter, in ASCII or in general. Without Unicode there is no complement. -/
def letterSet? (unicode : Bool) (c : Char) : Option CharSet :=
  let s : CharSet :=
    if c.toLower = 'd' then if unicode then .digit else ⟨[(0x30, 0x39)]⟩
    else if c.toLower = 's' then if unicode then .blank else ⟨[(9, 13), (0x20, 0x20)]⟩
    else if unicode then .word else ⟨[(0x30, 0x39), (0x41, 0x5A), (0x5F, 0x5F), (0x61, 0x7A)]⟩
  if c.isUpper && !unicode then none else some (s.complIf c.isUpper)

/-- A word boundary: the plain one, or one that is named in braces. What is in braces and cannot be
a name is left for a repetition. -/
def readBoundary? (f : Flags) (cs : List Char) : Option (Look × List Char) :=
  let ascii := !f.unicode
  match cs with
  | '\x7b' :: inner =>
    let isNameChar := fun c : Char => c.isAlpha || c == '-'
    match f.skip inner with
    | [] => none
    | c :: more =>
      if !isNameChar c then some (.wordBoundary ascii, cs)
      else
        let (name, rest) := f.span isNameChar (inner.length) (c :: more)
        match String.ofList name, rest with
        | "start", '\x7d' :: rest => some (.wordStart ascii, rest)
        | "end", '\x7d' :: rest => some (.wordEnd ascii, rest)
        | "start-half", '\x7d' :: rest => some (.wordStartHalf ascii, rest)
        | "end-half", '\x7d' :: rest => some (.wordEndHalf ascii, rest)
        | _, _ => none
  | _ => some (.wordBoundary ascii, cs)

/-- The character of a letter that stands for another one. -/
def controlChar? (c : Char) : Option Char :=
  match c with
  | 'a' => some '\x07'
  | 'f' => some '\x0c'
  | 't' => some '\t'
  | 'n' => some '\n'
  | 'r' => some '\r'
  | 'v' => some '\x0b'
  | _ => none

/-- An escape after its backslash. -/
def readEscape? (f : Flags) : List Char → Option (Escape × List Char)
  | [] => none
  | c :: rest =>
    if c = 'x' then readHexEscape? f 2 rest
    else if c = 'u' then readHexEscape? f 4 rest
    else if c = 'U' then readHexEscape? f 8 rest
    else if c = 'p' ∨ c = 'P' then if f.unicode then readProperty? f (c == 'P') rest else none
    else if ['d', 's', 'w', 'D', 'S', 'W'].contains c then
      (letterSet? f.unicode c).map fun s => (.set s, rest)
    else if c = 'A' then some (.look .start, rest)
    else if c = 'z' then some (.look .finish, rest)
    else if c = 'b' then (readBoundary? f rest).map fun (l, r) => (.look l, r)
    else if c = 'B' then some (.look (.notWordBoundary (!f.unicode)), rest)
    else if c = '<' then some (.look (.wordStart (!f.unicode)), rest)
    else if c = '>' then some (.look (.wordEnd (!f.unicode)), rest)
    else if isEscapable c then some (.char c false, rest)
    else (controlChar? c).map fun d => (.char d false, rest)

end Logbook.Pattern
