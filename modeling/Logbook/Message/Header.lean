import Logbook.Message.Path
import Logbook.Message.Record
import Logbook.Message.Relaxed
import Logbook.Text.Lines
import Logbook.Time.Stamp

/-!
# The first line of a message

A message starts with tags in brackets, of which the first may stand in front of the brackets. What
follows is a title and a body.

* `startsMessage`: whether a line is the first one of a message;
* `stripTags`: the tags of a first line, and the rest of it;
* `splitTitle`: a title, and the body behind it;
* `findFilename`, `findPayload`: what is looked for in the body;
* **`classify`**: the tags sorted into severity, time, id and the rest.
-/

namespace Logbook

/-- A line that opens a message: with a bracket, or with a severity in front of a tag. -/
def startsMessage (line : List Char) : Bool :=
  line.head? == some '[' || severities.any fun s => (s.toList ++ [' ', '[']).isPrefixOf line

/-! ## Tags -/

/-- Without the spaces at the start. -/
def dropSpaces (cs : List Char) : List Char := cs.dropWhile (· == ' ')

/-- Without the spaces at the end. -/
def dropTrailingSpaces (cs : List Char) : List Char := Text.dropTrailing (· == ' ') cs

/-- A character that may stand inside a tag. -/
def isTagChar (c : Char) : Bool := !(['\x7b', '\x7d', '(', ')', ']'].contains c)

/-- The word in front of the first space, where no bracket is in it. -/
def leadingWord? (cs : List Char) : Option (List Char × List Char) :=
  let isWordChar := fun c : Char => c != '[' && c != ' '
  match cs.dropWhile isWordChar with
  | ' ' :: rest => some (cs.takeWhile isWordChar, rest)
  | _ => none

/-- A tag in brackets, without the spaces around its text, and what follows it and its spaces. -/
def bracketTag? : List Char → Option (List Char × List Char)
  | '[' :: cs =>
    let inside := cs.takeWhile isTagChar
    match cs.dropWhile isTagChar with
    | ']' :: rest =>
      if inside.isEmpty then none
      else some (dropTrailingSpaces (dropSpaces inside), dropSpaces rest)
    | _ => none
  | _ => none

theorem bracketTag?_length {cs tag rest : List Char} (h : bracketTag? cs = some (tag, rest)) :
    rest.length < cs.length := by
  unfold bracketTag? at h
  split at h
  · next cs =>
    simp only at h
    have h₁ := (List.dropWhile_suffix (l := cs) isTagChar).length_le
    split at h
    · next after heq =>
      split at h
      · simp at h
      · simp only [Option.some.injEq, Prod.mk.injEq] at h
        have h₂ := (List.dropWhile_suffix (l := after) (· == ' ')).length_le
        rw [heq] at h₁
        simp only [List.length_cons] at h₁ ⊢
        rw [← h.2]
        unfold dropSpaces
        omega
    · simp at h
  · simp at h

/-- The tags in brackets at the start of a text, and what follows them. -/
def bracketTags (cs : List Char) : List (List Char) × List Char :=
  match _h : bracketTag? cs with
  | some (tag, rest) =>
    let (tags, rest) := bracketTags rest
    (tag :: tags, rest)
  | none => ([], cs)
  termination_by cs.length
  decreasing_by exact bracketTag?_length _h

/-- Without a colon at the start and the spaces behind it. -/
def dropColon : List Char → List Char
  | ':' :: cs => dropSpaces cs
  | cs => cs

/-- The tags of a first line in order, and the rest of the line. -/
def stripTags (line : List Char) : List (List Char) × List Char :=
  let (word, rest) : List (List Char) × List Char := match leadingWord? line with
    | some (word, rest) => ([word], rest)
    | none => ([], line)
  let (tags, rest) := bracketTags rest
  (word ++ tags, dropColon rest)

/-! ## Title and body -/

/-- A character that ends a title. -/
def isTitleEnd (c : Char) : Bool := [':', '\'', '"', '\x7b', '/', '[', '(', ')'].contains c

/-- A character that may start a title. -/
def isTitleStart (c : Char) : Bool := c.isAlphanum || c == '_'

/-- The title of a line, if it has one, and the body. What ends a title stays in the body, a colon
apart. -/
def splitTitle (line : List Char) : Option (List Char) × List Char :=
  match dropSpaces line with
  | [] => (none, line)
  | c :: rest =>
    if isTitleStart c then
      let title := dropTrailingSpaces (c :: rest.takeWhile fun d => !isTitleEnd d)
      match rest.dropWhile fun d => !isTitleEnd d with
      | [] => (some title, [])
      | ':' :: body => (some title, dropSpaces body)
      | separator :: body => (some title, separator :: dropSpaces body)
    else (none, line)

/-- A character of a path in a body. -/
def isPathChar (c : Char) : Bool := c.isAlphanum || ['/', '_', '-', '.'].contains c

/-- The first path in a text that follows a space or a quote. -/
def findPath? : List Char → Option (List Char)
  | [] => none
  | c :: rest =>
    if c = ' ' ∨ c = '\'' ∨ c = '"' then
      match rest with
      | '/' :: path => some ('/' :: path.takeWhile isPathChar)
      | _ => findPath? rest
    else findPath? rest

/-- The name of the file that the first path of a body leads to. -/
def findFilename (body : List Char) : Option (List Char) :=
  match (findPath? (' ' :: body)).map lastSegment with
  | some [] => none
  | r => r

/-- The text from the first `c` on. -/
def fromFirst? (c : Char) (cs : List Char) : Option (List Char) :=
  match cs.dropWhile (· != c) with
  | [] => none
  | rest => some rest

/-- Lines put together again. -/
def joinLines (lines : List (List Char)) : List Char := ['\n'].intercalate lines

/-- The structured data at the end of a message: from the first brace of the body on, or from the
first bracket where there is no brace, or else in the lines that follow the first one. -/
def findPayload (body : List Char) (following : List (List Char)) : Option Json :=
  let rest := joinLines following
  let fromBody := ((fromFirst? '\x7b' body).or (fromFirst? '[' body)).bind fun start =>
    parseRelaxed? (start ++ '\n' :: rest)
  fromBody.or (parseRelaxed? rest)

/-! ## Kinds of tags -/

/-- The letters in front of the number sign of a tag that is an id. -/
def idKey? (tag : List Char) : Option (List Char) :=
  match tag.dropWhile Char.isAlpha with
  | '#' :: rest => if rest.contains '\n' then none else some (tag.takeWhile Char.isAlpha)
  | _ => none

/-- The severity of the tags, and the tags without it. -/
def severityOf (raw : List (List Char)) : Option String × List (List Char) :=
  match raw with
  | [] => (none, [])
  | first :: rest =>
    let isSeverity := fun cs : List Char => severities.contains (String.ofList cs)
    if isSeverity first then (some (String.ofList first), rest)
    else
      let word := first.takeWhile (· != ' ')
      match first.dropWhile (· != ' ') with
      | _ :: more =>
        if isSeverity word then (some (String.ofList word), Text.trimStart more :: rest)
        else (none, raw)
      | [] => (none, raw)

/-- What the tags of a message say. -/
structure Classified where
  tags : Tags := {}
  time : Option Instant := none
  id : Option String := none

/-- Puts one tag into its place. -/
def Classified.add (c : Classified) (tag : List Char) : Classified :=
  match readStamp? tag with
  | some t => { c with time := c.time.or (some t) }
  | none =>
    let text := String.ofList tag
    let positional : Tags := { c.tags with positional := c.tags.positional ++ [text] }
    match idKey? tag with
    | none => { c with tags := positional }
    | some [] => { c with id := some text }
    | some key =>
      let id := c.id.or (some text)
      let key := String.ofList key
      if Tags.reservedKeys.contains key then { c with id, tags := positional }
      else { c with id, tags := { c.tags with named := Keyed.insert key text c.tags.named } }

/-- **Sorts tags** into severity, time, id and the rest: a time stamp is the time unless there is
one already, an id without letters is always the id, one with letters is unless there is one
already. -/
def classify (raw : List (List Char)) : Classified :=
  let (kind, rest) := severityOf raw
  rest.foldl Classified.add { tags := { kind } }

end Logbook
