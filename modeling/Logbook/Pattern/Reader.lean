import Logbook.Pattern.Bracket
import Logbook.Pattern.Room

/-!
# Reading patterns

The written form of regular expressions: alternatives, groups with and without a number, flags,
repetitions, classes and escapes. There is no looking around and no reference to an earlier group.
A pattern that is nested too deep or takes too much room is refused.

* `Part`: a pattern and how deep it is nested;
* `readFlags?`, `readOpening?`: what comes after an opening parenthesis;
* `readBounds?`: what comes after an opening brace;
* `readAlternatives?`, `readSequence?`, `readGroup?`: the grammar of patterns;
* **`Pattern.ofText?`**: the pattern that a text is.
-/

namespace Logbook.Pattern

/-- Where a reader is: the text that is left, the flags, the number of groups so far and the names
of groups. -/
structure Reading where
  rest : List Char
  flags : Flags := {}
  groups : Nat := 0
  names : List (List Char) := []

/-- How deep a pattern may be nested. -/
def maxNesting : Nat := 250

/-! ## Parts -/

/-- A part of a pattern. Sequences, alternatives, groups, repetitions and classes are one deeper
than what is in them; flags are a part that cannot be repeated. -/
structure Part where
  pattern : Pattern
  depth : Nat := 0
  repeatable : Bool := true

/-- The greatest depth of some parts. -/
def depthOf (ps : List Part) : Nat := ps.foldl (fun n p => max n p.depth) 0

/-- Parts one after the other, given from the last one to the first one. -/
def Part.sequence : List Part → Part
  | [p] => ⟨p.pattern, p.depth, true⟩
  | [] => ⟨empty, 0, true⟩
  | ps => ⟨chain (ps.reverse.map Part.pattern), depthOf ps + 1, true⟩

/-- One of several parts, given from the last one to the first one. -/
def Part.alternatives : List Part → Part
  | [p] => p
  | ps => ⟨choice (ps.reverse.map Part.pattern), depthOf ps + 1, true⟩

/-- Repeats the last one of some parts, which comes first. -/
def repeatLast? (f : Flags) (least : Nat) (most : Option Nat) (lazy : Bool) :
    List Part → Option (List Part)
  | [] => none
  | p :: before =>
    if p.repeatable then
      some (⟨repeated least most (lazy == f.swapGreed) p.pattern, p.depth + 1, true⟩ :: before)
    else none

/-! ## Flags and groups -/

/-- Switches the flag of a letter. -/
def Flags.set? (f : Flags) (on : Bool) (c : Char) : Option Flags :=
  if c = 'i' then some { f with ignoreCase := on }
  else if c = 'm' then some { f with multiLine := on }
  else if c = 's' then some { f with dotAll := on }
  else if c = 'U' then some { f with swapGreed := on }
  else if c = 'u' then some { f with unicode := on }
  else if c = 'R' then some { f with crlf := on }
  else if c = 'x' then some { f with ignoreSpace := on }
  else none

/-- Flags up to a colon or a closing parenthesis, which is the last result but one. No letter comes
twice, and a letter follows the hyphen. -/
def readFlags? (f : Flags) (on : Bool) (seen : List Char) :
    List Char → Option (Flags × Bool × List Char)
  | [] => none
  | c :: rest =>
    if c = ':' ∨ c = ')' then
      if seen.head? = some '-' ∨ (c = ')' ∧ seen.isEmpty) then none else some (f, c == ':', rest)
    else if seen.contains c then none
    else if c = '-' then readFlags? f false (c :: seen) rest
    else do
      let f ← f.set? on c
      readFlags? f on (c :: seen) rest

/-- A character that may be part of the name of a group. -/
def isGroupNameChar (first : Bool) (c : Char) : Bool :=
  if c.toNat < 0x80 then
    c.isAlpha || c == '_' || (!first && (c.isDigit || c == '.' || c == '[' || c == ']'))
  else
    let numbers := if first then [] else ["Nd", "Nl", "No"]
    (CharSet.made (CharSet.letters ++ "Nl" :: numbers) CharSet.otherAlphabetic).contains c

/-- The name of a group up to its closing bracket. -/
def readGroupName? (names : List (List Char)) (cs : List Char) : Option (List Char × List Char) :=
  let name := cs.takeWhile (· != '>')
  match name, cs.dropWhile (· != '>') with
  | c :: more, _ :: rest =>
    if isGroupNameChar true c && more.all (isGroupNameChar false) && !names.contains name then
      some (name, rest)
    else none
  | _, _ => none

/-- How a group begins. -/
inductive Opening where
  /-- A group with a number, and perhaps a name. -/
  | numbered (name : Option (List Char)) (rest : List Char)
  /-- A group without a number, with flags of its own. -/
  | plain (f : Flags) (rest : List Char)
  /-- Flags for the rest of the group around. -/
  | flags (f : Flags) (rest : List Char)

/-- The beginning of a group after its parenthesis. -/
def readOpening? (r : Reading) : List Char → Option Opening
  | '?' :: '=' :: _ | '?' :: '!' :: _ | '?' :: '<' :: '=' :: _ | '?' :: '<' :: '!' :: _ => none
  | '?' :: 'P' :: '<' :: rest | '?' :: '<' :: rest =>
    (readGroupName? r.names rest).map fun (name, rest) => .numbered (some name) rest
  | '?' :: rest =>
    (readFlags? r.flags true [] rest).map fun (f, colon, rest) =>
      if colon then .plain f rest else .flags f rest
  | rest => some (.numbered none rest)

/-! ## Repetitions -/

/-- The bounds of a repetition after its brace. A comma without a number directly behind it stands
for any number. -/
def readBounds? (f : Flags) (cs : List Char) : Option ((Nat × Option Nat) × List Char) := do
  let (least, rest) ← readCount? f (f.skip cs)
  match rest with
  | '\x7d' :: rest => some ((least, some least), rest)
  | ',' :: rest =>
    match f.skip rest with
    | '\x7d' :: rest => some ((least, none), rest)
    | rest => do
      match ← readCount? f rest with
      | (most, '\x7d' :: rest) => if least ≤ most then some ((least, some most), rest) else none
      | _ => none
  | _ => none

/-- A question mark behind a repetition, which makes it prefer less. -/
def readLazy : List Char → Bool × List Char
  | '?' :: rest => (true, rest)
  | rest => (false, rest)

/-! ## Single characters -/

/-- One character that stands for itself. Without Unicode it cannot be a byte outside ASCII. -/
def literal? (f : Flags) (c : Char) (byte : Bool) : Option Pattern :=
  if !f.unicode && byte && 0x80 ≤ c.toNat then none
  else some (if f.ignoreCase then ofSet (f.fold (.single c)) else literal [c])

/-- Any character, without line ends unless the flags include them. -/
def dot? (f : Flags) : Option Pattern :=
  if !f.unicode then none
  else if f.dotAll then some (set .all)
  else if f.crlf then some (set (CharSet.compl ⟨[(0xA, 0xA), (0xD, 0xD)]⟩))
  else some (set (CharSet.single '\n').compl)

/-- A part that is no group, no class and no repetition. -/
def readSingle? (f : Flags) : List Char → Option (Pattern × List Char)
  | [] => none
  | c :: rest =>
    if c = '\\' then do
      match ← readEscape? f rest with
      | (.char c byte, rest) => (literal? f c byte).map (·, rest)
      | (.set s, rest) => some (ofSet s, rest)
      | (.look l, rest) => some (look l, rest)
    else if c = '.' then (dot? f).map (·, rest)
    else if c = '^' then some (look (if f.multiLine then .lineStart f.crlf else .start), rest)
    else if c = '$' then some (look (if f.multiLine then .lineEnd f.crlf else .finish), rest)
    else (literal? f c false).map (·, rest)

/-! ## Patterns -/

mutual

/-- Alternatives up to a closing parenthesis or the end, behind those in `done`. -/
def readAlternatives? : Nat → Nat → Reading → List Part → Option (Part × Reading)
  | 0, _, _, _ => none
  | fuel + 1, room, r, done => do
    let (p, r) ← readSequence? fuel room r []
    match r.rest with
    | '|' :: rest => readAlternatives? fuel room { r with rest } (p :: done)
    | _ => some (Part.alternatives (p :: done), r)

/-- A sequence up to a bar, a closing parenthesis or the end, behind the parts in `done`. -/
def readSequence? : Nat → Nat → Reading → List Part → Option (Part × Reading)
  | 0, _, _, _ => none
  | fuel + 1, room, r, done =>
    let f := r.flags
    match f.skip r.rest with
    | [] => some (Part.sequence done, { r with rest := [] })
    | c :: rest =>
      if c = '|' ∨ c = ')' then some (Part.sequence done, { r with rest := c :: rest })
      else if c = '(' then do
        let (p, r) ← readGroup? fuel room r rest
        readSequence? fuel room r (p :: done)
      else if c = '[' then do
        let (s, rest) ← readClass? (2 * rest.length + 2) room f rest
        readSequence? fuel room { r with rest } (⟨ofSet s.set, s.depth, true⟩ :: done)
      else if c = '\x7b' then do
        let ((least, most), rest) ← readBounds? f rest
        let (lazy, rest) := readLazy (f.skip rest)
        readSequence? fuel room { r with rest } (← repeatLast? f least most lazy done)
      else if c = '*' ∨ c = '+' ∨ c = '?' then do
        let (lazy, rest) := readLazy rest
        let least := if c = '+' then 1 else 0
        let most := if c = '?' then some 1 else none
        readSequence? fuel room { r with rest } (← repeatLast? f least most lazy done)
      else do
        let (p, rest) ← readSingle? f (c :: rest)
        readSequence? fuel room { r with rest } (⟨p, 0, true⟩ :: done)

/-- A group or flags after an opening parenthesis; `room` is how deep groups may be nested. The
flags of a group end with it. -/
def readGroup? : Nat → Nat → Reading → List Char → Option (Part × Reading)
  | 0, _, _, _ => none
  | _, 0, _, _ => none
  | fuel + 1, room + 1, r, cs => do
    match ← readOpening? r (r.flags.skip cs) with
    | .flags f rest => some (⟨empty, 0, false⟩, { r with rest, flags := f })
    | .plain f rest => do
      let (p, inner) ← readAlternatives? fuel room { r with rest, flags := f } []
      match inner.rest with
      | ')' :: rest =>
        some (⟨p.pattern, p.depth + 1, true⟩, { inner with rest, flags := r.flags })
      | _ => none
    | .numbered name rest => do
      let n := r.groups + 1
      let (p, inner) ← readAlternatives? fuel room
        { r with rest, groups := n, names := name.toList ++ r.names } []
      match inner.rest with
      | ')' :: rest =>
        some (⟨group n p.pattern, p.depth + 1, true⟩, { inner with rest, flags := r.flags })
      | _ => none

end

/-- **The pattern that a whole text is.** -/
def ofText? (cs : List Char) : Option Pattern := do
  let (p, r) ← readAlternatives? (4 * cs.length + 4) maxNesting { rest := cs } []
  if r.rest.isEmpty && p.depth ≤ maxNesting && p.pattern.fits then some p.pattern else none

end Logbook.Pattern
