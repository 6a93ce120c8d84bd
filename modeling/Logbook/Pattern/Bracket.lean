import Logbook.Pattern.Escape

/-!
# Classes in brackets

Sets of characters between brackets: single characters, ranges, named classes, other sets, classes
inside of classes, and the operations between them.

* `Class`: the set of a class, and how deep it is nested;
* `Members`: what was read of a class so far;
* `SetOp`: the operations, from the left and one as strong as the other;
* **`readClass?`**: a class behind its opening bracket.
-/

namespace Logbook.Pattern

/-- A set that is written as a class, and how deep its parts are nested. -/
structure Class where
  set : CharSet
  depth : Nat

/-! ## Named classes -/

/-- The named classes of ASCII characters. -/
def asciiClass? : String → Option (List (Nat × Nat))
  | "alnum" => some [(0x30, 0x39), (0x41, 0x5A), (0x61, 0x7A)]
  | "alpha" => some [(0x41, 0x5A), (0x61, 0x7A)]
  | "ascii" => some [(0, 0x7F)]
  | "blank" => some [(9, 9), (0x20, 0x20)]
  | "cntrl" => some [(0, 0x1F), (0x7F, 0x7F)]
  | "digit" => some [(0x30, 0x39)]
  | "graph" => some [(0x21, 0x7E)]
  | "lower" => some [(0x61, 0x7A)]
  | "print" => some [(0x20, 0x7E)]
  | "punct" => some [(0x21, 0x2F), (0x3A, 0x40), (0x5B, 0x60), (0x7B, 0x7E)]
  | "space" => some [(9, 13), (0x20, 0x20)]
  | "upper" => some [(0x41, 0x5A)]
  | "word" => some [(0x30, 0x39), (0x41, 0x5A), (0x5F, 0x5F), (0x61, 0x7A)]
  | "xdigit" => some [(0x30, 0x39), (0x41, 0x46), (0x61, 0x66)]
  | _ => none

/-- A named class after `[`, such as `:alpha:]`, and whether its complement is meant; what is not
written like one is left alone. -/
def readAsciiClass? (cs : List Char) : Option ((Bool × CharSet) × List Char) :=
  match cs with
  | ':' :: cs =>
    let (negated, cs) : Bool × List Char := match cs with
      | '^' :: cs => (true, cs)
      | _ => (false, cs)
    match cs.dropWhile (· != ':') with
    | ':' :: ']' :: rest =>
      (asciiClass? (String.ofList (cs.takeWhile (· != ':')))).map fun runs =>
        ((negated, ⟨runs⟩), rest)
    | _ => none
  | _ => none

/-! ## Characters, sets and ranges -/

/-- One character or one set of a class. Without Unicode the characters are those of ASCII. -/
def readClassAtom? (f : Flags) : List Char → Option (Escape × List Char)
  | [] => none
  | c :: rest => do
    let (atom, rest) ← if c = '\\' then readEscape? f rest else some (.char c false, rest)
    match atom with
    | .char d _ => if f.unicode || d.toNat < 0x80 then some (atom, rest) else none
    | .set _ => some (atom, rest)
    | .look _ => none

/-- The character that comes next behind a hyphen, blanks left out where they do not count. One
number sign among them is left out as well, and without it what follows. -/
def Flags.peek? (f : Flags) (cs : List Char) : Option Char :=
  if f.ignoreSpace then
    let rest := match cs.dropWhile Text.isBlank with
      | '#' :: rest => rest.dropWhile Text.isBlank
      | rest => rest
    rest.head?.or cs.head?
  else cs.head?

/-- A character, a set or a range of a class. -/
def readClassItem? (f : Flags) (cs : List Char) : Option (CharSet × List Char) := do
  let (first, rest) ← readClassAtom? f cs
  let rest := f.skip rest
  let alone : CharSet := match first with
    | .char c _ => .single c
    | .set s => s
    | .look _ => .empty
  match rest with
  | [] => none
  | '-' :: after =>
    if f.peek? after = some ']' ∨ f.peek? after = some '-' then some (alone, rest)
    else
      match first, ← readClassAtom? f (f.skip after) with
      | .char a _, (.char b _, rest) =>
        if a.toNat ≤ b.toNat then some (⟨[(a.toNat, b.toNat)]⟩, rest) else none
      | _, _ => none
  | _ => some (alone, rest)

/-! ## Members and operations -/

/-- What was read of a class so far: the runs of its members, how many there are, and how deep they
are nested. -/
structure Members where
  runs : List (Nat × Nat) := []
  count : Nat := 0
  depth : Nat := 0

/-- One more member. -/
def Members.add (m : Members) (s : CharSet) (depth : Nat) : Members :=
  ⟨s.runs ++ m.runs, m.count + 1, max m.depth depth⟩

/-- All members together; several of them are nested one deeper. -/
def Members.union (m : Members) : Class :=
  ⟨.ofRuns m.runs, if m.count ≤ 1 then m.depth else m.depth + 1⟩

/-- The operations between the sets of a class. -/
inductive SetOp where
  | inter
  | diff
  | symmDiff

/-- The result of an operation. -/
def SetOp.apply : SetOp → CharSet → CharSet → CharSet
  | inter, s, t => s.inter t
  | diff, s, t => s.diff t
  | symmDiff, s, t => s.symmDiff t

/-- An operation at the start of a text. -/
def readSetOp? : List Char → Option (SetOp × List Char)
  | '&' :: '&' :: rest => some (.inter, rest)
  | '-' :: '-' :: rest => some (.diff, rest)
  | '~' :: '~' :: rest => some (.symmDiff, rest)
  | _ => none

/-- An operation that waits for its second set. -/
abbrev Pending := Option (SetOp × Class)

/-- Ends a set by the operation that waits for it. -/
def Pending.close (f : Flags) (p : Pending) (m : Members) : Class :=
  let right := m.union
  match p with
  | some (op, left) =>
    ⟨op.apply (f.fold left.set) (f.fold right.set), max left.depth right.depth + 1⟩
  | none => right

/-! ## Classes -/

/-- The hyphens at the start of a class, which stand for themselves. -/
def leadingHyphens (f : Flags) : Nat → Members → List Char → Members × List Char
  | fuel + 1, m, '-' :: rest => leadingHyphens f fuel (m.add (.single '-') 0) (f.skip rest)
  | _, m, cs => (m, cs)

mutual

/-- A class after its opening bracket; `room` is how deep it may be nested. A closing bracket that
comes first stands for itself. -/
def readClass? : Nat → Nat → Flags → List Char → Option (Class × List Char)
  | 0, _, _, _ => none
  | _, 0, _, _ => none
  | fuel + 1, room + 1, f, cs => do
    let (negated, cs) : Bool × List Char := match f.skip cs with
      | '^' :: cs => (true, f.skip cs)
      | cs => (false, cs)
    let (m, cs) := leadingHyphens f cs.length {} cs
    let (m, cs) : Members × List Char := match m.count, cs with
      | 0, ']' :: cs => (m.add (.single ']') 0, cs)
      | _, _ => (m, cs)
    let (c, rest) ← readMembers? fuel room f none m cs
    (f.foldIf? negated c.set).map fun s => (⟨s, c.depth + 1⟩, rest)

/-- The rest of a class up to its closing bracket, after the members `m`. -/
def readMembers? : Nat → Nat → Flags → Pending → Members → List Char → Option (Class × List Char)
  | 0, _, _, _, _, _ => none
  | fuel + 1, room, f, pending, m, cs =>
    match f.skip cs with
    | [] => none
    | ']' :: rest => some (pending.close f m, rest)
    | '[' :: rest =>
      match readAsciiClass? rest with
      | some ((negated, s), rest) => do
        readMembers? fuel room f pending (m.add (← f.foldIf? negated s) 0) rest
      | none => do
        let (c, rest) ← readClass? fuel room f rest
        readMembers? fuel room f pending (m.add c.set c.depth) rest
    | cs =>
      match readSetOp? cs with
      | some (op, rest) => readMembers? fuel room f (some (op, pending.close f m)) {} rest
      | none => do
        let (s, rest) ← readClassItem? f cs
        readMembers? fuel room f pending (m.add s 0) rest

end

end Logbook.Pattern
