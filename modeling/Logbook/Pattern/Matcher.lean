import Logbook.Pattern.Basic

/-!
# Matching

A pattern is laid out as a list of instructions, and all ways through it are followed at once, in
the order in which the pattern prefers them. The match that starts furthest left counts, and of
several that start there the one that the pattern prefers.

* `Instr`, `layOut`: the instructions of a pattern;
* `Thread`: a way through the instructions with the ends of groups met on it;
* **`Pattern.search?`**: the groups of the first match in a text.
-/

namespace Logbook.Pattern

/-- An instruction. -/
inductive Instr where
  /-- Takes a character of the set. -/
  | take (s : CharSet)
  /-- Goes on only where the condition is met. -/
  | check (l : Look)
  /-- Notes the place in a slot. -/
  | note (slot : Nat)
  /-- Goes on at both targets, the first one being preferred. -/
  | fork (a b : Nat)
  | jump (a : Nat)
  | accept

/-- A fork that prefers to go on at `a`, or at `b` if not greedy. -/
def forkTo (greedy : Bool) (a b : Nat) : Instr := if greedy then .fork a b else .fork b a

/-- The instructions of a number of copies one behind the other, the first one at `start`; `size`
is that of one. -/
def copies (body : Nat → List Instr) (size : Nat) : Nat → Nat → List Instr
  | 0, _ => []
  | n + 1, start => body start ++ copies body size n (start + size)

/-- Up to `n` copies, each of which may be left out with all behind it; `size` is that of one. -/
def optionalCopies (body : Nat → List Instr) (greedy : Bool) (size : Nat) :
    Nat → Nat → List Instr
  | 0, _ => []
  | n + 1, start =>
    forkTo greedy (start + 1) (start + (n + 1) * (size + 1)) :: body (start + 1)
      ++ optionalCopies body greedy size n (start + 1 + size)

mutual

/-- The number of instructions of a pattern. -/
def size : Pattern → Nat
  | literal cs => cs.length
  | set _ | look _ => 1
  | group _ p => size p + 2
  | seq ps => sizeAll ps
  | alt ps => sizeAll ps + 2 * (ps.length - 1)
  | rep least most _ p =>
    match most with
    | some most => least * size p + (most - least) * (size p + 1)
    | none => if least = 0 then size p + 2 else least * size p + 1

/-- The number of instructions of some patterns. -/
def sizeAll : List Pattern → Nat
  | [] => 0
  | p :: ps => size p + sizeAll ps

end

mutual

/-- The instructions of a pattern, the first one at `start`; behind them it goes on. -/
def layOut : Pattern → Nat → List Instr
  | literal cs, _ => cs.map fun c => .take (.single c)
  | set s, _ => [.take s]
  | look l, _ => [.check l]
  | group n p, start => .note (2 * n) :: (layOut p (start + 1) ++ [.note (2 * n + 1)])
  | seq ps, start => layOutAll ps start
  | alt ps, start => layOutWays ps (start + sizeAll ps + 2 * (ps.length - 1)) start
  | rep least most greedy p, start =>
    let size := p.size
    match most with
    | some most =>
      copies (layOut p) size least start
        ++ optionalCopies (layOut p) greedy size (most - least) (start + least * size)
    | none =>
      if least = 0 then
        if p.takesSome then
          forkTo greedy (start + 1) (start + size + 2) :: (layOut p (start + 1) ++ [.jump start])
        else
          forkTo greedy (start + 1) (start + size + 2)
            :: (layOut p (start + 1) ++ [forkTo greedy (start + 1) (start + size + 2)])
      else
        copies (layOut p) size least start
          ++ [forkTo greedy (start + (least - 1) * size) (start + least * size + 1)]

/-- The instructions of patterns one after the other. -/
def layOutAll : List Pattern → Nat → List Instr
  | [], _ => []
  | p :: ps, start => layOut p start ++ layOutAll ps (start + p.size)

/-- The instructions of alternatives, all of which go on at `stop`. -/
def layOutWays : List Pattern → Nat → Nat → List Instr
  | [], _, _ => []
  | [p], _, start => layOut p start
  | p :: ps, stop, start =>
    .fork (start + 1) (start + p.size + 2)
      :: (layOut p (start + 1) ++ .jump stop :: layOutWays ps stop (start + p.size + 2))

end

/-- The instructions of a whole pattern, with its match as group 0. -/
def program (p : Pattern) : Array Instr :=
  (Instr.note 0 :: (layOut p 1 ++ [.note 1, .accept])).toArray

/-- The places noted on the way; a slot that is not noted is missing. -/
abbrev Slots := List (Option Nat)

/-- Notes a place in a slot. -/
def Slots.note (slots : Slots) (slot place : Nat) : Slots :=
  let padded := slots ++ List.replicate (slot + 1 - slots.length) none
  padded.set slot (some place)

/-- A way through the instructions: the next one, which takes a character or accepts, and the
places noted. -/
structure Thread where
  next : Nat
  slots : Slots

/-- Where the ways may go on: the text around the place, and the place. -/
structure Place where
  before : Option Char
  after : Option Char
  index : Nat

/-- Follows instructions that take no character. An instruction that was reached on a preferred way
is not followed again. The first result is what was reached, the second the threads found, in
reverse order. -/
def follow (code : Array Instr) (place : Place) :
    Nat → Nat → Slots → Array Bool × List Thread → Array Bool × List Thread
  | 0, _, _, acc => acc
  | fuel + 1, pc, slots, (seen, found) =>
    if seen.getD pc true then (seen, found)
    else
      let seen := seen.setIfInBounds pc true
      match code[pc]? with
      | none => (seen, found)
      | some (.take _) | some .accept => (seen, ⟨pc, slots⟩ :: found)
      | some (.jump a) => follow code place fuel a slots (seen, found)
      | some (.fork a b) =>
        follow code place fuel b slots (follow code place fuel a slots (seen, found))
      | some (.check l) =>
        if l.holds place.before place.after then
          follow code place fuel (pc + 1) slots (seen, found)
        else (seen, found)
      | some (.note slot) =>
        follow code place fuel (pc + 1) (Slots.note slots slot place.index) (seen, found)

/-- What the threads at one place lead to: the instructions behind a taken character, in order, and
the slots of a thread that accepts. Threads behind one that accepts do not count. -/
def advance (code : Array Instr) (c : Option Char) :
    List Thread → List Thread × Option Slots
  | [] => ([], none)
  | t :: ts =>
    match code[t.next]? with
    | some .accept => ([], some t.slots)
    | some (.take s) =>
      let (more, accepted) := advance code c ts
      if c.any s.contains then (⟨t.next + 1, t.slots⟩ :: more, accepted) else (more, accepted)
    | _ => advance code c ts

/-- Goes through a text. `waiting` are the instructions reached behind the last character, `best` is
the match so far; while there is none, a new match may start at each place. -/
def run (code : Array Instr) : Nat → Option Char → List Thread → Option Slots → List Char →
    Option Slots
  | index, before, waiting, best, rest =>
    let place : Place := ⟨before, rest.head?, index⟩
    let waiting := if best.isNone then waiting ++ [⟨0, []⟩] else waiting
    let (_, found) := waiting.foldl
      (fun acc t => follow code place (code.size + 1) t.next t.slots acc)
      (Array.replicate code.size false, [])
    let (next, accepted) := advance code rest.head? found.reverse
    let best := accepted.or best
    match rest with
    | [] => best
    | c :: rest =>
      if next.isEmpty && best.isSome then best else run code (index + 1) (some c) next best rest

/-- The start and the end of each group from 0 to `last`. -/
def groupsOf (slots : Slots) (last : Nat) : List (Option (Nat × Nat)) :=
  (List.range (last + 1)).map fun n =>
    match slots[2 * n]?.join, slots[2 * n + 1]?.join with
    | some a, some b => some (a, b)
    | _, _ => none

/-- **The groups of the first match in a text**, group 0 being all of it. -/
def search? (p : Pattern) (cs : List Char) : Option (List (Option (Nat × Nat))) :=
  (run p.program 0 none [] none cs).map fun slots => groupsOf slots p.lastGroup

end Logbook.Pattern
