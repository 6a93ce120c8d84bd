import Std.Data.HashMap
import Logbook.Pattern.Basic
import Logbook.Text.ByteRuns

/-!
# The room of a pattern

Before a pattern is used, it is laid out twice as a network of states that reads bytes, once for
each direction. A network that takes more than `maxRoom` bytes is refused. A state takes 32 bytes
and holds one arrow in them. Each way out of a fork takes 4 bytes more, and each arrow of a state
that was made for a number of arrows 8 more.

* `Room`: what was laid out so far;
* `Room.forward?`, `Room.backward?`: the states of a set in the two directions; states with the same
  arrows are shared as far as a small table remembers them;
* `Room.texts?`: the states of alternatives that are all texts, which share their beginnings;
* `Room.lay?`: the states of a pattern;
* **`Pattern.fits`**: whether a pattern is small enough.
-/

namespace Logbook

/-- What was laid out so far: the number of states, and the bytes for their arrows. -/
structure Room where
  states : Nat := 0
  arrows : Nat := 0

namespace Room

/-- The bytes that a network may take. -/
def maxRoom : Nat := 0x100000

/-- The room if it is small enough. -/
def check? (r : Room) : Option Room :=
  if 32 * r.states + r.arrows ≤ maxRoom then some r else none

/-- More states, and more bytes for arrows. -/
def add? (r : Room) (states arrows : Nat) : Option Room :=
  check? ⟨r.states + states, r.arrows + arrows⟩

/-- The way from the end of one part to the next part; it takes room if the end is a fork. -/
def link? (r : Room) (fork : Bool) : Option Room := r.add? 0 (if fork then 4 else 0)

/-! ## Tables of states -/

/-- The place of a list of numbers in a table. -/
def slotOf (size : Nat) (ns : List Nat) : Nat :=
  let h : UInt64 := ns.foldl (fun h n => (h ^^^ n.toUInt64) * 1099511628211) 14695981039346656037
  h.toNat % size

/-- A table of states by what they are made from. A place holds one state only, the last one. -/
abbrev Table := Std.HashMap Nat (List Nat × Nat)

/-- The state made from some numbers, if the table still has it. -/
def Table.find? (t : Table) (slot : Nat) (key : List Nat) : Option Nat :=
  match t[slot]? with
  | some (k, state) => if k == key then some state else none
  | none => none

/-! ## Sets, forwards -/

/-- A state whose arrows are not all known yet: the known ones, each as the range of its bytes and
the state it leads to, and the range of the next one. -/
structure Open where
  arrows : List Nat
  range : Text.ByteRange

/-- The numbers of a state's arrows with one more. -/
def Open.close (o : Open) (next : Nat) : List Nat := o.arrows ++ [o.range.1, o.range.2, next]

/-- The state with some arrows: one that there is already, or a new one. -/
def node? (r : Room) (t : Table) (arrows : List Nat) : Option (Nat × Room × Table) :=
  let slot := slotOf 10000 arrows
  match t.find? slot arrows with
  | some state => some (state, r, t)
  | none => (r.add? 1 (8 * (arrows.length / 3))).map fun next =>
    (r.states, next, t.insert slot (arrows, r.states))

/-- Closes open states, each inside the one before it; the last one leads to `target`. -/
def close? (target : Nat) : List Open → Room → Table → Option (Nat × Room × Table)
  | [], r, t => some (target, r, t)
  | o :: inner, r, t => do
    let (next, r, t) ← close? target inner r t
    node? r t (o.close next)

/-- The states of sequences of byte ranges in ascending order, behind open states. -/
def sequences? (target : Nat) :
    List (List Text.ByteRange) → List Open → Room → Table → Option Room
  | [], path, r, t => (close? target path r t).map fun (_, r, _) => r
  | ranges :: more, path, r, t => do
    let shared := ((path.zip ranges).takeWhile fun (o, range) => o.range == range).length
    let (next, r, t) ← close? target (path.drop (shared + 1)) r t
    let arrows := match path[shared]? with
      | some o => o.close next
      | none => []
    let fresh := match ranges.drop shared with
      | range :: inner => ⟨arrows, range⟩ :: inner.map fun range => (⟨[], range⟩ : Open)
      | [] => []
    sequences? target more (path.take shared ++ fresh) r t

/-- The states of a set. -/
def forward? (s : CharSet) (r : Room) : Option Room := do
  let next ← r.add? 1 0
  sequences? r.states (s.runs.flatMap fun run => Text.byteRuns run.1 run.2) [] next {}

/-! ## Sets, backwards -/

/-- The states of a sequence of byte ranges, read from its end; it stops in `state`. -/
def reversed? : List Text.ByteRange → Nat → Room → Table → Option (Room × Table)
  | [], _, r, t => some (r, t)
  | range :: more, state, r, t =>
    let key := [state, range.1, range.2]
    let slot := slotOf 1000 key
    match t.find? slot key with
    | some known => reversed? more known r t
    | none => do
      let next ← r.add? 1 0
      reversed? more r.states next (t.insert slot (key, r.states))

/-- The states of sequences of byte ranges, each of them a way out of one fork. -/
def reversedAll? (stop : Nat) : List (List Text.ByteRange) → Room → Table → Option Room
  | [], r, _ => some r
  | ranges :: more, r, t => do
    let (r, t) ← reversed? ranges stop r t
    reversedAll? stop more (← r.add? 0 4) t

/-- The states of a set, read from the end. -/
def backward? (s : CharSet) (r : Room) : Option Room := do
  let next ← r.add? 2 0
  reversedAll? (r.states + 1) (s.runs.flatMap fun run => Text.byteRuns run.1 run.2) next {}

/-- The states of a set in one direction. One state is enough for ASCII. -/
def set? (back : Bool) (s : CharSet) (r : Room) : Option Room :=
  if s.isAscii then r.add? 2 (8 * s.runs.length)
  else if back then backward? s r
  else forward? s r

/-! ## Texts -/

/-- Parts texts into chunks at the empty ones, which end here. Only the first of those that come
before all other texts counts. -/
def chunks (texts : List (List Nat)) : List (List (List Nat)) :=
  let (done, active) := texts.foldl (fun (done, active) text =>
    if !text.isEmpty then (done, text :: active)
    else if active.isEmpty && !done.isEmpty && done.all List.isEmpty then (done, active)
    else (active.reverse :: done, [])) (([] : List (List (List Nat))), ([] : List (List Nat)))
  (active.reverse :: done).reverse

/-- The texts of a chunk by their first bytes in ascending order, without those bytes. -/
def branches (chunk : List (List Nat)) : List (List (List Nat)) :=
  let firsts := (chunk.filterMap List.head?).mergeSort fun a b => a ≤ b
  firsts.eraseReps.map fun byte =>
    chunk.filterMap fun
      | b :: rest => if b = byte then some rest else none
      | [] => none

/-- The states of alternative texts, which have at most `fuel` bytes. Each chunk of texts has one
state with arrows, and a fork leads to the chunks in their order. -/
def texts? : Nat → List (List Nat) → Room → Option Room
  | 0, _, r => some r
  | fuel + 1, texts, r => do
    let parts := (chunks texts).map branches
    let inner := parts.flatten.filter fun tails => !tails.all List.isEmpty
    let r ← inner.foldlM (fun r tails => texts? fuel tails r) r
    let filled := parts.filter fun part => !part.isEmpty
    let several := filled.filter fun part => part.length ≠ 1
    let r ← r.add? filled.length (several.foldr (fun part n => 8 * part.length + n) 0)
    r.add? 1 (4 * (filled.length + (parts.length - 1)))

/-! ## Patterns -/

/-- Copies of a part behind a part; `fork` says whether that one ends in a fork. -/
def copies? (part : Room → Option (Bool × Room)) : Nat → Bool → Room → Option (Bool × Room)
  | 0, fork, r => some (fork, r)
  | n + 1, fork, r => do
    let (next, r) ← part r
    copies? part n next (← r.link? fork)

/-- A number of copies of a part. -/
def exactly? (part : Room → Option (Bool × Room)) : Nat → Room → Option (Bool × Room)
  | 0, r => (r.add? 1 0).map (false, ·)
  | n + 1, r => do
    let (fork, r) ← part r
    copies? part n fork r

/-- Copies of a part behind a part, each of which may be left out with all behind it. -/
def optional? (part : Room → Option (Bool × Room)) : Nat → Bool → Room → Option (Bool × Room)
  | 0, fork, r => (r.link? fork).map (false, ·)
  | n + 1, fork, r => do
    let (next, r) ← part (← r.add? 1 8)
    optional? part n next (← r.link? fork)

/-- A part any number of times from `least` on; `takesSome` if it takes a byte each time. -/
def atLeast? (part : Room → Option (Bool × Room)) (takesSome : Bool) :
    Nat → Room → Option (Bool × Room)
  | 0, r =>
    if takesSome then do
      let (fork, r) ← part (← r.add? 1 4)
      (r.link? fork).map (true, ·)
    else do
      let (fork, r) ← part r
      ((← r.link? fork).add? 3 16).map (false, ·)
  | 1, r => do
    let (fork, r) ← part r
    ((← r.link? fork).add? 1 4).map (true, ·)
  | n + 2, r => do
    let (fork, r) ← exactly? part (n + 1) r
    let (next, r) ← part r
    ((← (← r.link? fork).link? next).add? 1 4).map (true, ·)

/-- A part a number of times. -/
def repeated? (part : Room → Option (Bool × Room)) (takesSome : Bool) (least : Nat) :
    Option Nat → Room → Option (Bool × Room)
  | none, r => atLeast? part takesSome least r
  | some most, r =>
    if least = 0 ∧ most = 1 then do
      let (fork, r) ← part (← r.add? 1 8)
      ((← r.link? fork).add? 1 0).map (false, ·)
    else if most ≤ least then exactly? part least r
    else do
      let (fork, r) ← exactly? part least r
      optional? part (most - least) fork (← r.add? 1 0)

/-- The text of a pattern that is one, as bytes in one direction. -/
def textOf? (back : Bool) : Pattern → Option (List Nat)
  | .literal cs =>
    let bytes := cs.flatMap fun c => Text.bytesOf c.toNat
    some (if back then bytes.reverse else bytes)
  | _ => none

mutual

/-- The states of a pattern in one direction, and whether they end in a fork. -/
def lay? (back : Bool) : Pattern → Room → Option (Bool × Room)
  | .literal cs, r =>
    (r.add? (cs.foldl (fun n c => n + Pattern.byteLen c.toNat) 0) 0).map (false, ·)
  | .set s, r => (set? back s r).map (false, ·)
  | .look _, r => (r.add? 1 0).map (false, ·)
  | .group _ p, r =>
    if back then lay? back p r
    else do
      let (fork, r) ← lay? back p (← r.add? 1 0)
      ((← r.link? fork).add? 1 0).map (false, ·)
  | .seq ps, r => layAll? back ps r
  | .alt ps, r =>
    match ps.mapM (textOf? back) with
    | some texts =>
      let fuel := texts.foldl (fun n text => max n text.length) 0
      do (texts? (fuel + 1) texts (← r.add? 1 0)).map (false, ·)
    | none => layWays? back 0 ps r
  | .rep least most _ p, r => repeated? (lay? back p) p.takesSome least most r

/-- The states of patterns one after the other, the last one first if they are read from the end. -/
def layAll? (back : Bool) : List Pattern → Room → Option (Bool × Room)
  | [], r => (r.add? 1 0).map (false, ·)
  | [p], r => lay? back p r
  | p :: ps, r => do
    if back then
      let (fork, r) ← layAll? back ps r
      let (next, r) ← lay? back p r
      return (next, ← r.link? fork)
    else
      let (fork, r) ← lay? back p r
      layAll? back ps (← r.link? fork)

/-- The states of alternatives, of which `done` are there already. The fork that leads to them comes
behind the second one. -/
def layWays? (back : Bool) : Nat → List Pattern → Room → Option (Bool × Room)
  | _, [], r => some (false, r)
  | done, p :: ps, r => do
    let (fork, r) ← lay? back p r
    let r ← (← r.link? fork).add? (if done = 1 then 2 else 0) 4
    layWays? back (done + 1) ps r

end

/-- The states of a whole pattern in one direction. Unless it is bound to the end of the text where
reading starts, any bytes may come before it. Forwards the ends of the match are noted. -/
def whole? (back : Bool) (p : Pattern) : Option Room := do
  let r : Room := {}
  let bound := if back then p.atEnd else p.atStart
  let r ← if bound then r.add? 1 0 else r.add? 3 16
  let (fork, r) ← lay? back p (← if back then some r else r.add? 1 0)
  (← r.link? fork).add? (if back then 1 else 2) 0

end Room

namespace Pattern

/-- Whether a pattern is a choice between so many texts that they are kept in a dictionary. -/
def isDictionary : Pattern → Bool
  | alt ps => 3000 ≤ ps.length && ps.all fun p => (Room.textOf? false p).isSome
  | _ => false

/-- **Whether a pattern is small enough.** A dictionary always is. -/
def fits (p : Pattern) : Bool :=
  p.isDictionary || ((Room.whole? false p).isSome && (Room.whole? true p).isSome)

end Pattern

end Logbook
