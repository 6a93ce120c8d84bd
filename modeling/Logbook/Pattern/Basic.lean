import Logbook.Pattern.CharSet

/-!
# Patterns

Regular expressions as trees, put together in a simple form: sequences have at least two parts or
none and alternatives at least two, neither directly inside another of its kind, texts that follow
one another are one text, and alternatives between single characters are a set.

* `Look`: conditions on the place between two characters, `Look.holds` when they are met;
* `Pattern`: the trees; groups have numbers from 1;
* `Pattern.minLen`, `Pattern.maxLen`: how many bytes a match has at least and at most;
* `Pattern.atStart`, `Pattern.atEnd`: whether each match is at the start or the end of the text;
* `Pattern.ofSet`, `chain`, `choice`, `repeated`: the ways to put patterns together.
-/

namespace Logbook

/-- A condition on the place between two characters. -/
inductive Look where
  | start
  | finish
  /-- The start of a line; the second form also knows carriage returns. -/
  | lineStart (crlf : Bool)
  | lineEnd (crlf : Bool)
  | wordBoundary (ascii : Bool)
  | notWordBoundary (ascii : Bool)
  | wordStart (ascii : Bool)
  | wordEnd (ascii : Bool)
  | wordStartHalf (ascii : Bool)
  | wordEndHalf (ascii : Bool)
  deriving DecidableEq

namespace Look

/-- A character of a word, in ASCII or in general. -/
def isWord (ascii : Bool) : Option Char → Bool
  | none => false
  | some c => if ascii then c.isAlphanum || c == '_' else CharSet.word.contains c

/-- Whether the condition is met between two characters, of which either may be missing. -/
def holds (before after : Option Char) : Look → Bool
  | start => before.isNone
  | finish => after.isNone
  | lineStart crlf =>
    before.isNone || before == some '\n'
      || (crlf && before == some '\r' && after != some '\n')
  | lineEnd crlf =>
    after.isNone || (if crlf then after == some '\r' || (after == some '\n' && before != some '\r')
      else after == some '\n')
  | wordBoundary ascii => isWord ascii before != isWord ascii after
  | notWordBoundary ascii => isWord ascii before == isWord ascii after
  | wordStart ascii => !isWord ascii before && isWord ascii after
  | wordEnd ascii => isWord ascii before && !isWord ascii after
  | wordStartHalf ascii => !isWord ascii before
  | wordEndHalf ascii => !isWord ascii after

end Look

/-- A regular expression. -/
inductive Pattern where
  /-- The characters of a text one after the other. -/
  | literal (text : List Char)
  | set (s : CharSet)
  | look (l : Look)
  | group (number : Nat) (p : Pattern)
  | seq (ps : List Pattern)
  /-- One of several patterns, an earlier one being preferred. -/
  | alt (ps : List Pattern)
  /-- At least `least` times and at most `most` times, if that is given; `greedy` prefers more. -/
  | rep (least : Nat) (most : Option Nat) (greedy : Bool) (p : Pattern)

namespace Pattern

/-- The pattern of the empty text. -/
def empty : Pattern := seq []

mutual

/-- Whether two patterns are the same. -/
def same : Pattern → Pattern → Bool
  | literal s, literal t => s == t
  | set s, set t => s == t
  | look l, look m => l == m
  | group m p, group n q => m == n && same p q
  | seq ps, seq qs => sameAll ps qs
  | alt ps, alt qs => sameAll ps qs
  | rep m n g p, rep m' n' g' q => m == m' && n == n' && g == g' && same p q
  | _, _ => false

/-- Whether two lists of patterns are the same. -/
def sameAll : List Pattern → List Pattern → Bool
  | [], [] => true
  | p :: ps, q :: qs => same p q && sameAll ps qs
  | _, _ => false

end

/-! ## Lengths -/

/-- The number of bytes of the character with a number. -/
def byteLen (n : Nat) : Nat :=
  if n < 0x80 then 1 else if n < 0x800 then 2 else if n < 0x10000 then 3 else 4

mutual

/-- The least number of bytes of a match; nothing where a part can match nothing at all. -/
def minLen : Pattern → Option Nat
  | literal t => some (t.foldl (fun n c => n + byteLen c.toNat) 0)
  | set s => s.runs.head?.map fun r => byteLen r.1
  | look _ => some 0
  | group _ p => minLen p
  | seq ps => minLenAll ps
  | alt ps => minLenAny ps
  | rep least _ _ p => (minLen p).map (least * ·)

/-- The least number of bytes of matches one after the other. -/
def minLenAll : List Pattern → Option Nat
  | [] => some 0
  | p :: ps =>
    match minLen p, minLenAll ps with
    | some a, some b => some (a + b)
    | _, _ => none

/-- The least number of bytes of any of several matches. -/
def minLenAny : List Pattern → Option Nat
  | [] => none
  | [p] => minLen p
  | p :: ps =>
    match minLen p, minLenAny ps with
    | some a, some b => some (min a b)
    | _, _ => none

end

mutual

/-- The greatest number of bytes of a match, if there is one. -/
def maxLen : Pattern → Option Nat
  | literal t => some (t.foldl (fun n c => n + byteLen c.toNat) 0)
  | set s => s.runs.getLast?.map fun r => byteLen r.2
  | look _ => some 0
  | group _ p => maxLen p
  | seq ps => maxLenAll ps
  | alt ps => maxLenAny ps
  | rep _ most _ p =>
    match most, maxLen p with
    | some n, some a => some (n * a)
    | _, _ => none

/-- The greatest number of bytes of matches one after the other. -/
def maxLenAll : List Pattern → Option Nat
  | [] => some 0
  | p :: ps =>
    match maxLen p, maxLenAll ps with
    | some a, some b => some (a + b)
    | _, _ => none

/-- The greatest number of bytes of any of several matches. -/
def maxLenAny : List Pattern → Option Nat
  | [] => none
  | [p] => maxLen p
  | p :: ps =>
    match maxLen p, maxLenAny ps with
    | some a, some b => some (max a b)
    | _, _ => none

end

/-- Whether a pattern never takes a character. -/
def takesNothing (p : Pattern) : Bool := maxLen p == some 0

/-- Whether a pattern takes a character with every match. -/
def takesSome (p : Pattern) : Bool := 0 < (minLen p).getD 0

/-! ## Ends of the text -/

mutual

/-- Whether each match is at the start of the text, as far as the form of the pattern shows it. -/
def atStart : Pattern → Bool
  | look .start => true
  | group _ p => atStart p
  | seq ps => atStartAll ps
  | alt ps => atStartEach ps
  | rep least _ _ p => least != 0 && atStart p
  | _ => false

/-- Whether matches one after the other begin at the start of the text. -/
def atStartAll : List Pattern → Bool
  | [] => false
  | p :: ps => atStart p || (takesNothing p && atStartAll ps)

/-- Whether each of several matches is at the start of the text. -/
def atStartEach : List Pattern → Bool
  | [] => true
  | p :: ps => atStart p && atStartEach ps

end

mutual

/-- Whether each match is at the end of the text, as far as the form of the pattern shows it. -/
def atEnd : Pattern → Bool
  | look .finish => true
  | group _ p => atEnd p
  | seq ps => atEndAll ps
  | alt ps => atEndEach ps
  | rep least _ _ p => least != 0 && atEnd p
  | _ => false

/-- Whether matches one after the other stop at the end of the text. -/
def atEndAll : List Pattern → Bool
  | [] => false
  | p :: ps => atEndAll ps || (ps.all takesNothing && atEnd p)

/-- Whether each of several matches is at the end of the text. -/
def atEndEach : List Pattern → Bool
  | [] => true
  | p :: ps => atEnd p && atEndEach ps

end

/-! ## Putting together -/

/-- The pattern of one character of a set. -/
def ofSet (s : CharSet) : Pattern :=
  match s.onlyChar? with
  | some c => literal [c]
  | none => set s

/-- The parts of a sequence. -/
def parts : Pattern → List Pattern
  | seq ps => ps
  | p => [p]

/-- The ways of an alternative. -/
def ways : Pattern → List Pattern
  | alt ps => ps
  | p => [p]

/-- Puts texts that follow one another together. -/
def joinTexts (ps : List Pattern) : List Pattern :=
  ps.foldr (fun p rest =>
    match p, rest with
    | literal s, literal t :: rest => literal (s ++ t) :: rest
    | p, rest => p :: rest) []

/-- Patterns one after the other. -/
def chain (ps : List Pattern) : Pattern :=
  match joinTexts (ps.flatMap parts) with
  | [p] => p
  | ps => seq ps

/-- The character of a text that has just one. -/
def onlyChar? : Pattern → Option Char
  | literal [c] => some c
  | _ => none

/-- The set of a pattern that is one. -/
def set? : Pattern → Option CharSet
  | set s => some s
  | _ => none

/-- One of several patterns: a set, if all of them are single characters or all of them are sets. -/
def unite (ps : List Pattern) : Pattern :=
  match ps.flatMap ways with
  | [p] => p
  | ps =>
    match ps.mapM onlyChar? with
    | some cs => ofSet (CharSet.ofRuns (cs.map fun c => (c.toNat, c.toNat)))
    | none =>
      match ps.mapM set? with
      | some ss => ofSet (CharSet.ofRuns (ss.flatMap CharSet.runs))
      | none => alt ps

/-- How many parts lists of parts have in common at their start. -/
def sharedLen (ps qs : List Pattern) : Nat :=
  ((ps.zip qs).takeWhile fun (p, q) => same p q).length

/-- One of several patterns. The parts with which all of them begin come first and just once. -/
def choice (ps : List Pattern) : Pattern :=
  let ps := ps.flatMap ways
  let sequences := ps.filterMap fun
    | seq (p :: rest) => some (p :: rest)
    | _ => none
  match sequences with
  | first :: more =>
    let shared := more.foldl (fun n qs => min n (sharedLen first qs)) first.length
    if sequences.length = ps.length ∧ ps.length ≠ 1 ∧ shared ≠ 0 then
      chain (first.take shared ++ [unite (sequences.map fun qs => chain (qs.drop shared))])
    else unite ps
  | [] => unite ps

/-- A pattern several times. More than once is once for what takes no character. -/
def repeated (least : Nat) (most : Option Nat) (greedy : Bool) (p : Pattern) : Pattern :=
  let (least, most) : Nat × Option Nat :=
    if p.takesNothing then (min least 1, some (min (most.getD 1) 1)) else (least, most)
  if least = 0 ∧ most = some 0 then empty
  else if least = 1 ∧ most = some 1 then p
  else rep least most greedy p

mutual

/-- The highest number of a group. -/
def lastGroup : Pattern → Nat
  | group n p => max n (lastGroup p)
  | seq ps | alt ps => lastGroupAll ps
  | rep _ _ _ p => lastGroup p
  | _ => 0

/-- The highest number of a group in several patterns. -/
def lastGroupAll : List Pattern → Nat
  | [] => 0
  | p :: ps => max (lastGroup p) (lastGroupAll ps)

end

end Pattern

end Logbook
