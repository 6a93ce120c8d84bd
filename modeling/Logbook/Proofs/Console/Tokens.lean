import Logbook.Proofs.Console.Trees

/-!
# Tokens of the console notation

The steps of relaxed reading act on the tokens of a value one by one: each changes only how the
tokens are written.

* `Tok`, `Look`, `Tok.text`, `text`: tokens, and how they are written before and after a step;
* `Tok.Ok`, `Tok.Follows`, `Apart`: what tokens are made of and what may stand behind them;
* `Step`, **`text_of_step`**: a step on one token, and on all of them.
-/

namespace Logbook.Console

open Relaxed

/-- A token; a name belongs together with a text or a missing value behind it. -/
inductive Tok where
  /-- A bracket, a brace or a blank. -/
  | mark (c : Char)
  /-- A comma; `trailing` says whether no value stands behind it. -/
  | comma (trailing : Bool)
  | word (cs : List Char)
  /-- A text in an array. -/
  | item (s : List Char)
  /-- A name and its text. -/
  | member (k s : List Char)
  /-- A name whose value is no text. -/
  | key (k : List Char)
  /-- A name without a value, and perhaps the comma behind. -/
  | missing (k : List Char) (comma : Bool)

/-- How tokens are written. -/
structure Look where
  /-- A name with its colon and the space behind. -/
  key : List Char → List Char
  member : List Char → List Char
  item : List Char → List Char
  /-- Whether members without a value are there. -/
  missing : Bool
  /-- Whether commas without a value behind them are there. -/
  trailing : Bool

/-- A token as it is written. -/
def Tok.text (l : Look) : Tok → List Char
  | mark c => [c]
  | comma trailing => if trailing && !l.trailing then [] else [',']
  | word cs => cs
  | item s => '"' :: (l.item s ++ ['"'])
  | member k s => l.key k ++ '"' :: (l.member s ++ ['"'])
  | key k => l.key k
  | missing k c => if l.missing then l.key k ++ (undefinedWord ++ if c then [','] else []) else []

/-- Tokens as they are written. -/
def text (l : Look) (ts : List Tok) : List Char := ts.flatMap (Tok.text l)

@[simp] theorem text_nil (l : Look) : text l [] = [] := rfl

@[simp] theorem text_cons (l : Look) (t : Tok) (ts : List Tok) :
    text l (t :: ts) = t.text l ++ text l ts := rfl

@[simp] theorem text_append (l : Look) (ts us : List Tok) :
    text l (ts ++ us) = text l ts ++ text l us :=
  List.flatMap_append

theorem text_item_append (l : Look) (s cs : List Char) :
    (Tok.item s).text l ++ cs = '"' :: (l.item s ++ '"' :: cs) := by
  simp [Tok.text]

theorem text_member_append (l : Look) (k s cs : List Char) :
    (Tok.member k s).text l ++ cs = l.key k ++ '"' :: (l.member s ++ '"' :: cs) := by
  simp [Tok.text]

theorem text_comma {l : Look} (hl : l.trailing = true) (trailing : Bool) :
    (Tok.comma trailing).text l = [','] := by
  simp [Tok.text, hl]

theorem text_missing_append {l : Look} (hl : l.missing = true) (k : List Char) (c : Bool)
    (cs : List Char) :
    (Tok.missing k c).text l ++ cs =
      l.key k ++ (undefinedWord ++ ((if c then [','] else []) ++ cs)) := by
  simp [Tok.text, hl]

/-! ## Looks -/

/-- The look at the beginning, with double quotes for single ones. -/
def printed : Look where
  key k := k ++ [':', ' ']
  member s := s
  item s := s
  missing := true
  trailing := true

theorem printed_key_append (k cs : List Char) : printed.key k ++ cs = k ++ ':' :: ' ' :: cs := by
  simp [printed]

/-- The look with masks for the colons of members. -/
def maskedLook : Look := { printed with member := masked }

/-- The look with names between quotes. -/
def quotedLook : Look := { maskedLook with key := fun k => '"' :: (k ++ ['"', ':', ' ', ' ']) }

theorem quotedLook_key_append (k cs : List Char) :
    quotedLook.key k ++ cs = '"' :: (k ++ '"' :: ':' :: ' ' :: ' ' :: cs) := by
  simp [quotedLook]

/-- The look without missing members. -/
def definedLook : Look := { quotedLook with missing := false }

/-- The look without commas in front of closing brackets. -/
def tidiedLook : Look :=
  { definedLook with
    member := fun s => dropTrailingCommas (masked s)
    item := dropTrailingCommas
    trailing := false }

/-- The look at the end. -/
def settledLook : Look :=
  { tidiedLook with
    member := settledText true
    item := settledText false }

/-! ## Which tokens stand side by side -/

/-- A word: name characters, perhaps behind a minus sign; it does not begin as `undefined` does. -/
structure IsWord (cs : List Char) : Prop where
  exists_sign : ∃ sign w, cs = sign ++ w ∧ (sign = [] ∨ sign = ['-']) ∧
    ∀ c ∈ w, isNameChar c = true
  head : ∃ c ds, cs = c :: ds ∧ c ≠ 'u'

/-- What a token is made of. -/
def Tok.Ok : Tok → Prop
  | mark c => c ∈ ['[', ']', '\x7b', '\x7d', ' ']
  | comma _ => True
  | word cs => IsWord cs
  | item s => '"' ∉ s ∧ calmText s = true
  | member k s => BareName k ∧ '"' ∉ s
  | key k | missing k _ => BareName k

theorem Tok.Ok.mark_ne {c d : Char} (h : (mark c).Ok) (hd : d ∉ ['[', ']', '\x7b', '\x7d', ' ']) :
    c ≠ d := by
  rintro rfl
  exact hd h

/-- A token that begins a value which is no text. -/
def Tok.Begins : Tok → Prop
  | word _ => True
  | mark c => c = '[' ∨ c = '\x7b'
  | _ => False

/-- A token that stands behind a value. -/
def Tok.Ends : Tok → Prop
  | comma _ => True
  | mark c => c = ']' ∨ c = '\x7d'
  | _ => False

/-- Whether tokens close an array or an object, apart from blanks and missing members. -/
def closes : List Tok → Bool
  | [] => false
  | .mark c :: ts => if c = ' ' then closes ts else c == ']' || c == '\x7d'
  | .missing _ _ :: ts => closes ts
  | _ :: _ => false

/-- What may stand behind a token. -/
def Tok.Follows : Tok → List Tok → Prop
  | mark _, _ => True
  | comma trailing, ts => closes ts = trailing
  | word _, ts | item _, ts | member _ _, ts => ∀ t ∈ ts.head?, t.Ends
  | key _, ts => ∃ t us, ts = t :: us ∧ t.Begins
  | missing _ true, _ => True
  | missing _ false, ts => ∀ t ∈ ts.head?, ∃ c, t = .mark c ∧ t.Ends

/-- Each token is as it has to be and stands in front of what may follow. -/
def Apart : List Tok → Prop
  | [] => True
  | t :: ts => t.Ok ∧ t.Follows ts ∧ Apart ts

/-! ## Steps -/

/-- A step that changes the look of each token. -/
def Step (f : List Char → List Char) (l l' : Look) : Prop :=
  ∀ t ts, Apart (t :: ts) → f (t.text l ++ text l ts) = t.text l' ++ f (text l ts)

/-- **A step changes the look of all tokens.** -/
theorem text_of_step {f : List Char → List Char} {l l' : Look} (h : Step f l l') (hnil : f [] = [])
    {ts : List Tok} (hts : Apart ts) : f (text l ts) = text l' ts := by
  induction ts with
  | nil => exact hnil
  | cons t ts ih => rw [text_cons, h t ts hts, ih hts.2.2, text_cons]

end Logbook.Console
