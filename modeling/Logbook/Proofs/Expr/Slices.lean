import Logbook.Expr.Function
import Logbook.Proofs.Number.Bits

/-!
# Parts of texts and of arrays

* `Stretch`, `Stretch.read`: consecutive places inside a list, and the items at these places;
* `Part`, `Part.stretch`, `Part.answer`: the methods that look at a part of a text, the places that
  they look at, and what they say about what they find there;
* `callMethod_part`: they look nowhere else;
* **`callMethod_slices`**: the laws of `slice` and of `substring`, and that no such method looks
  outside its text.
-/

namespace Logbook.Expr

/-! ## Stretches -/

/-- Consecutive places inside a list of `len` items. -/
structure Stretch (len : Nat) where
  start : Nat
  stop : Nat
  start_le : start ≤ stop
  stop_le : stop ≤ len

namespace Stretch

variable {α : Type} {len : Nat}

/-- The items of a list at these places. -/
def read (xs : List α) (w : Stretch xs.length) : List α :=
  List.ofFn fun i : Fin (w.stop - w.start) => xs.get ⟨w.start + i, by have := w.stop_le; omega⟩

/-- The places between two positions, none where the second one is in front of the first one. -/
def between {i j : Nat} (hi : i ≤ len) (hj : j ≤ len) : Stretch len :=
  ⟨i, max i j, Nat.le_max_left i j, Nat.max_le.2 ⟨hi, hj⟩⟩

/-- The place with this number, if there is one. -/
def single (len : Nat) : Option Int → Stretch len
  | some n =>
    if n < 0 then between (Nat.zero_le len) (Nat.zero_le len)
    else between (Nat.min_le_right n.toNat len) (Nat.min_le_right (n.toNat + 1) len)
  | none => between (Nat.zero_le len) (Nat.zero_le len)

theorem read_eq_sliceOf (xs : List α) (w : Stretch xs.length) :
    w.read xs = sliceOf xs w.start w.stop := by
  have hstart := w.start_le
  have hstop := w.stop_le
  refine List.ext_getElem ?_ fun i _ _ => ?_
  · simp [read, sliceOf, Nat.min_eq_left hstop]
  · simp [read, sliceOf]

@[simp] theorem read_between (xs : List α) {i j : Nat} (hi : i ≤ xs.length) (hj : j ≤ xs.length) :
    (between hi hj).read xs = sliceOf xs i j := by
  rw [read_eq_sliceOf]
  rcases Nat.le_total i j with h | h
  · simp [between, Nat.max_eq_right h]
  · simp [between, sliceOf, h]

@[simp] theorem read_single (xs : List α) (n : Option Int) :
    (single xs.length n).read xs =
      (n.bind fun n => if n < 0 then none else xs[n.toNat]?).toList := by
  cases n with
  | none => simp [single, sliceOf]
  | some n =>
    rw [single, Option.bind_some]
    split
    · simp [sliceOf]
    · rw [read_between]
      by_cases hn : n.toNat < xs.length
      · have hnext : n.toNat + 1 ≤ xs.length := hn
        rw [Nat.min_eq_left hn.le, Nat.min_eq_left hnext, sliceOf, List.drop_take,
          Nat.add_sub_cancel_left, List.drop_eq_getElem_cons hn, List.take_succ_cons,
          List.take_zero, List.getElem?_eq_getElem hn, Option.toList_some]
      · rw [Nat.min_eq_right (Nat.not_lt.1 hn), List.getElem?_eq_none (Nat.not_lt.1 hn)]
        simp [sliceOf]

end Stretch

/-! ## Methods that look at a part of a text -/

/-- The methods that look at a part of a text which numbers choose. -/
inductive Part where
  | startsWith
  | endsWith
  | slice
  | substring
  | charAt
  | item

namespace Part

/-- The name of such a method. -/
def name : Part → String
  | startsWith => "startsWith"
  | endsWith => "endsWith"
  | slice => "slice"
  | substring => "substring"
  | charAt => "charAt"
  | item => "at"

/-- The places that a method looks at in a text of `len` characters. -/
def stretch (p : Part) (len : Nat) (args : Arguments) : Stretch len :=
  let first := args.number 0 (Binary64.ofNat 0)
  let second := args.number 1 (Binary64.ofNat len)
  match p with
  | startsWith =>
    .between (absoluteIndex_le (args.number 1 (Binary64.ofNat 0)) len) (Nat.le_refl len)
  | endsWith => .between (Nat.zero_le len) (absoluteIndex_le second len)
  | slice => .between (relativeIndex_le first len) (relativeIndex_le second len)
  | substring =>
    have ha := absoluteIndex_le first len
    have hb := absoluteIndex_le second len
    .between (Nat.le_trans (Nat.min_le_left _ (absoluteIndex second len)) ha)
      (Nat.max_le.2 ⟨ha, hb⟩)
  | charAt => .single len (if first.isNaN then some 0 else Binary64.integerPart? first)
  | item => .single len ((Binary64.integerPart? first).map fun n => if n < 0 then n + len else n)

/-- What a method says about the characters at these places. -/
def answer (p : Part) (cs : List Char) (args : Arguments) : Value :=
  match p with
  | startsWith => .bool ((args.text 0).isPrefixOf cs)
  | endsWith => .bool ((args.text 0).isSuffixOf cs)
  | slice | substring | charAt => .ofChars cs
  | item => if cs.isEmpty then .undefined else .ofChars cs

end Part

theorem itemAt?_eq_bind {α : Type} (xs : List α) (x : Float) : itemAt? xs x =
    ((Binary64.integerPart? x).map fun n : Int => if n < 0 then n + xs.length else n).bind fun n =>
      if n < 0 then none else xs[n.toNat]? := by
  unfold itemAt?
  cases Binary64.integerPart? x <;> rfl

theorem callMethod_part (p : Part) (s : String) (args : Arguments) :
    callMethod (.str s) p.name args =
      .ok (p.answer ((p.stretch s.toList.length args).read s.toList) args) := by
  cases p with
  | startsWith =>
    change TextMethod.startsWith.apply s.toList args = _
    simp [TextMethod.apply, Part.answer, Part.stretch, TextMethod.startsAt, sliceOf]
  | endsWith =>
    change TextMethod.endsWith.apply s.toList args = _
    simp [TextMethod.apply, Part.answer, Part.stretch, TextMethod.endsAt, sliceOf]
  | slice =>
    change TextMethod.slice.apply s.toList args = _
    simp [TextMethod.apply, Part.answer, Part.stretch, TextMethod.sliceText]
  | substring =>
    change TextMethod.substring.apply s.toList args = _
    simp [TextMethod.apply, Part.answer, Part.stretch, TextMethod.substringText]
  | charAt =>
    change TextMethod.charAt.apply s.toList args = _
    simp only [TextMethod.apply, TextMethod.charText, Part.answer, Part.stretch,
      Stretch.read_single]
    generalize (if (args.number 0 (Binary64.ofNat 0)).isNaN then some 0 else
      Binary64.integerPart? (args.number 0 (Binary64.ofNat 0))) = place
    cases place with
    | none => rfl
    | some n =>
      dsimp only [Option.bind_some]
      split <;> rfl
  | item =>
    change TextMethod.item.apply s.toList args = _
    simp only [TextMethod.apply, Part.answer, Part.stretch, Stretch.read_single, ← itemAt?_eq_bind]
    cases itemAt? s.toList (args.number 0 (Binary64.ofNat 0)) <;> rfl

/-! ## Laws of parts -/

/-- A number as an argument. -/
def numeral (x : Float) : Argument := .value (.num x)

@[simp] theorem number_numeral (x : Float) (args : Arguments) (default : Float) :
    Arguments.number (numeral x :: args) 0 default = x := rfl

@[simp] theorem number_succ (a : Argument) (args : Arguments) (i : Nat) (default : Float) :
    Arguments.number (a :: args) (i + 1) default = Arguments.number args i default := rfl

@[simp] theorem number_nil (i : Nat) (default : Float) :
    Arguments.number [] i default = default := rfl

/-- A text or an array of at most `2 ^ 53` items, so that its length is a number; a longer one takes
more memory than any machine has. -/
inductive Sliceable : Value → Prop where
  | text {s : String} : s.toList.length ≤ 2 ^ 53 → Sliceable (.str s)
  | array {items : List Value} : items.length ≤ 2 ^ 53 → Sliceable (.arr items)

theorem relativeIndex_ofNat {n : Nat} (h : n ≤ 2 ^ 53) (len : Nat) :
    relativeIndex (Binary64.ofNat n) len = min n len := by
  have hnan : (Binary64.ofNat n).isNaN = false := Binary64.isNaN_ofRatio _ _ _
  simp only [relativeIndex, wholeWithin, hnan, Binary64.integerPart?_ofNat h]
  simp only [Bool.false_eq_true, if_false]
  split <;> omega

/-- What stands in front of a position, and what stands from there on. -/
theorem sliceOf_append {α : Type} (xs : List α) (i : Nat) :
    sliceOf xs 0 i ++ sliceOf xs i xs.length = xs := by
  simp [sliceOf]

/-- A list is cut in two by `slice`. -/
theorem sliceOf_relativeIndex_append {α : Type} (xs : List α) (h : xs.length ≤ 2 ^ 53) (k : Float) :
    sliceOf xs (relativeIndex (Binary64.ofNat 0) xs.length) (relativeIndex k xs.length) ++
      sliceOf xs (relativeIndex k xs.length)
        (relativeIndex (Binary64.ofNat xs.length) xs.length) = xs := by
  rw [relativeIndex_ofNat (Nat.zero_le _), relativeIndex_ofNat h, Nat.zero_min, Nat.min_self,
    sliceOf_append]

theorem absoluteIndex_infinity (len : Nat) : absoluteIndex Binary64.infinity len = len := by
  have hnan : Binary64.infinity.isNaN = false := Binary64.isNaN_ofMagnitude _ _
  have hwhole : Binary64.integerPart? Binary64.infinity = none := by decide +kernel
  have hnegative : Binary64.isNegative Binary64.infinity = false := by decide +kernel
  simp only [absoluteIndex, wholeWithin, hnan, hwhole, hnegative, Bool.false_eq_true, if_false,
    Int.toNat_natCast]

/-! ### Calls -/

theorem callMethod_slice_text (s : String) (args : Arguments) : callMethod (.str s) "slice" args =
    .ok (.ofChars (sliceOf s.toList
      (relativeIndex (args.number 0 (Binary64.ofNat 0)) s.toList.length)
      (relativeIndex (args.number 1 (Binary64.ofNat s.toList.length)) s.toList.length))) := rfl

theorem callMethod_slice_array (items : List Value) (args : Arguments) :
    callMethod (.arr items) "slice" args =
      .ok (.arr (sliceOf items
        (relativeIndex (args.number 0 (Binary64.ofNat 0)) items.length)
        (relativeIndex (args.number 1 (Binary64.ofNat items.length)) items.length))) := rfl

theorem callMethod_concat_text (cs ds : List Char) :
    callMethod (.ofChars cs) "concat" [.value (.ofChars ds)] = .ok (.ofChars (cs ++ ds)) := by
  change Except.ok (Value.ofChars ((String.ofList cs).toList ++
    ((String.ofList ds).toList ++ []))) = _
  simp only [String.toList_ofList, List.append_nil]

theorem callMethod_concat_array (xs ys : List Value) :
    callMethod (.arr xs) "concat" [.value (.arr ys)] = .ok (.arr (xs ++ ys)) := by
  change Except.ok (Value.arr (xs ++ (ys ++ []))) = _
  rw [List.append_nil]

theorem callMethod_split_text (s : String) : callMethod (.str s) "split" [.value (.str "")] =
    .ok (.arr (TextMethod.characters s.toList)) := by
  change Except.ok (Value.arr ((TextMethod.characters s.toList).take
    (absoluteIndex Binary64.infinity (TextMethod.characters s.toList).length))) = _
  rw [absoluteIndex_infinity, List.take_length]

theorem nil_intercalate {α : Type} (xs : List (List α)) :
    ([] : List α).intercalate xs = xs.flatten := by
  induction xs with
  | nil => rfl
  | cons x xs ih =>
    rw [List.flatten_cons, ← ih]
    cases xs with
    | nil => simp
    | cons => rfl

theorem displayItems_texts (pieces : List (List Char)) :
    Value.displayItems (pieces.map .ofChars) = pieces := by
  induction pieces with
  | nil => rfl
  | cons cs pieces ih =>
    have hcs : Value.displayChars (.ofChars cs) = cs := String.toList_ofList
    rw [List.map_cons, Value.displayItems, ih, hcs]
    rfl

theorem callMethod_join (pieces : List (List Char)) (sep : String) :
    callMethod (.arr (pieces.map .ofChars)) "join" [.value (.str sep)] =
      .ok (.ofChars (sep.toList.intercalate pieces)) := by
  change Except.ok (Value.ofChars (sep.toList.intercalate
    (Value.displayItems (pieces.map .ofChars)))) = _
  rw [displayItems_texts]

theorem callMethod_join_characters (cs : List Char) :
    callMethod (.arr (TextMethod.characters cs)) "join" [.value (.str "")] = .ok (.ofChars cs) := by
  have hcs : TextMethod.characters cs = (cs.map fun c => [c]).map .ofChars := by
    rw [List.map_map]
    rfl
  rw [hcs, callMethod_join, String.toList_empty, nil_intercalate, ← List.flatMap_def,
    List.flatMap_singleton']

/-! ### Laws -/

theorem slice_concat_slice {x : Value} (h : Sliceable x) (k : Float) :
    (do
      let front ← callMethod x "slice" [numeral (Binary64.ofNat 0), numeral k]
      let back ← callMethod x "slice" [numeral k]
      callMethod front "concat" [.value back]) = .ok x := by
  cases h with
  | @text s h =>
    have hcut := sliceOf_relativeIndex_append s.toList h k
    simp only [callMethod_slice_text, bind, Except.bind, callMethod_concat_text, number_numeral,
      number_succ, number_nil, hcut]
    rw [Value.ofChars, String.ofList_toList]
  | @array items h =>
    have hcut := sliceOf_relativeIndex_append items h k
    simp only [callMethod_slice_array, bind, Except.bind, callMethod_concat_array, number_numeral,
      number_succ, number_nil, hcut]

theorem split_slice_join (s : String) (a b : Float) :
    (do
      let cs ← callMethod (.str s) "split" [.value (.str "")]
      let part ← callMethod cs "slice" [numeral a, numeral b]
      callMethod part "join" [.value (.str "")]) =
      callMethod (.str s) "slice" [numeral a, numeral b] := by
  have hpart (i j : Nat) : sliceOf (TextMethod.characters s.toList) i j =
      TextMethod.characters (sliceOf s.toList i j) := by
    simp [TextMethod.characters, sliceOf]
  have hlength : (TextMethod.characters s.toList).length = s.toList.length := List.length_map _
  simp only [callMethod_split_text, bind, Except.bind, callMethod_slice_array, hpart, hlength,
    callMethod_join_characters, callMethod_slice_text, number_numeral, number_succ]

/-- The positions of `substring` come in either order. -/
theorem substring_comm (s : String) (a b : Float) :
    callMethod (.str s) "substring" [numeral a, numeral b] =
      callMethod (.str s) "substring" [numeral b, numeral a] := by
  change Except.ok (Value.ofChars (TextMethod.substringText s.toList a b)) =
    .ok (.ofChars (TextMethod.substringText s.toList b a))
  rw [TextMethod.substringText, TextMethod.substringText, Nat.min_comm, Nat.max_comm]

/-- **Parts of texts and of arrays.** A position cuts a text or an array in two parts, whichever
number it is; a part of a text is the same part of its characters; the positions of `substring` come
in either order; and a method looks at places inside its text only, for all arguments. -/
theorem callMethod_slices :
    (∀ (x : Value) (k : Float), Sliceable x →
      (do
        let front ← callMethod x "slice" [numeral (Binary64.ofNat 0), numeral k]
        let back ← callMethod x "slice" [numeral k]
        callMethod front "concat" [.value back]) = .ok x) ∧
    (∀ (s : String) (a b : Float),
      (do
        let cs ← callMethod (.str s) "split" [.value (.str "")]
        let part ← callMethod cs "slice" [numeral a, numeral b]
        callMethod part "join" [.value (.str "")]) =
        callMethod (.str s) "slice" [numeral a, numeral b]) ∧
    (∀ (s : String) (a b : Float),
      callMethod (.str s) "substring" [numeral a, numeral b] =
        callMethod (.str s) "substring" [numeral b, numeral a]) ∧
    ∀ (p : Part) (s : String) (args : Arguments), callMethod (.str s) p.name args =
      .ok (p.answer ((p.stretch s.toList.length args).read s.toList) args) :=
  ⟨fun _ k h => slice_concat_slice h k, split_slice_join, substring_comm, callMethod_part⟩

theorem callMethod_slices_euro : Sliceable (.str "a€b") ∧
    (do
      let front ← callMethod (.str "a€b") "slice"
        [numeral (Binary64.ofNat 0), numeral (Binary64.ofInt (-1))]
      let back ← callMethod (.str "a€b") "slice" [numeral (Binary64.ofInt (-1))]
      callMethod front "concat" [.value back]) = .ok (.str "a€b") := by
  have hshort : Sliceable (.str "a€b") := .text (by decide)
  exact ⟨hshort, callMethod_slices.1 _ _ hshort⟩

end Logbook.Expr
