import Logbook.Value.Basic

/-!
# Relations between values

* `Value.strictEq`: `===`, the same kind and the same content;
* `Value.looseEq`: `==`, in which numbers, texts and truth values meet on the number line;
* `Value.sameValueZero`: strict, but NaN is the same as NaN;
* `Value.compare?`: the order of `<`, two texts as texts and all else as numbers.
-/

namespace Logbook.Value

mutual

/-- The same kind and the same content. -/
def strictEq : Value → Value → Bool
  | undefined, undefined => true
  | null, null => true
  | bool a, bool b => a == b
  | num a, num b => a == b
  | str a, str b => a == b
  | date a, date b => a == b
  | arr as, arr bs => strictEqItems as bs
  | obj as, obj bs => strictEqMembers as bs
  | _, _ => false

/-- Items one by one. -/
def strictEqItems : List Value → List Value → Bool
  | [], [] => true
  | a :: as, b :: bs => strictEq a b && strictEqItems as bs
  | _, _ => false

/-- Members one by one, names and values. -/
def strictEqMembers : List (String × Value) → List (String × Value) → Bool
  | [], [] => true
  | (k, a) :: as, (l, b) :: bs => k == l && strictEq a b && strictEqMembers as bs
  | _, _ => false

end

/-- Equality that looks through kinds: `undefined` and `null` equal each other and nothing else,
a truth value or a text beside a number counts as a number, a date beside a text as a text. -/
def looseEq (a b : Value) : Bool :=
  if a.isNullish || b.isNullish then a.isNullish && b.isNullish
  else
    match a, b with
    | num _, str _ | str _, num _ | bool _, _ | _, bool _ => a.toNumber == b.toNumber
    | date _, str _ | str _, date _ => a.display == b.display
    | _, _ => strictEq a b

/-- Strict equality in which NaN is the same as NaN. -/
def sameValueZero (a b : Value) : Bool :=
  match a, b with
  | num x, num y => (x.isNaN && y.isNaN) || x == y
  | _, _ => strictEq a b

/-- The order of two doubles; none where one is NaN. -/
def compareNumbers? (x y : Float) : Option Ordering :=
  if x < y then some .lt else if y < x then some .gt else if x == y then some .eq else none

/-- The order of two values; none where one counts as NaN. -/
def compare? (a b : Value) : Option Ordering :=
  match a, b with
  | str s, str t => some (if s < t then .lt else if t < s then .gt else .eq)
  | _, _ => compareNumbers? a.toNumber b.toNumber

end Logbook.Value
