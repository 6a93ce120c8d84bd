import Logbook.Expr.Argument

/-!
# Methods of arrays

* `Loop`: the methods that call an arrow function for the items;
* `findFrom`, `mapFrom`, `filterFrom`, `Loop.run`: going through the items, each with its index, in
  any monad that runs the arrow function;
* `ArrayMethod`, `ArrayMethod.ofName?`: all methods;
* `ArrayMethod.apply`: what a method gives for items and arguments.
-/

namespace Logbook.Expr

/-! ## Loops -/

/-- The methods that call an arrow function for the items. -/
inductive Loop where
  | map
  | filter
  | some
  | every
  | find
  | findIndex
  deriving DecidableEq, Repr

namespace Loop

/-- The name of such a method. -/
def name : Loop → String
  | map => "map"
  | filter => "filter"
  | some => "some"
  | every => "every"
  | find => "find"
  | findIndex => "findIndex"

variable {m : Type → Type} [Monad m] (f : List Value → m Value)

/-- The first item from index `i` on for which the truth of the answer is `wanted`. -/
def findFrom (wanted : Bool) : Nat → List Value → m (Option (Nat × Value))
  | _, [] => pure none
  | i, v :: vs => do
    let r ← f [v, .ofNat i]
    if r.isTruthy == wanted then pure (Option.some (i, v)) else findFrom wanted (i + 1) vs

/-- The answers for all items from index `i` on. -/
def mapFrom : Nat → List Value → m (List Value)
  | _, [] => pure []
  | i, v :: vs => do
    let r ← f [v, .ofNat i]
    let rs ← mapFrom (i + 1) vs
    pure (r :: rs)

/-- The items from index `i` on whose answers are true. -/
def filterFrom : Nat → List Value → m (List Value)
  | _, [] => pure []
  | i, v :: vs => do
    let r ← f [v, .ofNat i]
    let rs ← filterFrom (i + 1) vs
    pure (if r.isTruthy then v :: rs else rs)

/-- What such a method gives for the items. -/
def run (l : Loop) (items : List Value) : m Value :=
  match l with
  | map => do
    let vs ← mapFrom f 0 items
    pure (.arr vs)
  | filter => do
    let vs ← filterFrom f 0 items
    pure (.arr vs)
  | some => do
    let r ← findFrom f true 0 items
    pure (.bool r.isSome)
  | every => do
    let r ← findFrom f false 0 items
    pure (.bool r.isNone)
  | find => do
    let r ← findFrom f true 0 items
    pure ((r.map Prod.snd).getD .undefined)
  | findIndex => do
    let r ← findFrom f true 0 items
    pure (position (r.map Prod.fst))

end Loop

/-! ## Methods -/

/-- The methods of arrays. -/
inductive ArrayMethod where
  | display
  | includes
  | indexOf
  | join
  | slice
  | concat
  | item
  | reverse
  | loop (l : Loop)
  deriving DecidableEq, Repr

namespace ArrayMethod

/-- The method of that name. -/
def ofName? : String → Option ArrayMethod
  | "toString" => some display
  | "includes" => some includes
  | "indexOf" => some indexOf
  | "join" => some join
  | "slice" => some slice
  | "concat" => some concat
  | "at" => some item
  | "reverse" => some reverse
  | "map" => some (loop .map)
  | "filter" => some (loop .filter)
  | "some" => some (loop .some)
  | "every" => some (loop .every)
  | "find" => some (loop .find)
  | "findIndex" => some (loop .findIndex)
  | _ => none

/-- The items with the items of further arrays, and with further values, behind them. -/
def concatItems (items : List Value) (more : List Value) : List Value :=
  items ++ more.flatMap fun
    | .arr vs => vs
    | v => [v]

/-- The texts of items with a separator between them. -/
def joinItems (items : List Value) (separator : Value) : List Char :=
  let sep := match separator with
    | .undefined => [',']
    | v => v.displayChars
  sep.intercalate (Value.displayItems items)

/-- **What a method gives.** -/
def apply (m : ArrayMethod) (items : List Value) (args : Arguments) : Except RunError Value :=
  let zero := Binary64.ofNat 0
  let len := items.length
  match m with
  | display => .ok (.ofChars (Value.arr items).displayChars)
  | includes => .ok (.bool (items.any fun v => v.sameValueZero (args.value 0)))
  | indexOf => .ok (position (items.findIdx? fun v => v.strictEq (args.value 0)))
  | join => .ok (.ofChars (joinItems items (args.value 0)))
  | slice =>
    let start := relativeIndex (args.number 0 zero) len
    let stop := relativeIndex (args.number 1 (Binary64.ofNat len)) len
    .ok (.arr (sliceOf items start stop))
  | concat => .ok (.arr (concatItems items args.values))
  | item => .ok ((itemAt? items (args.number 0 zero)).getD .undefined)
  | reverse => .ok (.arr items.reverse)
  | loop l => do
    let f ← args.arrow 0 l.name
    l.run f items

end ArrayMethod

end Logbook.Expr
