import Logbook.Expr.Function

/-!
# Evaluation

An expression is evaluated for one record, with the values of the parameters in scope. An optional
link that meets `undefined` or `null` ends the whole chain of members and calls around it; a chain
that ended so has no value, and counts as `undefined` where one is needed.

* `applyUnary`, `applyBinary`, `decides`: the operators;
* `memberOf`: a member of a value;
* **`Expr.chain`, `Expr.eval`**: evaluation of a tree.
-/

namespace Logbook

namespace Expr

/-- The value of an operator in front of its operand. -/
def applyUnary (op : UnaryOp) (v : Value) : Value :=
  match op with
  | .not => .bool !v.isTruthy
  | .neg => .num (-v.toNumber)
  | .plus => .num v.toNumber
  | .typeOf => .str v.typeName

/-- A value that makes a sum a text. -/
def isTextual : Value → Bool
  | .str _ | .date _ | .arr _ | .obj _ => true
  | _ => false

/-- The value of an operator between its operands. -/
def applyBinary (op : BinaryOp) (a b : Value) : Value :=
  match op with
  | .add =>
    if isTextual a || isTextual b then .ofChars (a.displayChars ++ b.displayChars)
    else .num (a.toNumber + b.toNumber)
  | .sub => .num (a.toNumber - b.toNumber)
  | .mul => .num (a.toNumber * b.toNumber)
  | .div => .num (a.toNumber / b.toNumber)
  | .rem => .num (Binary64.remainder a.toNumber b.toNumber)
  | .lt => .bool (a.compare? b == some .lt)
  | .le => .bool (a.compare? b == some .lt || a.compare? b == some .eq)
  | .gt => .bool (a.compare? b == some .gt)
  | .ge => .bool (a.compare? b == some .gt || a.compare? b == some .eq)
  | .eq => .bool (a.looseEq b)
  | .ne => .bool !a.looseEq b
  | .strictEq => .bool (a.strictEq b)
  | .strictNe => .bool !a.strictEq b

/-- Whether the first operand is the value of the whole. -/
def decides (op : LogicalOp) (left : Value) : Bool :=
  match op with
  | .and => !left.isTruthy
  | .or => left.isTruthy
  | .coalesce => !left.isNullish

/-- The index that a key is: an integer that is not negative, or ASCII digits. -/
def indexOfKey? : Value → Option Nat
  | .num x =>
    match Binary64.isIntegral x, Binary64.integerPart? x with
    | true, some n => if 0 ≤ n then some n.toNat else none
    | _, _ => none
  | .str s =>
    if s.isEmpty || !s.toList.all Char.isDigit then none
    else Text.readBounded? 0x10000000000000000 s.toList
  | _ => none

/-- The error for a member of `undefined` or `null`. -/
def readOfNullish {α : Type} (target : Value) (name : String) : Except RunError α :=
  .error (.type (.readOfNullish target.display name))

/-- A member of a value; one that is missing is `undefined`. -/
def memberOf (target key : Value) : Except RunError Value :=
  match target with
  | .undefined | .null => readOfNullish target key.display
  | .str s =>
    .ok (if key.display = "length" then .ofNat s.toList.length
      else
        match (indexOfKey? key).bind (s.toList[·]?) with
        | some c => .ofChars [c]
        | none => .undefined)
  | .arr items =>
    .ok (if key.display = "length" then .ofNat items.length
      else ((indexOfKey? key).bind (items[·]?)).getD .undefined)
  | .obj members => .ok ((Keyed.find? key.display members).getD .undefined)
  | .bool _ | .num _ | .date _ => .ok .undefined

/-- The library that an expression names; `String` is one where a member follows. -/
def library? : Expr → Option Library
  | .library l => some l
  | .conversion .string => some .string
  | _ => none

/-- What an error calls something that is no function. -/
def describeCallee : Expr → String
  | .field f => f.name
  | .library l => l.name
  | .literal v => v.display
  | _ => "expression"

/-- The outcome of an optional call: an unknown function ends the chain. -/
def optionalOutcome (optional : Bool) (r : Except RunError Value) :
    Except RunError (Option Value) :=
  match r with
  | .ok v => .ok (some v)
  | .error (.notAFunction name) => if optional then .ok none else .error (.notAFunction name)
  | .error e => .error e

/-- The values of `arity` parameters: missing ones are `undefined`, further ones are left out. -/
def bindParameters (arity : Nat) (args : List Value) : List Value :=
  (List.range arity).map fun i => args.getD i .undefined

mutual

/-- The value of an expression, or none for a chain that ended at an optional link. -/
def chain (r : Record) (locals : List Value) : Expr → Except RunError (Option Value)
  | .member object property optional =>
    match library? object with
    | some l => do
      let key ← (chain r locals property).map (·.getD .undefined)
      let v ← l.constant key.display
      .ok (some v)
    | none => do
      match ← chain r locals object with
      | none => .ok none
      | some target =>
        if optional && target.isNullish then .ok none
        else do
          let key ← (chain r locals property).map (·.getD .undefined)
          let v ← memberOf target key
          .ok (some v)
  | .call (.member object property optionalMember) args optional =>
    match library? object with
    | some l => do
      let key ← (chain r locals property).map (·.getD .undefined)
      let args ← arguments r locals args
      let v ← l.call key.display args
      .ok (some v)
    | none => do
      match ← chain r locals object with
      | none => .ok none
      | some receiver =>
        if optionalMember && receiver.isNullish then .ok none
        else do
          let key ← (chain r locals property).map (·.getD .undefined)
          if receiver.isNullish then readOfNullish receiver key.display
          else do
            let args ← arguments r locals args
            optionalOutcome optional (callMethod receiver key.display args)
  | .call (.conversion c) args _ => do
    let args ← arguments r locals args
    .ok (some (c.apply args))
  | .call callee _ optional => do
    match ← chain r locals callee with
    | none => .ok none
    | some target =>
      if optional && target.isNullish then .ok none
      else .error (.notAFunction (describeCallee callee))
  | .literal v => .ok (some v)
  | .array es => do
    let vs ← itemValues r locals es
    .ok (some (.arr vs))
  | .field f => .ok (some (r.field f))
  | .param slot => .ok (some (locals.getD slot .undefined))
  | .library l => .error (.type (.libraryAsValue l.name))
  | .conversion c => .error (.type (.conversionAsValue c.name))
  | .lambda _ _ => .error (.argument .arrowAsValue)
  | .unary op e => do
    let v ← (chain r locals e).map (·.getD .undefined)
    .ok (some (applyUnary op v))
  | .binary op left right => do
    let a ← (chain r locals left).map (·.getD .undefined)
    let b ← (chain r locals right).map (·.getD .undefined)
    .ok (some (applyBinary op a b))
  | .logical op left right => do
    let a ← (chain r locals left).map (·.getD .undefined)
    if decides op a then .ok (some a)
    else do
      let b ← (chain r locals right).map (·.getD .undefined)
      .ok (some b)
  | .conditional test yes no => do
    let t ← (chain r locals test).map (·.getD .undefined)
    if t.isTruthy then do
      let v ← (chain r locals yes).map (·.getD .undefined)
      .ok (some v)
    else do
      let v ← (chain r locals no).map (·.getD .undefined)
      .ok (some v)

/-- The arguments of a call, from left to right. -/
def arguments (r : Record) (locals : List Value) : List Expr → Except RunError Arguments
  | [] => .ok []
  | .lambda arity body :: rest => do
    let more ← arguments r locals rest
    let f : Arrow := fun args =>
      (chain r (locals ++ bindParameters arity args) body).map (·.getD .undefined)
    .ok (.arrow f :: more)
  | e :: rest => do
    let v ← (chain r locals e).map (·.getD .undefined)
    let more ← arguments r locals rest
    .ok (.value v :: more)

/-- The values of the items of an array, from left to right. -/
def itemValues (r : Record) (locals : List Value) : List Expr → Except RunError (List Value)
  | [] => .ok []
  | e :: rest => do
    let v ← (chain r locals e).map (·.getD .undefined)
    let more ← itemValues r locals rest
    .ok (v :: more)

end

/-- **The value of an expression.** -/
def eval (r : Record) (locals : List Value) (e : Expr) : Except RunError Value :=
  (e.chain r locals).map (·.getD .undefined)

end Expr

end Logbook
