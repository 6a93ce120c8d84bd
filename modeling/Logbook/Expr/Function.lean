import Logbook.Expr.ArrayMethod
import Logbook.Expr.NumberMethod
import Logbook.Expr.TextMethod
import Logbook.Expr.Tree
import Logbook.Json.Reader
import Logbook.Text.Units

/-!
# Functions of libraries, conversions and methods

* `MathFunction`: the functions of `Math`; `mathConstant?` its constants;
* `Library.constant`, `Library.call`: the members of a library;
* `Conversion.apply`: `String`, `Number` and `Boolean`;
* `Method`, `methodOf?`: the method of a name that a value has;
* **`callMethod`**: a method of a value, or the error that it has none of that name.
-/

namespace Logbook.Expr

/-! ## Math -/

/-- The functions of `Math`. -/
inductive MathFunction where
  | abs
  | ceil
  | floor
  | round
  | trunc
  | sign
  | sqrt
  | cbrt
  | exp
  | log
  | log10
  | log2
  | pow
  | min
  | max
  deriving DecidableEq, Repr

namespace MathFunction

/-- The function of that name. -/
def ofName? : String → Option MathFunction
  | "abs" => some abs
  | "ceil" => some ceil
  | "floor" => some floor
  | "round" => some round
  | "trunc" => some trunc
  | "sign" => some sign
  | "sqrt" => some sqrt
  | "cbrt" => some cbrt
  | "exp" => some exp
  | "log" => some log
  | "log10" => some log10
  | "log2" => some log2
  | "pow" => some pow
  | "min" => some min
  | "max" => some max
  | _ => none

/-- The sign of a number: itself where it is zero or NaN, else one with its sign. -/
def signOf (x : Float) : Float :=
  if x.isNaN || x == 0 then x else Binary64.ofInt (if Binary64.isNegative x then -1 else 1)

/-- The least of some numbers, infinity for none; NaN where one of them is NaN. -/
def least (xs : List Float) : Float :=
  if xs.any Float.isNaN then Binary64.nan
  else xs.foldl (fun a x => if x < a then x else a) Binary64.infinity

/-- The greatest of some numbers, minus infinity for none; NaN where one of them is NaN. -/
def greatest (xs : List Float) : Float :=
  if xs.any Float.isNaN then Binary64.nan
  else xs.foldl (fun a x => if a < x then x else a)
    (Binary64.ofMagnitude true Binary64.infinityBits)

/-- What a function gives. -/
def apply (f : MathFunction) (args : Arguments) : Float :=
  let x := args.number 0 Binary64.nan
  match f with
  | abs => x.abs
  | ceil => Binary64.ceil x
  | floor => Binary64.floor x
  | round => Binary64.floor (x + 0.5)
  | trunc => Binary64.trunc x
  | sign => signOf x
  | sqrt => x.sqrt
  | cbrt => x.cbrt
  | exp => x.exp
  | log => x.log
  | log10 => x.log10
  | log2 => x.log2
  | pow => x.pow (args.number 1 Binary64.nan)
  | min => least (args.values.map Value.toNumber)
  | max => greatest (args.values.map Value.toNumber)

end MathFunction

/-- The constants of `Math`. -/
def mathConstant? : String → Option Float
  | "PI" => some (Float.ofBits 0x400921FB54442D18)
  | "E" => some (Float.ofBits 0x4005BF0A8B145769)
  | "LN2" => some (Float.ofBits 0x3FE62E42FEFA39EF)
  | "LN10" => some (Float.ofBits 0x40026BB1BBB55516)
  | "SQRT2" => some (Float.ofBits 0x3FF6A09E667F3BCD)
  | _ => none

/-! ## Libraries -/

/-- The error for a member that is no function. -/
def notAFunction {α : Type} (receiver name : String) : Except RunError α :=
  .error (.notAFunction (receiver ++ "." ++ name))

/-- A member of a library that is a value. -/
def Library.constant (l : Library) (name : String) : Except RunError Value :=
  match l, mathConstant? name with
  | .math, some x => .ok (.num x)
  | _, _ => .error (.type (.notAValue l.name name))

/-- The sixteen-bit unit of a number, of which only the lowest bits count. -/
def unitOf (x : Float) : UInt16 :=
  match Binary64.integerPart? x with
  | some n => UInt16.ofNat (n % 65536).toNat
  | none => 0

/-- The character with that number. -/
def codePoint (x : Float) : Except RunError Char :=
  match Binary64.isIntegral x, Binary64.integerPart? x with
  | true, some n =>
    if 0 ≤ n ∧ n.toNat.isValidChar then .ok (Char.ofNat n.toNat)
    else .error (.argument (.codePoint x))
  | _, _ => .error (.argument (.codePoint x))

/-- The functions of `String`. -/
def callString (name : String) (args : Arguments) : Except RunError Value :=
  match name with
  | "fromCharCode" =>
    .ok (.ofChars (Text.ofUnits (args.values.map fun v => unitOf v.toNumber)))
  | "fromCodePoint" => do
    let cs ← args.values.mapM fun v => codePoint v.toNumber
    .ok (.ofChars cs)
  | _ => notAFunction "String" name

/-- The functions of `JSON`. -/
def callJson (name : String) (args : Arguments) : Except RunError Value :=
  match name with
  | "stringify" =>
    .ok (match (args.value 0).toJson? with
      | some j => .ofChars (Json.compact j)
      | none => .undefined)
  | "parse" =>
    match Json.parse? (args.text 0) with
    | some j => .ok (.ofJson j)
    | none => .error (.argument .json)
  | _ => notAFunction "JSON" name

/-- The items of an array or the characters of a text. -/
def itemsOf : Value → List Value
  | .arr items => items
  | .str s => TextMethod.characters s.toList
  | _ => []

/-- The functions of `Array`. -/
def callArray (name : String) (args : Arguments) : Except RunError Value :=
  match name with
  | "isArray" => .ok (.bool (match args.value 0 with
      | .arr _ => true
      | _ => false))
  | "of" => .ok (.arr args.values)
  | "from" =>
    let items := itemsOf (args.value 0)
    match (args[1]? : Option Argument) with
    | some (.arrow f) => Loop.map.run f items
    | _ => .ok (.arr items)
  | _ => notAFunction "Array" name

/-- The members of an object; items and characters are members by their index. -/
def entriesOf (function : String) : Value → Except RunError (List (String × Value))
  | .obj members => .ok members
  | .arr items => .ok (items.mapIdx fun i v => (toString i, v))
  | .str s => .ok ((TextMethod.characters s.toList).mapIdx fun i v => (toString i, v))
  | .undefined | .null => .error (.type (.entriesOfNullish function))
  | _ => .ok []

/-- The functions of `Object`. -/
def callObject (name : String) (args : Arguments) : Except RunError Value := do
  let entries ← entriesOf name (args.value 0)
  match name with
  | "keys" => .ok (.arr (entries.map fun e => .str e.1))
  | "values" => .ok (.arr (entries.map Prod.snd))
  | "entries" => .ok (.arr (entries.map fun e => .arr [.str e.1, e.2]))
  | _ => notAFunction "Object" name

/-- A function of a library. -/
def Library.call (l : Library) (name : String) (args : Arguments) : Except RunError Value :=
  match l with
  | .math =>
    match MathFunction.ofName? name with
    | some f => .ok (.num (f.apply args))
    | none => notAFunction "Math" name
  | .json => callJson name args
  | .array => callArray name args
  | .object => callObject name args
  | .string => callString name args

/-! ## Conversions and methods -/

/-- What a conversion gives; without an argument, an empty text, zero or false. -/
def Conversion.apply (c : Conversion) (args : Arguments) : Value :=
  match c with
  | .string => if args.isEmpty then .str "" else .str (args.value 0).display
  | .number => .num (if args.isEmpty then Binary64.ofNat 0 else (args.value 0).toNumber)
  | .boolean => .bool (args.value 0).isTruthy

/-- A method of some kind of value. -/
inductive Method where
  | text (m : TextMethod)
  | array (m : ArrayMethod)
  | number (m : NumberMethod)
  | date (m : DateMethod)
  /-- The text of a truth value or an object. -/
  | display
  deriving DecidableEq, Repr

/-- The method of that name that a value has. -/
def methodOf? (receiver : Value) (name : String) : Option Method :=
  match receiver with
  | .str _ => (TextMethod.ofName? name).map .text
  | .arr _ => (ArrayMethod.ofName? name).map .array
  | .num _ => (NumberMethod.ofName? name).map .number
  | .date _ => (DateMethod.ofName? name).map .date
  | .bool _ | .obj _ => if name = "toString" then some .display else none
  | .undefined | .null => none

/-- What a method gives for a value that has it. -/
def Method.apply (m : Method) (receiver : Value) (args : Arguments) : Except RunError Value :=
  match m, receiver with
  | .text m, .str s => m.apply s.toList args
  | .array m, .arr items => m.apply items args
  | .number m, .num x => m.apply x args
  | .date m, .date t => .ok (m.value t)
  | _, v => .ok (.str v.display)

/-- The kind of a value as an unknown method names it. -/
def kindName : Value → String
  | .arr _ => "array"
  | .date _ => "Date"
  | v => v.typeName

/-- **A method of a value.** -/
def callMethod (receiver : Value) (name : String) (args : Arguments) : Except RunError Value :=
  match methodOf? receiver name with
  | some m => m.apply receiver args
  | none => notAFunction (kindName receiver) name

end Logbook.Expr
