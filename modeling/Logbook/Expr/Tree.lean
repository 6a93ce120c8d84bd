import Logbook.Message.Record

/-!
# Expression trees

* `Library`, `Conversion`: the names that stand for functions;
* `UnaryOp`, `BinaryOp`, `LogicalOp`: the operators;
* `Expr`: the trees; a parameter of an arrow function is known by its slot, counted from the
  outermost parameter in scope;
* `Expr.height`: the number of nodes on the longest way down a tree.
-/

namespace Logbook

namespace Expr

/-- The libraries of functions. -/
inductive Library where
  | math
  | json
  | array
  | object
  | string
  deriving DecidableEq, Repr

/-- The name of a library. -/
def Library.name : Library → String
  | .math => "Math"
  | .json => "JSON"
  | .array => "Array"
  | .object => "Object"
  | .string => "String"

/-- The library of that name. `String` names a conversion in the first place. -/
def Library.ofName? (s : String) : Option Library :=
  [Library.math, .json, .array, .object].find? fun l => l.name == s

/-- The conversions. -/
inductive Conversion where
  | string
  | number
  | boolean
  deriving DecidableEq, Repr

/-- The name of a conversion. -/
def Conversion.name : Conversion → String
  | .string => "String"
  | .number => "Number"
  | .boolean => "Boolean"

/-- The conversion of that name. -/
def Conversion.ofName? (s : String) : Option Conversion :=
  [Conversion.string, .number, .boolean].find? fun c => c.name == s

/-- The operators in front of one operand. -/
inductive UnaryOp where
  | not
  | neg
  | plus
  | typeOf
  deriving DecidableEq, Repr

/-- The operators between two operands that are both evaluated. -/
inductive BinaryOp where
  | add
  | sub
  | mul
  | div
  | rem
  | lt
  | le
  | gt
  | ge
  | eq
  | ne
  | strictEq
  | strictNe
  deriving DecidableEq, Repr

/-- The operators whose second operand is evaluated only when it counts. -/
inductive LogicalOp where
  | and
  | or
  | coalesce
  deriving DecidableEq, Repr

end Expr

open Logbook.Expr in
/-- An expression. -/
inductive Expr where
  | literal (v : Value)
  | array (items : List Expr)
  | field (f : Field)
  /-- A parameter in scope, by its slot. -/
  | param (slot : Nat)
  | library (l : Library)
  | conversion (c : Conversion)
  | member (object property : Expr) (optional : Bool)
  | call (callee : Expr) (args : List Expr) (optional : Bool)
  /-- An arrow function; only an argument of a call is one. -/
  | lambda (arity : Nat) (body : Expr)
  | unary (op : UnaryOp) (operand : Expr)
  | binary (op : BinaryOp) (left right : Expr)
  | logical (op : LogicalOp) (left right : Expr)
  | conditional (test yes no : Expr)

namespace Expr

instance : Inhabited Expr := ⟨literal .undefined⟩

mutual

/-- The number of nodes on the longest way from the root down. -/
def height : Expr → Nat
  | literal _ | field _ | param _ | library _ | conversion _ => 1
  | array items => heightList items + 1
  | member object property _ => max object.height property.height + 1
  | call callee args _ => max callee.height (heightList args) + 1
  | lambda _ body => body.height + 1
  | unary _ operand => operand.height + 1
  | binary _ left right => max left.height right.height + 1
  | logical _ left right => max left.height right.height + 1
  | conditional test yes no => max test.height (max yes.height no.height) + 1

/-- The height of the highest tree of a list. -/
def heightList : List Expr → Nat
  | [] => 0
  | e :: es => max e.height (heightList es)

end

end Expr

end Logbook
