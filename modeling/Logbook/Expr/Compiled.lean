import Logbook.Expr.Eval
import Logbook.Expr.Parser

/-!
# Compiled expressions

* `Compiled`: a text with the tree that it is, or with what is wrong with it; a blank text is no
  expression and has the value `undefined`;
* `compile`: compiling never fails, an error shows when the expression is evaluated;
* `Compiled.eval`, `Compiled.test`: the value for a record, and whether it counts as true.
-/

namespace Logbook

/-- A compiled expression. -/
structure Compiled where
  source : String
  /-- The tree, none for a blank text, or the error. -/
  program : Except Expr.CompileError (Option Expr)

/-- Compiles a text. -/
def compile (source : String) : Compiled :=
  { source
    program :=
      if Text.isAllBlank source.toList then .ok none
      else do
        let tokens ← Expr.tokenize source.toList
        let e ← Expr.parse tokens
        .ok (some e) }

namespace Compiled

/-- Whether the text is blank. -/
def isBlank (c : Compiled) : Bool :=
  match c.program with
  | .ok none => true
  | _ => false

/-- The error of the text, if it has one. -/
def compileError? (c : Compiled) : Option Expr.CompileError :=
  match c.program with
  | .error e => some e
  | .ok _ => none

/-- The value for a record. -/
def eval (c : Compiled) (r : Record) : Except ExprError Value :=
  match c.program with
  | .error e => .error (.compile e)
  | .ok none => .ok .undefined
  | .ok (some e) => (Expr.eval r [] e).mapError .run

/-- Whether the value for a record counts as true. -/
def test (c : Compiled) (r : Record) : Except ExprError Bool := (c.eval r).map Value.isTruthy

end Compiled

end Logbook
