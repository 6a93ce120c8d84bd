import Logbook.Expr.Token
import Logbook.Number.Numeric

/-!
# Errors of expressions

An expression fails when it is compiled or when it is evaluated. Each error is a cause; `message` is
the one place where it is put into words.

* `CompileError`: a problem at a column, an unknown name, or too deep a nesting;
* `RunError`: an operation on the wrong kind of value, an unknown function, or a bad argument;
* `ExprError`: either of them.
-/

namespace Logbook

namespace Expr

/-- How deep sub-expressions may be nested. -/
def maxDepth : Nat := 64

/-- What is wrong at a column of an expression. -/
inductive Problem where
  | unexpectedChar (c : Char)
  /-- A character that has a meaning elsewhere and none here. -/
  | unsupported (c : Char)
  | malformedHex
  | nameAfterNumber
  | malformedNumber (text : String)
  | malformedEscape
  | unterminatedText
  | expected (m : Mark)
  | unexpected (t : Token)
  | unexpectedEnd
  | expectedPropertyName
  | arrowOutsideCall
  deriving DecidableEq

/-- A token as an error names it. -/
def Token.describe : Token → String
  | .number x => "number " ++ String.ofList (plainText x)
  | .text s => "string '" ++ s ++ "'"
  | .name s => "identifier '" ++ s ++ "'"
  | .mark m => "'" ++ m.text ++ "'"

/-- A problem in words. -/
def Problem.message : Problem → String
  | .unexpectedChar c => "unexpected character '" ++ c.toString ++ "'"
  | .unsupported c => "'" ++ c.toString ++ "' is not supported"
  | .malformedHex => "malformed hex literal"
  | .nameAfterNumber => "identifier directly after number"
  | .malformedNumber text => "malformed number '" ++ text ++ "'"
  | .malformedEscape => "malformed escape sequence"
  | .unterminatedText => "unterminated string"
  | .expected m => "expected '" ++ m.text ++ "'"
  | .unexpected t => "unexpected " ++ t.describe
  | .unexpectedEnd => "unexpected end of expression"
  | .expectedPropertyName => "expected a property name"
  | .arrowOutsideCall => "arrow functions are only allowed as call arguments"

/-- Why a text is no expression. -/
inductive CompileError where
  | at (column : Nat) (problem : Problem)
  | unknownName (name : String)
  | tooDeep
  deriving DecidableEq

/-- A compile error in words. -/
def CompileError.message : CompileError → String
  | .at column problem => "syntax error at column " ++ toString column ++ ": " ++ problem.message
  | .unknownName name => name ++ " is not defined"
  | .tooDeep => "expression is nested more than " ++ toString maxDepth ++ " levels deep"

/-- An operation on the wrong kind of value. -/
inductive TypeProblem where
  /-- A member of `undefined` or `null`. -/
  | readOfNullish (target member : String)
  | libraryAsValue (name : String)
  | conversionAsValue (name : String)
  /-- A member of a library that is a function, or none at all, used as a value. -/
  | notAValue (library member : String)
  | expectsArrow (method : String)
  | entriesOfNullish (function : String)
  deriving DecidableEq

/-- A type problem in words. -/
def TypeProblem.message : TypeProblem → String
  | .readOfNullish target member =>
    "cannot read properties of " ++ target ++ " (reading '" ++ member ++ "')"
  | .libraryAsValue name => name ++ " can only be used to call its functions"
  | .conversionAsValue name => name ++ " can only be called"
  | .notAValue library member => library ++ "." ++ member ++ " is not a value"
  | .expectsArrow method => method ++ " expects an arrow function"
  | .entriesOfNullish function => "Object." ++ function ++ " called on null or undefined"

/-- An argument that a function does not accept. -/
inductive ArgumentProblem where
  | arrowAsValue
  | codePoint (x : Float)
  | json
  | emptyPattern
  | pattern
  | repeatCount (x : Float)
  | repeatTooLong
  | padTooLong (method : String)
  | fixedDigits (x : Float)
  deriving DecidableEq

/-- An argument problem in words. -/
def ArgumentProblem.message : ArgumentProblem → String
  | .arrowAsValue => "arrow functions can only be passed to methods"
  | .codePoint x => "invalid code point " ++ String.ofList (numberText x)
  | .json => "JSON.parse: the text is not a value"
  | .emptyPattern => "replaceAll needs a non-empty pattern"
  | .pattern => "invalid regular expression: the text is not a pattern"
  | .repeatCount x => "invalid repeat count " ++ String.ofList (numberText x)
  | .repeatTooLong => "repeat result is too long"
  | .padTooLong method => method ++ " result is too long"
  | .fixedDigits x =>
    "toFixed digits must be between 0 and 100, got " ++ String.ofList (numberText x)

/-- Why an evaluation has no value. -/
inductive RunError where
  | type (problem : TypeProblem)
  | notAFunction (name : String)
  | argument (problem : ArgumentProblem)
  deriving DecidableEq

/-- An evaluation error in words. -/
def RunError.message : RunError → String
  | .type problem => "type error: " ++ problem.message
  | .notAFunction name => name ++ " is not a function"
  | .argument problem => problem.message

end Expr

/-- Why an expression has no value for a record. -/
inductive ExprError where
  | compile (e : Expr.CompileError)
  | run (e : Expr.RunError)
  deriving DecidableEq

namespace ExprError

/-- An error in words. -/
def message : ExprError → String
  | compile e => e.message
  | run e => e.message

/-- Whether the error is found without a record. -/
def isCompileError : ExprError → Bool
  | compile _ => true
  | run _ => false

end ExprError

end Logbook
