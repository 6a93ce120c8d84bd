/-!
# Tokens

* `Mark`: the marks of the expression language, `Mark.text` as they are written;
* `Token`: numbers, texts, names and marks;
* `Placed`: a token with the column where it starts.
-/

namespace Logbook.Expr

/-- The marks of the language. -/
inductive Mark where
  | strictEq
  | strictNe
  | chain
  | coalesce
  | arrow
  | eq
  | ne
  | le
  | ge
  | and
  | or
  | dot
  | openBracket
  | closeBracket
  | openParen
  | closeParen
  | comma
  | colon
  | question
  | not
  | plus
  | minus
  | times
  | slash
  | percent
  | lt
  | gt
  deriving DecidableEq, Repr

namespace Mark

/-- How a mark is written. -/
def text : Mark → String
  | strictEq => "==="
  | strictNe => "!=="
  | chain => "?."
  | coalesce => "??"
  | arrow => "=>"
  | eq => "=="
  | ne => "!="
  | le => "<="
  | ge => ">="
  | and => "&&"
  | or => "||"
  | dot => "."
  | openBracket => "["
  | closeBracket => "]"
  | openParen => "("
  | closeParen => ")"
  | comma => ","
  | colon => ":"
  | question => "?"
  | not => "!"
  | plus => "+"
  | minus => "-"
  | times => "*"
  | slash => "/"
  | percent => "%"
  | lt => "<"
  | gt => ">"

/-- All marks, a longer one ahead of any that it starts with. -/
def all : List Mark :=
  [strictEq, strictNe, chain, coalesce, arrow, eq, ne, le, ge, and, or, dot, openBracket,
   closeBracket, openParen, closeParen, comma, colon, question, not, plus, minus, times, slash,
   percent, lt, gt]

end Mark

/-- A token. -/
inductive Token where
  | number (x : Float)
  | text (s : String)
  | name (s : String)
  | mark (m : Mark)
  deriving DecidableEq

/-- A token and the column of its first character, counted from 1. -/
structure Placed where
  token : Token
  column : Nat
  deriving DecidableEq

/-- A letter that may start a name. -/
def isNameStart (c : Char) : Bool := c.isAlpha || c == '_' || c == '$'

/-- A character that may go on a name. -/
def isNamePart (c : Char) : Bool := c.isAlphanum || c == '_' || c == '$'

end Logbook.Expr
