import Logbook.Expr.Parser

/-!
# Expressions as they are written

A surface tree keeps what a text of the language has and a tree forgets: the names of parameters,
parentheses, and which of two spellings was used.

* `Joint`: the operators between two operands;
* `Surface`, `Surface.tokens`: the trees and the tokens that they are written with;
* `Surface.rank`: how tightly a tree binds, from 0 for an arrow function to 9 for a chain of links;
* `Surface.Fits`: a tree may stand at a place of a rank; tight trees have no needless parentheses;
* `Surface.resolve`, `Surface.Known`: the expression that a tree stands for, and that its names have
  a meaning;
* `Surface.need`: how many levels reading a tree opens.
-/

namespace Logbook.Expr

/-! ## Operators -/

/-- The token of an operator in front of its operand. -/
def UnaryOp.token : UnaryOp → Token
  | .not => .mark .not
  | .neg => .mark .minus
  | .plus => .mark .plus
  | .typeOf => .name "typeof"

/-- The level of an operator between operands that are both evaluated. -/
def BinaryOp.level : BinaryOp → Level
  | .strictEq | .strictNe | .eq | .ne => .equality
  | .le | .ge | .lt | .gt => .relational
  | .add | .sub => .additive
  | .mul | .div | .rem => .multiplicative

/-- The mark of such an operator. -/
def BinaryOp.mark : BinaryOp → Mark
  | .strictEq => .strictEq
  | .strictNe => .strictNe
  | .eq => .eq
  | .ne => .ne
  | .le => .le
  | .ge => .ge
  | .lt => .lt
  | .gt => .gt
  | .add => .plus
  | .sub => .minus
  | .mul => .times
  | .div => .slash
  | .rem => .percent

/-- The mark of an operator whose second operand may not count. -/
def LogicalOp.mark : LogicalOp → Mark
  | .and => .and
  | .or => .or
  | .coalesce => .coalesce

/-- How tightly the operators of a level bind. -/
def Level.rank : Level → Nat
  | .equality => 4
  | .relational => 5
  | .additive => 6
  | .multiplicative => 7

/-- How tightly `||`, `??` and `&&` bind. -/
def LogicalOp.rank : LogicalOp → Nat
  | .and => 3
  | .or | .coalesce => 2

/-- An operator between two operands. -/
inductive Joint where
  | binary (op : BinaryOp)
  | logical (op : LogicalOp)
  deriving DecidableEq, Repr

namespace Joint

/-- The mark of an operator. -/
def mark : Joint → Mark
  | binary op => op.mark
  | logical op => op.mark

/-- How tightly an operator binds. -/
def rank : Joint → Nat
  | binary op => op.level.rank
  | logical op => op.rank

/-- An operator applied to two operands. -/
def build : Joint → Expr → Expr → Expr
  | binary op => .binary op
  | logical op => .logical op

end Joint

/-! ## Trees -/

/-- An expression as it is written. -/
inductive Surface where
  | number (x : Float)
  | text (s : String)
  | name (s : String)
  /-- An array, perhaps with a comma behind its last item. -/
  | array (items : List Surface) (comma : Bool)
  /-- An expression in parentheses. -/
  | group (e : Surface)
  /-- A member by its name. -/
  | dot (object : Surface) (name : String) (optional : Bool)
  /-- A member in brackets. -/
  | item (object key : Surface) (optional : Bool)
  | call (callee : Surface) (args : List Surface) (optional : Bool)
  /-- An arrow function, whose only parameter may be bare of parentheses. -/
  | arrow (params : List String) (bare : Bool) (body : Surface)
  | unary (op : UnaryOp) (operand : Surface)
  | joined (op : Joint) (left right : Surface)
  | conditional (test yes no : Surface)

instance : Inhabited Surface := ⟨.name ""⟩

namespace Surface

/-! ## Tokens -/

/-- Names with commas between them. -/
def nameTokens : List String → List Token
  | [] => []
  | [x] => [.name x]
  | x :: y :: rest => .name x :: .mark .comma :: nameTokens (y :: rest)

/-- The parameters of an arrow function and the arrow. -/
def paramTokens : List String → Bool → List Token
  | [x], true => [.name x, .mark .arrow]
  | params, _ => .mark .openParen :: (nameTokens params ++ [.mark .closeParen, .mark .arrow])

/-- The mark in front of an optional member in brackets or an optional call. -/
def chainTokens (optional : Bool) : List Token := if optional then [.mark .chain] else []

/-- The tokens at the end of an array: perhaps a comma, and the bracket. -/
def endTokens (comma : Bool) : List Token :=
  (if comma then [.mark .comma] else []) ++ [.mark .closeBracket]

mutual

/-- The tokens that a tree is written with. -/
def tokens : Surface → List Token
  | number x => [.number x]
  | text s => [.text s]
  | name s => [.name s]
  | array items comma =>
    .mark .openBracket :: (listTokens items ++ endTokens (comma && !items.isEmpty))
  | group e => .mark .openParen :: (e.tokens ++ [.mark .closeParen])
  | dot object n optional =>
    object.tokens ++ [.mark (if optional then .chain else .dot), .name n]
  | item object key optional =>
    object.tokens ++ (chainTokens optional ++
      .mark .openBracket :: (key.tokens ++ [.mark .closeBracket]))
  | call callee args optional =>
    callee.tokens ++ (chainTokens optional ++
      .mark .openParen :: (listTokens args ++ [.mark .closeParen]))
  | arrow params bare body => paramTokens params bare ++ body.tokens
  | unary op operand => op.token :: operand.tokens
  | joined op left right => left.tokens ++ .mark op.mark :: right.tokens
  | conditional test yes no =>
    test.tokens ++ .mark .question :: (yes.tokens ++ .mark .colon :: no.tokens)

/-- Trees with commas between them. -/
def listTokens : List Surface → List Token
  | [] => []
  | t :: ts => t.tokens ++ moreTokens ts

/-- Trees with a comma in front of each. -/
def moreTokens : List Surface → List Token
  | [] => []
  | t :: ts => .mark .comma :: (t.tokens ++ moreTokens ts)

end

theorem listTokens_cons_cons (t u : Surface) (us : List Surface) :
    listTokens (t :: u :: us) = t.tokens ++ .mark .comma :: listTokens (u :: us) := by
  simp [listTokens, moreTokens]

/-! ## Places -/

/-- How tightly a tree binds. -/
def rank : Surface → Nat
  | arrow .. => 0
  | conditional .. => 1
  | joined op .. => op.rank
  | unary .. => 8
  | _ => 9

mutual

/-- A tree may stand where one is wanted that binds at least as tightly as rank `p`: its operands
fit, an arrow function is an argument, and `typeof` is no name. In a tight tree there are
parentheses only around what does not fit without them. -/
def Fits (tight : Bool) (p : Nat) : Surface → Prop
  | number _ | text _ => True
  | name s => s ≠ "typeof"
  | array items _ => FitAll tight 1 items
  | group e => (tight = true → e.rank < p) ∧ e.Fits tight 1
  | dot object _ _ => object.Fits tight 9
  | item object key _ => object.Fits tight 9 ∧ key.Fits tight 1
  | call callee args _ => callee.Fits tight 9 ∧ FitAll tight 0 args
  | arrow _ _ body => p = 0 ∧ body.Fits tight 1
  | unary _ operand => p ≤ 8 ∧ operand.Fits tight 8
  | joined op left right =>
    p ≤ op.rank ∧ left.Fits tight op.rank ∧ right.Fits tight (op.rank + 1)
  | conditional test yes no =>
    p ≤ 1 ∧ test.Fits tight 2 ∧ yes.Fits tight 1 ∧ no.Fits tight 1

/-- Every tree of a list may stand at a place of rank `p`. -/
def FitAll (tight : Bool) (p : Nat) : List Surface → Prop
  | [] => True
  | t :: ts => t.Fits tight p ∧ FitAll tight p ts

end

/-! ## Meaning -/

/-- What a name means among the parameters `names`; one without a meaning means `undefined`. -/
def meaning (names : List String) (n : String) : Expr :=
  match Expr.resolve n names with
  | .ok e => e
  | .error _ => .literal .undefined

/-- A name has a meaning among the parameters `names`. -/
def HasMeaning (names : List String) (n : String) : Prop :=
  Expr.resolve n names = .ok (meaning names n)

mutual

/-- The expression that a tree stands for among the parameters `names`. -/
def resolve (names : List String) : Surface → Expr
  | number x => .literal (.num x)
  | text s => .literal (.str s)
  | name n => meaning names n
  | array items _ => .array (resolveAll names items)
  | group e => e.resolve names
  | dot object n optional => .member (object.resolve names) (.literal (.str n)) optional
  | item object key optional => .member (object.resolve names) (key.resolve names) optional
  | call callee args optional => .call (callee.resolve names) (resolveAll names args) optional
  | arrow params _ body => .lambda params.length (body.resolve (names ++ params))
  | unary op operand => .unary op (operand.resolve names)
  | joined op left right => op.build (left.resolve names) (right.resolve names)
  | conditional test yes no =>
    .conditional (test.resolve names) (yes.resolve names) (no.resolve names)

/-- The expressions that some trees stand for. -/
def resolveAll (names : List String) : List Surface → List Expr
  | [] => []
  | t :: ts => t.resolve names :: resolveAll names ts

end

mutual

/-- Every name of a tree has a meaning. -/
def Known (names : List String) : Surface → Prop
  | number _ | text _ => True
  | name n => HasMeaning names n
  | array items _ => AllKnown names items
  | group e => e.Known names
  | dot object _ _ => object.Known names
  | item object key _ => object.Known names ∧ key.Known names
  | call callee args _ => callee.Known names ∧ AllKnown names args
  | arrow params _ body => body.Known (names ++ params)
  | unary _ operand => operand.Known names
  | joined _ left right => left.Known names ∧ right.Known names
  | conditional test yes no => test.Known names ∧ yes.Known names ∧ no.Known names

/-- Every name of some trees has a meaning. -/
def AllKnown (names : List String) : List Surface → Prop
  | [] => True
  | t :: ts => t.Known names ∧ AllKnown names ts

end

/-! ## Levels -/

/-- The links of a chain of rank `p` that a tree is. -/
def links (p : Nat) : Surface → Nat
  | dot object _ _ => if p = 9 then object.links p + 1 else 0
  | item object _ _ => if p = 9 then object.links p + 1 else 0
  | call callee _ _ => if p = 9 then callee.links p + 1 else 0
  | joined op left _ => if p = op.rank then left.links p + 1 else 0
  | _ => 0

mutual

/-- How many levels are open at most while a tree is read, that of the whole apart. -/
def need : Surface → Nat
  | number _ | text _ | name _ => 0
  | array items _ => needAll items + 1
  | group e => e.need + 1
  | dot object _ _ => max object.need (object.links 9 + 1)
  | item object key _ => max object.need (object.links 9 + key.need + 2)
  | call callee args _ => max callee.need (callee.links 9 + needAll args + 1)
  | arrow _ _ body => body.need
  | unary _ operand => operand.need + 1
  | joined op left right => max left.need (left.links op.rank + right.need + 1)
  | conditional test yes no => max test.need (max (yes.need + 1) (no.need + 1))

/-- How many levels are open at most while the trees of a list are read. -/
def needAll : List Surface → Nat
  | [] => 0
  | t :: ts => max (t.need + 1) (needAll ts)

end

end Surface

end Logbook.Expr
