import Logbook.Expr.Lexer
import Logbook.Expr.Tree

/-!
# From tokens to a tree

A grammar function takes a state and gives a tree and the state after it. The state counts how
deeply sub-expressions are nested; every link of a chain of operators, members or calls counts as
one level until the chain ends.

From loose to tight: conditional, `||` and `??` on one level, `&&`, equality, order, sum, product,
operators in front, members and calls. All two-sided operators go to the left.

* `State`: the tokens that are left, the depth, and the parameters in scope;
* `conditional`, `logicalOr`, `logicalAnd`, `binary`, `unary`, `postfixes`, `primary`, `arguments`,
  `lambda`: the grammar;
* **`parse`**: the tree that a list of tokens is.
-/

namespace Logbook.Expr

/-- Where a parser is. -/
structure State where
  /-- The tokens that are left. -/
  rest : List Placed
  /-- How many levels are open. -/
  depth : Nat
  /-- The parameters in scope, the outermost first. -/
  names : List String
  /-- The column for an error at the end: that of the last token of all. -/
  endColumn : Nat

namespace State

/-- The next token. -/
def peek? (s : State) : Option Token := s.rest.head?.map Placed.token

/-- The column of the next token, or of the last one at the end. -/
def column (s : State) : Nat :=
  match s.rest with
  | p :: _ => p.column
  | [] => s.endColumn

/-- The state behind the next token, if that is the given mark. -/
def eat? (m : Mark) (s : State) : Option State :=
  match s.rest with
  | p :: rest => if p.token = .mark m then some { s with rest } else none
  | [] => none

/-- The state behind a mark that has to come next. -/
def expect (m : Mark) (s : State) : Except CompileError State :=
  match s.eat? m with
  | some s => .ok s
  | none => .error (.at s.column (.expected m))

/-- The error for a token that nothing can begin with, or for the end. -/
def unexpected (s : State) : CompileError :=
  match s.rest with
  | p :: _ => .at p.column (.unexpected p.token)
  | [] => .at s.column .unexpectedEnd

/-- Opens one level. -/
def enter (s : State) : Except CompileError State :=
  if s.depth < maxDepth then .ok { s with depth := s.depth + 1 } else .error .tooDeep

/-- Closes `n` levels. -/
def leave (n : Nat) (s : State) : State := { s with depth := s.depth - n }

end State

/-- The levels of operators between two operands, from loose to tight. -/
inductive Level where
  | equality
  | relational
  | additive
  | multiplicative
  deriving DecidableEq, Repr

namespace Level

/-- The operators of a level. -/
def operators : Level → List (Mark × BinaryOp)
  | equality => [(.strictEq, .strictEq), (.strictNe, .strictNe), (.eq, .eq), (.ne, .ne)]
  | relational => [(.le, .le), (.ge, .ge), (.lt, .lt), (.gt, .gt)]
  | additive => [(.plus, .add), (.minus, .sub)]
  | multiplicative => [(.times, .mul), (.slash, .div), (.percent, .rem)]

/-- The next tighter level; the tightest one has operands with operators in front. -/
def tighter? : Level → Option Level
  | equality => some relational
  | relational => some additive
  | additive => some multiplicative
  | multiplicative => none

end Level

/-- An operator of a level that comes next, and the state behind it. -/
def eatOperator? (l : Level) (s : State) : Option (BinaryOp × State) :=
  l.operators.findSome? fun (m, op) => (s.eat? m).map (op, ·)

/-- An operator for the loosest two-sided level that comes next, and the state behind it. -/
def eatAlternative? (s : State) : Option (LogicalOp × State) :=
  match s.eat? .or with
  | some s => some (.or, s)
  | none => (s.eat? .coalesce).map (.coalesce, ·)

/-- An operator in front of an operand that comes next, and the state behind it. -/
def eatUnary? (s : State) : Option (UnaryOp × State) :=
  match s.rest with
  | p :: rest =>
    let op : Option UnaryOp :=
      if p.token = .mark .not then some .not
      else if p.token = .mark .minus then some .neg
      else if p.token = .mark .plus then some .plus
      else if p.token = .name "typeof" then some .typeOf
      else none
    op.map (·, { s with rest })
  | [] => none

/-- Whether a member or a call comes next. -/
def startsLink (s : State) : Bool :=
  match s.peek? with
  | some (.mark m) => m == .dot || m == .chain || m == .openBracket || m == .openParen
  | _ => false

/-- The name of a property. -/
def propertyName (s : State) : Except CompileError (String × State) :=
  match s.rest with
  | ⟨.name n, _⟩ :: rest => .ok (n, { s with rest })
  | _ => .error (.at s.column .expectedPropertyName)

/-- The rest of a list of parameters in parentheses, and what follows the arrow behind it. -/
def parametersFrom : List Placed → Option (List String × List Placed)
  | ⟨.name n, _⟩ :: ⟨.mark .comma, _⟩ :: rest =>
    (parametersFrom rest).map fun (ns, rest) => (n :: ns, rest)
  | ⟨.name n, _⟩ :: ⟨.mark .closeParen, _⟩ :: ⟨.mark .arrow, _⟩ :: rest => some ([n], rest)
  | _ => none

/-- The parameters of an arrow function that comes next, and what follows its arrow. -/
def parameters? : List Placed → Option (List String × List Placed)
  | ⟨.name n, _⟩ :: ⟨.mark .arrow, _⟩ :: rest => some ([n], rest)
  | ⟨.mark .openParen, _⟩ :: ⟨.mark .closeParen, _⟩ :: ⟨.mark .arrow, _⟩ :: rest => some ([], rest)
  | ⟨.mark .openParen, _⟩ :: rest => parametersFrom rest
  | _ => none

/-- The slot of the innermost parameter of that name. -/
def slotOf? (name : String) (names : List String) : Option Nat :=
  (names.reverse.findIdx? (· == name)).map (names.length - 1 - ·)

/-- The constant of that name. -/
def constant? : String → Option Value
  | "true" => some (.bool true)
  | "false" => some (.bool false)
  | "null" => some .null
  | "undefined" => some .undefined
  | "NaN" => some (.num Binary64.nan)
  | "Infinity" => some (.num Binary64.infinity)
  | _ => none

/-- What a name stands for: a parameter, a constant, a field, a library or a conversion. -/
def resolve (name : String) (names : List String) : Except CompileError Expr :=
  match slotOf? name names with
  | some slot => .ok (.param slot)
  | none =>
    match constant? name, Field.ofName? name, Library.ofName? name, Conversion.ofName? name with
    | some v, _, _, _ => .ok (.literal v)
    | none, some f, _, _ => .ok (.field f)
    | none, none, some l, _ => .ok (.library l)
    | none, none, none, some c => .ok (.conversion c)
    | none, none, none, none => .error (.unknownName name)

namespace Grammar

mutual

/-- `test ? yes : no`, or what is tighter. -/
def conditional : Nat → State → Except CompileError (Expr × State)
  | 0, _ => .error .tooDeep
  | fuel + 1, s => do
    let s ← s.enter
    let (test, s) ← logicalOr fuel s
    match s.eat? .question with
    | none => .ok (test, s.leave 1)
    | some s => do
      let (yes, s) ← conditional fuel s
      let s ← s.expect .colon
      let (no, s) ← conditional fuel s
      .ok (.conditional test yes no, s.leave 1)

/-- Operands of `||` and `??`. -/
def logicalOr : Nat → State → Except CompileError (Expr × State)
  | 0, _ => .error .tooDeep
  | fuel + 1, s => do
    let (left, s) ← logicalAnd fuel s
    logicalOrFrom fuel left 0 s

/-- The rest of a chain of `||` and `??` with `links` levels open. -/
def logicalOrFrom : Nat → Expr → Nat → State → Except CompileError (Expr × State)
  | 0, _, _, _ => .error .tooDeep
  | fuel + 1, left, links, s =>
    match eatAlternative? s with
    | none => .ok (left, s.leave links)
    | some (op, s) => do
      let s ← s.enter
      let (right, s) ← logicalAnd fuel s
      logicalOrFrom fuel (.logical op left right) (links + 1) s

/-- Operands of `&&`. -/
def logicalAnd : Nat → State → Except CompileError (Expr × State)
  | 0, _ => .error .tooDeep
  | fuel + 1, s => do
    let (left, s) ← binary fuel .equality s
    logicalAndFrom fuel left 0 s

/-- The rest of a chain of `&&` with `links` levels open. -/
def logicalAndFrom : Nat → Expr → Nat → State → Except CompileError (Expr × State)
  | 0, _, _, _ => .error .tooDeep
  | fuel + 1, left, links, s =>
    match s.eat? .and with
    | none => .ok (left, s.leave links)
    | some s => do
      let s ← s.enter
      let (right, s) ← binary fuel .equality s
      logicalAndFrom fuel (.logical .and left right) (links + 1) s

/-- Operands of one level of two-sided operators. -/
def binary : Nat → Level → State → Except CompileError (Expr × State)
  | 0, _, _ => .error .tooDeep
  | fuel + 1, l, s => do
    let (left, s) ← operand fuel l s
    binaryFrom fuel l left 0 s

/-- The rest of a chain of operators of one level with `links` levels open. -/
def binaryFrom : Nat → Level → Expr → Nat → State → Except CompileError (Expr × State)
  | 0, _, _, _, _ => .error .tooDeep
  | fuel + 1, l, left, links, s =>
    match eatOperator? l s with
    | none => .ok (left, s.leave links)
    | some (op, s) => do
      let s ← s.enter
      let (right, s) ← operand fuel l s
      binaryFrom fuel l (.binary op left right) (links + 1) s

/-- An operand of a level. -/
def operand : Nat → Level → State → Except CompileError (Expr × State)
  | 0, _, _ => .error .tooDeep
  | fuel + 1, l, s =>
    match l.tighter? with
    | some l => binary fuel l s
    | none => unary fuel s

/-- Operators in front of an operand. -/
def unary : Nat → State → Except CompileError (Expr × State)
  | 0, _ => .error .tooDeep
  | fuel + 1, s =>
    match eatUnary? s with
    | none => postfixes fuel s
    | some (op, s) => do
      let s ← s.enter
      let (e, s) ← unary fuel s
      .ok (.unary op e, s.leave 1)

/-- An operand with members and calls behind it. -/
def postfixes : Nat → State → Except CompileError (Expr × State)
  | 0, _ => .error .tooDeep
  | fuel + 1, s => do
    let (e, s) ← primary fuel s
    postfixesFrom fuel e 0 s

/-- The rest of a chain of members and calls with `links` levels open. -/
def postfixesFrom : Nat → Expr → Nat → State → Except CompileError (Expr × State)
  | 0, _, _, _ => .error .tooDeep
  | fuel + 1, e, links, s =>
    if startsLink s then do
      let s ← s.enter
      let (e, s) ← link fuel e s
      postfixesFrom fuel e (links + 1) s
    else .ok (e, s.leave links)

/-- One member or call behind an expression. -/
def link : Nat → Expr → State → Except CompileError (Expr × State)
  | 0, _, _ => .error .tooDeep
  | fuel + 1, e, s =>
    match s.eat? .dot with
    | some s => do
      let (n, s) ← propertyName s
      .ok (.member e (.literal (.str n)) false, s)
    | none =>
      match s.eat? .chain with
      | none => bracketOrCall fuel e false s
      | some s =>
        match s.peek? with
        | some (.mark .openBracket) | some (.mark .openParen) => bracketOrCall fuel e true s
        | _ => do
          let (n, s) ← propertyName s
          .ok (.member e (.literal (.str n)) true, s)

/-- A member in brackets or a call behind an expression. -/
def bracketOrCall : Nat → Expr → Bool → State → Except CompileError (Expr × State)
  | 0, _, _, _ => .error .tooDeep
  | fuel + 1, e, optional, s =>
    match s.eat? .openBracket with
    | some s => do
      let (property, s) ← conditional fuel s
      let s ← s.expect .closeBracket
      .ok (.member e property optional, s)
    | none => do
      let s ← s.expect .openParen
      let (args, s) ← arguments fuel s
      .ok (.call e args optional, s)

/-- Arguments up to the closing parenthesis. -/
def arguments : Nat → State → Except CompileError (List Expr × State)
  | 0, _ => .error .tooDeep
  | fuel + 1, s =>
    match s.eat? .closeParen with
    | some s => .ok ([], s)
    | none => argumentsFrom fuel s

/-- At least one argument, and the rest up to the closing parenthesis. -/
def argumentsFrom : Nat → State → Except CompileError (List Expr × State)
  | 0, _ => .error .tooDeep
  | fuel + 1, s => do
    let (arg, s) ← argument fuel s
    match s.eat? .closeParen with
    | some s => .ok ([arg], s)
    | none => do
      let s ← s.expect .comma
      let (args, s) ← argumentsFrom fuel s
      .ok (arg :: args, s)

/-- An argument: an arrow function or an expression. -/
def argument : Nat → State → Except CompileError (Expr × State)
  | 0, _ => .error .tooDeep
  | fuel + 1, s =>
    match parameters? s.rest with
    | some (ns, rest) => lambda fuel ns { s with rest }
    | none => conditional fuel s

/-- The body of an arrow function with these parameters. -/
def lambda : Nat → List String → State → Except CompileError (Expr × State)
  | 0, _, _ => .error .tooDeep
  | fuel + 1, ns, s => do
    let (body, inner) ← conditional fuel { s with names := s.names ++ ns }
    let names := inner.names.take (inner.names.length - ns.length)
    .ok (.lambda ns.length body, { inner with names })

/-- A literal, a name, an array or an expression in parentheses. -/
def primary : Nat → State → Except CompileError (Expr × State)
  | 0, _ => .error .tooDeep
  | fuel + 1, s =>
    match s.rest with
    | [] => .error s.unexpected
    | p :: rest =>
      match p.token with
      | .number x => .ok (.literal (.num x), { s with rest })
      | .text t => .ok (.literal (.str t), { s with rest })
      | .name n => do
        let e ← resolve n s.names
        .ok (e, { s with rest })
      | .mark .openParen => do
        let (e, s) ← conditional fuel { s with rest }
        let s ← s.expect .closeParen
        .ok (e, s)
      | .mark .openBracket => do
        let s ← { s with rest : State }.enter
        match s.eat? .closeBracket with
        | some s => .ok (.array [], s.leave 1)
        | none => do
          let (items, s) ← items fuel s
          .ok (.array items, s.leave 1)
      | .mark .arrow => .error (.at p.column .arrowOutsideCall)
      | .mark _ => .error s.unexpected

/-- The items of an array up to its closing bracket, which may follow a comma; there is at least
one. -/
def items : Nat → State → Except CompileError (List Expr × State)
  | 0, _ => .error .tooDeep
  | fuel + 1, s => do
    let (e, s) ← conditional fuel s
    match s.eat? .closeBracket with
    | some s => .ok ([e], s)
    | none => do
      let s ← s.expect .comma
      match s.eat? .closeBracket with
      | some s => .ok ([e], s)
      | none => do
        let (es, s) ← items fuel s
        .ok (e :: es, s)

end

end Grammar

/-- The state before the first of some tokens. -/
def State.initial (tokens : List Placed) : State :=
  { rest := tokens
    depth := 0
    names := []
    endColumn := (tokens.getLast?.map Placed.column).getD 1 }

/-- Calls that are enough for so many tokens: between two tokens the grammar goes down through
fewer than twenty functions. -/
def callsFor (n : Nat) : Nat := 20 * (n + 1)

/-- **The tree that a list of tokens is.** -/
def parse (tokens : List Placed) : Except CompileError Expr := do
  let (e, s) ←
    Grammar.conditional (callsFor tokens.length) (State.initial tokens)
  if s.rest.isEmpty then .ok e else .error s.unexpected

end Logbook.Expr
