import Logbook.Expr.Eval

/-!
# Evaluation on a stack

The values of the parameters in scope stand on one stack. A call of an arrow function puts the
values of its parameters on top, runs the body, and cuts the stack back to its height before the
call, also where the body raised an error.

* `Memory`, `Machine`: the stack, and a record of the expressions that were evaluated;
* `Machine.execute`: what a computation does to a memory;
* `Machine.invoke`: a call of an arrow function;
* `Machine.callMethod`, `Machine.callLibrary`: calls that may call arrow functions in turn;
* `Machine.run`: evaluation of a tree.
-/

namespace Logbook.Expr

/-- What is recorded when an expression is evaluated. -/
structure Visit where
  /-- How many parameters are in scope at the place of the expression. -/
  scope : Nat
  /-- How many values are on the stack. -/
  height : Nat
  deriving DecidableEq, Repr

/-- What an evaluation works on. -/
structure Memory where
  stack : List Value
  /-- The expressions evaluated so far, the last one first. -/
  visits : List Visit

/-- A computation that may raise an error; the memory survives it. -/
abbrev Machine := ExceptT RunError (StateM Memory)

/-- An argument: a value, or an arrow function that runs on the stack. -/
inductive Passed where
  | value (v : Value)
  | arrow (f : List Value → Machine Value)

/-- The argument for what calls no arrow function: an arrow function reads as `undefined`. -/
def Passed.plain : Passed → Argument
  | .value v => .value v
  | .arrow _ => .value .undefined

namespace Machine

/-- What a computation comes to, and the memory after it. -/
def execute {α : Type} (x : Machine α) (m : Memory) : Except RunError α × Memory := x.run.run m

/-- The outcome of a function that calls no arrow function. -/
def lift {α : Type} (y : Except RunError α) : Machine α := ExceptT.mk (pure y)

/-- Records that an expression is evaluated where `scope` parameters are in scope. -/
def visit (scope : Nat) : Machine Unit :=
  modify fun m => { m with visits := ⟨scope, m.stack.length⟩ :: m.visits }

/-- The value at a slot of the stack. -/
def load (slot : Nat) : Machine Value := do
  let m ← get
  pure (m.stack.getD slot .undefined)

/-- A call of an arrow function: its parameters are put on the stack for the time of the body. -/
def invoke (arity : Nat) (body : Machine Value) (args : List Value) : Machine Value :=
  ExceptT.mk fun m =>
    let (y, after) := body.execute { m with stack := m.stack ++ bindParameters arity args }
    (y, { after with stack := after.stack.take m.stack.length })

/-- The outcome of an optional call: an unknown function ends the chain. -/
def optionally (optional : Bool) (x : Machine Value) : Machine (Option Value) :=
  ExceptT.mk (optionalOutcome optional <$> x.run)

/-- The value of an expression; a chain that ended counts as `undefined`. -/
def value (x : Machine (Option Value)) : Machine Value := (·.getD .undefined) <$> x

/-- The arrow function that argument `i` has to be. -/
def arrowAt (args : List Passed) (i : Nat) (method : String) :
    Machine (List Value → Machine Value) :=
  match args[i]? with
  | some (.arrow f) => pure f
  | _ => throw (.type (.expectsArrow method))

/-- A method of a value. -/
def callMethod (receiver : Value) (name : String) (args : List Passed) : Machine Value :=
  match receiver, methodOf? receiver name with
  | .arr items, some (.array (.loop l)) => do
    let f ← arrowAt args 0 l.name
    l.run f items
  | _, _ => lift (Expr.callMethod receiver name (args.map Passed.plain))

/-- A function of a library. -/
def callLibrary (l : Library) (name : String) (args : List Passed) : Machine Value :=
  match l, name, (args[1]? : Option Passed) with
  | .array, "from", some (.arrow f) =>
    Loop.map.run f (itemsOf (Arguments.value (args.map Passed.plain) 0))
  | _, _, _ => lift (l.call name (args.map Passed.plain))

mutual

/-- The value of an expression where `scope` parameters are in scope, or none for a chain that ended
at an optional link. -/
def run (r : Record) (scope : Nat) : Expr → Machine (Option Value)
  | .member object property optional => do
    visit scope
    match library? object with
    | some l => do
      let key ← value (run r scope property)
      let v ← lift (l.constant key.display)
      pure (some v)
    | none => do
      match ← run r scope object with
      | none => pure none
      | some target =>
        if optional && target.isNullish then pure none
        else do
          let key ← value (run r scope property)
          let v ← lift (memberOf target key)
          pure (some v)
  | .call (.member object property optionalMember) args optional => do
    visit scope
    match library? object with
    | some l => do
      let key ← value (run r scope property)
      let args ← runArguments r scope args
      let v ← callLibrary l key.display args
      pure (some v)
    | none => do
      match ← run r scope object with
      | none => pure none
      | some receiver =>
        if optionalMember && receiver.isNullish then pure none
        else do
          let key ← value (run r scope property)
          if receiver.isNullish then lift (readOfNullish receiver key.display)
          else do
            let args ← runArguments r scope args
            optionally optional (callMethod receiver key.display args)
  | .call (.conversion c) args _ => do
    visit scope
    let args ← runArguments r scope args
    pure (some (c.apply (args.map Passed.plain)))
  | .call callee _ optional => do
    visit scope
    match ← run r scope callee with
    | none => pure none
    | some target =>
      if optional && target.isNullish then pure none
      else throw (.notAFunction (describeCallee callee))
  | .literal v => do
    visit scope
    pure (some v)
  | .array es => do
    visit scope
    let vs ← runItems r scope es
    pure (some (.arr vs))
  | .field f => do
    visit scope
    pure (some (r.field f))
  | .param slot => do
    visit scope
    let v ← load slot
    pure (some v)
  | .library l => do
    visit scope
    throw (.type (.libraryAsValue l.name))
  | .conversion c => do
    visit scope
    throw (.type (.conversionAsValue c.name))
  | .lambda _ _ => do
    visit scope
    throw (.argument .arrowAsValue)
  | .unary op e => do
    visit scope
    let v ← value (run r scope e)
    pure (some (applyUnary op v))
  | .binary op left right => do
    visit scope
    let a ← value (run r scope left)
    let b ← value (run r scope right)
    pure (some (applyBinary op a b))
  | .logical op left right => do
    visit scope
    let a ← value (run r scope left)
    if decides op a then pure (some a)
    else do
      let b ← value (run r scope right)
      pure (some b)
  | .conditional test yes no => do
    visit scope
    let t ← value (run r scope test)
    if t.isTruthy then do
      let v ← value (run r scope yes)
      pure (some v)
    else do
      let v ← value (run r scope no)
      pure (some v)

/-- The arguments of a call, from left to right. -/
def runArguments (r : Record) (scope : Nat) : List Expr → Machine (List Passed)
  | [] => pure []
  | .lambda arity body :: rest => do
    let more ← runArguments r scope rest
    pure (.arrow (invoke arity (value (run r (scope + arity) body))) :: more)
  | e :: rest => do
    let v ← value (run r scope e)
    let more ← runArguments r scope rest
    pure (.value v :: more)

/-- The values of the items of an array, from left to right. -/
def runItems (r : Record) (scope : Nat) : List Expr → Machine (List Value)
  | [] => pure []
  | e :: rest => do
    let v ← value (run r scope e)
    let more ← runItems r scope rest
    pure (v :: more)

end

end Machine

end Logbook.Expr
