import Logbook.Expr.Eval
import Logbook.Proofs.Expr.Surface

/-!
# Expressions with names for parameters

The reference for parameters: an arrow function binds its parameters one after another by their
names, and a name stands for what was bound to it last.

* `Named`, `Surface.named`: expressions with the names of parameters, without the layout;
* `Named.resolve`: the same expressions by slots;
* `Env`, `Env.bind`: the parameters in scope with their values;
* **`Named.chain`**: evaluation by names.
-/

namespace Logbook.Expr

/-- An expression with names for parameters. -/
inductive Named where
  | number (x : Float)
  | text (s : String)
  | name (s : String)
  | array (items : List Named)
  | member (object property : Named) (optional : Bool)
  | call (callee : Named) (args : List Named) (optional : Bool)
  | arrow (params : List String) (body : Named)
  | unary (op : UnaryOp) (operand : Named)
  | binary (op : BinaryOp) (left right : Named)
  | logical (op : LogicalOp) (left right : Named)
  | conditional (test yes no : Named)

instance : Inhabited Named := ⟨.name ""⟩

namespace Named

mutual

/-- The expression by slots among the parameters `names`. -/
def resolve (names : List String) : Named → Expr
  | number x => .literal (.num x)
  | text s => .literal (.str s)
  | name n => Surface.meaning names n
  | array items => .array (resolveAll names items)
  | member object property optional =>
    .member (object.resolve names) (property.resolve names) optional
  | call callee args optional => .call (callee.resolve names) (resolveAll names args) optional
  | arrow params body => .lambda params.length (body.resolve (names ++ params))
  | unary op operand => .unary op (operand.resolve names)
  | binary op left right => .binary op (left.resolve names) (right.resolve names)
  | logical op left right => .logical op (left.resolve names) (right.resolve names)
  | conditional test yes no =>
    .conditional (test.resolve names) (yes.resolve names) (no.resolve names)

/-- The expressions by slots. -/
def resolveAll (names : List String) : List Named → List Expr
  | [] => []
  | t :: ts => t.resolve names :: resolveAll names ts

end

end Named

namespace Surface

mutual

/-- A tree without its layout. -/
def named : Surface → Named
  | number x => .number x
  | text s => .text s
  | name n => .name n
  | array items _ => .array (namedAll items)
  | group e => e.named
  | dot object n optional => .member object.named (.text n) optional
  | item object key optional => .member object.named key.named optional
  | call callee args optional => .call callee.named (namedAll args) optional
  | arrow params _ body => .arrow params body.named
  | unary op operand => .unary op operand.named
  | joined (.binary op) left right => .binary op left.named right.named
  | joined (.logical op) left right => .logical op left.named right.named
  | conditional test yes no => .conditional test.named yes.named no.named

/-- Trees without their layout. -/
def namedAll : List Surface → List Named
  | [] => []
  | t :: ts => t.named :: namedAll ts

end

mutual

theorem resolve_named : ∀ (t : Surface) (names : List String),
    t.named.resolve names = t.resolve names
  | number _, _ | text _, _ | name _, _ => rfl
  | array items _, names => by rw [named, Named.resolve, resolve, resolveAll_namedAll items names]
  | group e, names => resolve_named e names
  | dot object n _, names => by
    rw [named, Named.resolve, resolve, resolve_named object names, Named.resolve]
  | item object key _, names => by
    rw [named, Named.resolve, resolve, resolve_named object names, resolve_named key names]
  | call callee args _, names => by
    rw [named, Named.resolve, resolve, resolve_named callee names, resolveAll_namedAll args names]
  | arrow params _ body, names => by
    rw [named, Named.resolve, resolve, resolve_named body (names ++ params)]
  | unary _ operand, names => by
    rw [named, Named.resolve, resolve, resolve_named operand names]
  | joined (.binary _) left right, names => by
    rw [named, Named.resolve, resolve, resolve_named left names, resolve_named right names]
    rfl
  | joined (.logical _) left right, names => by
    rw [named, Named.resolve, resolve, resolve_named left names, resolve_named right names]
    rfl
  | conditional test yes no, names => by
    rw [named, Named.resolve, resolve, resolve_named test names, resolve_named yes names,
      resolve_named no names]

theorem resolveAll_namedAll : ∀ (ts : List Surface) (names : List String),
    Named.resolveAll names (namedAll ts) = resolveAll names ts
  | [], _ => rfl
  | t :: ts, names => by
    rw [namedAll, Named.resolveAll, resolveAll, resolve_named t names,
      resolveAll_namedAll ts names]

end

end Surface

/-! ## Scopes -/

/-- The parameters in scope with their values, the innermost first. -/
abbrev Env := List (String × Value)

namespace Env

/-- The scope inside an arrow function: its parameters are bound from the first to the last one,
each to an argument or to `undefined`. -/
def bind (env : Env) : List String → List Value → Env
  | [], _ => env
  | x :: params, args => bind ((x, args.headD .undefined) :: env) params args.tail

/-- The names of the parameters, the outermost first. -/
def names (env : Env) : List String := (env.map Prod.fst).reverse

/-- The values of the parameters, the outermost first. -/
def values (env : Env) : List Value := (env.map Prod.snd).reverse

theorem names_cons (x : String) (v : Value) (env : Env) :
    names ((x, v) :: env) = env.names ++ [x] := by
  simp [names]

theorem values_cons (x : String) (v : Value) (env : Env) :
    values ((x, v) :: env) = env.values ++ [v] := by
  simp [values]

theorem length_values (env : Env) : env.values.length = env.names.length := by
  simp [values, names]

theorem names_bind : ∀ (params : List String) (env : Env) (args : List Value),
    (env.bind params args).names = env.names ++ params
  | [], env, _ => by simp [bind]
  | x :: params, env, args => by
    rw [bind, names_bind params, names_cons, List.append_assoc, List.singleton_append]

theorem bindParameters_succ (arity : Nat) (args : List Value) :
    bindParameters (arity + 1) args = args.headD .undefined :: bindParameters arity args.tail := by
  rw [bindParameters, List.range_succ_eq_map, List.map_cons, List.map_map, bindParameters]
  cases args <;> rfl

theorem values_bind : ∀ (params : List String) (env : Env) (args : List Value),
    (env.bind params args).values = env.values ++ bindParameters params.length args
  | [], env, _ => by simp [bind, bindParameters]
  | x :: params, env, args => by
    rw [bind, values_bind params, values_cons, List.length_cons, bindParameters_succ,
      List.append_assoc, List.singleton_append]

end Env

/-! ## Evaluation -/

/-- The conversion that an expression names. -/
def conversion? : Expr → Option Conversion
  | .conversion c => some c
  | _ => none

namespace Named

/-- What a name means without parameters, if there is no parameter of that name. -/
def free? (env : Env) (n : String) : Option Expr :=
  match env.lookup n with
  | some _ => none
  | none => some (Surface.meaning [] n)

/-- The library that an expression names. -/
def library? (env : Env) : Named → Option Library
  | name n => (free? env n).bind Expr.library?
  | _ => none

/-- The conversion that an expression names. -/
def conversion? (env : Env) : Named → Option Conversion
  | name n => (free? env n).bind Expr.conversion?
  | _ => none

/-- What an error calls something that is no function. -/
def describe (env : Env) : Named → String
  | number x => describeCallee (.literal (.num x))
  | text s => describeCallee (.literal (.str s))
  | name n => ((free? env n).map describeCallee).getD "expression"
  | _ => "expression"

mutual

/-- The value of an expression, or none for a chain that ended at an optional link. -/
def chain (r : Record) (env : Env) : Named → Except RunError (Option Value)
  | number x => .ok (some (.num x))
  | text s => .ok (some (.str s))
  | name n =>
    match env.lookup n with
    | some v => .ok (some v)
    | none => Expr.chain r [] (Surface.meaning [] n)
  | array items => do
    let vs ← itemValues r env items
    .ok (some (.arr vs))
  | member object property optional =>
    match library? env object with
    | some l => do
      let key ← (chain r env property).map (·.getD .undefined)
      let v ← l.constant key.display
      .ok (some v)
    | none => do
      match ← chain r env object with
      | none => .ok none
      | some target =>
        if optional && target.isNullish then .ok none
        else do
          let key ← (chain r env property).map (·.getD .undefined)
          let v ← memberOf target key
          .ok (some v)
  | call (member object property optionalMember) args optional =>
    match library? env object with
    | some l => do
      let key ← (chain r env property).map (·.getD .undefined)
      let args ← arguments r env args
      let v ← l.call key.display args
      .ok (some v)
    | none => do
      match ← chain r env object with
      | none => .ok none
      | some receiver =>
        if optionalMember && receiver.isNullish then .ok none
        else do
          let key ← (chain r env property).map (·.getD .undefined)
          if receiver.isNullish then readOfNullish receiver key.display
          else do
            let args ← arguments r env args
            optionalOutcome optional (callMethod receiver key.display args)
  | call callee args optional =>
    match conversion? env callee with
    | some c => do
      let args ← arguments r env args
      .ok (some (c.apply args))
    | none => do
      match ← chain r env callee with
      | none => .ok none
      | some target =>
        if optional && target.isNullish then .ok none
        else .error (.notAFunction (describe env callee))
  | arrow _ _ => .error (.argument .arrowAsValue)
  | unary op operand => do
    let v ← (chain r env operand).map (·.getD .undefined)
    .ok (some (applyUnary op v))
  | binary op left right => do
    let a ← (chain r env left).map (·.getD .undefined)
    let b ← (chain r env right).map (·.getD .undefined)
    .ok (some (applyBinary op a b))
  | logical op left right => do
    let a ← (chain r env left).map (·.getD .undefined)
    if decides op a then .ok (some a)
    else do
      let b ← (chain r env right).map (·.getD .undefined)
      .ok (some b)
  | conditional test yes no => do
    let t ← (chain r env test).map (·.getD .undefined)
    if t.isTruthy then do
      let v ← (chain r env yes).map (·.getD .undefined)
      .ok (some v)
    else do
      let v ← (chain r env no).map (·.getD .undefined)
      .ok (some v)

/-- The arguments of a call, from left to right. -/
def arguments (r : Record) (env : Env) : List Named → Except RunError Arguments
  | [] => .ok []
  | arrow params body :: rest => do
    let more ← arguments r env rest
    let f : Arrow := fun args =>
      (chain r (env.bind params args) body).map (·.getD .undefined)
    .ok (.arrow f :: more)
  | t :: rest => do
    let v ← (chain r env t).map (·.getD .undefined)
    let more ← arguments r env rest
    .ok (.value v :: more)

/-- The values of the items of an array, from left to right. -/
def itemValues (r : Record) (env : Env) : List Named → Except RunError (List Value)
  | [] => .ok []
  | t :: rest => do
    let v ← (chain r env t).map (·.getD .undefined)
    let more ← itemValues r env rest
    .ok (v :: more)

end

theorem chain_of_ne_member {callee : Named} (r : Record) (env : Env) (args : List Named)
    (optional : Bool) (h : ∀ o p q, callee ≠ member o p q) :
    chain r env (call callee args optional) =
      (match conversion? env callee with
      | some c => do
        let args ← arguments r env args
        .ok (some (c.apply args))
      | none => do
        match ← chain r env callee with
        | none => .ok none
        | some target =>
          if optional && target.isNullish then .ok none
          else .error (.notAFunction (describe env callee))) := by
  rw [chain]
  exact h

end Named

end Logbook.Expr
