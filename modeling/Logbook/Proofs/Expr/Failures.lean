import Logbook.Proofs.Expr.ByName

/-!
# Failing steps

What one step of an evaluation fails with: an error of its own, or one of a part of it.

* `Expr.parts`: the expressions inside an expression;
* `MethodFails`, `LibraryFails`, `Expr.FailsWith`: the errors that an expression of some form has of
  its own, form by form;
* `ArrowFails`: an arrow function among the arguments fails;
* `methodFails_of_callMethod`, `libraryFails_of_call`: calls of methods and of functions;
* `ArgumentsFail`: an argument fails, or an arrow function among them when it is applied;
* `error_of_member`, `error_of_call_member`, `error_of_call`: a member and the calls.
-/

namespace Logbook

namespace Expr

/-! ## Parts of an expression -/

mutual

/-- An expression and all expressions inside it. -/
def parts : Expr → List Expr
  | array items => .array items :: partsAll items
  | member object property optional =>
    .member object property optional :: (object.parts ++ property.parts)
  | call callee args optional => .call callee args optional :: (callee.parts ++ partsAll args)
  | lambda arity body => .lambda arity body :: body.parts
  | unary op operand => .unary op operand :: operand.parts
  | binary op left right => .binary op left right :: (left.parts ++ right.parts)
  | logical op left right => .logical op left right :: (left.parts ++ right.parts)
  | conditional test yes no => .conditional test yes no :: (test.parts ++ (yes.parts ++ no.parts))
  | e => [e]

/-- Some expressions and all expressions inside them. -/
def partsAll : List Expr → List Expr
  | [] => []
  | e :: es => e.parts ++ partsAll es

end

theorem mem_parts_self (e : Expr) : e ∈ e.parts := by
  cases e <;> simp [parts]

/-! ## Errors of its own -/

/-- What a call of a method fails with, its arrow function apart. -/
inductive MethodFails : RunError → Prop where
  | unknown (receiver : Value) (name : String) :
    MethodFails (.notAFunction (kindName receiver ++ "." ++ name))
  | expectsArrow (l : Loop) : MethodFails (.type (.expectsArrow l.name))
  | emptyPattern : MethodFails (.argument .emptyPattern)
  | pattern : MethodFails (.argument .pattern)
  | repeatCount (x : Float) : MethodFails (.argument (.repeatCount x))
  | repeatTooLong : MethodFails (.argument .repeatTooLong)
  | padTooLong (method : String) : MethodFails (.argument (.padTooLong method))
  | fixedDigits (x : Float) : MethodFails (.argument (.fixedDigits x))

/-- What a call of a function of a library fails with, its arrow function apart. -/
inductive LibraryFails : Library → RunError → Prop where
  | unknown (l : Library) (name : String) : LibraryFails l (.notAFunction (l.name ++ "." ++ name))
  | codePoint (x : Float) : LibraryFails .string (.argument (.codePoint x))
  | json : LibraryFails .json (.argument .json)
  | entriesOfNullish (name : String) : LibraryFails .object (.type (.entriesOfNullish name))

/-- **The errors that an expression has of its own**, by its form; all others come from its
parts. -/
inductive FailsWith : Expr → RunError → Prop where
  | library (l : Library) : FailsWith (.library l) (.type (.libraryAsValue l.name))
  | conversion (c : Conversion) : FailsWith (.conversion c) (.type (.conversionAsValue c.name))
  | arrow (arity : Nat) (body : Expr) : FailsWith (.lambda arity body) (.argument .arrowAsValue)
  | constant {object property : Expr} {optional : Bool} {l : Library} (name : String)
    (h : library? object = some l) :
    FailsWith (.member object property optional) (.type (.notAValue l.name name))
  | read {object property : Expr} {optional : Bool} (target name : String)
    (h : library? object = none) :
    FailsWith (.member object property optional) (.type (.readOfNullish target name))
  | function {object property : Expr} {optionalMember optional : Bool} {args : List Expr}
    {l : Library} {x : RunError} (h : library? object = some l) (hx : LibraryFails l x) :
    FailsWith (.call (.member object property optionalMember) args optional) x
  | receiver {object property : Expr} {optionalMember optional : Bool} {args : List Expr}
    (target name : String) (h : library? object = none) :
    FailsWith (.call (.member object property optionalMember) args optional)
      (.type (.readOfNullish target name))
  | method {object property : Expr} {optionalMember optional : Bool} {args : List Expr}
    {x : RunError} (h : library? object = none) (hx : MethodFails x) :
    FailsWith (.call (.member object property optionalMember) args optional) x
  | noFunction {callee : Expr} {args : List Expr} {optional : Bool}
    (hmember : ∀ o p q, callee ≠ .member o p q) (hconversion : ∀ c, callee ≠ .conversion c) :
    FailsWith (.call callee args optional) (.notAFunction (describeCallee callee))

/-! ## Calls -/

theorem error_of_bind {ε α β : Type} {x : Except ε α} {f : α → Except ε β} {e : ε}
    (h : (x >>= f) = .error e) : x = .error e ∨ ∃ a, x = .ok a ∧ f a = .error e := by
  cases x with
  | ok a => exact .inr ⟨a, rfl, h⟩
  | error e' =>
    obtain rfl := Except.error.inj h
    exact .inl rfl

theorem error_of_map {ε α β : Type} {x : Except ε α} {f : α → β} {e : ε}
    (h : x.map f = .error e) : x = .error e := by
  cases x with
  | ok a => cases h
  | error e' =>
    obtain rfl := Except.error.inj h
    rfl

section Loops

variable {f : Arrow} {x : RunError}

theorem arrow_of_findFrom {wanted : Bool} {items : List Value} {i : Nat}
    (h : Loop.findFrom f wanted i items = .error x) : ∃ vs, f vs = .error x := by
  induction items generalizing i with
  | nil => cases h
  | cons v vs ih =>
    rw [Loop.findFrom] at h
    rcases error_of_bind h with h | ⟨a, -, h⟩
    · exact ⟨_, h⟩
    · split at h
      · cases h
      · exact ih h

theorem arrow_of_mapFrom {items : List Value} {i : Nat}
    (h : Loop.mapFrom f i items = .error x) : ∃ vs, f vs = .error x := by
  induction items generalizing i with
  | nil => cases h
  | cons v vs ih =>
    rw [Loop.mapFrom] at h
    rcases error_of_bind h with h | ⟨a, -, h⟩
    · exact ⟨_, h⟩
    · rcases error_of_bind h with h | ⟨b, -, h⟩
      · exact ih h
      · cases h

theorem arrow_of_filterFrom {items : List Value} {i : Nat}
    (h : Loop.filterFrom f i items = .error x) : ∃ vs, f vs = .error x := by
  induction items generalizing i with
  | nil => cases h
  | cons v vs ih =>
    rw [Loop.filterFrom] at h
    rcases error_of_bind h with h | ⟨a, -, h⟩
    · exact ⟨_, h⟩
    · rcases error_of_bind h with h | ⟨b, -, h⟩
      · exact ih h
      · cases h

theorem arrow_of_loop {l : Loop} {items : List Value} (h : l.run f items = .error x) :
    ∃ vs, f vs = .error x := by
  have hfind : ∀ (wanted : Bool) (g : Option (Nat × Value) → Value),
      (Loop.findFrom f wanted 0 items >>= fun r => pure (g r)) = .error x →
        ∃ vs, f vs = .error x := by
    intro wanted g h
    rcases error_of_bind h with h | ⟨a, -, h⟩
    · exact arrow_of_findFrom h
    · cases h
  cases l with
  | map =>
    rcases error_of_bind h with h | ⟨a, -, h⟩
    · exact arrow_of_mapFrom h
    · cases h
  | filter =>
    rcases error_of_bind h with h | ⟨a, -, h⟩
    · exact arrow_of_filterFrom h
    · cases h
  | some | every | find | findIndex => exact hfind _ _ h

end Loops

/-- One of the arguments is an arrow function that fails with an error. -/
def ArrowFails (args : Arguments) (x : RunError) : Prop :=
  ∃ f vs, Argument.arrow f ∈ args ∧ f vs = .error x

variable {args : Arguments} {x : RunError}

theorem methodFails_of_text {m : TextMethod} {cs : List Char} (h : m.apply cs args = .error x) :
    MethodFails x ∧ ∃ p, x = .argument p := by
  have hpad : ∀ method, TextMethod.paddingFor method cs args = .error x →
      MethodFails x ∧ ∃ p, x = .argument p := by
    intro method h
    dsimp only [TextMethod.paddingFor] at h
    split_ifs at h
    obtain rfl := Except.error.inj h
    exact ⟨.padTooLong method, _, rfl⟩
  have hsearch : TextMethod.searchPattern cs (args.text 0) = .error x →
      MethodFails x ∧ ∃ p, x = .argument p := by
    intro h
    unfold TextMethod.searchPattern at h
    split at h
    · cases h
    · obtain rfl := Except.error.inj h
      exact ⟨.pattern, _, rfl⟩
  cases m with
  | replaceAll =>
    simp only [TextMethod.apply] at h
    split at h
    · obtain rfl := Except.error.inj h
      exact ⟨.emptyPattern, _, rfl⟩
    · cases h
  | matchPattern | search => exact hsearch (error_of_map h)
  | repeated =>
    have h := error_of_map h
    unfold TextMethod.repeatText at h
    split at h
    · split at h
      · obtain rfl := Except.error.inj h
        exact ⟨.repeatCount _, _, rfl⟩
      · split at h
        · obtain rfl := Except.error.inj h
          exact ⟨.repeatTooLong, _, rfl⟩
        · cases h
    · obtain rfl := Except.error.inj h
      exact ⟨.repeatCount _, _, rfl⟩
  | padStart | padEnd => exact hpad _ (error_of_map h)
  | _ => cases h

theorem methodFails_of_number {m : NumberMethod} {y : Float} (h : m.apply y args = .error x) :
    MethodFails x ∧ ∃ p, x = .argument p := by
  cases m with
  | toFixed =>
    have h := error_of_map h
    unfold NumberMethod.fixedText at h
    split at h
    · cases h
    · obtain rfl := Except.error.inj h
      exact ⟨.fixedDigits _, _, rfl⟩
  | _ => cases h

theorem methodFails_of_array {m : ArrayMethod} {items : List Value}
    (h : m.apply items args = .error x) : MethodFails x ∨ ArrowFails args x := by
  cases m with
  | loop l =>
    rcases error_of_bind h with h | ⟨f, hf, h⟩
    · unfold Arguments.arrow at h
      split at h
      · cases h
      · obtain rfl := Except.error.inj h
        exact .inl (.expectsArrow l)
    · obtain ⟨vs, hvs⟩ := arrow_of_loop h
      unfold Arguments.arrow at hf
      split at hf
      · next g hg =>
        obtain rfl := Except.ok.inj hf
        exact .inr ⟨_, vs, List.mem_of_getElem? hg, hvs⟩
      · cases hf
  | _ => cases h

/-- A call of a method fails by itself or in an arrow function. -/
theorem methodFails_of_callMethod {receiver : Value} {name : String}
    (h : callMethod receiver name args = .error x) : MethodFails x ∨ ArrowFails args x := by
  unfold callMethod at h
  split at h
  · unfold Method.apply at h
    split at h
    · exact .inl (methodFails_of_text h).1
    · exact methodFails_of_array h
    · exact .inl (methodFails_of_number h).1
    · cases h
    · cases h
  · obtain rfl := Except.error.inj h
    exact .inl (.unknown receiver name)

theorem codePoint_of_mapM {vs : List Value}
    (h : (vs.mapM fun v => codePoint v.toNumber) = .error x) : LibraryFails .string x := by
  induction vs with
  | nil => cases h
  | cons v vs ih =>
    rw [List.mapM_cons] at h
    rcases error_of_bind h with h | ⟨c, -, h⟩
    · unfold codePoint at h
      split at h
      · split at h
        · cases h
        · obtain rfl := Except.error.inj h
          exact .codePoint _
      · obtain rfl := Except.error.inj h
        exact .codePoint _
    · rcases error_of_bind h with h | ⟨cs, -, h⟩
      · exact ih h
      · cases h

theorem libraryFails_of_call {l : Library} {name : String} (h : l.call name args = .error x) :
    LibraryFails l x ∨ ArrowFails args x := by
  have hunknown : (notAFunction l.name name : Except RunError Value) = .error x →
      LibraryFails l x := by
    intro h
    obtain rfl := Except.error.inj h
    exact .unknown l name
  cases l with
  | math =>
    simp only [Library.call] at h
    split at h
    · cases h
    · exact .inl (hunknown h)
  | json =>
    simp only [Library.call, callJson] at h
    split at h
    · cases h
    · split at h
      · cases h
      · obtain rfl := Except.error.inj h
        exact .inl .json
    · exact .inl (hunknown h)
  | array =>
    simp only [Library.call, callArray] at h
    split at h
    · cases h
    · cases h
    · split at h
      · next f hf =>
        obtain ⟨vs, hvs⟩ := arrow_of_loop h
        exact .inr ⟨f, vs, List.mem_of_getElem? hf, hvs⟩
      · cases h
    · exact .inl (hunknown h)
  | object =>
    rcases error_of_bind h with h | ⟨entries, -, h⟩
    · unfold entriesOf at h
      split at h
      · cases h
      · cases h
      · cases h
      · obtain rfl := Except.error.inj h
        exact .inl (.entriesOfNullish name)
      · obtain rfl := Except.error.inj h
        exact .inl (.entriesOfNullish name)
      · cases h
    · split at h
      · cases h
      · cases h
      · cases h
      · exact .inl (hunknown h)
  | string =>
    simp only [Library.call, callString] at h
    split at h
    · cases h
    · rcases error_of_bind h with h | ⟨cs, -, h⟩
      · exact .inl (codePoint_of_mapM h)
      · cases h
    · exact .inl (hunknown h)

/-! ## Members and calls -/

theorem notAValue_of_constant {l : Library} {name : String} (h : l.constant name = .error x) :
    x = .type (.notAValue l.name name) := by
  unfold Library.constant at h
  split at h
  · cases h
  · exact (Except.error.inj h).symm

theorem readOfNullish_of_memberOf {target key : Value} (h : memberOf target key = .error x) :
    x = .type (.readOfNullish target.display key.display) := by
  unfold memberOf at h
  split at h
  · exact (Except.error.inj h).symm
  · exact (Except.error.inj h).symm
  all_goals cases h

theorem error_of_optionalOutcome {optional : Bool} {y : Except RunError Value}
    (h : optionalOutcome optional y = .error x) : y = .error x := by
  unfold optionalOutcome at h
  split at h
  · cases h
  · split at h
    · cases h
    · rw [← Except.error.inj h]
  · rw [← Except.error.inj h]

variable {r : Record} {locals : List Value} {object property : Expr} {optional : Bool}

theorem error_of_member (h : chain r locals (.member object property optional) = .error x) :
    chain r locals object = .error x ∨ chain r locals property = .error x ∨
      FailsWith (.member object property optional) x := by
  rw [chain] at h
  split at h
  · next l hl =>
    rcases error_of_bind h with h | ⟨key, -, h⟩
    · exact .inr (.inl (error_of_map h))
    rcases error_of_bind h with h | ⟨v, -, h⟩
    · obtain rfl := notAValue_of_constant h
      exact .inr (.inr (.constant _ hl))
    · cases h
  · next hl =>
    rcases error_of_bind h with h | ⟨target, -, h⟩
    · exact .inl h
    cases target with
    | none => cases h
    | some target =>
      dsimp only at h
      split at h
      · cases h
      rcases error_of_bind h with h | ⟨key, -, h⟩
      · exact .inr (.inl (error_of_map h))
      rcases error_of_bind h with h | ⟨v, -, h⟩
      · obtain rfl := readOfNullish_of_memberOf h
        exact .inr (.inr (.read _ _ hl))
      · cases h

variable {es : List Expr}

/-- The arguments of a call fail: one of them, or an arrow function that the call applies. -/
def ArgumentsFail (r : Record) (locals : List Value) (es : List Expr) (x : RunError) : Prop :=
  arguments r locals es = .error x ∨
    ∃ args, arguments r locals es = .ok args ∧ ArrowFails args x

theorem not_argumentsFail_nil : ¬ArgumentsFail r locals [] x := by
  unfold ArgumentsFail
  rw [arguments]
  rintro (h | ⟨args, h, f, vs, hf, -⟩)
  · cases h
  · obtain rfl := Except.ok.inj h
    exact absurd hf List.not_mem_nil

/-- An arrow function that is passed fails later, when it is applied. -/
theorem error_of_arguments_lambda {arity : Nat} {body : Expr}
    (h : ArgumentsFail r locals (.lambda arity body :: es) x) :
    (∃ vs, chain r (locals ++ bindParameters arity vs) body = .error x) ∨
      ArgumentsFail r locals es x := by
  unfold ArgumentsFail at h
  rw [arguments] at h
  cases hes : arguments r locals es with
  | error y =>
    rw [hes] at h
    rcases h with h | ⟨args, h, -⟩
    · obtain rfl := Except.error.inj h
      exact .inr (.inl hes)
    · cases h
  | ok more =>
    rw [hes] at h
    rcases h with h | ⟨args, h, f, vs, hf, hx⟩
    · cases h
    obtain rfl := Except.ok.inj h
    rcases List.mem_cons.1 hf with hf | hf
    · obtain rfl := Argument.arrow.inj hf
      exact .inl ⟨vs, error_of_map hx⟩
    · exact .inr (.inr ⟨more, hes, f, vs, hf, hx⟩)

theorem error_of_arguments_cons {e : Expr} (hlambda : ∀ arity body, e ≠ .lambda arity body)
    (h : ArgumentsFail r locals (e :: es) x) :
    chain r locals e = .error x ∨ ArgumentsFail r locals es x := by
  unfold ArgumentsFail at h
  rw [arguments_cons r _ _ hlambda] at h
  cases he : chain r locals e with
  | error y =>
    rw [he] at h
    rcases h with h | ⟨args, h, -⟩
    · obtain rfl := Except.error.inj h
      exact .inl rfl
    · cases h
  | ok v =>
    cases hes : arguments r locals es with
    | error y =>
      rw [he, hes] at h
      rcases h with h | ⟨args, h, -⟩
      · obtain rfl := Except.error.inj h
        exact .inr (.inl hes)
      · cases h
    | ok more =>
      rw [he, hes] at h
      rcases h with h | ⟨args, h, f, vs, hf, hx⟩
      · cases h
      obtain rfl := Except.ok.inj h
      rcases List.mem_cons.1 hf with hf | hf
      · cases hf
      · exact .inr (.inr ⟨more, hes, f, vs, hf, hx⟩)

theorem error_of_call_member {optionalMember : Bool}
    (h : chain r locals (.call (.member object property optionalMember) es optional) = .error x) :
    chain r locals object = .error x ∨ chain r locals property = .error x ∨
      ArgumentsFail r locals es x ∨
      FailsWith (.call (.member object property optionalMember) es optional) x := by
  rw [chain] at h
  split at h
  · next l hl =>
    rcases error_of_bind h with h | ⟨key, -, h⟩
    · exact .inr (.inl (error_of_map h))
    rcases error_of_bind h with h | ⟨args, hargs, h⟩
    · exact .inr (.inr (.inl (.inl h)))
    rcases error_of_bind h with h | ⟨v, -, h⟩
    · rcases libraryFails_of_call h with hx | hx
      · exact .inr (.inr (.inr (.function hl hx)))
      · exact .inr (.inr (.inl (.inr ⟨args, hargs, hx⟩)))
    · cases h
  · next hl =>
    rcases error_of_bind h with h | ⟨receiver, -, h⟩
    · exact .inl h
    cases receiver with
    | none => cases h
    | some receiver =>
      dsimp only at h
      split at h
      · cases h
      rcases error_of_bind h with h | ⟨key, -, h⟩
      · exact .inr (.inl (error_of_map h))
      split at h
      · obtain rfl := Except.error.inj h
        exact .inr (.inr (.inr (.receiver _ _ hl)))
      rcases error_of_bind h with h | ⟨args, hargs, h⟩
      · exact .inr (.inr (.inl (.inl h)))
      rcases methodFails_of_callMethod (error_of_optionalOutcome h) with hx | hx
      · exact .inr (.inr (.inr (.method hl hx)))
      · exact .inr (.inr (.inl (.inr ⟨args, hargs, hx⟩)))

theorem error_of_call {callee : Expr} (hmember : ∀ o p q, callee ≠ .member o p q)
    (h : chain r locals (.call callee es optional) = .error x) :
    chain r locals callee = .error x ∨ arguments r locals es = .error x ∨
      FailsWith (.call callee es optional) x := by
  rw [chain_call r _ _ _ hmember] at h
  split at h
  · rcases error_of_bind h with h | ⟨args, -, h⟩
    · exact .inr (.inl h)
    · cases h
  · next hc =>
    rcases error_of_bind h with h | ⟨target, -, h⟩
    · exact .inl h
    cases target with
    | none => cases h
    | some target =>
      dsimp only at h
      split at h
      · cases h
      · obtain rfl := Except.error.inj h
        refine .inr (.inr (.noFunction hmember fun c heq => ?_))
        rw [heq] at hc
        cases hc

end Expr

end Logbook
