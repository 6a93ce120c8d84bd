import Logbook.Proofs.Expr.Failures
import Logbook.Proofs.Expr.Fields

/-!
# Errors of expressions

An error tells by its kind whether the text is wrong or a record does not fit.

* `ErrorKind`, `ExprError.kind`: the kinds of errors, three of texts and three of evaluations;
* `Expr.FailsIn`: one of some expressions has an error of its own;
* `failsIn_of_chain`: an evaluation fails with an error of one of the parts;
* `Compiled.parts`: the expressions inside a text;
* **`errors_by_kind`**: what the error of a text and the error of an evaluation can be.
-/

namespace Logbook

/-! ## Kinds of errors -/

/-- The kinds of errors. -/
inductive ErrorKind where
  | syntactic
  | unknownName
  | tooDeep
  | type
  | notAFunction
  | runtime
  deriving DecidableEq, Repr

/-- The kind of an error. -/
def ExprError.kind : ExprError → ErrorKind
  | compile (.at _ _) => .syntactic
  | compile (.unknownName _) => .unknownName
  | compile .tooDeep => .tooDeep
  | run (.type _) => .type
  | run (.notAFunction _) => .notAFunction
  | run (.argument _) => .runtime

/-- The kinds of the errors of texts. -/
def ErrorKind.ofTexts : List ErrorKind := [.syntactic, .unknownName, .tooDeep]

theorem ExprError.isCompileError_iff (x : ExprError) :
    x.isCompileError = true ↔ x.kind ∈ ErrorKind.ofTexts := by
  cases x with
  | compile e => cases e <;> simp [isCompileError, kind, ErrorKind.ofTexts]
  | run e => cases e <;> simp [isCompileError, kind, ErrorKind.ofTexts]

namespace Expr

variable {x : RunError}

/-! ## Evaluation -/

/-- One of some expressions has an error of its own. -/
def FailsIn (ps : List Expr) (x : RunError) : Prop := ∃ p ∈ ps, p.FailsWith x

namespace FailsIn

variable {p : Expr} {ps qs : List Expr}

theorem self {e : Expr} (h : e.FailsWith x) : FailsIn e.parts x := ⟨e, mem_parts_self e, h⟩

theorem tail (h : FailsIn ps x) : FailsIn (p :: ps) x := by
  obtain ⟨q, hq, hx⟩ := h
  exact ⟨q, List.mem_cons_of_mem p hq, hx⟩

theorem left (h : FailsIn ps x) : FailsIn (ps ++ qs) x := by
  obtain ⟨q, hq, hx⟩ := h
  exact ⟨q, List.mem_append_left qs hq, hx⟩

theorem right (h : FailsIn qs x) : FailsIn (ps ++ qs) x := by
  obtain ⟨q, hq, hx⟩ := h
  exact ⟨q, List.mem_append_right ps hq, hx⟩

end FailsIn

mutual

/-- **An evaluation fails with an error that a part has of its own.** -/
theorem failsIn_of_chain (r : Record) : ∀ (e : Expr) (locals : List Value) (x : RunError),
    chain r locals e = .error x → FailsIn e.parts x
  | literal _, _, _, h | param _, _, _, h | field _, _, _, h => by
    rw [chain] at h
    cases h
  | library l, _, _, h => by
    rw [chain] at h
    obtain rfl := Except.error.inj h
    exact .self (.library l)
  | conversion c, _, _, h => by
    rw [chain] at h
    obtain rfl := Except.error.inj h
    exact .self (.conversion c)
  | lambda arity body, _, _, h => by
    rw [chain] at h
    obtain rfl := Except.error.inj h
    exact .self (.arrow arity body)
  | array items, locals, x, h => by
    rw [chain] at h
    rcases error_of_bind h with h | ⟨vs, -, h⟩
    · exact .tail (failsIn_of_itemValues r items locals x h)
    · cases h
  | member object property optional, locals, x, h => by
    rcases error_of_member h with h | h | h
    · exact .tail (.left (failsIn_of_chain r object locals x h))
    · exact .tail (.right (failsIn_of_chain r property locals x h))
    · exact .self h
  | call callee es optional, locals, x, h => by
    have hes := failsIn_of_arguments r es locals x
    by_cases hmember : ∃ o p q, callee = member o p q
    · obtain ⟨object, property, optionalMember, rfl⟩ := hmember
      rcases error_of_call_member h with h | h | h | h
      · exact .tail (.left (.tail (.left (failsIn_of_chain r object locals x h))))
      · exact .tail (.left (.tail (.right (failsIn_of_chain r property locals x h))))
      · exact .tail (.right (hes h))
      · exact .self h
    · have hne : ∀ o p q, callee ≠ member o p q := fun o p q heq => hmember ⟨o, p, q, heq⟩
      rcases error_of_call hne h with h | h | h
      · exact .tail (.left (failsIn_of_chain r callee locals x h))
      · exact .tail (.right (hes (.inl h)))
      · exact .self h
  | unary op operand, locals, x, h => by
    rw [chain] at h
    rcases error_of_bind h with h | ⟨v, -, h⟩
    · exact .tail (failsIn_of_chain r operand locals x (error_of_map h))
    · cases h
  | binary op left right, locals, x, h => by
    rw [chain] at h
    rcases error_of_bind h with h | ⟨a, -, h⟩
    · exact .tail (.left (failsIn_of_chain r left locals x (error_of_map h)))
    rcases error_of_bind h with h | ⟨b, -, h⟩
    · exact .tail (.right (failsIn_of_chain r right locals x (error_of_map h)))
    · cases h
  | logical op left right, locals, x, h => by
    rw [chain] at h
    rcases error_of_bind h with h | ⟨a, -, h⟩
    · exact .tail (.left (failsIn_of_chain r left locals x (error_of_map h)))
    split at h
    · cases h
    rcases error_of_bind h with h | ⟨b, -, h⟩
    · exact .tail (.right (failsIn_of_chain r right locals x (error_of_map h)))
    · cases h
  | conditional test yes no, locals, x, h => by
    rw [chain] at h
    rcases error_of_bind h with h | ⟨t, -, h⟩
    · exact .tail (.left (failsIn_of_chain r test locals x (error_of_map h)))
    split at h
    · rcases error_of_bind h with h | ⟨v, -, h⟩
      · exact .tail (.right (.left (failsIn_of_chain r yes locals x (error_of_map h))))
      · cases h
    · rcases error_of_bind h with h | ⟨v, -, h⟩
      · exact .tail (.right (.right (failsIn_of_chain r no locals x (error_of_map h))))
      · cases h

theorem failsIn_of_arguments (r : Record) : ∀ (es : List Expr) (locals : List Value) (x : RunError),
    ArgumentsFail r locals es x → FailsIn (partsAll es) x
  | [], _, _, h => absurd h not_argumentsFail_nil
  | e :: es, locals, x, h => by
    by_cases hlambda : ∃ arity body, e = lambda arity body
    · obtain ⟨arity, body, rfl⟩ := hlambda
      rcases error_of_arguments_lambda h with ⟨vs, h⟩ | h
      · exact .left (.tail (failsIn_of_chain r body _ x h))
      · exact .right (failsIn_of_arguments r es locals x h)
    · have hne : ∀ arity body, e ≠ lambda arity body := fun arity body heq =>
        hlambda ⟨arity, body, heq⟩
      rcases error_of_arguments_cons hne h with h | h
      · exact .left (failsIn_of_chain r e locals x h)
      · exact .right (failsIn_of_arguments r es locals x h)

theorem failsIn_of_itemValues (r : Record) : ∀ (es : List Expr) (locals : List Value)
    (x : RunError), itemValues r locals es = .error x → FailsIn (partsAll es) x
  | [], _, _, h => by
    rw [itemValues] at h
    cases h
  | e :: es, locals, x, h => by
    rw [itemValues] at h
    rcases error_of_bind h with h | ⟨v, -, h⟩
    · exact .left (failsIn_of_chain r e locals x (error_of_map h))
    rcases error_of_bind h with h | ⟨vs, -, h⟩
    · exact .right (failsIn_of_itemValues r es locals x h)
    · cases h

end

end Expr

/-! ## Texts -/

/-- The expressions inside a compiled text; a text that is blank or fails has none. -/
def Compiled.parts (c : Compiled) : List Expr :=
  match c.program with
  | .ok (some e) => e.parts
  | _ => []

namespace Compiled

variable {c : Compiled}

theorem eval_of_compileError {e : Expr.CompileError} (h : c.compileError? = some e) (r : Record) :
    c.eval r = .error (.compile e) := by
  obtain ⟨source, program⟩ := c
  cases program with
  | error e' =>
    obtain rfl := Option.some.inj h
    rfl
  | ok p => cases h

theorem failsIn_of_eval {r : Record} {x : ExprError} (hc : c.compileError? = none)
    (h : c.eval r = .error x) : ∃ y, x = .run y ∧ Expr.FailsIn c.parts y := by
  obtain ⟨source, program⟩ := c
  match program with
  | .error e => cases hc
  | .ok none => cases h
  | .ok (some e) =>
    change (Expr.eval r [] e).mapError ExprError.run = .error x at h
    cases he : Expr.eval r [] e with
    | ok v =>
      rw [he] at h
      cases h
    | error y =>
      rw [he] at h
      obtain rfl := Except.error.inj h
      exact ⟨y, rfl, Expr.failsIn_of_chain r e [] y (Expr.error_of_map he)⟩

theorem eval_of_test {r : Record} {x : ExprError} (h : c.test r = .error x) : c.eval r = .error x :=
  Expr.error_of_map h

end Compiled

/-- **The kind of an error tells whose it is.** A text that does not compile gives its own error
for every record, a syntax error, an unknown name or too deep a nesting, and a text that compiles
gives none of these for any record: where its evaluation fails, a part of the expression has that
error. -/
theorem errors_by_kind (source : String) :
    (∀ e, (compile source).compileError? = some e →
      (ExprError.compile e).isCompileError = true ∧
      (ExprError.compile e).kind ∈ ErrorKind.ofTexts ∧
      ∀ r, (compile source).eval r = .error (.compile e) ∧
        (compile source).test r = .error (.compile e)) ∧
    ((compile source).compileError? = none → ∀ r x,
      (compile source).eval r = .error x ∨ (compile source).test r = .error x →
        x.isCompileError = false ∧ x.kind ∉ ErrorKind.ofTexts ∧
        ∃ y, x = .run y ∧ Expr.FailsIn (compile source).parts y) := by
  constructor
  · intro e he
    refine ⟨rfl, (ExprError.isCompileError_iff _).1 rfl, fun r => ?_⟩
    have heval := Compiled.eval_of_compileError he r
    refine ⟨heval, ?_⟩
    rw [Compiled.test, heval]
    rfl
  · intro hc r x h
    obtain ⟨y, rfl, hy⟩ := Compiled.failsIn_of_eval hc (h.elim id Compiled.eval_of_test)
    refine ⟨rfl, fun hkind => ?_, y, rfl, hy⟩
    cases (ExprError.isCompileError_iff _).2 hkind

/-- A name that is unknown, and an unknown method two arrow functions deep. -/
theorem errors_by_kind_nested :
    (∀ r, (compile "[title].map(x => process.exit)").eval r =
      .error (.compile (.unknownName "process"))) ∧
    (compile "['a'].map(x => [x].map(y => y.fly()))").test (titled "client" 1) =
      .error (.run (.notAFunction "string.fly")) ∧
    Expr.FailsIn (compile "['a'].map(x => [x].map(y => y.fly()))").parts
      (.notAFunction "string.fly") := by
  have hname : (compile "[title].map(x => process.exit)").compileError? =
      some (.unknownName "process") := by
    decide +kernel
  have hcompiles : (compile "['a'].map(x => [x].map(y => y.fly()))").compileError? = none := by
    decide +kernel
  have htest : (compile "['a'].map(x => [x].map(y => y.fly()))").test (titled "client" 1) =
      .error (.run (.notAFunction "string.fly")) := by
    decide +kernel
  refine ⟨fun r => (((errors_by_kind _).1 _ hname).2.2 r).1, htest, ?_⟩
  obtain ⟨-, -, y, hy, hpart⟩ := (errors_by_kind _).2 hcompiles _ _ (.inr htest)
  obtain rfl := ExprError.run.inj hy
  exact hpart

end Logbook
