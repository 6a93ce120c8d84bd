import Logbook.Proofs.Expr.ByName
import Logbook.Proofs.Expr.Scope
import Logbook.Proofs.Expr.Source
import Logbook.Proofs.Expr.Stack

/-!
# Evaluation of texts

* `valueByName`: the value of a text by the names in its tree;
* `WellScoped`: arrow functions are arguments of calls, and parameters are in scope;
* `eval_of_isTreeOf`, `wellScoped_of_program`, `execute_run`: the parts;
* **`eval_compile`**: a text that compiles has the value that its names give, and its evaluation
  finds each value on the stack where its scope says.
-/

namespace Logbook.Expr

/-- The value of a tree by its names. -/
def valueByName (r : Record) : Option Surface → Except RunError Value
  | none => .ok .undefined
  | some t => (t.named.chain r []).map (·.getD .undefined)

/-- Arrow functions are arguments of calls, and each parameter is in scope. -/
def WellScoped (e : Expr) : Prop := e.Scoped (fun _ => True) 0 false

variable {source : String}

theorem eval_of_isTreeOf {t : Option Surface} {program : Option Expr} (r : Record)
    (h : (compile source).program = .ok program) (ht : IsTreeOf source t) :
    (compile source).eval r = (valueByName r t).mapError .run := by
  cases t with
  | none =>
    rw [Compiled.eval, program_of_isAllBlank ht]
    rfl
  | some t =>
    have hvalue : Expr.eval r [] (t.resolve []) = valueByName r (some t) := by
      rw [valueByName, ← Named.chain_resolve r t.named [], t.resolve_named]
      rfl
    rw [Compiled.eval, h, eq_resolve_of_isTreeOf h ht, ← hvalue]

theorem wellScoped_of_program {e : Expr} (h : (compile source).program = .ok (some e)) :
    e.WellScoped := by
  obtain ⟨t, ht⟩ := exists_isTreeOf_some h
  obtain rfl : e = t.resolve [] := Option.some.inj (eq_resolve_of_isTreeOf h ht)
  exact Surface.scoped_resolve [] ht.2.1

/-- The stack of an evaluation is empty before and after it. -/
theorem execute_run (r : Record) {e : Expr} (h : (compile source).program = .ok (some e)) :
    ∃ y visits, (Machine.value (Machine.run r 0 e)).execute ⟨[], []⟩ = (y, ⟨[], visits⟩) ∧
      (compile source).eval r = y.mapError .run ∧ ∀ v ∈ visits, v.height = v.scope := by
  obtain ⟨y, visits, hexecute, hagree, hvisits⟩ :=
    Machine.does_value (Machine.does_run r e []) []
  rw [List.append_nil] at hexecute
  refine ⟨y, visits, hexecute, ?_, hvisits⟩
  rw [Compiled.eval, h, Machine.eq_of_agree hagree]
  rfl

/-- **Evaluation of a text that compiles.** It has a tree, and the value that the names of each such
tree give. In the compiled expression arrow functions are arguments of calls and parameters are in
scope. On the stack it comes to the same value, with as many values there as parameters are in scope
wherever an expression is evaluated, and with none left. -/
theorem eval_compile {program : Option Expr} (h : (compile source).program = .ok program) :
    (∃ t, IsTreeOf source t) ∧
    (∀ t, IsTreeOf source t → ∀ r, (compile source).eval r = (valueByName r t).mapError .run) ∧
    ∀ e, program = some e → e.WellScoped ∧ ∀ r, ∃ y visits,
      (Machine.value (Machine.run r 0 e)).execute ⟨[], []⟩ = (y, ⟨[], visits⟩) ∧
        (compile source).eval r = y.mapError .run ∧ ∀ v ∈ visits, v.height = v.scope := by
  refine ⟨exists_isTreeOf h, fun t ht r => eval_of_isTreeOf r h ht, ?_⟩
  rintro e rfl
  exact ⟨wellScoped_of_program h, fun r => execute_run r h⟩

/-- An arrow function whose second `x` hides the first one, and one whose error is dropped. -/
def shadowed : Surface :=
  .call (.dot (.array [.name "log", .name "id"] false) "map" false)
    [.arrow ["x", "x"] false
      (.call (.dot (.name "tags") "map" true)
        [.arrow ["y"] true (.call (.dot (.name "x") "z" false) [.name "y"] false)] true)] false

theorem isTreeOf_shadowed :
    IsTreeOf "[log, id].map((x, x) => tags?.map?.(y => x.z(y)))" (some shadowed) := by
  refine ⟨rfl, ?_, ?_, _, rfl, rfl⟩
  · simp [shadowed, Surface.Fits, Surface.FitAll]
  · exact ⟨⟨rfl, rfl, trivial⟩, ⟨rfl, ⟨rfl, rfl, trivial⟩, trivial⟩, trivial⟩

theorem eval_compile_shadowed : ∃ source e, (compile source).program = .ok (some e) ∧
    e = .call (.member (.array [.field .log, .field .id]) (.literal (.str "map")) false)
      [.lambda 2 (.call (.member (.field .tags) (.literal (.str "map")) true)
        [.lambda 1 (.call (.member (.param 1) (.literal (.str "z")) false) [.param 2] false)]
        true)] false ∧
    e.WellScoped ∧ ∀ r,
      (compile source).eval r = (valueByName r (some shadowed)).mapError .run ∧
      ∃ y visits, (Machine.value (Machine.run r 0 e)).execute ⟨[], []⟩ = (y, ⟨[], visits⟩) ∧
        ∀ v ∈ visits, v.height = v.scope := by
  have hprogram := program_of_isTreeOf isTreeOf_shadowed
  rw [if_pos (by decide)] at hprogram
  obtain ⟨-, hnames, hstack⟩ := eval_compile hprogram
  obtain ⟨hscoped, hstack⟩ := hstack _ rfl
  refine ⟨_, _, hprogram, rfl, hscoped, fun r => ⟨hnames _ isTreeOf_shadowed r, ?_⟩⟩
  obtain ⟨y, visits, hexecute, -, hvisits⟩ := hstack r
  exact ⟨y, visits, hexecute, hvisits⟩

end Logbook.Expr
