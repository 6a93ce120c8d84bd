import Logbook.Proofs.Expr.First
import Logbook.Proofs.Expr.Names

/-!
# Scopes

* `Expr.Scoped`: arrow functions are arguments of calls, and each parameter is in scope;
* **`scoped_resolve`**: so is every expression that a tree stands for.
-/

namespace Logbook.Expr

mutual

/-- Arrow functions stand only as arguments of calls, parameters are among the `scope` ones in
scope, and the other leaves are as `leaf` says. -/
def Scoped (leaf : Expr → Prop) (scope : Nat) (argument : Bool) : Expr → Prop
  | literal v => leaf (.literal v)
  | field f => leaf (.field f)
  | library l => leaf (.library l)
  | conversion c => leaf (.conversion c)
  | param slot => slot < scope
  | array items => ScopedAll leaf scope false items
  | member object property _ =>
    object.Scoped leaf scope false ∧ property.Scoped leaf scope false
  | call callee args _ => callee.Scoped leaf scope false ∧ ScopedAll leaf scope true args
  | lambda arity body => argument = true ∧ body.Scoped leaf (scope + arity) false
  | unary _ operand => operand.Scoped leaf scope false
  | binary _ left right => left.Scoped leaf scope false ∧ right.Scoped leaf scope false
  | logical _ left right => left.Scoped leaf scope false ∧ right.Scoped leaf scope false
  | conditional test yes no => test.Scoped leaf scope false ∧ yes.Scoped leaf scope false ∧
    no.Scoped leaf scope false

/-- The same for each of some expressions. -/
def ScopedAll (leaf : Expr → Prop) (scope : Nat) (argument : Bool) : List Expr → Prop
  | [] => True
  | e :: es => e.Scoped leaf scope argument ∧ ScopedAll leaf scope argument es

end

theorem Scoped.as_argument {leaf : Expr → Prop} {scope : Nat} {e : Expr} (argument : Bool)
    (h : e.Scoped leaf scope false) : e.Scoped leaf scope argument := by
  cases e with
  | lambda => exact absurd h.1 Bool.false_ne_true
  | _ => exact h

theorem scoped_build {leaf : Expr → Prop} {scope : Nat} {argument : Bool} {op : Joint} {a b : Expr}
    (ha : a.Scoped leaf scope false) (hb : b.Scoped leaf scope false) :
    (op.build a b).Scoped leaf scope argument := by
  cases op <;> exact ⟨ha, hb⟩

theorem scoped_meaning (names : List String) (n : String) (argument : Bool) :
    (Surface.meaning names n).Scoped (fun _ => True) names.length argument := by
  unfold Surface.meaning resolve
  split
  · next e he =>
    split at he
    · next k hk =>
      obtain rfl := Except.ok.inj he
      exact slotOf?_lt hk
    · split at he <;> first | (obtain rfl := Except.ok.inj he; exact trivial) | cases he
  · exact trivial

namespace Surface

mutual

theorem scoped_resolve (names : List String) : ∀ {t : Surface} {p : Nat}, t.Fits false p →
    (t.resolve names).Scoped (fun _ => True) names.length (p == 0)
  | number _, _, _ | text _, _, _ => trivial
  | name n, _, _ => scoped_meaning names n _
  | array items _, _, h => scopedAll_resolveAll names h
  | group e, _, h => (scoped_resolve names h.2).as_argument _
  | dot object _ _, _, h => ⟨scoped_resolve names (p := 9) h, trivial⟩
  | item .., _, h => ⟨scoped_resolve names h.1, scoped_resolve names h.2⟩
  | call .., _, h => ⟨scoped_resolve names h.1, scopedAll_resolveAll names h.2⟩
  | arrow params _ _, _, h => by
    have hbody := scoped_resolve (names ++ params) h.2
    rw [List.length_append] at hbody
    exact ⟨beq_iff_eq.2 h.1, hbody⟩
  | unary _ operand, _, h => scoped_resolve (t := operand) names h.2
  | joined op .., _, h => by
    have hop := op.rung.two_le_rank
    rw [op.rank_rung] at hop
    have hleft := scoped_resolve names h.2.1
    have hright := scoped_resolve names h.2.2
    rw [beq_eq_false_iff_ne.2 (by omega)] at hleft hright
    exact scoped_build hleft hright
  | conditional .., _, h =>
    ⟨scoped_resolve names h.2.1, scoped_resolve names h.2.2.1, scoped_resolve names h.2.2.2⟩

theorem scopedAll_resolveAll (names : List String) : ∀ {ts : List Surface} {p : Nat},
    FitAll false p ts → ScopedAll (fun _ => True) names.length (p == 0) (resolveAll names ts)
  | [], _, _ => trivial
  | _ :: _, _, h => ⟨scoped_resolve names h.1, scopedAll_resolveAll names h.2⟩

end

end Surface

end Logbook.Expr
