import Logbook.Proofs.Expr.Named
import Logbook.Proofs.Expr.Names

/-!
# Names and slots agree

* `slotOf?_names`: the innermost parameter of a name has the slot that the name resolves to;
* `meaning_names`: what a name stands for by slots and by names;
* **`chain_resolve`**: an expression by slots has the value that its names give.
-/

namespace Logbook.Expr

/-! ## Names -/

/-- The innermost parameter of a name has the slot that the name resolves to. -/
theorem slotOf?_names (n : String) : ∀ env : Env,
    (∃ k v, slotOf? n env.names = some k ∧ env.values[k]? = some v ∧ env.lookup n = some v) ∨
      slotOf? n env.names = none ∧ env.lookup n = none
  | [] => .inr ⟨rfl, rfl⟩
  | (x, v) :: env => by
    rw [Env.names_cons, slotOf?_concat, Env.values_cons, List.lookup_cons]
    by_cases hx : x = n
    · refine .inl ⟨(Env.names env).length, v, if_pos hx, ?_, ?_⟩
      · rw [← Env.length_values, List.getElem?_concat_length]
      · rw [hx, beq_self_eq_true]
    · have hne : (n == x) = false := beq_eq_false_iff_ne.2 (Ne.symm hx)
      rw [if_neg hx, hne]
      obtain ⟨k, w, hslot, hvalue, hlookup⟩ | hnone := slotOf?_names n env
      · have hk : k < (Env.values env).length := (List.getElem?_eq_some_iff.1 hvalue).1
        refine .inl ⟨k, w, hslot, ?_, hlookup⟩
        rw [List.getElem?_append_left hk, hvalue]
      · exact .inr hnone

theorem meaning_of_slot {names : List String} {n : String} {k : Nat}
    (h : slotOf? n names = some k) : Surface.meaning names n = .param k := by
  rw [Surface.meaning, resolve, h]

theorem meaning_of_free {names : List String} {n : String} (h : slotOf? n names = none) :
    Surface.meaning names n = Surface.meaning [] n := by
  have hnil : slotOf? n [] = none := rfl
  rw [Surface.meaning, Surface.meaning, resolve, resolve, h, hnil]

theorem meaning_names (n : String) (env : Env) :
    (∃ k v, Surface.meaning (Env.names env) n = .param k ∧ (Env.values env)[k]? = some v ∧
      env.lookup n = some v) ∨
    Surface.meaning (Env.names env) n = Surface.meaning [] n ∧ env.lookup n = none := by
  obtain ⟨k, v, hslot, hvalue, hlookup⟩ | ⟨hslot, hlookup⟩ := slotOf?_names n env
  · exact .inl ⟨k, v, meaning_of_slot hslot, hvalue, hlookup⟩
  · exact .inr ⟨meaning_of_free hslot, hlookup⟩

/-- A name stands for a leaf, whose value does not depend on parameters unless it is one. -/
theorem meaning_nil_cases (n : String) :
    (∃ v, Surface.meaning [] n = .literal v) ∨ (∃ f, Surface.meaning [] n = .field f) ∨
      (∃ l, Surface.meaning [] n = .library l) ∨ ∃ c, Surface.meaning [] n = .conversion c := by
  have hnil : slotOf? n [] = none := rfl
  unfold Surface.meaning resolve
  rw [hnil]
  split
  · next e he =>
    simp only at he
    split at he <;> first | (obtain rfl := Except.ok.inj he; simp) | cases he
  · simp

theorem meaning_ne (names : List String) (n : String) :
    (∀ o p q, Surface.meaning names n ≠ .member o p q) ∧
      ∀ arity body, Surface.meaning names n ≠ .lambda arity body := by
  rcases hslot : slotOf? n names with _ | k
  · rw [meaning_of_free hslot]
    obtain ⟨v, h⟩ | ⟨f, h⟩ | ⟨l, h⟩ | ⟨c, h⟩ := meaning_nil_cases n <;>
      rw [h] <;> exact ⟨nofun, nofun⟩
  · rw [meaning_of_slot hslot]
    exact ⟨nofun, nofun⟩

namespace Named

theorem apply_meaning {α : Type} (f : Expr → α) (d : α) (hf : ∀ k, f (.param k) = d) (n : String)
    (env : Env) : f (Surface.meaning (Env.names env) n) = ((free? env n).map f).getD d := by
  rw [free?]
  obtain ⟨k, v, hmeaning, -, hlookup⟩ | ⟨hmeaning, hlookup⟩ := meaning_names n env
  · rw [hmeaning, hlookup, hf]
    rfl
  · rw [hmeaning, hlookup]
    rfl

theorem library?_resolve (env : Env) (t : Named) :
    Expr.library? (t.resolve (Env.names env)) = library? env t := by
  cases t with
  | name n =>
    rw [resolve, apply_meaning Expr.library? none (fun _ => rfl), library?]
    cases free? env n <;> rfl
  | _ => rw [resolve]; rfl

theorem conversion?_resolve (env : Env) (t : Named) :
    Expr.conversion? (t.resolve (Env.names env)) = conversion? env t := by
  cases t with
  | name n =>
    rw [resolve, apply_meaning Expr.conversion? none (fun _ => rfl), conversion?]
    cases free? env n <;> rfl
  | _ => rw [resolve]; rfl

theorem describe_resolve (env : Env) (t : Named) :
    describeCallee (t.resolve (Env.names env)) = describe env t := by
  cases t with
  | name n => rw [resolve, apply_meaning describeCallee "expression" (fun _ => rfl), describe]
  | _ => rw [resolve]; rfl

theorem chain_name (r : Record) (env : Env) (n : String) :
    Expr.chain r (Env.values env) (Surface.meaning (Env.names env) n) = (name n).chain r env := by
  rw [chain]
  obtain ⟨k, v, hmeaning, hvalue, hlookup⟩ | ⟨hmeaning, hlookup⟩ := meaning_names n env
  · rw [hmeaning, hlookup, Expr.chain, List.getD_eq_getElem?_getD, hvalue]
    rfl
  · rw [hmeaning, hlookup]
    obtain ⟨v, h⟩ | ⟨f, h⟩ | ⟨l, h⟩ | ⟨c, h⟩ := meaning_nil_cases n <;>
      rw [h, Expr.chain, Expr.chain]

end Named

theorem chain_call {callee : Expr} (r : Record) (locals : List Value) (args : List Expr)
    (optional : Bool) (h : ∀ o p q, callee ≠ .member o p q) :
    chain r locals (.call callee args optional) =
      (match conversion? callee with
      | some c => do
        let args ← arguments r locals args
        .ok (some (c.apply args))
      | none => do
        match ← chain r locals callee with
        | none => .ok none
        | some target =>
          if optional && target.isNullish then .ok none
          else .error (.notAFunction (describeCallee callee))) := by
  cases callee with
  | member o p q => exact absurd rfl (h o p q)
  | _ => rfl

theorem arguments_cons {e : Expr} (r : Record) (locals : List Value) (rest : List Expr)
    (h : ∀ arity body, e ≠ .lambda arity body) :
    arguments r locals (e :: rest) = (do
      let v ← (chain r locals e).map (·.getD .undefined)
      let more ← arguments r locals rest
      .ok (.value v :: more)) := by
  cases e with
  | lambda arity body => exact absurd rfl (h arity body)
  | _ =>
    rw [arguments]
    exact nofun

namespace Named

theorem resolve_ne_member (names : List String) {t : Named} (h : ∀ o p q, t ≠ .member o p q)
    (o p : Expr) (q : Bool) : t.resolve names ≠ .member o p q := by
  cases t with
  | member o p q => exact absurd rfl (h o p q)
  | name n => exact (meaning_ne names n).1 o p q
  | _ => rw [resolve]; nofun

theorem resolve_ne_lambda (names : List String) {t : Named}
    (h : ∀ params body, t ≠ arrow params body) (arity : Nat) (body : Expr) :
    t.resolve names ≠ .lambda arity body := by
  cases t with
  | arrow params body => exact absurd rfl (h params body)
  | name n => exact (meaning_ne names n).2 arity body
  | _ => rw [resolve]; nofun

mutual

/-- **An expression by slots has the value that its names give**: the values of the parameters in
scope stand at their slots. -/
theorem chain_resolve (r : Record) : ∀ (t : Named) (env : Env),
    Expr.chain r (Env.values env) (t.resolve (Env.names env)) = t.chain r env
  | number _, _ | text _, _ | arrow _ _, _ => by rw [resolve, Expr.chain, chain]
  | name n, env => chain_name r env n
  | array items, env => by
    rw [resolve, Expr.chain, chain, itemValues_resolve r items env]
  | member object property optional, env => by
    rw [resolve, Expr.chain, library?_resolve, chain_resolve r object env,
      chain_resolve r property env]
    rfl
  | call callee args optional, env => by
    have hargs := arguments_resolve r args env
    by_cases hmember : ∃ o p q, callee = member o p q
    · obtain ⟨object, property, optionalMember, rfl⟩ := hmember
      rw [resolve, resolve, Expr.chain, library?_resolve, chain_resolve r object env,
        chain_resolve r property env, hargs]
      rfl
    · have hne : ∀ o p q, callee ≠ member o p q := fun o p q heq => hmember ⟨o, p, q, heq⟩
      rw [resolve, chain_call _ _ _ _ (resolve_ne_member _ hne), conversion?_resolve,
        chain_resolve r callee env, describe_resolve, hargs]
      exact (chain_of_ne_member r env args optional hne).symm
  | unary op operand, env => by
    rw [resolve, Expr.chain, chain, chain_resolve r operand env]
  | binary op left right, env => by
    rw [resolve, Expr.chain, chain, chain_resolve r left env, chain_resolve r right env]
  | logical op left right, env => by
    rw [resolve, Expr.chain, chain, chain_resolve r left env, chain_resolve r right env]
  | conditional test yes no, env => by
    rw [resolve, Expr.chain, chain, chain_resolve r test env, chain_resolve r yes env,
      chain_resolve r no env]

theorem arguments_resolve (r : Record) : ∀ (ts : List Named) (env : Env),
    Expr.arguments r (Env.values env) (resolveAll (Env.names env) ts) = arguments r env ts
  | [], _ => by rw [resolveAll, Expr.arguments, arguments]
  | t :: ts, env => by
    have hmore := arguments_resolve r ts env
    by_cases harrow : ∃ params body, t = arrow params body
    · obtain ⟨params, body, rfl⟩ := harrow
      have hbody : ∀ args, Expr.chain r (Env.values env ++ bindParameters params.length args)
          (body.resolve (Env.names env ++ params)) = body.chain r (Env.bind env params args) := by
        intro args
        rw [← Env.values_bind, ← Env.names_bind params env args,
          chain_resolve r body (Env.bind env params args)]
      rw [resolveAll, resolve, Expr.arguments, arguments, hmore]
      simp only [hbody]
    · have hne : ∀ params body, t ≠ arrow params body := fun params body heq =>
        harrow ⟨params, body, heq⟩
      rw [resolveAll, arguments_cons _ _ _ (resolve_ne_lambda _ hne), arguments,
        chain_resolve r t env, hmore]
      exact hne

theorem itemValues_resolve (r : Record) : ∀ (ts : List Named) (env : Env),
    Expr.itemValues r (Env.values env) (resolveAll (Env.names env) ts) = itemValues r env ts
  | [], _ => by rw [resolveAll, Expr.itemValues, itemValues]
  | t :: ts, env => by
    rw [resolveAll, Expr.itemValues, itemValues, chain_resolve r t env, itemValues_resolve r ts env]

end

end Named

end Logbook.Expr
