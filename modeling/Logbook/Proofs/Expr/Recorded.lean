import Logbook.Proofs.Expr.Acts

/-!
# A record changes no answer

* `Recorded.result_bind`, `Recorded.result_expect`, `Recorded.result_skip`: small steps;
* `Recorded.result_conditional` and its siblings: the functions of the grammar;
* **`Recorded.result_parse`**: the parser.
-/

namespace Logbook.Expr

namespace Recorded

variable {α β : Type}

/-! ## Small steps -/

@[simp] theorem result_pure (a : α) : (pure a : Recorded α).result = .ok a := rfl

@[simp] theorem result_fail (e : CompileError) : (fail e : Recorded α).result = .error e := rfl

@[simp] theorem result_bind (x : Recorded α) (f : α → Recorded β) :
    (x >>= f).result = x.result >>= fun a => (f a).result := by
  obtain ⟨acts, result⟩ := x
  cases result <;> rfl

@[simp] theorem result_perform (a : Act) (s : State) : (perform a s).result = .ok (s.after a) := rfl

theorem result_perform_bind (a : Act) (s : State) (f : State → Recorded β) :
    (perform a s >>= f).result = (f (s.after a)).result := rfl

@[simp] theorem result_enter (s : State) : (enter s).result = s.enter := rfl

@[simp] theorem result_leave (n : Nat) (a : α) (s : State) :
    (leave n a s).result = .ok (a, s.leave n) := rfl

@[simp] theorem result_expect (m : Mark) (s : State) : (expect m s).result = s.expect m := by
  unfold expect State.expect
  cases h : s.eat? m with
  | none => rfl
  | some s' =>
    obtain ⟨-, rfl⟩ := State.after_of_eat? h
    rfl

@[simp] theorem result_propertyName (s : State) :
    (propertyName s).result = Expr.propertyName s := by
  unfold propertyName
  cases h : Expr.propertyName s with
  | error e => rfl
  | ok p =>
    obtain ⟨n, s'⟩ := p
    obtain ⟨-, rfl⟩ := after_of_propertyName h
    rfl

theorem exists_arrow_of_parametersFrom {ps rest : List Placed} {ns : List String}
    (h : parametersFrom ps = some (ns, rest)) :
    ∃ before c, ps = before ++ ⟨.mark .arrow, c⟩ :: rest ∧
      ∀ p ∈ before, p.token ≠ .mark .arrow := by
  induction ps using parametersFrom.induct generalizing ns with
  | case1 n c₁ c₂ ps ih =>
    obtain ⟨⟨ns', rest'⟩, hps, heq⟩ := Option.map_eq_some_iff.1 h
    obtain ⟨-, rfl⟩ := Prod.mk.inj heq
    obtain ⟨before, c, rfl, hbefore⟩ := ih hps
    exact ⟨⟨.name n, c₁⟩ :: ⟨.mark .comma, c₂⟩ :: before, c, rfl, by simpa using hbefore⟩
  | case2 n c₁ c₂ c ps =>
    obtain ⟨-, rfl⟩ := Prod.mk.inj (Option.some.inj h)
    exact ⟨[⟨.name n, c₁⟩, ⟨.mark .closeParen, c₂⟩], c, rfl, by simp⟩
  | case3 => simp [parametersFrom] at h

/-- Where parameters are found, an arrow follows them, and no other one stands in front of it. -/
theorem exists_arrow_of_parameters? {ps rest : List Placed} {ns : List String}
    (h : parameters? ps = some (ns, rest)) :
    ∃ before c, ps = before ++ ⟨.mark .arrow, c⟩ :: rest ∧
      ∀ p ∈ before, p.token ≠ .mark .arrow := by
  unfold parameters? at h
  split at h
  · next n c₁ c ps =>
    obtain ⟨-, rfl⟩ := Prod.mk.inj (Option.some.inj h)
    exact ⟨[⟨.name n, c₁⟩], c, rfl, by simp⟩
  · next c₁ c₂ c ps =>
    obtain ⟨-, rfl⟩ := Prod.mk.inj (Option.some.inj h)
    exact ⟨[⟨.mark .openParen, c₁⟩, ⟨.mark .closeParen, c₂⟩], c, rfl, by simp⟩
  · next c₁ ps _ =>
    obtain ⟨before, c, rfl, hbefore⟩ := exists_arrow_of_parametersFrom h
    exact ⟨⟨.mark .openParen, c₁⟩ :: before, c, rfl, by simpa using hbefore⟩
  · cases h

theorem result_skip {before rest : List Placed} {c : Nat}
    (h : ∀ p ∈ before, p.token ≠ .mark .arrow) {s : State}
    (hs : s.rest = before ++ ⟨.mark .arrow, c⟩ :: rest) :
    (skip s.rest s).result = .ok ((), { s with rest }) := by
  induction before generalizing s with
  | nil =>
    rw [hs, List.nil_append, skip]
    simp [State.after_take hs]
  | cons p before ih =>
    obtain ⟨hp, hbefore⟩ := List.forall_mem_cons.1 h
    rw [List.cons_append] at hs
    have hrest : (s.after .take).rest = before ++ ⟨.mark .arrow, c⟩ :: rest := by
      rw [State.after_take hs]
    have hskip := ih hbefore hrest
    rw [hrest, State.after_take hs] at hskip
    rw [hs, skip]
    simpa [hp, State.after_take hs] using hskip

theorem result_bind_eq {x : Recorded α} {y : Except CompileError α} {f : α → Recorded β}
    {g : α → Except CompileError β} (hx : x.result = y) (hf : ∀ a, (f a).result = g a) :
    (x >>= f).result = y >>= g := by
  rw [result_bind, hx, funext hf]

/-! ## The grammar -/

mutual

theorem result_conditional : ∀ (n : Nat) (s : State),
    (conditional n s).result = Grammar.conditional n s
  | 0, _ => by simp [conditional, Grammar.conditional]
  | n + 1, s => by
    rw [conditional, Grammar.conditional]
    refine result_bind_eq (result_enter s) fun s => ?_
    refine result_bind_eq (result_chain n .either s) fun ⟨test, s⟩ => ?_
    dsimp only
    cases h : s.eat? .question with
    | none => rfl
    | some s' =>
      obtain ⟨-, rfl⟩ := State.after_of_eat? h
      refine result_bind_eq (result_conditional n _) fun ⟨yes, s⟩ => ?_
      refine result_bind_eq (result_expect .colon s) fun s => ?_
      exact result_bind_eq (result_conditional n s) fun ⟨no, s⟩ => rfl

theorem result_chain : ∀ (n : Nat) (ρ : Rung) (s : State), (chain n ρ s).result = ρ.parse n s
  | 0, ρ, s => by
    cases ρ <;> simp [chain, Rung.parse, Grammar.logicalOr, Grammar.logicalAnd, Grammar.binary]
  | n + 1, ρ, s => by
    rw [chain.eq_2, Rung.parse_succ]
    exact result_bind_eq (result_below n ρ s) fun ⟨left, s⟩ => result_chainFrom n ρ left 0 s

theorem result_below : ∀ (n : Nat) (ρ : Rung) (s : State),
    (ρ.below (chain n · s) (operand n · s)).result = ρ.operand n s
  | n, .either, s => result_chain n .both s
  | n, .both, s => result_chain n (.level .equality) s
  | n, .level l, s => result_operand n l s

theorem result_chainFrom : ∀ (n : Nat) (ρ : Rung) (left : Expr) (links : Nat) (s : State),
    (chainFrom n ρ left links s).result = ρ.parseFrom n left links s
  | 0, ρ, _, _, _ => by
    cases ρ <;> simp [chainFrom, Rung.parseFrom, Grammar.logicalOrFrom, Grammar.logicalAndFrom,
      Grammar.binaryFrom]
  | n + 1, ρ, left, links, s => by
    rw [chainFrom]
    cases h : ρ.eat? s with
    | none => rw [Rung.parseFrom_none h, result_leave]
    | some p =>
      obtain ⟨op, s'⟩ := p
      obtain ⟨-, rfl⟩ := Rung.after_of_eat? h
      rw [Rung.parseFrom_some h, result_perform_bind]
      refine result_bind_eq (result_enter _) fun s => ?_
      exact result_bind_eq (result_below n ρ s) fun ⟨right, s⟩ => result_chainFrom n ρ _ _ s

theorem result_operand : ∀ (n : Nat) (l : Level) (s : State),
    (operand n l s).result = Grammar.operand n l s
  | 0, _, _ => by simp [operand, Grammar.operand]
  | n + 1, l, s => by
    rw [operand, Grammar.operand]
    cases l.tighter? with
    | none => exact result_unary n s
    | some l => exact result_chain n (.level l) s

theorem result_unary : ∀ (n : Nat) (s : State), (unary n s).result = Grammar.unary n s
  | 0, _ => by simp [unary, Grammar.unary]
  | n + 1, s => by
    rw [unary, Grammar.unary]
    cases h : eatUnary? s with
    | none => exact result_postfixes n s
    | some p =>
      obtain ⟨op, s'⟩ := p
      obtain ⟨-, rfl⟩ := after_of_eatUnary? h
      rw [result_perform_bind]
      refine result_bind_eq (result_enter _) fun s => ?_
      exact result_bind_eq (result_unary n s) fun ⟨e, s⟩ => rfl

theorem result_postfixes : ∀ (n : Nat) (s : State),
    (postfixes n s).result = Grammar.postfixes n s
  | 0, _ => by simp [postfixes, Grammar.postfixes]
  | n + 1, s => by
    rw [postfixes, Grammar.postfixes]
    exact result_bind_eq (result_primary n s) fun ⟨e, s⟩ => result_postfixesFrom n e 0 s

theorem result_postfixesFrom : ∀ (n : Nat) (e : Expr) (links : Nat) (s : State),
    (postfixesFrom n e links s).result = Grammar.postfixesFrom n e links s
  | 0, _, _, _ => by simp [postfixesFrom, Grammar.postfixesFrom]
  | n + 1, e, links, s => by
    rw [postfixesFrom, Grammar.postfixesFrom]
    split
    · refine result_bind_eq (result_enter s) fun s => ?_
      exact result_bind_eq (result_link n e s) fun ⟨e, s⟩ => result_postfixesFrom n e _ s
    · rfl

theorem result_link : ∀ (n : Nat) (e : Expr) (s : State),
    (link n e s).result = Grammar.link n e s
  | 0, _, _ => by simp [link, Grammar.link]
  | n + 1, e, s => by
    rw [link, Grammar.link]
    cases h : s.eat? .dot with
    | some s' =>
      obtain ⟨-, rfl⟩ := State.after_of_eat? h
      exact result_bind_eq (result_propertyName _) fun ⟨n, s⟩ => rfl
    | none =>
      dsimp only
      cases h' : s.eat? .chain with
      | none => exact result_bracketOrCall n e false s
      | some s' =>
        obtain ⟨-, rfl⟩ := State.after_of_eat? h'
        dsimp only
        rw [result_perform_bind]
        have hname := result_bind_eq (result_propertyName (s.after .take))
          (f := fun p => pure (Expr.member e (.literal (.str p.1)) true, p.2)) fun _ => rfl
        cases (s.after .take).peek? with
        | none => exact hname
        | some t =>
          cases t with
          | mark m =>
            cases m
            case openBracket => exact result_bracketOrCall n e true _
            case openParen => exact result_bracketOrCall n e true _
            all_goals exact hname
          | _ => exact hname

theorem result_bracketOrCall : ∀ (n : Nat) (e : Expr) (optional : Bool) (s : State),
    (bracketOrCall n e optional s).result = Grammar.bracketOrCall n e optional s
  | 0, _, _, _ => by simp [bracketOrCall, Grammar.bracketOrCall]
  | n + 1, e, optional, s => by
    rw [bracketOrCall, Grammar.bracketOrCall]
    cases h : s.eat? .openBracket with
    | some s' =>
      obtain ⟨-, rfl⟩ := State.after_of_eat? h
      refine result_bind_eq (result_conditional n _) fun ⟨property, s⟩ => ?_
      exact result_bind_eq (result_expect .closeBracket s) fun s => rfl
    | none =>
      refine result_bind_eq (result_expect .openParen s) fun s => ?_
      exact result_bind_eq (result_arguments n s) fun ⟨args, s⟩ => rfl

theorem result_arguments : ∀ (n : Nat) (s : State),
    (arguments n s).result = Grammar.arguments n s
  | 0, _ => by simp [arguments, Grammar.arguments]
  | n + 1, s => by
    rw [arguments, Grammar.arguments]
    cases h : s.eat? .closeParen with
    | some s' =>
      obtain ⟨-, rfl⟩ := State.after_of_eat? h
      rfl
    | none => exact result_argumentsFrom n s

theorem result_argumentsFrom : ∀ (n : Nat) (s : State),
    (argumentsFrom n s).result = Grammar.argumentsFrom n s
  | 0, _ => by simp [argumentsFrom, Grammar.argumentsFrom]
  | n + 1, s => by
    rw [argumentsFrom, Grammar.argumentsFrom]
    refine result_bind_eq (result_argument n s) fun ⟨arg, s⟩ => ?_
    dsimp only
    cases h : s.eat? .closeParen with
    | some s' =>
      obtain ⟨-, rfl⟩ := State.after_of_eat? h
      rfl
    | none =>
      refine result_bind_eq (result_expect .comma s) fun s => ?_
      exact result_bind_eq (result_argumentsFrom n s) fun ⟨args, s⟩ => rfl

theorem result_argument : ∀ (n : Nat) (s : State),
    (argument n s).result = Grammar.argument n s
  | 0, _ => by simp [argument, Grammar.argument]
  | n + 1, s => by
    rw [argument, Grammar.argument]
    cases h : parameters? s.rest with
    | none => exact result_conditional n s
    | some p =>
      obtain ⟨ns, rest⟩ := p
      obtain ⟨before, c, hs, hbefore⟩ := exists_arrow_of_parameters? h
      dsimp only
      rw [result_bind, result_skip hbefore hs]
      exact result_lambda n ns _

theorem result_lambda : ∀ (n : Nat) (ns : List String) (s : State),
    (lambda n ns s).result = Grammar.lambda n ns s
  | 0, _, _ => by simp [lambda, Grammar.lambda]
  | n + 1, ns, s => by
    rw [lambda, Grammar.lambda]
    exact result_bind_eq (result_conditional n (s.push ns)) fun ⟨body, s⟩ => rfl

theorem result_primary : ∀ (n : Nat) (s : State), (primary n s).result = Grammar.primary n s
  | 0, _ => by simp [primary, Grammar.primary]
  | n + 1, s => by
    rw [primary, Grammar.primary]
    cases hs : s.rest with
    | nil => rfl
    | cons p rest =>
      dsimp only
      rw [result_perform_bind, State.after_take hs]
      cases p.token with
      | number x => rfl
      | text t => rfl
      | name n =>
        dsimp only
        cases resolve n s.names <;> rfl
      | mark m =>
        cases m
        case openParen =>
          refine result_bind_eq (result_conditional n _) fun ⟨e, s⟩ => ?_
          exact result_bind_eq (result_expect .closeParen s) fun s => rfl
        case openBracket =>
          refine result_bind_eq (result_enter _) fun s => ?_
          cases h : s.eat? .closeBracket with
          | some s' =>
            obtain ⟨-, rfl⟩ := State.after_of_eat? h
            rfl
          | none => exact result_bind_eq (result_items n s) fun ⟨items, s⟩ => rfl
        all_goals rfl

theorem result_items : ∀ (n : Nat) (s : State), (items n s).result = Grammar.items n s
  | 0, _ => by simp [items, Grammar.items]
  | n + 1, s => by
    rw [items, Grammar.items]
    refine result_bind_eq (result_conditional n s) fun ⟨e, s⟩ => ?_
    dsimp only
    cases h : s.eat? .closeBracket with
    | some s' =>
      obtain ⟨-, rfl⟩ := State.after_of_eat? h
      rfl
    | none =>
      refine result_bind_eq (result_expect .comma s) fun s => ?_
      cases h' : s.eat? .closeBracket with
      | some s' =>
        obtain ⟨-, rfl⟩ := State.after_of_eat? h'
        rfl
      | none => exact result_bind_eq (result_items n s) fun ⟨es, s⟩ => rfl

end

/-- **A record changes no answer.** -/
theorem result_parse (tokens : List Placed) : (parse tokens).result = Expr.parse tokens := by
  refine result_bind_eq (result_conditional _ _) fun ⟨e, s⟩ => ?_
  dsimp only
  split <;> rfl

end Recorded

end Logbook.Expr
