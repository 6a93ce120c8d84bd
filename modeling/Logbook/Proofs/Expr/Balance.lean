import Logbook.Proofs.Expr.Kept
import Logbook.Proofs.Expr.Recorded

/-!
# What the parser gives back

Each link of a chain enters one level, and all of them are left together where the chain ends.

* `Recorded.keeps_conditional` and its siblings: what every function of the grammar keeps;
* `Rule`: the functions of the grammar that read a whole part of an expression, `Rule.record`: the
  same with their records;
* `Reaches`: the states that the parser comes to;
* **`rule_gives_back`**: a rule gives back the levels and the parameters that it found, and is
  behind at least one token.
-/

namespace Logbook.Expr

open Recorded

/-! ## The grammar -/

theorem ne_at_of_resolve {name : String} {names : List String} {e : CompileError}
    (h : resolve name names = .error e) (c : Nat) (problem : Problem) : e ≠ .at c problem := by
  unfold resolve at h
  split at h
  · cases h
  · split at h
    · cases h
    · cases h
    · cases h
    · cases h
    · obtain rfl := Except.error.inj h
      nofun

namespace Recorded

mutual

theorem keeps_conditional : ∀ (n : Nat) (s : State), Keeps s.depth 1 s (conditional n s)
  | 0, s => by
    rw [conditional]
    exact .tooDeep
  | n + 1, s => by
    rw [conditional]
    refine .enter (.next (keeps_chain n .either _) fun test s₁ h₁ => ?_)
    have hdepth₁ : s₁.depth = s.depth + 1 := h₁.depth_eq
    dsimp only
    split
    · exact .leave test hdepth₁
    · next h =>
      refine (Keeps.take (State.after_of_eat? h).1 ?_).weaken
      refine (Keeps.next (keeps_conditional n _) fun yes s₂ h₂ => ?_).weaken
      refine .expect fun s₃ h₃ => ?_
      refine (Keeps.next (keeps_conditional n s₃) fun no s₄ h₄ => ?_).weaken
      exact .leave _ (h₄.depth_eq.trans (h₃.depth_eq.trans (h₂.depth_eq.trans hdepth₁)))

theorem keeps_below : ∀ (n : Nat) (ρ : Rung) (s : State),
    Keeps s.depth 1 s (ρ.below (chain n · s) (operand n · s))
  | n, .either, s => keeps_chain n .both s
  | n, .both, s => keeps_chain n (.level .equality) s
  | n, .level l, s => keeps_operand n l s

theorem keeps_chain : ∀ (n : Nat) (ρ : Rung) (s : State), Keeps s.depth 1 s (chain n ρ s)
  | 0, ρ, s => by
    rw [chain]
    exact .tooDeep
  | n + 1, ρ, s => by
    rw [chain.eq_2]
    exact .next (keeps_below n ρ s) fun left s₁ h₁ => keeps_chainFrom n ρ left 0 s₁ h₁.depth_eq

theorem keeps_chainFrom : ∀ (n : Nat) (ρ : Rung) (left : Expr) (links : Nat) (s : State)
    {floor : Nat}, s.depth = floor + links → Keeps floor 0 s (chainFrom n ρ left links s)
  | 0, ρ, left, links, s, _, _ => by
    rw [chainFrom]
    exact .tooDeep
  | n + 1, ρ, left, links, s, floor, hs => by
    rw [chainFrom]
    split
    · exact .leave left hs
    · next op _ h =>
      refine (Keeps.take (Rung.after_of_eat? h).1 ?_).weaken
      refine .enter (Keeps.next (keeps_below n ρ _) fun right s₁ h₁ => ?_).weaken
      -- the level of this link is left with those of the others, where the chain ends
      have hdepth₁ : s₁.depth = s.depth + 1 := h₁.depth_eq
      exact keeps_chainFrom n ρ _ (links + 1) s₁ (by omega)

theorem keeps_operand : ∀ (n : Nat) (l : Level) (s : State), Keeps s.depth 1 s (operand n l s)
  | 0, l, s => by
    rw [operand]
    exact .tooDeep
  | n + 1, l, s => by
    rw [operand]
    split
    · exact keeps_chain n _ s
    · exact keeps_unary n s

theorem keeps_unary : ∀ (n : Nat) (s : State), Keeps s.depth 1 s (unary n s)
  | 0, s => by
    rw [unary]
    exact .tooDeep
  | n + 1, s => by
    rw [unary]
    split
    · exact keeps_postfixes n s
    · next op _ h =>
      refine .take (after_of_eatUnary? h).1 ?_
      refine .enter (Keeps.next (keeps_unary n _) fun e s₁ h₁ => ?_).weaken
      exact .leave _ h₁.depth_eq

theorem keeps_postfixes : ∀ (n : Nat) (s : State), Keeps s.depth 1 s (postfixes n s)
  | 0, s => by
    rw [postfixes]
    exact .tooDeep
  | n + 1, s => by
    rw [postfixes]
    exact .next (keeps_primary n s) fun e s₁ h₁ => keeps_postfixesFrom n e 0 s₁ h₁.depth_eq

theorem keeps_postfixesFrom : ∀ (n : Nat) (e : Expr) (links : Nat) (s : State) {floor : Nat},
    s.depth = floor + links → Keeps floor 0 s (postfixesFrom n e links s)
  | 0, e, links, s, _, _ => by
    rw [postfixesFrom]
    exact .tooDeep
  | n + 1, e, links, s, floor, hs => by
    rw [postfixesFrom]
    split
    · refine .enter (Keeps.next (keeps_link n e _) fun e s₁ h₁ => ?_).weaken
      have hdepth₁ : s₁.depth = s.depth + 1 := h₁.depth_eq
      exact keeps_postfixesFrom n e (links + 1) s₁ (by omega)
    · exact .leave e hs

theorem keeps_link : ∀ (n : Nat) (e : Expr) (s : State), Keeps s.depth 1 s (link n e s)
  | 0, e, s => by
    rw [link]
    exact .tooDeep
  | n + 1, e, s => by
    rw [link]
    split
    · next h =>
      refine .take (State.after_of_eat? h).1 ?_
      refine (Keeps.next (Keeps.propertyName _) fun name s₁ h₁ => ?_).weaken
      exact .pure _ h₁.depth_eq
    · split
      · exact keeps_bracketOrCall n e false s
      · next h =>
        refine .take (State.after_of_eat? h).1 ?_
        split
        · exact (keeps_bracketOrCall n e true (s.after .take)).weaken
        · exact (keeps_bracketOrCall n e true (s.after .take)).weaken
        · refine (Keeps.next (Keeps.propertyName _) fun name s₁ h₁ => ?_).weaken
          exact .pure _ h₁.depth_eq

theorem keeps_bracketOrCall : ∀ (n : Nat) (e : Expr) (optional : Bool) (s : State),
    Keeps s.depth 1 s (bracketOrCall n e optional s)
  | 0, e, optional, s => by
    rw [bracketOrCall]
    exact .tooDeep
  | n + 1, e, optional, s => by
    rw [bracketOrCall]
    split
    · next h =>
      refine .take (State.after_of_eat? h).1 ?_
      refine (Keeps.next (keeps_conditional n _) fun property s₁ h₁ => ?_).weaken
      refine .expect fun s₂ h₂ => ?_
      exact .pure _ (h₂.depth_eq.trans h₁.depth_eq)
    · refine .expect fun s₁ h₁ => ?_
      refine .next (keeps_arguments n s₁) fun args s₂ h₂ => ?_
      exact .pure _ (h₂.depth_eq.trans h₁.depth_eq)

theorem keeps_arguments : ∀ (n : Nat) (s : State), Keeps s.depth 1 s (arguments n s)
  | 0, s => by
    rw [arguments]
    exact .tooDeep
  | n + 1, s => by
    rw [arguments]
    split
    · next h => exact .take_pure [] (State.after_of_eat? h).1 rfl
    · exact keeps_argumentsFrom n s

theorem keeps_argumentsFrom : ∀ (n : Nat) (s : State), Keeps s.depth 1 s (argumentsFrom n s)
  | 0, s => by
    rw [argumentsFrom]
    exact .tooDeep
  | n + 1, s => by
    rw [argumentsFrom]
    refine .next (keeps_argument n s) fun arg s₁ h₁ => ?_
    dsimp only
    split
    · next h => exact (Keeps.take_pure [arg] (State.after_of_eat? h).1 h₁.depth_eq).weaken
    · refine .expect fun s₂ h₂ => ?_
      refine (Keeps.next (keeps_argumentsFrom n s₂) fun args s₃ h₃ => ?_).weaken
      exact .pure _ (h₃.depth_eq.trans (h₂.depth_eq.trans h₁.depth_eq))

theorem keeps_argument : ∀ (n : Nat) (s : State), Keeps s.depth 1 s (argument n s)
  | 0, s => by
    rw [argument]
    exact .tooDeep
  | n + 1, s => by
    rw [argument]
    split
    · next ns rest h =>
      -- the arrow is behind the parameters, and the body is behind the arrow
      refine (Keeps.skip s.rest s rfl).bind (k := 1) fun _ s₁ h₁ => ?_
      exact h₁.depth_eq ▸ keeps_lambda n ns s₁
    · exact keeps_conditional n s

theorem keeps_lambda : ∀ (n : Nat) (ns : List String) (s : State),
    Keeps s.depth 1 s (lambda n ns s)
  | 0, ns, s => by
    rw [lambda]
    exact .tooDeep
  | n + 1, ns, s => by
    rw [lambda]
    exact .scope _ (keeps_conditional n (s.push ns))

theorem keeps_primary : ∀ (n : Nat) (s : State), Keeps s.depth 1 s (primary n s)
  | 0, s => by
    rw [primary]
    exact .tooDeep
  | n + 1, s => by
    rw [primary]
    split
    · exact .fail fun c problem => State.mem_columns_of_unexpected
    · next p rest hs =>
      have hne : s.rest ≠ [] := by simp [hs]
      cases p.token with
      | number x => exact .take_pure _ hne rfl
      | text t => exact .take_pure _ hne rfl
      | name name =>
        dsimp only
        cases h : resolve name s.names with
        | ok e => exact .take_pure e hne rfl
        | error e =>
          exact .take_fail hne fun c problem he => absurd he (ne_at_of_resolve h c problem)
      | mark m =>
        cases m
        case openParen =>
          refine .take hne ?_
          refine (Keeps.next (keeps_conditional n _) fun e s₁ h₁ => ?_).weaken
          refine .expect fun s₂ h₂ => ?_
          exact .pure e (h₂.depth_eq.trans h₁.depth_eq)
        case openBracket =>
          refine .take hne (.enter ?_)
          split
          · next h => exact (Keeps.take (State.after_of_eat? h).1 (.leave _ rfl)).weaken
          · refine (Keeps.next (keeps_items n _) fun es s₁ h₁ => ?_).weaken
            exact .leave _ h₁.depth_eq
        case arrow =>
          refine .take_fail hne fun c problem he => ?_
          obtain ⟨rfl, -⟩ := CompileError.at.inj he
          simp [State.columns, hs]
        all_goals exact .take_fail hne fun c problem => State.mem_columns_of_unexpected

theorem keeps_items : ∀ (n : Nat) (s : State), Keeps s.depth 1 s (items n s)
  | 0, s => by
    rw [items]
    exact .tooDeep
  | n + 1, s => by
    rw [items]
    refine .next (keeps_conditional n s) fun e s₁ h₁ => ?_
    dsimp only
    split
    · next h => exact (Keeps.take_pure [e] (State.after_of_eat? h).1 h₁.depth_eq).weaken
    · refine .expect fun s₂ h₂ => ?_
      have hdepth₂ : s₂.depth = s.depth := h₂.depth_eq.trans h₁.depth_eq
      split
      · next h => exact (Keeps.take_pure [e] (State.after_of_eat? h).1 hdepth₂).weaken
      · refine (Keeps.next (keeps_items n s₂) fun es s₃ h₃ => ?_).weaken
        exact .pure _ (h₃.depth_eq.trans hdepth₂)

end

end Recorded

/-! ## Rules -/

/-- The rules of the grammar: the functions that read a whole part of an expression. -/
inductive Rule where
  | conditional
  /-- A chain of operators of one rung. -/
  | chain (ρ : Rung)
  | unary
  | postfixes
  | primary
  /-- Arguments up to their closing parenthesis. -/
  | arguments
  /-- One argument, with its parameters if it is an arrow function. -/
  | argument
  /-- The body of an arrow function. -/
  | lambda (ns : List String)

namespace Rule

/-- What a rule reads. -/
def Answer : Rule → Type
  | arguments => List Expr
  | _ => Expr

/-- The function of the grammar for a rule. -/
def read : (r : Rule) → Nat → State → Except CompileError (r.Answer × State)
  | conditional => Grammar.conditional
  | chain ρ => ρ.parse
  | unary => Grammar.unary
  | postfixes => Grammar.postfixes
  | primary => Grammar.primary
  | arguments => Grammar.arguments
  | argument => Grammar.argument
  | lambda ns => (Grammar.lambda · ns)

/-- The same function with its record. -/
def record : (r : Rule) → Nat → State → Recorded (r.Answer × State)
  | conditional => Recorded.conditional
  | chain ρ => (Recorded.chain · ρ)
  | unary => Recorded.unary
  | postfixes => Recorded.postfixes
  | primary => Recorded.primary
  | arguments => Recorded.arguments
  | argument => Recorded.argument
  | lambda ns => (Recorded.lambda · ns)

theorem result_record (r : Rule) (n : Nat) (s : State) : (r.record n s).result = r.read n s := by
  cases r with
  | conditional => exact result_conditional n s
  | chain ρ => exact result_chain n ρ s
  | unary => exact result_unary n s
  | postfixes => exact result_postfixes n s
  | primary => exact result_primary n s
  | arguments => exact result_arguments n s
  | argument => exact result_argument n s
  | lambda ns => exact result_lambda n ns s

theorem keeps_record (r : Rule) (n : Nat) (s : State) : Keeps s.depth 1 s (r.record n s) := by
  cases r with
  | conditional => exact keeps_conditional n s
  | chain ρ => exact keeps_chain n ρ s
  | unary => exact keeps_unary n s
  | postfixes => exact keeps_postfixes n s
  | primary => exact keeps_primary n s
  | arguments => exact keeps_arguments n s
  | argument => exact keeps_argument n s
  | lambda ns => exact keeps_lambda n ns s

end Rule

/-! ## Runs of the parser -/

/-- The parser comes to a state while it reads some tokens, and does something to it. Every state in
which a rule begins that reads anything is one of these. -/
def Reaches (tokens : List Placed) (s : State) : Prop :=
  ∃ before a after, (Recorded.parse tokens).acts = before ++ a :: after ∧
    s = before.foldl State.after (State.initial tokens)

theorem acts_parse (tokens : List Placed) :
    (Recorded.parse tokens).acts =
      (Recorded.conditional (callsFor tokens.length) (State.initial tokens)).acts := by
  unfold Recorded.parse
  obtain ⟨acts, result⟩ := Recorded.conditional (callsFor tokens.length) (State.initial tokens)
  cases result with
  | error e => rfl
  | ok p =>
    change acts ++ (if p.2.rest.isEmpty then pure p.1 else Recorded.fail p.2.unexpected :
      Recorded Expr).acts = acts
    split <;> exact List.append_nil acts

theorem Reaches.depth_le {tokens : List Placed} {s : State} (h : Reaches tokens s) :
    s.depth ≤ maxDepth := by
  obtain ⟨before, a, after, hacts, rfl⟩ := h
  have hkept := keeps_conditional (callsFor tokens.length) (State.initial tokens)
    (Nat.le_refl _) (Nat.zero_le maxDepth)
  exact (hkept.way before a after (acts_parse tokens ▸ hacts)).2.1

/-- **What a rule opens it closes.** The record of the parser changes no answer. In every state that
the parser comes to, a rule that answers gives back the levels and the parameters that it found, and
is behind at least one token of those that were left. What it did leads to the state of its answer,
and on the way there were never more than the allowed levels when something was done, never fewer
than at its beginning, and no level was left that it had not entered itself. -/
theorem rule_gives_back (tokens : List Placed) :
    (Recorded.parse tokens).result = parse tokens ∧
    ∀ s, Reaches tokens s → s.depth ≤ maxDepth ∧
      ∀ (r : Rule) (n : Nat) (a : r.Answer) (s' : State), r.read n s = .ok (a, s') →
        (r.record n s).result = .ok (a, s') ∧
        s'.depth = s.depth ∧ s'.names = s.names ∧
        (∃ taken, taken ≠ [] ∧ s.rest = taken ++ s'.rest) ∧
        s' = (r.record n s).acts.foldl State.after s ∧
        ∀ before act after, (r.record n s).acts = before ++ act :: after →
          act.Allowed s.depth (before.foldl State.after s) := by
  refine ⟨result_parse tokens, fun s hs => ⟨hs.depth_le, fun r n a s' h => ?_⟩⟩
  rw [← r.result_record n s] at h
  obtain ⟨hway, hstate, hpast, -⟩ := r.keeps_record n s (Nat.le_refl _) hs.depth_le
  obtain ⟨hdepth, hnames, -, taken, hlength, hrest⟩ := hpast a s' h
  exact ⟨h, hdepth, hnames, ⟨taken, List.ne_nil_of_length_pos hlength, hrest⟩, hstate a s' h, hway⟩

/-- The inner array of `[[]]` is read three levels deep. -/
theorem rule_gives_back_array :
    Reaches [⟨.mark .openBracket, 1⟩, ⟨.mark .openBracket, 2⟩, ⟨.mark .closeBracket, 3⟩,
        ⟨.mark .closeBracket, 4⟩]
      ⟨[⟨.mark .openBracket, 2⟩, ⟨.mark .closeBracket, 3⟩, ⟨.mark .closeBracket, 4⟩], 3, [], 4⟩ ∧
    Rule.primary.read 1
      ⟨[⟨.mark .openBracket, 2⟩, ⟨.mark .closeBracket, 3⟩, ⟨.mark .closeBracket, 4⟩], 3, [], 4⟩ =
        .ok (.array [], ⟨[⟨.mark .closeBracket, 4⟩], 3, [], 4⟩) ∧
    (Rule.primary.record 1
      ⟨[⟨.mark .openBracket, 2⟩, ⟨.mark .closeBracket, 3⟩, ⟨.mark .closeBracket, 4⟩],
        3, [], 4⟩).acts =
        [.take, .enter, .take, .leave 1] ∧
    Act.Allowed 3 ⟨[⟨.mark .closeBracket, 4⟩], 4, [], 4⟩ (.leave 1) := by
  have hreaches : Reaches [⟨.mark .openBracket, 1⟩, ⟨.mark .openBracket, 2⟩,
        ⟨.mark .closeBracket, 3⟩, ⟨.mark .closeBracket, 4⟩]
      ⟨[⟨.mark .openBracket, 2⟩, ⟨.mark .closeBracket, 3⟩, ⟨.mark .closeBracket, 4⟩], 3, [], 4⟩ :=
    ⟨[.enter, .take, .enter, .enter], .take, _, rfl, rfl⟩
  have hread : Rule.primary.read 1
      ⟨[⟨.mark .openBracket, 2⟩, ⟨.mark .closeBracket, 3⟩, ⟨.mark .closeBracket, 4⟩], 3, [], 4⟩ =
        .ok (.array [], ⟨[⟨.mark .closeBracket, 4⟩], 3, [], 4⟩) := by
    change Grammar.primary 1 _ = _
    rw [Grammar.primary]
    rfl
  obtain ⟨-, -, -, -, -, hway⟩ := ((rule_gives_back _).2 _ hreaches).2 .primary 1 _ _ hread
  exact ⟨hreaches, hread, rfl, hway [.take, .enter, .take] (.leave 1) [] rfl⟩

end Logbook.Expr
