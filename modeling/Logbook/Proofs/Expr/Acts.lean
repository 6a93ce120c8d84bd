import Logbook.Proofs.Expr.Steps

/-!
# What the parser does to its state

The grammar is a function of a state. Here each answer comes with all that was done to the state on
the way: a token taken, a level entered, levels left, parameters put into scope and taken out again.

* `Act`, `State.after`: the acts, and the state after one;
* `Recorded`: an answer with the acts that led to it, `leave`, `enter`, `expect`, `skip`: the small
  steps of the grammar as recorded answers;
* `Recorded.conditional`, `Recorded.chain`, `Recorded.unary`, `Recorded.postfixes`,
  `Recorded.primary`, `Recorded.arguments`, `Recorded.lambda`: the grammar with its record;
* **`Recorded.parse`**: the parser with its record.
-/

namespace Logbook.Expr

/-- What can be done to a state at once. -/
inductive Act where
  /-- The next token is taken. -/
  | take
  /-- One level is entered. -/
  | enter
  /-- Levels are left. -/
  | leave (n : Nat)
  /-- Parameters are put into scope. -/
  | push (ns : List String)
  /-- The innermost parameters are taken out of scope. -/
  | pop (n : Nat)
  deriving DecidableEq, Repr

namespace State

/-- The state after an act. -/
def after (s : State) : Act → State
  | .take => { s with rest := s.rest.tail }
  | .enter => { s with depth := s.depth + 1 }
  | .leave n => s.leave n
  | .push ns => s.push ns
  | .pop n => { s with names := s.names.take (s.names.length - n) }

variable {s s' : State}

theorem after_take {p : Placed} {ps : List Placed} (h : s.rest = p :: ps) :
    s.after .take = { s with rest := ps } := by
  simp [after, h]

/-- A mark that is eaten is the next token, and is taken. -/
theorem after_of_eat? {m : Mark} (h : s.eat? m = some s') : s.rest ≠ [] ∧ s' = s.after .take := by
  unfold eat? at h
  split at h
  · next p rest hs =>
    split at h
    · obtain rfl := Option.some.inj h
      exact ⟨by simp [hs], (after_take hs).symm⟩
    · cases h
  · cases h

end State

theorem after_of_propertyName {s s' : State} {n : String} (h : propertyName s = .ok (n, s')) :
    s.rest ≠ [] ∧ s' = s.after .take := by
  unfold propertyName at h
  split at h
  · next hs =>
    obtain ⟨-, rfl⟩ := Prod.mk.inj (Except.ok.inj h)
    exact ⟨by simp [hs], (State.after_take hs).symm⟩
  · cases h

theorem after_of_eatUnary? {s s' : State} {op : UnaryOp} (h : eatUnary? s = some (op, s')) :
    s.rest ≠ [] ∧ s' = s.after .take := by
  unfold eatUnary? at h
  split at h
  · next p rest hs =>
    obtain ⟨op', -, heq⟩ := Option.map_eq_some_iff.1 h
    obtain ⟨-, rfl⟩ := Prod.mk.inj heq
    exact ⟨by simp [hs], (State.after_take hs).symm⟩
  · cases h

theorem Rung.after_of_eat? {ρ : Rung} {s s' : State} {op : Joint} (h : ρ.eat? s = some (op, s')) :
    s.rest ≠ [] ∧ s' = s.after .take := by
  cases ρ with
  | either =>
    obtain ⟨⟨_, s₁⟩, hop, heq⟩ := Option.map_eq_some_iff.1 h
    obtain ⟨-, rfl⟩ := Prod.mk.inj heq
    unfold eatAlternative? at hop
    split at hop
    · next hs =>
      obtain ⟨-, rfl⟩ := Prod.mk.inj (Option.some.inj hop)
      exact State.after_of_eat? hs
    · obtain ⟨s₂, hs, heq⟩ := Option.map_eq_some_iff.1 hop
      obtain ⟨-, rfl⟩ := Prod.mk.inj heq
      exact State.after_of_eat? hs
  | both =>
    obtain ⟨s₁, hs, heq⟩ := Option.map_eq_some_iff.1 h
    obtain ⟨-, rfl⟩ := Prod.mk.inj heq
    exact State.after_of_eat? hs
  | level l =>
    obtain ⟨⟨_, s₁⟩, hop, heq⟩ := Option.map_eq_some_iff.1 h
    obtain ⟨-, rfl⟩ := Prod.mk.inj heq
    obtain ⟨p, -, heat⟩ := List.exists_of_findSome?_eq_some hop
    obtain ⟨s₂, hs, heq⟩ := Option.map_eq_some_iff.1 heat
    obtain ⟨-, rfl⟩ := Prod.mk.inj heq
    exact State.after_of_eat? hs

/-- The operands of a rung: the chains of the next tighter rung, or those of a level. -/
def Rung.below {α : Type} (ρ : Rung) (chain : Rung → α) (operand : Level → α) : α :=
  match ρ with
  | either => chain both
  | both => chain (level .equality)
  | level l => operand l

/-! ## Recorded answers -/

/-- An answer with the acts that led to it. -/
structure Recorded (α : Type) where
  acts : List Act
  result : Except CompileError α

namespace Recorded

variable {α β : Type}

instance : Monad Recorded where
  pure a := ⟨[], .ok a⟩
  bind x f :=
    match x.result with
    | .ok a => ⟨x.acts ++ (f a).acts, (f a).result⟩
    | .error e => ⟨x.acts, .error e⟩

/-- An error, for which nothing is done. -/
def fail (e : CompileError) : Recorded α := ⟨[], .error e⟩

/-- One act. -/
def perform (a : Act) (s : State) : Recorded State := ⟨[a], .ok (s.after a)⟩

/-- Enters one level. It counts from then on, and is an error where it is one too many. -/
def enter (s : State) : Recorded State :=
  ⟨[.enter], if s.depth < maxDepth then .ok (s.after .enter) else .error .tooDeep⟩

/-- Leaves levels with an answer. -/
def leave (n : Nat) (a : α) (s : State) : Recorded (α × State) := do
  let s ← perform (.leave n) s
  pure (a, s)

/-- Takes a mark that has to come next. -/
def expect (m : Mark) (s : State) : Recorded State :=
  match s.eat? m with
  | some _ => perform .take s
  | none => fail (.at s.column (.expected m))

/-- Takes the name of a property. -/
def propertyName (s : State) : Recorded (String × State) :=
  match Expr.propertyName s with
  | .ok (n, _) => do
    let s ← perform .take s
    pure (n, s)
  | .error e => fail e

/-- Takes the tokens up to an arrow, with the arrow. -/
def skip : List Placed → State → Recorded (Unit × State)
  | [], s => pure ((), s)
  | p :: ps, s => do
    let s ← perform .take s
    if p.token = .mark .arrow then pure ((), s) else skip ps s

/-! ### The grammar -/

mutual

/-- `Grammar.conditional` with its record. -/
def conditional : Nat → State → Recorded (Expr × State)
  | 0, _ => fail .tooDeep
  | fuel + 1, s => do
    let s ← enter s
    let (test, s) ← chain fuel .either s
    match s.eat? .question with
    | none => leave 1 test s
    | some _ => do
      let s ← perform .take s
      let (yes, s) ← conditional fuel s
      let s ← expect .colon s
      let (no, s) ← conditional fuel s
      leave 1 (.conditional test yes no) s

/-- `Rung.parse` with its record. -/
def chain : Nat → Rung → State → Recorded (Expr × State)
  | 0, _, _ => fail .tooDeep
  | fuel + 1, ρ, s => do
    let (left, s) ← ρ.below (chain fuel · s) (operand fuel · s)
    chainFrom fuel ρ left 0 s

/-- `Rung.parseFrom` with its record. -/
def chainFrom : Nat → Rung → Expr → Nat → State → Recorded (Expr × State)
  | 0, _, _, _, _ => fail .tooDeep
  | fuel + 1, ρ, left, links, s =>
    match ρ.eat? s with
    | none => leave links left s
    | some (op, _) => do
      let s ← perform .take s
      let s ← enter s
      let (right, s) ← ρ.below (chain fuel · s) (operand fuel · s)
      chainFrom fuel ρ (op.build left right) (links + 1) s

/-- `Grammar.operand` with its record. -/
def operand : Nat → Level → State → Recorded (Expr × State)
  | 0, _, _ => fail .tooDeep
  | fuel + 1, l, s =>
    match l.tighter? with
    | some l => chain fuel (.level l) s
    | none => unary fuel s

/-- `Grammar.unary` with its record. -/
def unary : Nat → State → Recorded (Expr × State)
  | 0, _ => fail .tooDeep
  | fuel + 1, s =>
    match eatUnary? s with
    | none => postfixes fuel s
    | some (op, _) => do
      let s ← perform .take s
      let s ← enter s
      let (e, s) ← unary fuel s
      leave 1 (.unary op e) s

/-- `Grammar.postfixes` with its record. -/
def postfixes : Nat → State → Recorded (Expr × State)
  | 0, _ => fail .tooDeep
  | fuel + 1, s => do
    let (e, s) ← primary fuel s
    postfixesFrom fuel e 0 s

/-- `Grammar.postfixesFrom` with its record. -/
def postfixesFrom : Nat → Expr → Nat → State → Recorded (Expr × State)
  | 0, _, _, _ => fail .tooDeep
  | fuel + 1, e, links, s =>
    if startsLink s then do
      let s ← enter s
      let (e, s) ← link fuel e s
      postfixesFrom fuel e (links + 1) s
    else leave links e s

/-- `Grammar.link` with its record. -/
def link : Nat → Expr → State → Recorded (Expr × State)
  | 0, _, _ => fail .tooDeep
  | fuel + 1, e, s =>
    match s.eat? .dot with
    | some _ => do
      let s ← perform .take s
      let (n, s) ← propertyName s
      pure (.member e (.literal (.str n)) false, s)
    | none =>
      match s.eat? .chain with
      | none => bracketOrCall fuel e false s
      | some _ => do
        let s ← perform .take s
        match s.peek? with
        | some (.mark .openBracket) | some (.mark .openParen) => bracketOrCall fuel e true s
        | _ => do
          let (n, s) ← propertyName s
          pure (.member e (.literal (.str n)) true, s)

/-- `Grammar.bracketOrCall` with its record. -/
def bracketOrCall : Nat → Expr → Bool → State → Recorded (Expr × State)
  | 0, _, _, _ => fail .tooDeep
  | fuel + 1, e, optional, s =>
    match s.eat? .openBracket with
    | some _ => do
      let s ← perform .take s
      let (property, s) ← conditional fuel s
      let s ← expect .closeBracket s
      pure (.member e property optional, s)
    | none => do
      let s ← expect .openParen s
      let (args, s) ← arguments fuel s
      pure (.call e args optional, s)

/-- `Grammar.arguments` with its record. -/
def arguments : Nat → State → Recorded (List Expr × State)
  | 0, _ => fail .tooDeep
  | fuel + 1, s =>
    match s.eat? .closeParen with
    | some _ => do
      let s ← perform .take s
      pure ([], s)
    | none => argumentsFrom fuel s

/-- `Grammar.argumentsFrom` with its record. -/
def argumentsFrom : Nat → State → Recorded (List Expr × State)
  | 0, _ => fail .tooDeep
  | fuel + 1, s => do
    let (arg, s) ← argument fuel s
    match s.eat? .closeParen with
    | some _ => do
      let s ← perform .take s
      pure ([arg], s)
    | none => do
      let s ← expect .comma s
      let (args, s) ← argumentsFrom fuel s
      pure (arg :: args, s)

/-- `Grammar.argument` with its record: the parameters and the arrow are taken one by one. -/
def argument : Nat → State → Recorded (Expr × State)
  | 0, _ => fail .tooDeep
  | fuel + 1, s =>
    match parameters? s.rest with
    | some (ns, _) => do
      let (_, s) ← skip s.rest s
      lambda fuel ns s
    | none => conditional fuel s

/-- `Grammar.lambda` with its record. -/
def lambda : Nat → List String → State → Recorded (Expr × State)
  | 0, _, _ => fail .tooDeep
  | fuel + 1, ns, s => do
    let s ← perform (.push ns) s
    let (body, s) ← conditional fuel s
    let s ← perform (.pop ns.length) s
    pure (.lambda ns.length body, s)

/-- `Grammar.primary` with its record. -/
def primary : Nat → State → Recorded (Expr × State)
  | 0, _ => fail .tooDeep
  | fuel + 1, s =>
    match s.rest with
    | [] => fail s.unexpected
    | p :: _ => do
      let behind ← perform .take s
      match p.token with
      | .number x => pure (.literal (.num x), behind)
      | .text t => pure (.literal (.str t), behind)
      | .name n =>
        match resolve n s.names with
        | .ok e => pure (e, behind)
        | .error e => fail e
      | .mark .openParen => do
        let (e, s) ← conditional fuel behind
        let s ← expect .closeParen s
        pure (e, s)
      | .mark .openBracket => do
        let s ← enter behind
        match s.eat? .closeBracket with
        | some _ => do
          let s ← perform .take s
          leave 1 (.array []) s
        | none => do
          let (items, s) ← items fuel s
          leave 1 (.array items) s
      | .mark .arrow => fail (.at p.column .arrowOutsideCall)
      | .mark _ => fail s.unexpected

/-- `Grammar.items` with its record. -/
def items : Nat → State → Recorded (List Expr × State)
  | 0, _ => fail .tooDeep
  | fuel + 1, s => do
    let (e, s) ← conditional fuel s
    match s.eat? .closeBracket with
    | some _ => do
      let s ← perform .take s
      pure ([e], s)
    | none => do
      let s ← expect .comma s
      match s.eat? .closeBracket with
      | some _ => do
        let s ← perform .take s
        pure ([e], s)
      | none => do
        let (es, s) ← items fuel s
        pure (e :: es, s)

end

/-- **The parser with its record.** -/
def parse (tokens : List Placed) : Recorded Expr := do
  let (e, s) ← conditional (callsFor tokens.length) (State.initial tokens)
  if s.rest.isEmpty then pure e else fail s.unexpected

end Recorded

end Logbook.Expr
