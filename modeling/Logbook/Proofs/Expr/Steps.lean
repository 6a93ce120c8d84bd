import Logbook.Proofs.Expr.Surface

/-!
# Steps of the grammar

* `State.tokens`, `State.move`, `State.within`: the tokens that are left, the state behind some of
  them, and a result that needs some more levels;
* `joins`, `Stops`: the tokens that may go on an expression, and those that end it at a place;
* `Rung`: the levels of operators between two operands, whose chains are all read in one way;
* `parseAt`: the grammar function of a place.
-/

namespace Logbook.Expr

theorem exists_of_map_token {ps : List Placed} {t : Token} {ts : List Token}
    (h : ps.map Placed.token = t :: ts) :
    ∃ c qs, ps = ⟨t, c⟩ :: qs ∧ qs.map Placed.token = ts := by
  obtain ⟨⟨_, c⟩, qs, rfl, rfl, rfl⟩ := List.map_eq_cons_iff.1 h
  exact ⟨c, qs, rfl, rfl⟩

namespace State

/-- The tokens that are left, without their columns. -/
def tokens (s : State) : List Token := s.rest.map Placed.token

/-- The state behind `k` tokens, with `l` more levels open. -/
def move (k l : Nat) (s : State) : State := { s with rest := s.rest.drop k, depth := s.depth + l }

/-- The state with further parameters in scope. -/
def push (ns : List String) (s : State) : State := { s with names := s.names ++ ns }

/-- A result for which `l` more levels have to be opened. -/
def within {α : Type} (s : State) (l : Nat) (r : Except CompileError α) : Except CompileError α :=
  if l = 0 ∨ s.depth + l ≤ maxDepth then r else .error .tooDeep

variable {s : State} {k l m : Nat} {t : Token} {ts more : List Token}

@[simp] theorem names_move : (s.move k l).names = s.names := rfl

@[simp] theorem depth_move : (s.move k l).depth = s.depth + l := rfl

@[simp] theorem tokens_push (ns : List String) : (s.push ns).tokens = s.tokens := rfl

@[simp] theorem names_push (ns : List String) : (s.push ns).names = s.names ++ ns := rfl

@[simp] theorem tokens_move : (s.move k l).tokens = s.tokens.drop k := by
  simp [tokens, move, List.map_drop]

@[simp] theorem move_move {i j : Nat} : (s.move k l).move i j = s.move (k + i) (l + j) := by
  simp [move, Nat.add_assoc]

@[simp] theorem leave_move : (s.move k l).leave l = s.move k 0 := by
  simp [move, leave]

@[simp] theorem move_zero : s.move 0 0 = s := rfl

theorem tokens_move_cons (h : s.tokens = t :: ts) : (s.move 1 l).tokens = ts := by
  simp [h]

theorem tokens_move_append (h : s.tokens = more ++ ts) : (s.move more.length l).tokens = ts := by
  simp [h]

section Within

variable {α β : Type} {r : Except CompileError α}

@[simp] theorem ok_bind (a : α) (f : α → Except CompileError β) : (.ok a >>= f) = f a := rfl

@[simp] theorem within_zero : s.within 0 r = r := by
  simp [within]

@[simp] theorem within_bind (f : α → Except CompileError β) :
    (s.within l r >>= f) = s.within l (r >>= f) := by
  unfold within
  split <;> rfl

@[simp] theorem move_zero_within : (s.move k 0).within m r = s.within m r := rfl

/-- Levels that are opened while `l` others are open. -/
theorem within_move_within {i : Nat} (h : i ≤ l) :
    s.within l ((s.move k i).within m r) = s.within (max l (i + m)) r := by
  have hdepth : (s.move k i).depth = s.depth + i := rfl
  unfold within
  by_cases hl : l = 0 ∨ s.depth + l ≤ maxDepth
  · by_cases hm : m = 0 ∨ (s.move k i).depth + m ≤ maxDepth
    · rw [if_pos hl, if_pos hm, if_pos (by omega)]
    · rw [if_pos hl, if_neg hm, if_neg (by omega)]
  · rw [if_neg hl, if_neg (by omega)]

@[simp] theorem within_within : s.within l (s.within m r) = s.within (max l m) r := by
  simpa using within_move_within (k := 0) (Nat.zero_le l)

@[simp] theorem push_within (ns : List String) : (s.push ns).within l r = s.within l r := rfl

end Within

theorem enter_eq (s : State) : s.enter = s.within 1 (.ok (s.move 0 1)) := by
  unfold enter within
  by_cases h : s.depth < maxDepth
  · rw [if_pos h, if_pos (.inr h)]
    rfl
  · rw [if_neg h, if_neg (by omega)]

/-! ## The next token -/

theorem peek?_eq (s : State) : s.peek? = s.tokens.head? := by
  simp [peek?, tokens]

theorem eat?_cons {m : Mark} (h : s.tokens = .mark m :: ts) : s.eat? m = some (s.move 1 0) := by
  obtain ⟨c, qs, hs, -⟩ := exists_of_map_token h
  simp [eat?, hs, move]

theorem eat?_none {m : Mark} (h : s.tokens.head? ≠ some (.mark m)) : s.eat? m = none := by
  obtain ⟨rest, _, _, _⟩ := s
  cases rest <;> simp_all [tokens, eat?]

theorem eat?_cons_ne {m : Mark} (h : s.tokens = t :: ts) (ht : t ≠ .mark m) : s.eat? m = none :=
  eat?_none (by simpa [h] using ht)

theorem expect_cons {m : Mark} (h : s.tokens = .mark m :: ts) :
    s.expect m = .ok (s.move 1 0) := by
  rw [expect, eat?_cons h]

end State

theorem propertyName_cons {s : State} {n : String} {ts : List Token}
    (h : s.tokens = .name n :: ts) : propertyName s = .ok (n, s.move 1 0) := by
  obtain ⟨c, qs, hs, -⟩ := exists_of_map_token h
  simp [propertyName, hs, State.move]

/-! ## What ends an expression -/

/-- How tightly what a token goes on with binds; 0 for a token that goes on with nothing. -/
def joins : Token → Nat
  | .mark .question => 1
  | .mark .or | .mark .coalesce => 2
  | .mark .and => 3
  | .mark .strictEq | .mark .strictNe | .mark .eq | .mark .ne => 4
  | .mark .le | .mark .ge | .mark .lt | .mark .gt => 5
  | .mark .plus | .mark .minus => 6
  | .mark .times | .mark .slash | .mark .percent => 7
  | .mark .dot | .mark .chain | .mark .openBracket | .mark .openParen => 9
  | _ => 0

/-- None of the next tokens goes on an expression at a place of rank `p`. -/
def Stops (p : Nat) (rest : List Token) : Prop := ∀ t ∈ rest.head?, joins t < p

theorem Stops.mono {p q : Nat} {rest : List Token} (h : Stops p rest) (hpq : p ≤ q) :
    Stops q rest := fun t ht => Nat.lt_of_lt_of_le (h t ht) hpq

theorem stops_nil (p : Nat) : Stops p [] := by simp [Stops]

theorem stops_cons {p : Nat} {t : Token} {ts : List Token} : Stops p (t :: ts) ↔ joins t < p := by
  simp [Stops]

theorem joins_mark (op : Joint) : joins (.mark op.mark) = op.rank := by
  rcases op with op | op <;> cases op <;> rfl

theorem mark_of_mem_operators (l : Level) :
    ∀ p ∈ l.operators, p.1 = p.2.mark ∧ p.2.level = l := by
  cases l <;> simp [Level.operators, BinaryOp.mark, BinaryOp.level]

/-! ## Chains of operators -/

/-- A level of operators between two operands. -/
inductive Rung where
  /-- `||` and `??`. -/
  | either
  /-- `&&`. -/
  | both
  | level (l : Level)
  deriving DecidableEq

namespace Rung

/-- How tightly the operators of a rung bind. -/
def rank : Rung → Nat
  | either => 2
  | both => 3
  | level l => l.rank

/-- A chain of operands. -/
def parse : Rung → Nat → State → Except CompileError (Expr × State)
  | either => Grammar.logicalOr
  | both => Grammar.logicalAnd
  | level l => (Grammar.binary · l)

/-- The rest of a chain. -/
def parseFrom : Rung → Nat → Expr → Nat → State → Except CompileError (Expr × State)
  | either => Grammar.logicalOrFrom
  | both => Grammar.logicalAndFrom
  | level l => (Grammar.binaryFrom · l)

/-- An operand of a chain. -/
def operand : Rung → Nat → State → Except CompileError (Expr × State)
  | either => Grammar.logicalAnd
  | both => (Grammar.binary · .equality)
  | level l => (Grammar.operand · l)

/-- An operator of a rung that comes next, and the state behind it. -/
def eat? : Rung → State → Option (Joint × State)
  | either, s => (eatAlternative? s).map fun (op, s) => (.logical op, s)
  | both, s => (s.eat? .and).map fun s => (.logical .and, s)
  | level l, s => (eatOperator? l s).map fun (op, s) => (.binary op, s)

variable {s : State} {n links : Nat} {e : Expr}

theorem parse_succ (ρ : Rung) :
    ρ.parse (n + 1) s = (do
      let (left, s) ← ρ.operand n s
      ρ.parseFrom n left 0 s) := by
  cases ρ
  · exact Grammar.logicalOr.eq_2 ..
  · exact Grammar.logicalAnd.eq_2 ..
  · exact Grammar.binary.eq_2 ..

theorem parseFrom_none {ρ : Rung} (h : ρ.eat? s = none) :
    ρ.parseFrom (n + 1) e links s = .ok (e, s.leave links) := by
  cases ρ <;> simp_all [eat?, parseFrom, Grammar.logicalOrFrom, Grammar.logicalAndFrom,
    Grammar.binaryFrom]

theorem parseFrom_some {ρ : Rung} {op : Joint} {s' : State} (h : ρ.eat? s = some (op, s')) :
    ρ.parseFrom (n + 1) e links s = (do
      let s ← s'.enter
      let (right, s) ← ρ.operand n s
      ρ.parseFrom n (op.build e right) (links + 1) s) := by
  cases ρ <;> simp only [eat?, Option.map_eq_some_iff, Prod.mk.injEq] at h
  · obtain ⟨⟨op, s⟩, h, rfl, rfl⟩ := h
    simp [parseFrom, Grammar.logicalOrFrom, h, Joint.build, operand]
  · obtain ⟨s, h, rfl, rfl⟩ := h
    simp [parseFrom, Grammar.logicalAndFrom, h, Joint.build, operand]
  · obtain ⟨⟨op, s⟩, h, rfl, rfl⟩ := h
    simp [parseFrom, Grammar.binaryFrom, h, Joint.build, operand]

end Rung

/-- The rung of an operator. -/
def Joint.rung : Joint → Rung
  | .binary op => .level op.level
  | .logical .and => .both
  | .logical _ => .either

namespace Rung

theorem eat?_cons {s : State} {op : Joint} {ts : List Token}
    (h : s.tokens = .mark op.mark :: ts) : op.rung.eat? s = some (op, s.move 1 0) := by
  have hs : ∀ m : Mark, s.eat? m = if op.mark = m then some (s.move 1 0) else none := by
    intro m
    split
    · next hm => exact State.eat?_cons (hm ▸ h)
    · next hm => exact State.eat?_none (by simpa [h] using hm)
  rcases op with op | op <;> cases op <;>
    simp [Joint.rung, eat?, eatAlternative?, eatOperator?, BinaryOp.level, Level.operators, hs,
      Joint.mark, BinaryOp.mark, LogicalOp.mark]

theorem eat?_none {s : State} {ρ : Rung} (h : ∀ t ∈ s.tokens.head?, joins t ≠ ρ.rank) :
    ρ.eat? s = none := by
  have hs : ∀ m : Mark, joins (.mark m) = ρ.rank → s.eat? m = none := by
    intro m hm
    refine State.eat?_none fun h' => h _ h' hm
  rcases ρ with _ | _ | l
  · simp [eat?, eatAlternative?, hs .or rfl, hs .coalesce rfl]
  · simp [eat?, hs .and rfl]
  · simp only [eat?, eatOperator?, Option.map_eq_none_iff, List.findSome?_eq_none_iff]
    intro p hp
    obtain ⟨hmark, hlevel⟩ := mark_of_mem_operators l p hp
    have hjoins := joins_mark (.binary p.2)
    exact hs p.1 (by rw [hmark, ← hlevel]; exact hjoins)

end Rung

/-! ## Places -/

/-- The grammar function of a place of rank `p`. -/
def parseAt : Nat → Nat → State → Except CompileError (Expr × State)
  | 0 | 1 => Grammar.conditional
  | 2 => Rung.parse .either
  | 3 => Rung.parse .both
  | 4 => Rung.parse (.level .equality)
  | 5 => Rung.parse (.level .relational)
  | 6 => Rung.parse (.level .additive)
  | 7 => Rung.parse (.level .multiplicative)
  | 8 => Grammar.unary
  | _ => Grammar.postfixes

/-- The levels that the grammar function of a place opens itself. -/
def opens (p : Nat) : Nat := if p ≤ 1 then 1 else 0

theorem opens_of_lt {p : Nat} (h : 1 < p) : opens p = 0 := if_neg (by omega)

namespace Rung

theorem parseAt_rank (ρ : Rung) : parseAt ρ.rank = ρ.parse := by
  rcases ρ with _ | _ | l
  · rfl
  · rfl
  · cases l <;> rfl

theorem two_le_rank (ρ : Rung) : 2 ≤ ρ.rank := by
  rcases ρ with _ | _ | l
  · exact Nat.le_refl 2
  · exact Nat.le_succ 2
  · cases l <;> simp [rank, Level.rank]

theorem rank_le_seven (ρ : Rung) : ρ.rank ≤ 7 := by
  rcases ρ with _ | _ | l
  · simp [rank]
  · simp [rank]
  · cases l <;> simp [rank, Level.rank]

theorem exists_rank_eq {p : Nat} (h : 2 ≤ p) (h' : p ≤ 7) : ∃ ρ : Rung, ρ.rank = p := by
  match p with
  | 2 => exact ⟨either, rfl⟩
  | 3 => exact ⟨both, rfl⟩
  | 4 => exact ⟨level .equality, rfl⟩
  | 5 => exact ⟨level .relational, rfl⟩
  | 6 => exact ⟨level .additive, rfl⟩
  | 7 => exact ⟨level .multiplicative, rfl⟩

theorem rank_injective {ρ σ : Rung} (h : ρ.rank = σ.rank) : ρ = σ := by
  have hlevel : ∀ l m : Level, l.rank = m.rank → l = m := by
    intro l m
    cases l <;> cases m <;> simp [Level.rank]
  have hloose : ∀ l : Level, 3 < l.rank := by
    intro l
    cases l <;> simp [Level.rank]
  match ρ, σ with
  | either, either | both, both => rfl
  | level l, level m => exact congrArg level (hlevel l m h)
  | level l, either | level l, both | either, level l | both, level l =>
    have := hloose l
    simp only [rank] at h
    omega

/-- The operands of a rung stand at the next tighter place, which takes one or two calls. -/
theorem operand_succ (ρ : Rung) (n : Nat) (s : State) :
    ∃ m, n ≤ m ∧ m ≤ n + 1 ∧ ρ.operand (n + 1) s = parseAt (ρ.rank + 1) m s := by
  rcases ρ with _ | _ | l
  · exact ⟨n + 1, by omega, by omega, rfl⟩
  · exact ⟨n + 1, by omega, by omega, rfl⟩
  · refine ⟨n, by omega, by omega, ?_⟩
    cases l <;> simp only [operand, Grammar.operand, Level.tighter?] <;> rfl

end Rung

theorem Joint.rank_rung (op : Joint) : op.rung.rank = op.rank := by
  rcases op with op | op <;> cases op <;> rfl

end Logbook.Expr
