import Logbook.Proofs.Expr.First

/-!
# What the grammar reads is written

* `Behind`: the state behind a token;
* `Parsed`: what an answer of a grammar function was read from;
* `Sound`: all answers with so much fuel were read from trees, `sound` for any fuel;
* **`exists_of_parse`**: a list of tokens that is read at all is what some tree is written with.
-/

namespace Logbook.Expr

theorem exists_of_bind_eq_ok {α β : Type} {x : Except CompileError α}
    {f : α → Except CompileError β} {b : β} (h : (x >>= f) = .ok b) :
    ∃ a, x = .ok a ∧ f a = .ok b := by
  cases x with
  | error e => cases h
  | ok a => exact ⟨a, rfl, h⟩

/-! ## Single tokens -/

/-- The state `s'` is that behind the token `t`, which comes next in `s`. -/
def Behind (t : Token) (s s' : State) : Prop := s.tokens = t :: s'.tokens ∧ s'.names = s.names

namespace State

variable {s s' : State} {m : Mark}

@[simp] theorem tokens_leave (l : Nat) : (s.leave l).tokens = s.tokens := rfl

@[simp] theorem names_leave (l : Nat) : (s.leave l).names = s.names := rfl

theorem behind_of_eat? (h : s.eat? m = some s') : Behind (.mark m) s s' := by
  unfold eat? at h
  split at h
  · next p rest hs =>
    split at h
    · next hp =>
      obtain rfl := Option.some.inj h
      exact ⟨by simp [tokens, hs, hp], rfl⟩
    · simp at h
  · simp at h

theorem behind_of_expect (h : s.expect m = .ok s') : Behind (.mark m) s s' := by
  unfold expect at h
  split at h
  · next heat =>
    obtain rfl := Except.ok.inj h
    exact behind_of_eat? heat
  · simp at h

theorem eq_of_enter (h : s.enter = .ok s') : s'.tokens = s.tokens ∧ s'.names = s.names := by
  unfold enter at h
  split at h
  · obtain rfl := Except.ok.inj h
    exact ⟨rfl, rfl⟩
  · simp at h

end State

theorem behind_of_propertyName {s s' : State} {n : String} (h : propertyName s = .ok (n, s')) :
    Behind (.name n) s s' := by
  unfold propertyName at h
  split at h
  · next hs =>
    obtain ⟨rfl, rfl⟩ := Prod.mk.inj (Except.ok.inj h)
    exact ⟨by simp [State.tokens, hs], rfl⟩
  · simp at h

theorem behind_of_eatUnary? {s s' : State} {op : UnaryOp} (h : eatUnary? s = some (op, s')) :
    Behind op.token s s' := by
  unfold eatUnary? at h
  split at h
  · next p rest hs =>
    obtain ⟨op', hop, heq⟩ := Option.map_eq_some_iff.1 h
    obtain ⟨rfl, rfl⟩ := Prod.mk.inj heq
    refine ⟨?_, rfl⟩
    simp only [State.tokens, hs, List.map_cons, List.cons.injEq, and_true]
    grind [UnaryOp.token]
  · simp at h

theorem head?_ne_typeof {s : State} (h : eatUnary? s = none) :
    s.tokens.head? ≠ some (.name "typeof") := by
  intro hhead
  obtain ⟨ts, hts⟩ := List.head?_eq_some_iff.1 hhead
  obtain ⟨c, qs, hs, -⟩ := exists_of_map_token hts
  simp [eatUnary?, hs] at h

theorem behind_of_eatOperator? {l : Level} {s s' : State} {op : BinaryOp}
    (h : eatOperator? l s = some (op, s')) : Behind (.mark op.mark) s s' ∧ op.level = l := by
  obtain ⟨p, hp, heat⟩ := List.exists_of_findSome?_eq_some h
  obtain ⟨s₁, hs, heq⟩ := Option.map_eq_some_iff.1 heat
  obtain ⟨rfl, rfl⟩ := Prod.mk.inj heq
  obtain ⟨hmark, hlevel⟩ := mark_of_mem_operators l p hp
  exact ⟨hmark ▸ State.behind_of_eat? hs, hlevel⟩

theorem behind_of_eatAlternative? {s s' : State} {op : LogicalOp}
    (h : eatAlternative? s = some (op, s')) : Behind (.mark op.mark) s s' ∧ op.rank = 2 := by
  unfold eatAlternative? at h
  split at h
  · next hs =>
    obtain ⟨rfl, rfl⟩ := Prod.mk.inj (Option.some.inj h)
    exact ⟨State.behind_of_eat? hs, rfl⟩
  · obtain ⟨s₁, hs, heq⟩ := Option.map_eq_some_iff.1 h
    obtain ⟨rfl, rfl⟩ := Prod.mk.inj heq
    exact ⟨State.behind_of_eat? hs, rfl⟩

theorem Rung.behind_of_eat? {ρ : Rung} {s s' : State} {op : Joint} (h : ρ.eat? s = some (op, s')) :
    Behind (.mark op.mark) s s' ∧ op.rank = ρ.rank := by
  cases ρ with
  | either =>
    obtain ⟨⟨op, s₁⟩, hop, heq⟩ := Option.map_eq_some_iff.1 h
    obtain ⟨rfl, rfl⟩ := Prod.mk.inj heq
    exact behind_of_eatAlternative? hop
  | both =>
    obtain ⟨s₁, hs, heq⟩ := Option.map_eq_some_iff.1 h
    obtain ⟨rfl, rfl⟩ := Prod.mk.inj heq
    exact ⟨State.behind_of_eat? hs, rfl⟩
  | level l =>
    obtain ⟨⟨op, s₁⟩, hop, heq⟩ := Option.map_eq_some_iff.1 h
    obtain ⟨rfl, rfl⟩ := Prod.mk.inj heq
    obtain ⟨hbehind, rfl⟩ := behind_of_eatOperator? hop
    exact ⟨hbehind, rfl⟩

/-! ## Answers -/

/-- A tree may stand at a place of rank `p`, and stands for `e` among the parameters `names`. -/
def Surface.Gives (t : Surface) (p : Nat) (names : List String) (e : Expr) : Prop :=
  t.Fits false p ∧ t.Known names ∧ t.resolve names = e

/-- An answer was read from a tree that may stand at a place of rank `p` among the parameters
`names`; the tokens `pre` of its beginning had been read before. -/
def Parsed (names : List String) (p : Nat) (pre : List Token) (s : State) (e : Expr) (s' : State) :
    Prop :=
  s'.names = names ∧ ∃ t : Surface, t.Gives p names e ∧ pre ++ s.tokens = t.tokens ++ s'.tokens

/-- Some arguments or items were read, and the tokens `last` behind them. -/
def ParsedAll (names : List String) (p : Nat) (last : List Token) (s : State) (es : List Expr)
    (s' : State) : Prop :=
  s'.names = names ∧ ∃ ts : List Surface, Surface.FitAll false p ts ∧
    Surface.AllKnown names ts ∧ Surface.resolveAll names ts = es ∧
    s.tokens = Surface.listTokens ts ++ (last ++ s'.tokens)

/-- All answers with so much fuel were read from trees. -/
structure Sound (n : Nat) : Prop where
  place : ∀ {names p s e s'}, 1 ≤ p → p ≤ 8 → s.names = names → parseAt p n s = .ok (e, s') →
    Parsed names p [] s e s'
  chain : ∀ {names} {ρ : Rung} {s left links e s'} {t : Surface}, t.Gives ρ.rank names left →
    s.names = names → ρ.parseFrom n left links s = .ok (e, s') →
    Parsed names ρ.rank t.tokens s e s'
  postfixes : ∀ {names s e s'}, s.names = names → eatUnary? s = none →
    Grammar.postfixes n s = .ok (e, s') → Parsed names 9 [] s e s'
  postfixesFrom : ∀ {names s base links e s'} {t : Surface}, t.Gives 9 names base →
    s.names = names → Grammar.postfixesFrom n base links s = .ok (e, s') →
    Parsed names 9 t.tokens s e s'
  link : ∀ {names s base e s'} {t : Surface}, t.Gives 9 names base → s.names = names →
    Grammar.link n base s = .ok (e, s') → Parsed names 9 t.tokens s e s'
  bracketOrCall : ∀ {names s base optional e s'} {t : Surface}, t.Gives 9 names base →
    s.names = names → Grammar.bracketOrCall n base optional s = .ok (e, s') →
    Parsed names 9 (t.tokens ++ Surface.chainTokens optional) s e s'
  arguments : ∀ {names s es s'}, s.names = names → Grammar.arguments n s = .ok (es, s') →
    ParsedAll names 0 [.mark .closeParen] s es s'
  argumentsFrom : ∀ {names s es s'}, s.names = names → Grammar.argumentsFrom n s = .ok (es, s') →
    es ≠ [] ∧ ParsedAll names 0 [.mark .closeParen] s es s'
  argument : ∀ {names s e s'}, s.names = names → Grammar.argument n s = .ok (e, s') →
    Parsed names 0 [] s e s'
  primary : ∀ {names s e s'}, s.names = names → s.tokens.head? ≠ some (.name "typeof") →
    Grammar.primary n s = .ok (e, s') → Parsed names 9 [] s e s'
  items : ∀ {names s es s'}, s.names = names → Grammar.items n s = .ok (es, s') →
    es ≠ [] ∧ ∃ comma, ParsedAll names 1 (Surface.endTokens comma) s es s'

theorem Surface.Fits.mono {t : Surface} {p q : Nat} (h : t.Fits false q) (hq : 1 ≤ q)
    (hpq : p ≤ q) : t.Fits false p := by
  cases t with
  | arrow => exact absurd h.1 (by omega)
  | unary | joined | conditional => exact ⟨Nat.le_trans hpq h.1, h.2⟩
  | group => exact ⟨nofun, h.2⟩
  | _ => exact h

theorem Parsed.mono {names : List String} {p q : Nat} {pre : List Token} {s s' : State} {e : Expr}
    (h : Parsed names q pre s e s') (hq : 1 ≤ q) (hpq : p ≤ q) : Parsed names p pre s e s' := by
  obtain ⟨hnames, t, ⟨hfits, hknown, he⟩, hts⟩ := h
  exact ⟨hnames, t, ⟨hfits.mono hq hpq, hknown, he⟩, hts⟩

namespace Sound

variable {n : Nat} {names : List String} {s s' : State} {e : Expr} {es : List Expr}

/-! ## Places -/

theorem conditional_succ (ih : Sound n) (hs : s.names = names)
    (h : Grammar.conditional (n + 1) s = .ok (e, s')) : Parsed names 1 [] s e s' := by
  rw [Grammar.conditional] at h
  obtain ⟨s₁, henter, h⟩ := exists_of_bind_eq_ok h
  obtain ⟨hts₁, hs₁⟩ := State.eq_of_enter henter
  obtain ⟨⟨test, s₂⟩, htest, h⟩ := exists_of_bind_eq_ok h
  have hp := ih.place (p := 2) (by omega) (by omega) (hs₁.trans hs) htest
  dsimp only at h
  split at h
  · obtain ⟨rfl, rfl⟩ := Prod.mk.inj (Except.ok.inj h)
    obtain ⟨hs₂, t, ht, hts⟩ := hp.mono (by omega) (by omega : 1 ≤ 2)
    exact ⟨hs₂, t, ht, hts₁ ▸ hts⟩
  · next s₃ hq =>
    obtain ⟨hs₂, t, ⟨htfits, htknown, htest⟩, hts₂⟩ := hp
    obtain ⟨hts₃, hs₃⟩ := State.behind_of_eat? hq
    obtain ⟨⟨yes, s₄⟩, hyes, h⟩ := exists_of_bind_eq_ok h
    obtain ⟨hs₄, y, ⟨hyfits, hyknown, hyes⟩, hts₄⟩ :=
      ih.place (p := 1) (by omega) (by omega) (hs₃.trans hs₂) hyes
    obtain ⟨s₅, hcolon, h⟩ := exists_of_bind_eq_ok h
    obtain ⟨hts₅, hs₅⟩ := State.behind_of_expect hcolon
    obtain ⟨⟨no, s₆⟩, hno, h⟩ := exists_of_bind_eq_ok h
    obtain ⟨hs₆, z, ⟨hzfits, hzknown, hno⟩, hts₆⟩ :=
      ih.place (p := 1) (by omega) (by omega) (hs₅.trans hs₄) hno
    obtain ⟨rfl, rfl⟩ := Prod.mk.inj (Except.ok.inj h)
    refine ⟨hs₆, .conditional t y z, ⟨⟨Nat.le_refl 1, htfits, hyfits, hzfits⟩,
      ⟨htknown, hyknown, hzknown⟩, ?_⟩, ?_⟩
    · simp only [Surface.resolve, htest, hyes, hno]
    · simp_all [Surface.tokens]

theorem operand (ih : ∀ m ≤ n, Sound m) {ρ : Rung} (hs : s.names = names)
    (h : ρ.operand n s = .ok (e, s')) : Parsed names (ρ.rank + 1) [] s e s' := by
  have hseven := ρ.rank_le_seven
  cases n with
  | zero =>
    have hzero : ρ.operand 0 s = .error .tooDeep := by
      cases ρ <;> simp [Rung.operand, Grammar.logicalAnd, Grammar.binary, Grammar.operand]
    rw [hzero] at h
    cases h
  | succ n =>
    obtain ⟨m, -, hm, heq⟩ := ρ.operand_succ n s
    rw [heq] at h
    exact (ih m hm).place (by omega) (by omega) hs h

theorem chain_succ (ih : ∀ m ≤ n, Sound m) {ρ : Rung} {left : Expr} {links : Nat} {t : Surface}
    (ht : t.Gives ρ.rank names left) (hs : s.names = names)
    (h : ρ.parseFrom (n + 1) left links s = .ok (e, s')) :
    Parsed names ρ.rank t.tokens s e s' := by
  cases heat : ρ.eat? s with
  | none =>
    rw [Rung.parseFrom_none heat] at h
    obtain ⟨rfl, rfl⟩ := Prod.mk.inj (Except.ok.inj h)
    exact ⟨hs, t, ht, rfl⟩
  | some p =>
    obtain ⟨op, s₁⟩ := p
    obtain ⟨⟨hts₁, hs₁⟩, hrank⟩ := Rung.behind_of_eat? heat
    rw [Rung.parseFrom_some heat] at h
    obtain ⟨s₂, henter, h⟩ := exists_of_bind_eq_ok h
    obtain ⟨hts₂, hs₂⟩ := State.eq_of_enter henter
    have hs₂ := hs₂.trans (hs₁.trans hs)
    obtain ⟨⟨right, s₃⟩, hright, h⟩ := exists_of_bind_eq_ok h
    obtain ⟨hs₃, u, ⟨hufits, huknown, hright⟩, hts₃⟩ := operand ih hs₂ hright
    have hjoined : (Surface.joined op t u).Gives ρ.rank names (op.build left right) := by
      obtain ⟨htfits, htknown, hleft⟩ := ht
      rw [← hrank] at htfits hufits
      exact ⟨⟨Nat.le_of_eq hrank.symm, htfits, hufits⟩, ⟨htknown, huknown⟩,
        by simp only [Surface.resolve, hleft, hright]⟩
    obtain ⟨hs', v, hv, hts⟩ := (ih n (Nat.le_refl n)).chain hjoined hs₃ h
    refine ⟨hs', v, hv, ?_⟩
    rw [← hts, hts₁, ← hts₂]
    simpa [Surface.tokens] using hts₃

theorem parse_succ (ih : ∀ m ≤ n, Sound m) {ρ : Rung} (hs : s.names = names)
    (h : ρ.parse (n + 1) s = .ok (e, s')) : Parsed names ρ.rank [] s e s' := by
  rw [Rung.parse_succ] at h
  obtain ⟨⟨left, s₁⟩, hleft, h⟩ := exists_of_bind_eq_ok h
  have htwo := ρ.two_le_rank
  obtain ⟨hs₁, t, ht, hts₁⟩ := (operand ih hs hleft).mono (by omega) (Nat.le_succ ρ.rank)
  obtain ⟨hs', u, hu, hts⟩ := (ih n (Nat.le_refl n)).chain ht hs₁ h
  exact ⟨hs', u, hu, hts₁.trans hts⟩

theorem unary_succ (ih : Sound n) (hs : s.names = names)
    (h : Grammar.unary (n + 1) s = .ok (e, s')) : Parsed names 8 [] s e s' := by
  rw [Grammar.unary] at h
  split at h
  · next hnone => exact (ih.postfixes hs hnone h).mono (by omega) (by omega)
  · next op s₁ heat =>
    obtain ⟨hts₁, hs₁⟩ := behind_of_eatUnary? heat
    obtain ⟨s₂, henter, h⟩ := exists_of_bind_eq_ok h
    obtain ⟨hts₂, hs₂⟩ := State.eq_of_enter henter
    obtain ⟨⟨operand, s₃⟩, hoperand, h⟩ := exists_of_bind_eq_ok h
    obtain ⟨hs₃, t, ⟨hfits, hknown, hoperand⟩, hts₃⟩ :=
      ih.place (p := 8) (by omega) (by omega) (hs₂.trans (hs₁.trans hs)) hoperand
    obtain ⟨rfl, rfl⟩ := Prod.mk.inj (Except.ok.inj h)
    refine ⟨hs₃, .unary op t, ⟨⟨Nat.le_refl 8, hfits⟩, hknown, ?_⟩, ?_⟩
    · simp only [Surface.resolve, hoperand]
    · simp_all [Surface.tokens]

theorem place_succ (ih : ∀ m ≤ n, Sound m) {p : Nat} (hp : 1 ≤ p) (hp' : p ≤ 8)
    (hs : s.names = names) (h : parseAt p (n + 1) s = .ok (e, s')) : Parsed names p [] s e s' := by
  by_cases hone : p = 1
  · subst hone
    exact conditional_succ (ih n (Nat.le_refl n)) hs h
  by_cases height : p = 8
  · subst height
    exact unary_succ (ih n (Nat.le_refl n)) hs h
  obtain ⟨ρ, rfl⟩ := Rung.exists_rank_eq (by omega : 2 ≤ p) (by omega)
  rw [Rung.parseAt_rank] at h
  exact parse_succ ih hs h

/-! ## Links -/

theorem postfixes_succ (ih : Sound n) (hs : s.names = names) (hunary : eatUnary? s = none)
    (h : Grammar.postfixes (n + 1) s = .ok (e, s')) : Parsed names 9 [] s e s' := by
  rw [Grammar.postfixes] at h
  obtain ⟨⟨base, s₁⟩, hbase, h⟩ := exists_of_bind_eq_ok h
  obtain ⟨hs₁, t, ht, hts₁⟩ := ih.primary hs (head?_ne_typeof hunary) hbase
  obtain ⟨hs', u, hu, hts⟩ := ih.postfixesFrom ht hs₁ h
  exact ⟨hs', u, hu, hts₁.trans hts⟩

theorem postfixesFrom_succ (ih : Sound n) {base : Expr} {links : Nat} {t : Surface}
    (ht : t.Gives 9 names base) (hs : s.names = names)
    (h : Grammar.postfixesFrom (n + 1) base links s = .ok (e, s')) :
    Parsed names 9 t.tokens s e s' := by
  rw [Grammar.postfixesFrom] at h
  split at h
  · obtain ⟨s₁, henter, h⟩ := exists_of_bind_eq_ok h
    obtain ⟨hts₁, hs₁⟩ := State.eq_of_enter henter
    obtain ⟨⟨more, s₂⟩, hlink, h⟩ := exists_of_bind_eq_ok h
    obtain ⟨hs₂, u, hu, hts₂⟩ := ih.link ht (hs₁.trans hs) hlink
    obtain ⟨hs', v, hv, hts⟩ := ih.postfixesFrom hu hs₂ h
    exact ⟨hs', v, hv, by rw [← hts, ← hts₂, hts₁]⟩
  · obtain ⟨rfl, rfl⟩ := Prod.mk.inj (Except.ok.inj h)
    exact ⟨hs, t, ht, rfl⟩

theorem parsed_dot {base : Expr} {t : Surface} {name : String} {optional : Bool} {s₁ : State}
    (ht : t.Gives 9 names base)
    (hts : s.tokens = .mark (if optional then .chain else .dot) :: s₁.tokens)
    (hs₁ : s₁.names = names) (hname : propertyName s₁ = .ok (name, s')) :
    Parsed names 9 t.tokens s (.member base (.literal (.str name)) optional) s' := by
  obtain ⟨hfits, hknown, hbase⟩ := ht
  obtain ⟨hts', hs'⟩ := behind_of_propertyName hname
  refine ⟨hs'.trans hs₁, .dot t name optional, ⟨hfits, hknown, ?_⟩, ?_⟩
  · simp only [Surface.resolve, hbase]
  · simp [Surface.tokens, hts, hts']

theorem bracketOrCall_cons {s₁ : State} (h : Behind (.mark .chain) s s₁) {t : Surface}
    (hp : Parsed names 9 (t.tokens ++ Surface.chainTokens true) s₁ e s') :
    Parsed names 9 t.tokens s e s' := by
  obtain ⟨hs', u, hu, hts⟩ := hp
  refine ⟨hs', u, hu, ?_⟩
  rw [← hts, h.1]
  simp [Surface.chainTokens]

theorem link_succ (ih : Sound n) {base : Expr} {t : Surface} (ht : t.Gives 9 names base)
    (hs : s.names = names) (h : Grammar.link (n + 1) base s = .ok (e, s')) :
    Parsed names 9 t.tokens s e s' := by
  rw [Grammar.link] at h
  split at h
  · next s₁ hdot =>
    obtain ⟨hts₁, hs₁⟩ := State.behind_of_eat? hdot
    obtain ⟨⟨name, s₂⟩, hname, h⟩ := exists_of_bind_eq_ok h
    obtain ⟨rfl, rfl⟩ := Prod.mk.inj (Except.ok.inj h)
    exact parsed_dot ht hts₁ (hs₁.trans hs) hname
  · split at h
    · simpa [Surface.chainTokens] using ih.bracketOrCall ht hs h
    · next s₁ hchain =>
      have hbehind := State.behind_of_eat? hchain
      have hs₁ := hbehind.2.trans hs
      split at h
      · exact bracketOrCall_cons hbehind (ih.bracketOrCall ht hs₁ h)
      · exact bracketOrCall_cons hbehind (ih.bracketOrCall ht hs₁ h)
      · obtain ⟨⟨name, s₂⟩, hname, h⟩ := exists_of_bind_eq_ok h
        obtain ⟨rfl, rfl⟩ := Prod.mk.inj (Except.ok.inj h)
        exact parsed_dot ht hbehind.1 hs₁ hname

theorem bracketOrCall_succ (ih : Sound n) {base : Expr} {optional : Bool} {t : Surface}
    (ht : t.Gives 9 names base) (hs : s.names = names)
    (h : Grammar.bracketOrCall (n + 1) base optional s = .ok (e, s')) :
    Parsed names 9 (t.tokens ++ Surface.chainTokens optional) s e s' := by
  obtain ⟨hfits, hknown, hbase⟩ := ht
  rw [Grammar.bracketOrCall] at h
  split at h
  · next s₁ hopen =>
    obtain ⟨hts₁, hs₁⟩ := State.behind_of_eat? hopen
    obtain ⟨⟨key, s₂⟩, hkey, h⟩ := exists_of_bind_eq_ok h
    obtain ⟨hs₂, u, ⟨hufits, huknown, hkey⟩, hts₂⟩ :=
      ih.place (p := 1) (by omega) (by omega) (hs₁.trans hs) hkey
    obtain ⟨s₃, hclose, h⟩ := exists_of_bind_eq_ok h
    obtain ⟨hts₃, hs₃⟩ := State.behind_of_expect hclose
    obtain ⟨rfl, rfl⟩ := Prod.mk.inj (Except.ok.inj h)
    refine ⟨hs₃.trans hs₂, .item t u optional, ⟨⟨hfits, hufits⟩, ⟨hknown, huknown⟩, ?_⟩, ?_⟩
    · simp only [Surface.resolve, hbase, hkey]
    · simp_all [Surface.tokens]
  · obtain ⟨s₁, hopen, h⟩ := exists_of_bind_eq_ok h
    obtain ⟨hts₁, hs₁⟩ := State.behind_of_expect hopen
    obtain ⟨⟨args, s₂⟩, hargs, h⟩ := exists_of_bind_eq_ok h
    obtain ⟨hs₂, us, hufits, huknown, hargs, hts₂⟩ := ih.arguments (hs₁.trans hs) hargs
    obtain ⟨rfl, rfl⟩ := Prod.mk.inj (Except.ok.inj h)
    refine ⟨hs₂, .call t us optional, ⟨⟨hfits, hufits⟩, ⟨hknown, huknown⟩, ?_⟩, ?_⟩
    · simp only [Surface.resolve, hbase, hargs]
    · simp_all [Surface.tokens]

/-! ## Arguments -/

theorem arguments_succ (ih : Sound n) (hs : s.names = names)
    (h : Grammar.arguments (n + 1) s = .ok (es, s')) :
    ParsedAll names 0 [.mark .closeParen] s es s' := by
  rw [Grammar.arguments] at h
  split at h
  · next s₁ hclose =>
    obtain ⟨hts₁, hs₁⟩ := State.behind_of_eat? hclose
    obtain ⟨rfl, rfl⟩ := Prod.mk.inj (Except.ok.inj h)
    exact ⟨hs₁.trans hs, [], trivial, trivial, rfl, hts₁⟩
  · exact (ih.argumentsFrom hs h).2

theorem argumentsFrom_succ (ih : Sound n) (hs : s.names = names)
    (h : Grammar.argumentsFrom (n + 1) s = .ok (es, s')) :
    es ≠ [] ∧ ParsedAll names 0 [.mark .closeParen] s es s' := by
  rw [Grammar.argumentsFrom] at h
  obtain ⟨⟨arg, s₁⟩, harg, h⟩ := exists_of_bind_eq_ok h
  obtain ⟨hs₁, t, ⟨hfits, hknown, harg⟩, hts₁⟩ := ih.argument hs harg
  dsimp only at h
  split at h
  · next s₂ hclose =>
    obtain ⟨hts₂, hs₂⟩ := State.behind_of_eat? hclose
    obtain ⟨rfl, rfl⟩ := Prod.mk.inj (Except.ok.inj h)
    refine ⟨by simp, hs₂.trans hs₁, [t], ⟨hfits, trivial⟩, ⟨hknown, trivial⟩, ?_, ?_⟩
    · simp only [Surface.resolveAll, harg]
    · simp_all [Surface.listTokens, Surface.moreTokens]
  · obtain ⟨s₂, hcomma, h⟩ := exists_of_bind_eq_ok h
    obtain ⟨hts₂, hs₂⟩ := State.behind_of_expect hcomma
    obtain ⟨⟨more, s₃⟩, hmore, h⟩ := exists_of_bind_eq_ok h
    obtain ⟨hne, hs₃, us, hufits, huknown, hmore, hts₃⟩ := ih.argumentsFrom (hs₂.trans hs₁) hmore
    obtain ⟨rfl, rfl⟩ := Prod.mk.inj (Except.ok.inj h)
    refine ⟨by simp, hs₃, t :: us, ⟨hfits, hufits⟩, ⟨hknown, huknown⟩, ?_, ?_⟩
    · simp only [Surface.resolveAll, harg, hmore]
    · cases us with
      | nil => exact absurd hmore.symm hne
      | cons u us => simp_all [Surface.listTokens_cons_cons]

theorem argument_succ (ih : ∀ m ≤ n, Sound m) (hs : s.names = names)
    (h : Grammar.argument (n + 1) s = .ok (e, s')) : Parsed names 0 [] s e s' := by
  rw [Grammar.argument] at h
  split at h
  · next params rest hparams =>
    obtain ⟨bare, hps⟩ := of_parameters? hparams
    cases n with
    | zero => simp [Grammar.lambda] at h
    | succ n =>
      rw [Grammar.lambda] at h
      obtain ⟨⟨body, inner⟩, hbody, h⟩ := exists_of_bind_eq_ok h
      obtain ⟨hinner, t, ⟨hfits, hknown, hbody⟩, hts⟩ :=
        (ih n (by omega)).place (p := 1) (by omega) (by omega) rfl hbody
      obtain ⟨rfl, rfl⟩ := Prod.mk.inj (Except.ok.inj h)
      simp only [hs] at hinner hknown hbody
      refine ⟨by simp [hinner], .arrow params bare t, ⟨⟨rfl, hfits⟩, hknown, ?_⟩, ?_⟩
      · simp only [Surface.resolve, hbody]
      · simp only [State.tokens, List.nil_append] at hts ⊢
        rw [hps, hts, Surface.tokens, List.append_assoc]
  · exact ((ih n (Nat.le_refl n)).place (p := 1) (by omega) (by omega) hs h).mono (by omega)
      (by omega)

/-! ## Operands -/

theorem items_succ (ih : Sound n) (hs : s.names = names)
    (h : Grammar.items (n + 1) s = .ok (es, s')) :
    es ≠ [] ∧ ∃ comma, ParsedAll names 1 (Surface.endTokens comma) s es s' := by
  rw [Grammar.items] at h
  obtain ⟨⟨item, s₁⟩, hitem, h⟩ := exists_of_bind_eq_ok h
  obtain ⟨hs₁, t, ⟨hfits, hknown, hitem⟩, hts₁⟩ :=
    ih.place (p := 1) (by omega) (by omega) hs hitem
  dsimp only at h
  split at h
  · next s₂ hclose =>
    obtain ⟨hts₂, hs₂⟩ := State.behind_of_eat? hclose
    obtain ⟨rfl, rfl⟩ := Prod.mk.inj (Except.ok.inj h)
    refine ⟨by simp, false, hs₂.trans hs₁, [t], ⟨hfits, trivial⟩, ⟨hknown, trivial⟩, ?_, ?_⟩
    · simp only [Surface.resolveAll, hitem]
    · simp_all [Surface.listTokens, Surface.moreTokens, Surface.endTokens]
  · obtain ⟨s₂, hcomma, h⟩ := exists_of_bind_eq_ok h
    obtain ⟨hts₂, hs₂⟩ := State.behind_of_expect hcomma
    split at h
    · next s₃ hclose =>
      obtain ⟨hts₃, hs₃⟩ := State.behind_of_eat? hclose
      obtain ⟨rfl, rfl⟩ := Prod.mk.inj (Except.ok.inj h)
      refine ⟨by simp, true, hs₃.trans (hs₂.trans hs₁), [t], ⟨hfits, trivial⟩,
        ⟨hknown, trivial⟩, ?_, ?_⟩
      · simp only [Surface.resolveAll, hitem]
      · simp_all [Surface.listTokens, Surface.moreTokens, Surface.endTokens]
    · obtain ⟨⟨more, s₃⟩, hmore, h⟩ := exists_of_bind_eq_ok h
      obtain ⟨hne, comma, hs₃, us, hufits, huknown, hmore, hts₃⟩ :=
        ih.items (hs₂.trans hs₁) hmore
      obtain ⟨rfl, rfl⟩ := Prod.mk.inj (Except.ok.inj h)
      refine ⟨by simp, comma, hs₃, t :: us, ⟨hfits, hufits⟩, ⟨hknown, huknown⟩, ?_, ?_⟩
      · simp only [Surface.resolveAll, hitem, hmore]
      · cases us with
        | nil => exact absurd hmore.symm hne
        | cons u us => simp_all [Surface.listTokens_cons_cons]

theorem parsed_group (ih : Sound n) {s₁ : State} (hbehind : Behind (.mark .openParen) s s₁)
    (hs : s.names = names) (h : (do
      let (e, s) ← Grammar.conditional n s₁
      let s ← s.expect .closeParen
      .ok (e, s)) = .ok (e, s')) : Parsed names 9 [] s e s' := by
  obtain ⟨hts₁, hs₁⟩ := hbehind
  obtain ⟨⟨inner, s₂⟩, hinner, h⟩ := exists_of_bind_eq_ok h
  obtain ⟨hs₂, t, ⟨hfits, hknown, hinner⟩, hts₂⟩ :=
    ih.place (p := 1) (by omega) (by omega) (hs₁.trans hs) hinner
  obtain ⟨s₃, hclose, h⟩ := exists_of_bind_eq_ok h
  obtain ⟨hts₃, hs₃⟩ := State.behind_of_expect hclose
  obtain ⟨rfl, rfl⟩ := Prod.mk.inj (Except.ok.inj h)
  have hgroup : (Surface.group t).Fits false 9 :=
    ⟨fun htight => absurd htight Bool.false_ne_true, hfits⟩
  refine ⟨hs₃.trans hs₂, .group t, ⟨hgroup, hknown, hinner⟩, ?_⟩
  simp_all [Surface.tokens]

theorem parsed_array (ih : Sound n) {s₁ : State} (hbehind : Behind (.mark .openBracket) s s₁)
    (hs : s.names = names) (h : (do
      let s ← s₁.enter
      match s.eat? .closeBracket with
      | some s => .ok (Expr.array [], s.leave 1)
      | none => do
        let (items, s) ← Grammar.items n s
        .ok (Expr.array items, s.leave 1)) = .ok (e, s')) : Parsed names 9 [] s e s' := by
  obtain ⟨hts₁, hs₁⟩ := hbehind
  obtain ⟨s₂, henter, h⟩ := exists_of_bind_eq_ok h
  obtain ⟨hts₂, hs₂⟩ := State.eq_of_enter henter
  have hs₂ := hs₂.trans (hs₁.trans hs)
  split at h
  · next s₃ hclose =>
    obtain ⟨hts₃, hs₃⟩ := State.behind_of_eat? hclose
    obtain ⟨rfl, rfl⟩ := Prod.mk.inj (Except.ok.inj h)
    refine ⟨hs₃.trans hs₂, .array [] false, ⟨trivial, trivial, rfl⟩, ?_⟩
    simp_all [Surface.tokens, Surface.listTokens, Surface.endTokens]
  · obtain ⟨⟨items, s₃⟩, hitems, h⟩ := exists_of_bind_eq_ok h
    obtain ⟨hne, comma, hs₃, ts, hfits, hknown, hitems, hts₃⟩ := ih.items hs₂ hitems
    obtain ⟨rfl, rfl⟩ := Prod.mk.inj (Except.ok.inj h)
    refine ⟨hs₃, .array ts comma, ⟨hfits, hknown, ?_⟩, ?_⟩
    · simp only [Surface.resolve, hitems]
    · cases ts with
      | nil => exact absurd hitems.symm hne
      | cons => simp_all [Surface.tokens]

theorem primary_succ (ih : Sound n) (hs : s.names = names)
    (htypeOf : s.tokens.head? ≠ some (.name "typeof"))
    (h : Grammar.primary (n + 1) s = .ok (e, s')) : Parsed names 9 [] s e s' := by
  rw [Grammar.primary] at h
  split at h
  · cases h
  · next p rest hrest =>
    have hts : s.tokens = p.token :: rest.map Placed.token := by simp [State.tokens, hrest]
    have hbehind : Behind p.token s { s with rest } := ⟨hts, rfl⟩
    split at h
    · next x hx =>
      obtain ⟨rfl, rfl⟩ := Prod.mk.inj (Except.ok.inj h)
      exact ⟨hs, .number x, ⟨trivial, trivial, rfl⟩, by rw [List.nil_append, hts, hx]; rfl⟩
    · next x hx =>
      obtain ⟨rfl, rfl⟩ := Prod.mk.inj (Except.ok.inj h)
      exact ⟨hs, .text x, ⟨trivial, trivial, rfl⟩, by rw [List.nil_append, hts, hx]; rfl⟩
    · next x hx =>
      obtain ⟨e, hname, h⟩ := exists_of_bind_eq_ok h
      obtain ⟨rfl, rfl⟩ := Prod.mk.inj (Except.ok.inj h)
      have hmeaning : Surface.meaning names x = e := by
        rw [Surface.meaning, ← hs, hname]
      refine ⟨hs, .name x, ⟨?_, ?_, hmeaning⟩, by rw [List.nil_append, hts, hx]; rfl⟩
      · rintro rfl
        rw [hts, hx] at htypeOf
        exact htypeOf rfl
      · rw [Surface.Known, Surface.HasMeaning, hmeaning, ← hs, hname]
    · next hp => exact parsed_group ih (hp ▸ hbehind) hs h
    · next hp => exact parsed_array ih (hp ▸ hbehind) hs h
    · cases h
    · cases h

/-! ## Any fuel -/

theorem parseAt_zero (p : Nat) (s : State) : parseAt p 0 s = .error .tooDeep := by
  unfold parseAt
  split <;> simp [Rung.parse, Grammar.conditional, Grammar.logicalOr, Grammar.logicalAnd,
    Grammar.binary, Grammar.unary, Grammar.postfixes]

theorem sound_zero : Sound 0 where
  place _ _ _ h := by
    rw [parseAt_zero] at h
    cases h
  chain {_ ρ _ _ _ _ _ _} _ _ h := by
    cases ρ <;> simp [Rung.parseFrom, Grammar.logicalOrFrom, Grammar.logicalAndFrom,
      Grammar.binaryFrom] at h
  postfixes _ _ h := by simp [Grammar.postfixes] at h
  postfixesFrom _ _ h := by simp [Grammar.postfixesFrom] at h
  link _ _ h := by simp [Grammar.link] at h
  bracketOrCall _ _ h := by simp [Grammar.bracketOrCall] at h
  arguments _ h := by simp [Grammar.arguments] at h
  argumentsFrom _ h := by simp [Grammar.argumentsFrom] at h
  argument _ h := by simp [Grammar.argument] at h
  primary _ _ h := by simp [Grammar.primary] at h
  items _ h := by simp [Grammar.items] at h

theorem sound_succ (ih : ∀ m ≤ n, Sound m) : Sound (n + 1) where
  place := place_succ ih
  chain := chain_succ ih
  postfixes := postfixes_succ (ih n (Nat.le_refl n))
  postfixesFrom := postfixesFrom_succ (ih n (Nat.le_refl n))
  link := link_succ (ih n (Nat.le_refl n))
  bracketOrCall := bracketOrCall_succ (ih n (Nat.le_refl n))
  arguments := arguments_succ (ih n (Nat.le_refl n))
  argumentsFrom := argumentsFrom_succ (ih n (Nat.le_refl n))
  argument := argument_succ ih
  primary := primary_succ (ih n (Nat.le_refl n))
  items := items_succ (ih n (Nat.le_refl n))

end Sound

/-- All answers of the grammar were read from trees. -/
theorem sound (n : Nat) : Sound n := by
  induction n using Nat.strongRecOn with
  | ind n ih =>
    cases n with
    | zero => exact Sound.sound_zero
    | succ n => exact Sound.sound_succ fun m hm => ih m (Nat.lt_succ_of_le hm)

/-- **What is read at all is what some tree is written with.** -/
theorem exists_of_parse {ps : List Placed} {e : Expr} (h : parse ps = .ok e) :
    ∃ t : Surface, t.Gives 1 [] e ∧ ps.map Placed.token = t.tokens := by
  obtain ⟨⟨e, s'⟩, hread, h⟩ := exists_of_bind_eq_ok h
  dsimp only at h
  split at h
  · next hrest =>
    obtain rfl := Except.ok.inj h
    obtain ⟨-, t, ht, hts⟩ := (sound _).place (p := 1) (by omega) (by omega) rfl hread
    refine ⟨t, ht, ?_⟩
    simpa [State.tokens, State.initial, List.isEmpty_iff.1 hrest] using hts
  · cases h

end Logbook.Expr
