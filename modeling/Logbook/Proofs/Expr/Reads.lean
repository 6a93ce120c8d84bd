import Logbook.Proofs.Expr.First

/-!
# Reading chains, lists and operands

How deep a tree goes decides between two answers: the expression that it stands for, with the state
behind its tokens, or the error that it is too deep.

* `Surface.Reads`: how the grammar function of a place answers where a tree comes next;
* `Rung.Opens`, `Surface.Continues`: a chain that begins with a tree goes on behind it;
* `Surface.items_eq`, `Surface.argumentsFrom_eq`: lists with commas;
* `Surface.ReadsPrimary`, `Surface.Continues.link`: operands and the links behind them.
-/

namespace Logbook.Expr

/-! ## Answers -/

/-- A place of rank `p` reads a tree as what it stands for, where something comes next that ends it
there. -/
def Surface.Reads (p : Nat) (t : Surface) : Prop :=
  ∀ (n : Nat) (s : State) (rest : List Token), t.Known s.names → s.tokens = t.tokens ++ rest →
    Stops p rest → 20 * t.tokens.length ≤ n + 2 * p →
    parseAt p n s =
      s.within (t.need + opens p) (.ok (t.resolve s.names, s.move t.tokens.length 0))

/-- A chain of a rung that begins with a tree goes on behind it, with the levels of its links
open. -/
def Rung.Opens (ρ : Rung) (t : Surface) : Prop :=
  ∀ (n : Nat) (s : State) (rest : List Token), t.Known s.names → s.tokens = t.tokens ++ rest →
    Stops (ρ.rank + 1) rest → 20 * t.tokens.length ≤ n + 2 * ρ.rank →
    ∃ m, n = m + t.links ρ.rank + 1 ∧ ρ.parse n s =
      s.within t.need (ρ.parseFrom m (t.resolve s.names) (t.links ρ.rank)
        (s.move t.tokens.length (t.links ρ.rank)))

theorem Surface.length_paramTokens (params : List String) (bare : Bool) :
    1 < (paramTokens params bare).length := by
  unfold paramTokens
  split <;> simp

theorem Surface.links_lt_length (p : Nat) : ∀ t : Surface, t.links p < t.tokens.length
  | .number _ | .text _ | .name _ => by simp [links, tokens]
  | .array .. | .group _ | .unary .. | .conditional .. => by
    simp only [links, tokens, List.length_cons, List.length_append]
    omega
  | .arrow params bare _ => by
    have := length_paramTokens params bare
    simp only [links, tokens, List.length_append]
    omega
  | .dot object _ _ | .item object _ _ | .call object _ _ | .joined _ object _ => by
    have ih := links_lt_length p object
    simp only [links, tokens, List.length_cons, List.length_append]
    split <;> omega

theorem Surface.links_le_need (p : Nat) (t : Surface) : t.links p ≤ t.need := by
  cases t with
  | dot | item | call =>
    simp only [links, need]
    split
    · next hp =>
      subst hp
      omega
    · exact Nat.zero_le _
  | joined =>
    simp only [links, need]
    split
    · next hp =>
      subst hp
      omega
    · exact Nat.zero_le _
  | _ => exact Nat.zero_le _

namespace Rung

variable {ρ : Rung} {t : Surface} {n : Nat} {s : State} {rest : List Token}

theorem operand_eq (h : t.Reads (ρ.rank + 1)) (hknown : t.Known s.names)
    (hts : s.tokens = t.tokens ++ rest) (hrest : Stops (ρ.rank + 1) rest)
    (hn : 20 * t.tokens.length ≤ n + 1 + 2 * ρ.rank) :
    ρ.operand n s = s.within t.need (.ok (t.resolve s.names, s.move t.tokens.length 0)) := by
  have hpos := t.links_lt_length 0
  have hrank := ρ.rank_le_seven
  have hlow := ρ.two_le_rank
  obtain ⟨k, rfl⟩ : ∃ k, n = k + 1 := ⟨n - 1, by omega⟩
  obtain ⟨m, hkm, hmk, heq⟩ := ρ.operand_succ k s
  rw [heq, h m s rest hknown hts hrest (by omega), opens_of_lt (by omega), Nat.add_zero]

theorem opens_of_reads (h : t.Reads (ρ.rank + 1)) (hlinks : t.links ρ.rank = 0) : ρ.Opens t := by
  intro n s rest hknown hts hrest hn
  have hpos := t.links_lt_length 0
  have hrank := ρ.rank_le_seven
  obtain ⟨m, rfl⟩ : ∃ m, n = m + 1 := ⟨n - 1, by omega⟩
  refine ⟨m, by rw [hlinks, Nat.add_zero], ?_⟩
  rw [parse_succ, operand_eq h hknown hts hrest (by omega), hlinks]
  simp

theorem reads_of_opens (h : ρ.Opens t) : t.Reads ρ.rank := by
  intro n s rest hknown hts hrest hn
  have hlinks := t.links_lt_length ρ.rank
  have hrank := ρ.rank_le_seven
  have hlow := ρ.two_le_rank
  obtain ⟨m, hm, heq⟩ := h n s rest hknown hts (hrest.mono (by omega)) hn
  obtain ⟨k, rfl⟩ : ∃ k, m = k + 1 := ⟨m - 1, by omega⟩
  have hend : ∀ x ∈ (s.move t.tokens.length (t.links ρ.rank)).tokens.head?, joins x ≠ ρ.rank := by
    rw [State.tokens_move_append hts]
    exact fun x hx => Nat.ne_of_lt (hrest x hx)
  rw [parseAt_rank, heq, parseFrom_none (eat?_none hend), State.leave_move,
    opens_of_lt (by omega), Nat.add_zero]

theorem opens_joined {op : Joint} {left right : Surface} (hleft : op.rung.Opens left)
    (hright : right.Reads (op.rank + 1)) : op.rung.Opens (.joined op left right) := by
  intro n s rest hknown hts hrest hn
  simp only [Surface.tokens, List.append_assoc, List.cons_append] at hts
  simp only [Surface.tokens, List.length_append, List.length_cons] at hn
  rw [op.rank_rung] at hrest hn
  have hop : Stops (op.rung.rank + 1) (.mark op.mark :: (right.tokens ++ rest)) := by
    rw [stops_cons, joins_mark, op.rank_rung]
    omega
  obtain ⟨m, hm, heq⟩ := hleft n s _ hknown.1 hts hop (by rw [op.rank_rung]; omega)
  have hlinks := left.links_lt_length op.rung.rank
  have hrank := op.rung.rank_le_seven
  rw [op.rank_rung] at hm hlinks heq hrank
  obtain ⟨k, rfl⟩ : ∃ k, m = k + 1 := ⟨m - 1, by omega⟩
  refine ⟨k, by simp [Surface.links, op.rank_rung]; omega, ?_⟩
  have hts₁ := State.tokens_move_append (l := left.links op.rank) hts
  have hts₂ : (s.move (left.tokens.length + 1) (left.links op.rank + 1)).tokens =
      right.tokens ++ rest := by
    simpa using State.tokens_move_cons (l := 1) hts₁
  have hr : op.rung.operand k (s.move (left.tokens.length + 1) (left.links op.rank + 1)) = _ :=
    operand_eq (by rwa [op.rank_rung]) hknown.2 hts₂ (by rwa [op.rank_rung])
      (by rw [op.rank_rung]; omega)
  have hle := left.links_le_need op.rank
  have hneed : max (max left.need (left.links op.rank + 1)) (left.links op.rank + 1 + right.need) =
      max left.need (left.links op.rank + right.need + 1) := by
    omega
  rw [heq, parseFrom_some (eat?_cons hts₁), State.enter_eq]
  simp only [State.move_move, State.within_bind, State.ok_bind, Nat.add_zero, hr,
    State.names_move]
  rw [State.within_move_within hle, State.within_move_within (by omega), hneed]
  simp only [Surface.need, Surface.resolve, Surface.links, Surface.tokens, op.rank_rung, if_pos,
    List.length_append, List.length_cons]
  rw [Nat.add_assoc left.tokens.length, Nat.add_comm 1]

end Rung

/-! ## Lists -/

namespace Surface

/-- An argument of a call is read as what it stands for. -/
def ReadsArgument (t : Surface) : Prop :=
  ∀ (n : Nat) (s : State) (rest : List Token), t.Known s.names → s.tokens = t.tokens ++ rest →
    Stops 1 rest → (∀ x ∈ rest.head?, x ≠ .mark .arrow) → 20 * t.tokens.length ≤ n + 1 →
    Grammar.argument n s =
      s.within (t.need + 1) (.ok (t.resolve s.names, s.move t.tokens.length 0))

theorem readsArgument_of_reads {t : Surface} (h : t.Reads 1) (hfits : t.Fits false 1) :
    t.ReadsArgument := by
  intro n s rest hknown hts hrest harrow hn
  have hpos := t.links_lt_length 0
  obtain ⟨n, rfl⟩ : ∃ k, n = k + 1 := ⟨n - 1, by omega⟩
  have hnone := parameters?_eq_none (Nat.le_refl 1) hfits hts harrow
  simp only [Grammar.argument, hnone]
  exact h n s rest hknown hts hrest (by omega)

theorem readsArgument_arrow {params : List String} {bare : Bool} {body : Surface}
    (h : body.Reads 1) : (arrow params bare body).ReadsArgument := by
  intro n s rest hknown hts hrest _ hn
  simp only [tokens, List.append_assoc, List.length_append] at hts hn
  have hpos := body.links_lt_length 0
  have hparam := length_paramTokens params bare
  obtain ⟨n, rfl⟩ : ∃ k, n = k + 2 := ⟨n - 2, by omega⟩
  have hparams := parameters?_paramTokens hts
  have hts₁ := State.tokens_move_append (l := 0) hts
  have hbody :
      Grammar.conditional n ((s.move (paramTokens params bare).length 0).push params) = _ :=
    h n _ rest hknown hts₁ hrest (by omega)
  have hpush : ({ s with
      rest := s.rest.drop (paramTokens params bare).length
      names := s.names ++ params } : State) =
      (s.move (paramTokens params bare).length 0).push params := rfl
  simp only [Grammar.argument, hparams, Grammar.lambda, hpush, hbody, State.within_bind,
    State.ok_bind, State.push_within, State.move_zero_within]
  simp [tokens, need, resolve, opens, State.push, State.move]

theorem items_eq {comma : Bool} {rest : List Token} : ∀ {ts : List Surface} {n : Nat} {s : State},
    ts ≠ [] → (∀ t ∈ ts, t.Reads 1 ∧ t.Fits false 1) → AllKnown s.names ts →
    s.tokens = listTokens ts ++ (endTokens comma ++ rest) → 20 * (listTokens ts).length ≤ n →
    Grammar.items n s = s.within (needAll ts)
      (.ok (resolveAll s.names ts, s.move ((listTokens ts).length + (endTokens comma).length) 0))
  | [], _, _, hne, _, _, _, _ => absurd rfl hne
  | [t], n, s, _, hall, hknown, hts, hn => by
    simp only [listTokens, moreTokens, List.append_nil] at hts hn
    have hpos := t.links_lt_length 0
    obtain ⟨n, rfl⟩ : ∃ k, n = k + 1 := ⟨n - 1, by omega⟩
    have hstop : Stops 1 (endTokens comma ++ rest) := by
      cases comma <;> simp [endTokens, stops_cons, joins]
    have hread : Grammar.conditional n s = _ :=
      (hall t (by simp)).1 n s _ hknown.1 hts hstop (by omega)
    have hts₁ := State.tokens_move_append (l := 0) hts
    cases comma with
    | false =>
      simp only [Grammar.items, hread, State.within_bind, State.ok_bind, State.eat?_cons hts₁]
      simp [opens, needAll, resolveAll, listTokens, moreTokens, endTokens]
    | true =>
      have hts₂ := State.tokens_move_cons (l := 0) hts₁
      have hnone : (s.move t.tokens.length 0).eat? .closeBracket = none :=
        State.eat?_cons_ne hts₁ (by simp)
      simp only [Grammar.items, hread, State.within_bind, State.ok_bind, hnone,
        State.expect_cons hts₁, State.eat?_cons hts₂]
      simp [opens, needAll, resolveAll, listTokens, moreTokens, endTokens]
  | t :: u :: us, n, s, _, hall, hknown, hts, hn => by
    rw [listTokens_cons_cons, List.append_assoc, List.cons_append] at hts
    rw [listTokens_cons_cons, List.length_append, List.length_cons] at hn
    have hpos := t.links_lt_length 0
    obtain ⟨n, rfl⟩ : ∃ k, n = k + 1 := ⟨n - 1, by omega⟩
    have hread : Grammar.conditional n s = _ :=
      (hall t (by simp)).1 n s _ hknown.1 hts (stops_cons.2 (by simp [joins])) (by omega)
    have hts₁ := State.tokens_move_append (l := 0) hts
    have hts₂ := State.tokens_move_cons (l := 0) hts₁
    obtain ⟨x, xs, hx, hstart⟩ := exists_tokens_eq_cons (Nat.le_refl 1) (hall u (by simp)).2
    have hnone₁ : (s.move t.tokens.length 0).eat? .closeBracket = none :=
      State.eat?_cons_ne hts₁ (by simp)
    have hnone₂ : ((s.move t.tokens.length 0).move 1 0).eat? .closeBracket = none := by
      simp only [listTokens, hx, List.cons_append] at hts₂
      exact State.eat?_cons_ne hts₂ (by rintro rfl; simp [IsStart] at hstart)
    have hrec : Grammar.items n ((s.move t.tokens.length 0).move 1 0) = _ :=
      items_eq (by simp) (fun v hv => hall v (.tail _ hv)) hknown.2 hts₂ (by omega)
    simp only [Grammar.items, hread, State.within_bind, State.ok_bind, hnone₁,
      State.expect_cons hts₁, hnone₂, hrec]
    simp [opens, needAll, resolveAll, listTokens_cons_cons, Nat.add_assoc, Nat.add_left_comm]

theorem argumentsFrom_eq {rest : List Token} : ∀ {ts : List Surface} {n : Nat} {s : State},
    ts ≠ [] → (∀ t ∈ ts, t.ReadsArgument) → AllKnown s.names ts →
    s.tokens = listTokens ts ++ .mark .closeParen :: rest → 20 * (listTokens ts).length ≤ n →
    Grammar.argumentsFrom n s = s.within (needAll ts)
      (.ok (resolveAll s.names ts, s.move ((listTokens ts).length + 1) 0))
  | [], _, _, hne, _, _, _, _ => absurd rfl hne
  | [t], n, s, _, hall, hknown, hts, hn => by
    simp only [listTokens, moreTokens, List.append_nil] at hts hn
    have hpos := t.links_lt_length 0
    obtain ⟨n, rfl⟩ : ∃ k, n = k + 1 := ⟨n - 1, by omega⟩
    have hread := hall t (by simp) n s _ hknown.1 hts (stops_cons.2 (by simp [joins])) (by simp)
      (by omega)
    have hts₁ := State.tokens_move_append (l := 0) hts
    simp only [Grammar.argumentsFrom, hread, State.within_bind, State.ok_bind,
      State.eat?_cons hts₁]
    simp [needAll, resolveAll, listTokens, moreTokens]
  | t :: u :: us, n, s, _, hall, hknown, hts, hn => by
    rw [listTokens_cons_cons, List.append_assoc, List.cons_append] at hts
    rw [listTokens_cons_cons, List.length_append, List.length_cons] at hn
    have hpos := t.links_lt_length 0
    obtain ⟨n, rfl⟩ : ∃ k, n = k + 1 := ⟨n - 1, by omega⟩
    have hread := hall t (by simp) n s _ hknown.1 hts (stops_cons.2 (by simp [joins])) (by simp)
      (by omega)
    have hts₁ := State.tokens_move_append (l := 0) hts
    have hts₂ := State.tokens_move_cons (l := 0) hts₁
    have hnone : (s.move t.tokens.length 0).eat? .closeParen = none :=
      State.eat?_cons_ne hts₁ (by simp)
    have hrec : Grammar.argumentsFrom n ((s.move t.tokens.length 0).move 1 0) = _ :=
      argumentsFrom_eq (by simp) (fun v hv => hall v (.tail _ hv)) hknown.2 hts₂ (by omega)
    simp only [Grammar.argumentsFrom, hread, State.within_bind, State.ok_bind, hnone,
      State.expect_cons hts₁, hrec]
    simp [needAll, resolveAll, listTokens_cons_cons, Nat.add_assoc, Nat.add_left_comm]

/-! ## Operands -/

/-- A tree is read by itself as an operand to which links may be added. -/
def ReadsPrimary (t : Surface) : Prop :=
  ∀ (n : Nat) (s : State) (rest : List Token), t.Known s.names → s.tokens = t.tokens ++ rest →
    20 * t.tokens.length ≤ n + 19 →
    Grammar.primary n s = s.within t.need (.ok (t.resolve s.names, s.move t.tokens.length 0))

theorem readsPrimary_number (x : Float) : (number x).ReadsPrimary := by
  intro n s rest _ hts hn
  obtain ⟨n, rfl⟩ : ∃ k, n = k + 1 := ⟨n - 1, by simp [tokens] at hn; omega⟩
  obtain ⟨c, qs, hs, -⟩ := exists_of_map_token hts
  simp [Grammar.primary, hs, need, resolve, tokens, State.move]

theorem readsPrimary_text (x : String) : (text x).ReadsPrimary := by
  intro n s rest _ hts hn
  obtain ⟨n, rfl⟩ : ∃ k, n = k + 1 := ⟨n - 1, by simp [tokens] at hn; omega⟩
  obtain ⟨c, qs, hs, -⟩ := exists_of_map_token hts
  simp [Grammar.primary, hs, need, resolve, tokens, State.move]

theorem readsPrimary_name (x : String) : (name x).ReadsPrimary := by
  intro n s rest hknown hts hn
  obtain ⟨n, rfl⟩ : ∃ k, n = k + 1 := ⟨n - 1, by simp [tokens] at hn; omega⟩
  obtain ⟨c, qs, hs, -⟩ := exists_of_map_token hts
  have hmeaning : Expr.resolve x s.names = .ok (meaning s.names x) := hknown
  simp [Grammar.primary, hs, hmeaning, need, resolve, tokens, State.move]

theorem readsPrimary_group {e : Surface} (h : e.Reads 1) : (group e).ReadsPrimary := by
  intro n s rest hknown hts hn
  simp only [tokens, List.length_cons, List.length_append, List.length_nil] at hn
  obtain ⟨n, rfl⟩ : ∃ k, n = k + 1 := ⟨n - 1, by omega⟩
  obtain ⟨c, qs, hs, hqs⟩ := exists_of_map_token hts
  have hts₁ : (s.move 1 0).tokens = e.tokens ++ .mark .closeParen :: rest := by
    simpa using State.tokens_move_cons (l := 0) hts
  have hread : Grammar.conditional n (s.move 1 0) = _ :=
    h n _ _ hknown hts₁ (stops_cons.2 (by simp [joins])) (by omega)
  have hts₂ := State.tokens_move_append (l := 0) hts₁
  have hmove : ({ s with rest := qs } : State) = s.move 1 0 := by simp [State.move, hs]
  simp only [Grammar.primary, hs, hmove, hread, State.within_bind, State.ok_bind,
    State.expect_cons hts₂]
  simp [need, resolve, tokens, opens, Nat.add_comm 1]

theorem readsPrimary_array {items : List Surface} {comma : Bool}
    (h : ∀ t ∈ items, t.Reads 1 ∧ t.Fits false 1) : (array items comma).ReadsPrimary := by
  intro n s rest hknown hts hn
  simp only [tokens, List.length_cons, List.length_append] at hn
  obtain ⟨n, rfl⟩ : ∃ k, n = k + 1 := ⟨n - 1, by omega⟩
  obtain ⟨c, qs, hs, hqs⟩ := exists_of_map_token hts
  have hmove : ({ s with rest := qs } : State) = s.move 1 0 := by simp [State.move, hs]
  cases items with
  | nil =>
    have hts₁ : (s.move 1 1).tokens = .mark .closeBracket :: rest := by
      simpa [listTokens, endTokens] using State.tokens_move_cons (l := 1) hts
    simp only [Grammar.primary, hs, hmove, State.enter_eq, State.within_bind, State.ok_bind,
      State.move_move, State.eat?_cons hts₁]
    simp [need, needAll, resolve, resolveAll, tokens, listTokens, endTokens]
  | cons t ts =>
    have hts₁ : (s.move 1 1).tokens = listTokens (t :: ts) ++ (endTokens comma ++ rest) := by
      simpa using State.tokens_move_cons (l := 1) hts
    obtain ⟨x, xs, hx, hstart⟩ := exists_tokens_eq_cons (Nat.le_refl 1) (h t (by simp)).2
    have hnone : (s.move 1 1).eat? .closeBracket = none := by
      have hcons := hts₁
      simp only [listTokens, hx, List.cons_append] at hcons
      exact State.eat?_cons_ne hcons (by rintro rfl; simp [IsStart] at hstart)
    have hitems : Grammar.items n (s.move 1 1) = _ :=
      items_eq (by simp) h hknown hts₁ (by omega)
    simp only [Grammar.primary, hs, hmove, State.enter_eq, State.within_bind, State.ok_bind,
      State.move_move, State.move_zero_within, hnone, hitems]
    rw [State.within_move_within (Nat.le_refl 1)]
    simp [need, resolve, tokens, Nat.add_comm 1]

/-! ## Links -/

/-- A chain of links that begins with a tree goes on behind it, with the levels of its links
open. -/
def Continues (t : Surface) : Prop :=
  ∀ (n : Nat) (s : State) (rest : List Token), t.Known s.names → s.tokens = t.tokens ++ rest →
    20 * t.tokens.length ≤ n + 18 →
    ∃ m, n = m + t.links 9 + 1 ∧ Grammar.postfixes n s =
      s.within t.need (Grammar.postfixesFrom m (t.resolve s.names) (t.links 9)
        (s.move t.tokens.length (t.links 9)))

theorem continues_of_readsPrimary {t : Surface} (h : t.ReadsPrimary) (hlinks : t.links 9 = 0) :
    t.Continues := by
  intro n s rest hknown hts hn
  have hpos := t.links_lt_length 0
  obtain ⟨m, rfl⟩ : ∃ m, n = m + 1 := ⟨n - 1, by omega⟩
  refine ⟨m, by rw [hlinks, Nat.add_zero], ?_⟩
  simp only [Grammar.postfixes, h m s rest hknown hts (by omega), State.within_bind,
    State.ok_bind, hlinks]

theorem startsLink_eq_false {s : State} (h : Stops 9 s.tokens) : startsLink s = false := by
  unfold startsLink
  rw [State.peek?_eq]
  split
  · next m hm =>
    have hj := h _ hm
    cases m <;> first | rfl | simp [joins] at hj
  · rfl

theorem startsLink_eq_true {s : State} {m : Mark} {ts : List Token}
    (hts : s.tokens = .mark m :: ts) (hm : joins (.mark m) = 9) : startsLink s = true := by
  unfold startsLink
  rw [State.peek?_eq, hts]
  cases m <;> first | rfl | simp [joins] at hm

theorem reads_of_continues {t : Surface} (h : t.Continues) : t.Reads 9 := by
  intro n s rest hknown hts hrest hn
  have hlinks := t.links_lt_length 9
  obtain ⟨m, hm, heq⟩ := h n s rest hknown hts hn
  obtain ⟨k, rfl⟩ : ∃ k, m = k + 1 := ⟨m - 1, by omega⟩
  have hend : startsLink (s.move t.tokens.length (t.links 9)) = false := by
    refine startsLink_eq_false ?_
    rwa [State.tokens_move_append hts]
  simp only [parseAt, heq, Grammar.postfixesFrom, hend, Bool.false_eq_true, if_false,
    State.leave_move, opens, Nat.reduceLeDiff, Nat.add_zero]

/-- A link is read behind a tree, with which it is the tree `t`. -/
def ReadsLink (base t : Surface) (ts : List Token) (k : Nat) : Prop :=
  ∀ (n : Nat) (s : State) (rest : List Token), t.Known s.names → s.tokens = ts ++ rest →
    20 * ts.length ≤ n →
    Grammar.link n (base.resolve s.names) s =
      s.within k (.ok (t.resolve s.names, s.move ts.length 0))

theorem Continues.link {base t : Surface} {ts : List Token} {m : Mark} {k : Nat}
    (h : base.Continues) (hknown : ∀ {names}, t.Known names → base.Known names)
    (htokens : t.tokens = base.tokens ++ .mark m :: ts) (hm : joins (.mark m) = 9)
    (hlinks : t.links 9 = base.links 9 + 1) (hneed : t.need = max base.need (base.links 9 + 1 + k))
    (hlink : ReadsLink base t (.mark m :: ts) k) : t.Continues := by
  intro n s rest hk hts hn
  rw [htokens, List.append_assoc] at hts
  rw [htokens, List.length_append, List.length_cons] at hn
  have hlt := base.links_lt_length 9
  have hle := base.links_le_need 9
  obtain ⟨i, hi, heq⟩ := h n s _ (hknown hk) hts (by omega)
  obtain ⟨j, rfl⟩ : ∃ j, i = j + 1 := ⟨i - 1, by omega⟩
  refine ⟨j, by omega, ?_⟩
  have hts₁ := State.tokens_move_append (l := base.links 9) hts
  have hts₂ : (s.move base.tokens.length (base.links 9 + 1)).tokens =
      (.mark m :: ts) ++ rest := by
    simpa using hts₁
  have hstep : Grammar.link j (base.resolve s.names)
      (s.move base.tokens.length (base.links 9 + 1)) = _ :=
    hlink j (s.move base.tokens.length (base.links 9 + 1)) rest hk hts₂
      (by rw [List.length_cons]; omega)
  have hmax : max (max base.need (base.links 9 + 1)) (base.links 9 + 1 + k) = t.need := by
    omega
  rw [heq]
  simp only [Grammar.postfixesFrom, startsLink_eq_true hts₁ hm, if_true, State.enter_eq,
    State.within_bind, State.ok_bind, State.move_move, Nat.add_zero, hstep]
  rw [State.within_move_within hle, State.within_move_within (by omega), hmax, hlinks, htokens,
    List.length_append]
  rfl

theorem readsLink_dot (object : Surface) (n : String) (optional : Bool) :
    ReadsLink object (dot object n optional)
      [.mark (if optional then .chain else .dot), .name n] 0 := by
  intro i s rest _ hts hi
  obtain ⟨i, rfl⟩ : ∃ j, i = j + 1 := ⟨i - 1, by simp at hi; omega⟩
  cases optional with
  | false =>
    have hts₀ : s.tokens = .mark .dot :: .name n :: rest := hts
    have hts₁ := State.tokens_move_cons (l := 0) hts₀
    simp only [Grammar.link, State.eat?_cons hts₀, propertyName_cons hts₁, State.ok_bind]
    simp [resolve]
  | true =>
    have hts₀ : s.tokens = .mark .chain :: .name n :: rest := hts
    have hts₁ := State.tokens_move_cons (l := 0) hts₀
    have hnone : s.eat? .dot = none := State.eat?_cons_ne hts₀ (by simp)
    simp only [Grammar.link, hnone, State.eat?_cons hts₀, State.peek?_eq, hts₁, List.head?_cons,
      propertyName_cons hts₁, State.ok_bind]
    simp [resolve]

/-- A member in brackets or a call is read behind a tree. -/
def ReadsTail (base t : Surface) (optional : Bool) (ts : List Token) (k : Nat) : Prop :=
  ∀ (n : Nat) (s : State) (rest : List Token), t.Known s.names → s.tokens = ts ++ rest →
    20 * ts.length ≤ n + 2 →
    Grammar.bracketOrCall n (base.resolve s.names) optional s =
      s.within k (.ok (t.resolve s.names, s.move ts.length 0))

theorem readsLink_of_readsTail {base t : Surface} {optional : Bool} {m : Mark} {ts : List Token}
    {k : Nat} (h : ReadsTail base t optional (.mark m :: ts) k)
    (hm : m = .openBracket ∨ m = .openParen) :
    ReadsLink base t (chainTokens optional ++ .mark m :: ts) k := by
  intro n s rest hknown hts hn
  simp only [List.length_append, List.length_cons] at hn
  obtain ⟨n, rfl⟩ : ∃ j, n = j + 1 := ⟨n - 1, by omega⟩
  cases optional with
  | false =>
    have hts₀ : s.tokens = .mark m :: (ts ++ rest) := hts
    have hdot : s.eat? .dot = none := State.eat?_cons_ne hts₀ (by rcases hm with rfl | rfl <;> simp)
    have hchain : s.eat? .chain = none :=
      State.eat?_cons_ne hts₀ (by rcases hm with rfl | rfl <;> simp)
    simp only [Grammar.link, hdot, hchain]
    exact h n s rest hknown hts (by rw [List.length_cons]; omega)
  | true =>
    have hts₀ : s.tokens = .mark .chain :: .mark m :: (ts ++ rest) := hts
    have hts₁ := State.tokens_move_cons (l := 0) hts₀
    have hdot : s.eat? .dot = none := State.eat?_cons_ne hts₀ (by simp)
    have htail : Grammar.bracketOrCall n (base.resolve s.names) true (s.move 1 0) = _ :=
      h n (s.move 1 0) rest hknown hts₁ (by rw [List.length_cons]; omega)
    have hlength : (chainTokens true ++ .mark m :: ts).length = 1 + (.mark m :: ts).length := by
      simp [chainTokens, Nat.add_comm]
    rcases hm with rfl | rfl <;>
      simp only [Grammar.link, hdot, State.eat?_cons hts₀, State.peek?_eq, hts₁, List.head?_cons,
        htail, hlength, State.move_zero_within, State.move_move, State.names_move]

theorem readsTail_item (object : Surface) {key : Surface} (optional : Bool) (h : key.Reads 1) :
    ReadsTail object (item object key optional) optional
      (.mark .openBracket :: (key.tokens ++ [.mark .closeBracket])) (key.need + 1) := by
  intro n s rest hknown hts hn
  simp only [List.length_append, List.length_cons, List.length_nil] at hn
  obtain ⟨n, rfl⟩ : ∃ j, n = j + 1 := ⟨n - 1, by omega⟩
  have hts₁ : (s.move 1 0).tokens = key.tokens ++ .mark .closeBracket :: rest := by
    simpa using State.tokens_move_cons (l := 0) hts
  have hts₂ := State.tokens_move_append (l := 0) hts₁
  have hread : Grammar.conditional n (s.move 1 0) = _ :=
    h n (s.move 1 0) _ hknown.2 hts₁ (stops_cons.2 (by simp [joins])) (by omega)
  simp only [Grammar.bracketOrCall, State.eat?_cons hts, hread, State.within_bind, State.ok_bind,
    State.expect_cons hts₂]
  simp [resolve, opens, Nat.add_comm 1]

theorem readsTail_call (callee : Surface) {args : List Surface} (optional : Bool)
    (h : ∀ t ∈ args, t.ReadsArgument ∧ t.Fits false 0) :
    ReadsTail callee (call callee args optional) optional
      (.mark .openParen :: (listTokens args ++ [.mark .closeParen])) (needAll args) := by
  intro n s rest hknown hts hn
  simp only [List.length_append, List.length_cons, List.length_nil] at hn
  obtain ⟨n, rfl⟩ : ∃ j, n = j + 2 := ⟨n - 2, by omega⟩
  have hts₁ : (s.move 1 0).tokens = listTokens args ++ .mark .closeParen :: rest := by
    simpa using State.tokens_move_cons (l := 0) hts
  have hbracket : s.eat? .openBracket = none := State.eat?_cons_ne hts (by simp)
  cases args with
  | nil =>
    simp only [Grammar.bracketOrCall, hbracket, State.expect_cons hts, State.ok_bind,
      Grammar.arguments, State.eat?_cons hts₁]
    simp [resolve, resolveAll, needAll, listTokens]
  | cons t ts =>
    obtain ⟨x, xs, hx, hstart⟩ := exists_argument_eq_cons (h t (by simp)).2
    have hnone : (s.move 1 0).eat? .closeParen = none := by
      have hcons := hts₁
      simp only [listTokens, hx, List.cons_append] at hcons
      exact State.eat?_cons_ne hcons (by rintro rfl; simp [IsStart] at hstart)
    have hargs : Grammar.argumentsFrom n (s.move 1 0) = _ :=
      argumentsFrom_eq (by simp) (fun t ht => (h t ht).1) hknown.2 hts₁ (by omega)
    simp only [Grammar.bracketOrCall, hbracket, State.expect_cons hts, State.ok_bind,
      Grammar.arguments, hnone, hargs, State.within_bind]
    simp [resolve, Nat.add_comm 1]

end Surface

end Logbook.Expr
