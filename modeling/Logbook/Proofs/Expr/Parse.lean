import Logbook.Proofs.Expr.Reads

/-!
# The grammar reads what fits

* `Surface.reads_unary`, `Surface.reads_conditional`: operators in front, and the conditional;
* `Surface.Readable`, `Surface.readable`: a tree that fits somewhere is read at the place of its own
  rank, and hence wherever it fits;
* **`parse_tokens`**: the tokens of a tree are read as the expression that it stands for.
-/

namespace Logbook.Expr

/-! ## Operators -/

theorem eatUnary?_cons {s : State} {op : UnaryOp} {ts : List Token}
    (h : s.tokens = op.token :: ts) : eatUnary? s = some (op, s.move 1 0) := by
  obtain ⟨c, qs, hs, -⟩ := exists_of_map_token h
  cases op <;> simp [eatUnary?, hs, UnaryOp.token, State.move]

theorem eatUnary?_none {s : State} {x : Token} {ts : List Token} (h : s.tokens = x :: ts)
    (hx : ∀ op : UnaryOp, x ≠ op.token) : eatUnary? s = none := by
  obtain ⟨c, qs, hs, -⟩ := exists_of_map_token h
  have hnot := hx .not
  have hneg := hx .neg
  have hplus := hx .plus
  have htypeOf := hx .typeOf
  simp only [UnaryOp.token] at hnot hneg hplus htypeOf
  simp [eatUnary?, hs, hnot, hneg, hplus, htypeOf]

namespace Surface

theorem exists_ne_unary_token : ∀ {t : Surface}, t.Fits false 9 →
    ∃ x ts, t.tokens = x :: ts ∧ ∀ op : UnaryOp, x ≠ op.token
  | number _, _ | text _, _ | array .., _ | group _, _ =>
    ⟨_, _, rfl, fun op => by cases op <;> simp [UnaryOp.token]⟩
  | name s, h => ⟨_, _, rfl, fun op => by cases op <;> simp [UnaryOp.token]; exact h⟩
  | dot object n optional, h => by
    obtain ⟨x, ts, hts, hx⟩ := exists_ne_unary_token (t := object) h
    exact ⟨x, _, by rw [tokens, hts, List.cons_append], hx⟩
  | item object key optional, h => by
    obtain ⟨x, ts, hts, hx⟩ := exists_ne_unary_token h.1
    exact ⟨x, _, by rw [tokens, hts, List.cons_append], hx⟩
  | call callee args optional, h => by
    obtain ⟨x, ts, hts, hx⟩ := exists_ne_unary_token h.1
    exact ⟨x, _, by rw [tokens, hts, List.cons_append], hx⟩
  | arrow .., h => absurd h.1 (by omega)
  | unary .., h => absurd h.1 (by omega)
  | joined op .., h => absurd h.1 (by
      have := op.rung.rank_le_seven
      rw [op.rank_rung] at this
      omega)
  | conditional .., h => absurd h.1 (by omega)

theorem reads_eight {t : Surface} (h : t.Reads 9) (hfits : t.Fits false 9) : t.Reads 8 := by
  intro n s rest hknown hts hrest hn
  have hpos := t.links_lt_length 0
  obtain ⟨n, rfl⟩ : ∃ k, n = k + 1 := ⟨n - 1, by omega⟩
  obtain ⟨x, ts, hx, hop⟩ := exists_ne_unary_token hfits
  have hnone : eatUnary? s = none := eatUnary?_none (by rw [hts, hx, List.cons_append]) hop
  have hread := h n s rest hknown hts (hrest.mono (by omega)) (by omega)
  simp only [parseAt, Grammar.unary, hnone]
  exact hread

theorem reads_unary {op : UnaryOp} {e : Surface} (h : e.Reads 8) : (unary op e).Reads 8 := by
  intro n s rest hknown hts hrest hn
  simp only [tokens, List.length_cons] at hn
  obtain ⟨n, rfl⟩ : ∃ k, n = k + 1 := ⟨n - 1, by omega⟩
  have hts₁ := State.tokens_move_cons (l := 1) hts
  have hread : Grammar.unary n (s.move 1 1) = _ :=
    h n (s.move 1 1) rest hknown hts₁ hrest (by omega)
  simp only [parseAt, Grammar.unary, eatUnary?_cons hts, State.enter_eq, State.within_bind,
    State.ok_bind, State.move_move, State.move_zero_within, Nat.add_zero, Nat.zero_add, hread]
  rw [State.within_move_within (Nat.le_refl 1)]
  simp [need, resolve, tokens, opens, Nat.add_comm 1]

theorem reads_one {t : Surface} (h : t.Reads 2) : t.Reads 1 := by
  intro n s rest hknown hts hrest hn
  have hpos := t.links_lt_length 0
  obtain ⟨n, rfl⟩ : ∃ k, n = k + 1 := ⟨n - 1, by omega⟩
  have hread : Grammar.logicalOr n (s.move 0 1) = _ :=
    h n (s.move 0 1) rest hknown hts (hrest.mono (by omega)) (by omega)
  have hts₁ := State.tokens_move_append (l := 1) hts
  have hnone : (s.move t.tokens.length 1).eat? .question = none := by
    refine State.eat?_none fun hq => ?_
    rw [hts₁] at hq
    exact absurd (hrest _ hq) (by simp [joins])
  simp only [parseAt, Grammar.conditional, State.enter_eq, State.within_bind, State.ok_bind, hread,
    State.move_move, Nat.zero_add, Nat.add_zero, hnone]
  rw [State.within_move_within (Nat.le_refl 1)]
  simp [opens, Nat.add_comm 1]

theorem reads_conditional {test yes no : Surface} (htest : test.Reads 2) (hyes : yes.Reads 1)
    (hno : no.Reads 1) : (conditional test yes no).Reads 1 := by
  intro n s rest hknown hts hrest hn
  simp only [tokens, List.append_assoc, List.cons_append] at hts
  simp only [tokens, List.length_append, List.length_cons] at hn
  obtain ⟨n, rfl⟩ : ∃ k, n = k + 1 := ⟨n - 1, by omega⟩
  have hread₁ : Grammar.logicalOr n (s.move 0 1) = _ :=
    htest n (s.move 0 1) _ hknown.1 hts (stops_cons.2 (by simp [joins])) (by omega)
  have hts₁ := State.tokens_move_append (l := 1) hts
  have hts₂ := State.tokens_move_cons (l := 0) hts₁
  rw [State.move_move] at hts₂
  have hread₂ : Grammar.conditional n (s.move (test.tokens.length + 1) 1) = _ :=
    hyes n (s.move (test.tokens.length + 1) 1) _ hknown.2.1 hts₂ (stops_cons.2 (by simp [joins]))
      (by omega)
  have hts₃ := State.tokens_move_append (l := 0) hts₂
  have hts₄ := State.tokens_move_cons (l := 0) hts₃
  simp only [State.move_move, Nat.add_zero] at hts₃ hts₄
  have hread₃ : Grammar.conditional n
      (s.move (test.tokens.length + 1 + yes.tokens.length + 1) 1) = _ :=
    hno n (s.move (test.tokens.length + 1 + yes.tokens.length + 1) 1) rest hknown.2.2 hts₄ hrest
      (by omega)
  simp only [parseAt, Grammar.conditional, State.enter_eq, State.within_bind, State.ok_bind, hread₁,
    State.move_move, Nat.zero_add, Nat.add_zero, State.eat?_cons hts₁, hread₂,
    State.expect_cons hts₃, hread₃]
  rw [State.within_move_within (Nat.le_refl 1), State.within_move_within (by omega),
    State.within_move_within (by omega)]
  have hneed : max (max (max 1 (1 + (test.need + opens 2))) (1 + (yes.need + opens 1)))
      (1 + (no.need + opens 1)) = (conditional test yes no).need + opens 1 := by
    have hone : opens 1 = 1 := rfl
    have htwo : opens 2 = 0 := rfl
    simp only [need, hone, htwo]
    omega
  have hlength : test.tokens.length + 1 + yes.tokens.length + 1 + no.tokens.length =
      (conditional test yes no).tokens.length := by
    simp only [tokens, List.length_append, List.length_cons]
    omega
  rw [hneed, hlength, State.leave_move]
  rfl

/-! ## Trees -/

theorem rank_le_nine (t : Surface) : t.rank ≤ 9 := by
  cases t with
  | joined op =>
    have hop := op.rung.rank_le_seven
    rw [op.rank_rung] at hop
    exact Nat.le_trans hop (by omega)
  | _ => simp [rank]

theorem le_rank_of_fits {t : Surface} {p : Nat} (h : t.Fits false p) (hp : p ≤ 9) :
    p ≤ t.rank := by
  cases t with
  | arrow => exact Nat.le_of_eq h.1
  | unary | joined | conditional => exact h.1
  | _ => exact hp

theorem fits_nine {t : Surface} {p : Nat} (h : t.Fits false p) (ht : t.rank = 9) :
    t.Fits false 9 := by
  cases t with
  | joined op =>
    have hop := op.rung.rank_le_seven
    rw [op.rank_rung] at hop
    simp only [rank] at ht
    omega
  | arrow | unary | conditional => simp [rank] at ht
  | group => exact ⟨fun htight => absurd htight Bool.false_ne_true, h.2⟩
  | _ => exact h

theorem links_eq_zero {t : Surface} {p : Nat} (h : p ≠ t.rank) : t.links p = 0 := by
  cases t with
  | dot | item | call | joined => exact if_neg h
  | _ => rfl

theorem Reads.step {t : Surface} {p i : Nat} (h : t.Reads (p + 1)) (hp : 1 ≤ p)
    (hrank : p + 1 ≤ t.rank) (hfits : t.Fits false i) : t.Reads p := by
  have hle := t.rank_le_nine
  by_cases hone : p = 1
  · subst hone
    exact reads_one h
  by_cases height : p = 8
  · subst height
    exact reads_eight h (fits_nine hfits (by omega))
  obtain ⟨ρ, rfl⟩ := Rung.exists_rank_eq (by omega : 2 ≤ p) (by omega)
  exact Rung.reads_of_opens (Rung.opens_of_reads h (links_eq_zero (by omega)))

theorem Reads.of_le {t : Surface} {p q i : Nat} (h : t.Reads q) (hp : 1 ≤ p) (hpq : p ≤ q)
    (hrank : q ≤ t.rank) (hfits : t.Fits false i) : t.Reads p := by
  obtain ⟨d, rfl⟩ := Nat.exists_eq_add_of_le hpq
  induction d with
  | zero => exact h
  | succ d ih =>
    have hpos : 1 ≤ p + d := by omega
    have hstep : t.Reads (p + d) := Reads.step h hpos hrank hfits
    exact ih hstep (by omega) (by omega)

/-- How a tree is read at the place of its own rank, and as an argument. -/
structure Readable (t : Surface) : Prop where
  reads : t.rank ≠ 0 → t.Reads t.rank
  opens : ∀ ρ : Rung, ρ.rank = t.rank → ρ.Opens t
  continues : t.rank = 9 → t.Continues
  argument : t.ReadsArgument

namespace Readable

variable {t : Surface} {p : Nat}

theorem reads_of_fits (h : t.Readable) (hfits : t.Fits false p) (hp : 1 ≤ p) (hp' : p ≤ 9) :
    t.Reads p := by
  have hrank := le_rank_of_fits hfits hp'
  exact (h.reads (by omega)).of_le hp hrank (Nat.le_refl _) hfits

theorem opens_of_fits {ρ : Rung} (h : t.Readable) (hfits : t.Fits false ρ.rank) : ρ.Opens t := by
  have hseven := ρ.rank_le_seven
  have hrank := le_rank_of_fits hfits (by omega)
  by_cases heq : ρ.rank = t.rank
  · exact h.opens ρ heq
  · have hreads := (h.reads (by omega)).of_le (by omega : 1 ≤ ρ.rank + 1) (by omega)
      (Nat.le_refl _) hfits
    exact Rung.opens_of_reads hreads (links_eq_zero heq)

theorem continues_of_fits (h : t.Readable) (hfits : t.Fits false 9) : t.Continues :=
  h.continues (Nat.le_antisymm t.rank_le_nine (le_rank_of_fits hfits (Nat.le_refl 9)))

theorem of_reads (hfits : t.Fits false p) (hrank : t.rank ≠ 0) (h : t.Reads t.rank)
    (hopens : ∀ ρ : Rung, ρ.rank = t.rank → ρ.Opens t) (hcontinues : t.rank = 9 → t.Continues) :
    t.Readable where
  reads _ := h
  opens := hopens
  continues := hcontinues
  argument := readsArgument_of_reads (h.of_le (Nat.le_refl 1) (by omega) (Nat.le_refl _) hfits)
    (fits_one hfits hrank)

theorem of_continues (hfits : t.Fits false p) (hrank : t.rank = 9) (h : t.Continues) :
    t.Readable := by
  refine of_reads hfits (by omega) (hrank ▸ reads_of_continues h) (fun ρ hρ => ?_) fun _ => h
  have hseven := ρ.rank_le_seven
  omega

theorem of_primary (hfits : t.Fits false p) (hrank : t.rank = 9) (h : t.ReadsPrimary)
    (hlinks : t.links 9 = 0) : t.Readable :=
  of_continues hfits hrank (continues_of_readsPrimary h hlinks)

end Readable

mutual

theorem readable : ∀ {t : Surface} {p : Nat}, t.Fits false p → t.Readable
  | number x, _, h => .of_primary h rfl (readsPrimary_number x) rfl
  | text s, _, h => .of_primary h rfl (readsPrimary_text s) rfl
  | name s, _, h => .of_primary h rfl (readsPrimary_name s) rfl
  | array items comma, _, h => by
    refine .of_primary h rfl (readsPrimary_array fun t ht => ?_) rfl
    obtain ⟨ih, hfits⟩ := readableAll h t ht
    exact ⟨ih.reads_of_fits hfits (Nat.le_refl 1) (by omega), hfits⟩
  | group e, _, h => by
    have ih := (readable h.2).reads_of_fits h.2 (Nat.le_refl 1) (by omega)
    exact .of_primary h rfl (readsPrimary_group ih) rfl
  | dot object n optional, _, h => by
    have hfits : object.Fits false 9 := h
    have hobject := (readable hfits).continues_of_fits hfits
    exact .of_continues h rfl (hobject.link id rfl (by cases optional <;> rfl) rfl rfl
      (readsLink_dot object n optional))
  | item object key optional, _, h => by
    have hobject := (readable h.1).continues_of_fits h.1
    have hkey := (readable h.2).reads_of_fits h.2 (Nat.le_refl 1) (by omega)
    have hlink := readsLink_of_readsTail (readsTail_item object optional hkey) (.inl rfl)
    refine .of_continues h rfl ?_
    cases optional <;> exact hobject.link And.left rfl rfl rfl (by simp only [need]; omega) hlink
  | call callee args optional, _, h => by
    have hcallee := (readable h.1).continues_of_fits h.1
    have hlink := readsLink_of_readsTail (readsTail_call callee optional fun t ht =>
      ⟨(readableAll h.2 t ht).1.argument, (readableAll h.2 t ht).2⟩) (.inr rfl)
    refine .of_continues h rfl ?_
    cases optional <;> exact hcallee.link And.left rfl rfl rfl (by simp only [need]; omega) hlink
  | arrow params bare body, _, h => by
    have hbody := (readable h.2).reads_of_fits h.2 (Nat.le_refl 1) (by omega)
    exact {
      reads := fun hrank => absurd rfl hrank
      opens := fun ρ hρ => absurd ρ.two_le_rank (by rw [hρ]; simp [rank])
      continues := nofun
      argument := readsArgument_arrow hbody }
  | unary op e, _, h => by
    have he := (readable h.2).reads_of_fits h.2 (by omega) (by omega)
    exact .of_reads h (by simp [rank]) (reads_unary he)
      (fun ρ hρ => absurd ρ.rank_le_seven (by rw [hρ]; simp [rank])) nofun
  | joined op left right, _, h => by
    have hop := op.rank_rung
    have htwo := op.rung.two_le_rank
    have hseven := op.rung.rank_le_seven
    have hleft : op.rung.Opens left := (readable h.2.1).opens_of_fits (by rw [hop]; exact h.2.1)
    have hright := (readable h.2.2).reads_of_fits h.2.2 (by omega) (by omega)
    have hopens := Rung.opens_joined hleft hright
    refine .of_reads h (by simp only [rank]; omega) ?_ (fun ρ hρ => ?_) fun hnine => ?_
    · have hreads := Rung.reads_of_opens hopens
      rwa [hop] at hreads
    · obtain rfl : ρ = op.rung := Rung.rank_injective (hρ.trans hop.symm)
      exact hopens
    · simp only [rank] at hnine
      omega
  | conditional test yes no, _, h => by
    have htest := (readable h.2.1).reads_of_fits h.2.1 (by omega) (by omega)
    have hyes := (readable h.2.2.1).reads_of_fits h.2.2.1 (by omega) (by omega)
    have hno := (readable h.2.2.2).reads_of_fits h.2.2.2 (by omega) (by omega)
    exact .of_reads h (by simp [rank]) (reads_conditional htest hyes hno)
      (fun ρ hρ => absurd ρ.two_le_rank (by rw [hρ]; simp [rank])) nofun

theorem readableAll : ∀ {ts : List Surface} {p : Nat}, FitAll false p ts →
    ∀ t ∈ ts, t.Readable ∧ t.Fits false p
  | [], _, _ => nofun
  | _ :: _, _, h => List.forall_mem_cons.2 ⟨⟨readable h.1, h.1⟩, readableAll h.2⟩

end

end Surface

/-- **The tokens of a tree that fits are read as the expression that it stands for**, unless that
needs too many levels. -/
theorem parse_tokens {t : Surface} {ps : List Placed} (hfits : t.Fits false 1) (hknown : t.Known [])
    (h : ps.map Placed.token = t.tokens) :
    parse ps = if t.need < maxDepth then .ok (t.resolve []) else .error .tooDeep := by
  have hread := (Surface.readable hfits).reads_of_fits hfits (Nat.le_refl 1) (by omega)
  have hlength : ps.length = t.tokens.length := by rw [← h, List.length_map]
  have hts : (State.initial ps).tokens = t.tokens ++ [] := by
    rw [List.append_nil]
    exact h
  have hcond : Grammar.conditional (callsFor ps.length) (State.initial ps) = _ :=
    hread (callsFor ps.length) (State.initial ps) [] hknown hts (stops_nil 1)
      (by rw [callsFor]; omega)
  have hrest : ((State.initial ps).move t.tokens.length 0).rest = [] := by
    simp [State.move, State.initial, hlength]
  simp only [parse, hcond, State.within_bind, State.ok_bind, hrest, List.isEmpty_nil, if_true]
  have hopens : opens 1 = 1 := rfl
  have hdepth : (State.initial ps).depth = 0 := rfl
  unfold State.within
  by_cases hneed : t.need < maxDepth
  · rw [if_pos hneed, if_pos (.inr (by omega))]
    rfl
  · rw [if_neg hneed, if_neg (by omega)]

end Logbook.Expr
