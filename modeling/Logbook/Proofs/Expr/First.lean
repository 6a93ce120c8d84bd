import Logbook.Proofs.Expr.Steps

/-!
# First tokens

* `Surface.HasFirst`: what the tokens of a tree begin with;
* `Surface.exists_tokens_eq_cons`: the first token of a tree is one that an expression may begin
  with;
* `parameters?_paramTokens`, `of_parameters?`, `parameters?_eq_none`: parameters are found where
  they stand, and only there.
-/

namespace Logbook.Expr

namespace Surface

/-! ## First tokens -/

/-- A tree on which nothing has been joined: what a longer tree begins with. -/
def IsFirst : Surface → Prop
  | number _ | text _ | name _ | array .. | group _ | unary .. => True
  | _ => False

/-- Some tokens begin with a tree on which nothing has been joined, and go on with a link or an
operator. -/
def HasFirst (ts : List Token) : Prop :=
  ∃ (f : Surface) (more : List Token), ts = f.tokens ++ more ∧ f.IsFirst ∧ f.Fits false 1 ∧
    ∀ x ∈ more.head?, joins x ≠ 0

theorem HasFirst.append {ts ys : List Token} {x : Token} (h : HasFirst ts) (hx : joins x ≠ 0) :
    HasFirst (ts ++ x :: ys) := by
  obtain ⟨f, more, rfl, hf, hfits, hm⟩ := h
  refine ⟨f, more ++ x :: ys, by simp, hf, hfits, ?_⟩
  cases more <;> simp_all

theorem hasFirst_self {t : Surface} (h : t.IsFirst) (hfits : t.Fits false 1) :
    HasFirst t.tokens := ⟨t, [], by simp, h, hfits, by simp⟩

theorem hasFirst_tokens : ∀ {t : Surface} {p : Nat}, 1 ≤ p → t.Fits false p → HasFirst t.tokens
  | number _, _, _, h | text _, _, _, h | name _, _, _, h | array .., _, _, h =>
    hasFirst_self trivial h
  | group _, _, _, h => hasFirst_self trivial ⟨nofun, h.2⟩
  | unary .., _, _, h => hasFirst_self trivial ⟨by omega, h.2⟩
  | dot object _ optional, _, _, h => by
    have ih : HasFirst object.tokens := hasFirst_tokens (by omega : 1 ≤ 9) h
    exact ih.append (by cases optional <;> simp [joins])
  | item object key optional, _, _, h => by
    have ih : HasFirst object.tokens := hasFirst_tokens (by omega : 1 ≤ 9) h.1
    cases optional <;> exact ih.append (by simp [joins])
  | call callee args optional, _, _, h => by
    have ih : HasFirst callee.tokens := hasFirst_tokens (by omega : 1 ≤ 9) h.1
    cases optional <;> exact ih.append (by simp [joins])
  | arrow .., _, hp, h => absurd h.1 (by omega)
  | joined op left _, _, hp, h => by
    have hop : 1 ≤ op.rank := Nat.le_trans hp h.1
    have ih : HasFirst left.tokens := hasFirst_tokens hop h.2.1
    exact ih.append (by rw [joins_mark]; omega)
  | conditional test _ _, _, _, h => by
    have ih : HasFirst test.tokens := hasFirst_tokens (by omega : 1 ≤ 2) h.2.1
    exact ih.append (by simp [joins])

/-- A token that an expression may begin with. -/
def IsStart : Token → Prop
  | .number _ | .text _ | .name _ => True
  | .mark m => m = .openBracket ∨ m = .openParen ∨ m = .not ∨ m = .minus ∨ m = .plus

theorem exists_tokens_eq_cons {t : Surface} {p : Nat} (hp : 1 ≤ p) (h : t.Fits false p) :
    ∃ x ts, t.tokens = x :: ts ∧ IsStart x := by
  obtain ⟨f, more, hts, hf, -, -⟩ := hasFirst_tokens hp h
  rw [hts]
  cases f with
  | number | text | name => exact ⟨_, _, rfl, trivial⟩
  | array | group => exact ⟨_, _, rfl, by simp [IsStart]⟩
  | unary op => exact ⟨_, _, rfl, by cases op <;> simp [IsStart, UnaryOp.token]⟩
  | _ => exact hf.elim

theorem fits_one {t : Surface} {p : Nat} (h : t.Fits false p) (ht : t.rank ≠ 0) :
    t.Fits false 1 := by
  cases t with
  | arrow => exact absurd rfl ht
  | unary => exact ⟨by omega, h.2⟩
  | joined op =>
    have hop := op.rung.two_le_rank
    rw [op.rank_rung] at hop
    exact ⟨by omega, h.2⟩
  | conditional => exact ⟨Nat.le_refl 1, h.2⟩
  | group => exact ⟨nofun, h.2⟩
  | _ => exact h

theorem exists_argument_eq_cons {t : Surface} (h : t.Fits false 0) :
    ∃ x ts, t.tokens = x :: ts ∧ IsStart x := by
  by_cases ht : t.rank = 0
  · cases t with
    | arrow =>
      simp only [tokens, paramTokens]
      split
      · exact ⟨_, _, rfl, trivial⟩
      · exact ⟨_, _, rfl, by simp [IsStart]⟩
    | joined op =>
      have hop := op.rung.two_le_rank
      rw [op.rank_rung] at hop
      exact absurd ht (by simp only [rank]; omega)
    | _ => simp [rank] at ht
  · exact exists_tokens_eq_cons (Nat.le_refl 1) (fits_one h ht)

/-- Behind a name at the start of a tree, the tree goes on or has an operand. -/
theorem joins_or_isStart_of_name {t : Surface} {p : Nat} (hp : 1 ≤ p) (h : t.Fits false p)
    {n : String} {ys : List Token} (hts : t.tokens = .name n :: ys) :
    ∀ y ∈ ys.head?, joins y ≠ 0 ∨ IsStart y := by
  obtain ⟨f, more, hmore, hf, hfits, hm⟩ := hasFirst_tokens hp h
  rw [hts] at hmore
  cases f with
  | name =>
    obtain ⟨rfl, rfl⟩ := by simpa [tokens] using hmore
    exact fun y hy => .inl (hm y hy)
  | unary op e =>
    obtain ⟨x, xs, hx, hstart⟩ := exists_tokens_eq_cons (by omega : 1 ≤ 8) hfits.2
    obtain ⟨-, rfl⟩ : _ ∧ ys = e.tokens ++ more := by simpa [tokens] using hmore
    simp [hx, hstart]
  | number | text | array | group => simp [tokens] at hmore
  | _ => exact hf.elim

end Surface

/-! ## Parameters of arrow functions -/

section Parameters

open Surface

variable {ns : List String} {bare : Bool} {ps more : List Placed} {rest : List Token}

theorem exists_nameTokens_cons (x : String) (more : List String) :
    ∃ tail, nameTokens (x :: more) = .name x :: tail := by
  cases more <;> exact ⟨_, rfl⟩

theorem parametersFrom_nameTokens : ∀ {ns : List String} {ps : List Placed}, ns ≠ [] →
    ps.map Placed.token = nameTokens ns ++ .mark .closeParen :: .mark .arrow :: rest →
    parametersFrom ps = some (ns, ps.drop ((nameTokens ns).length + 2))
  | [], _, hns, _ => absurd rfl hns
  | [x], _, _, h => by
    obtain ⟨_, _, rfl, h₁⟩ := exists_of_map_token h
    obtain ⟨_, _, rfl, h₂⟩ := exists_of_map_token h₁
    obtain ⟨_, _, rfl, -⟩ := exists_of_map_token h₂
    simp [parametersFrom, nameTokens]
  | x :: y :: more, _, _, h => by
    obtain ⟨_, _, rfl, h₁⟩ := exists_of_map_token h
    obtain ⟨_, _, rfl, h₂⟩ := exists_of_map_token h₁
    have ih := parametersFrom_nameTokens (by simp) h₂
    simp [parametersFrom, nameTokens, ih]

theorem parameters?_paramTokens (h : ps.map Placed.token = paramTokens ns bare ++ rest) :
    parameters? ps = some (ns, ps.drop (paramTokens ns bare).length) := by
  unfold paramTokens at h ⊢
  split at h
  · obtain ⟨_, _, rfl, h₁⟩ := exists_of_map_token h
    obtain ⟨_, _, rfl, -⟩ := exists_of_map_token h₁
    simp [parameters?]
  · obtain ⟨_, _, rfl, h₁⟩ := exists_of_map_token h
    cases ns with
    | nil =>
      obtain ⟨_, _, rfl, h₂⟩ := exists_of_map_token h₁
      obtain ⟨_, _, rfl, -⟩ := exists_of_map_token h₂
      simp [parameters?, nameTokens]
    | cons x more =>
      have hfrom := parametersFrom_nameTokens (by simp) (h₁.trans (List.append_assoc ..))
      obtain ⟨tail, htail⟩ := exists_nameTokens_cons x more
      rw [htail] at h₁
      obtain ⟨_, _, rfl, -⟩ := exists_of_map_token h₁
      simp [parameters?, hfrom]

theorem of_parametersFrom (h : parametersFrom ps = some (ns, more)) :
    ns ≠ [] ∧ ps.map Placed.token =
      nameTokens ns ++ .mark .closeParen :: .mark .arrow :: more.map Placed.token := by
  fun_induction parametersFrom ps generalizing ns more with
  | case1 n _ _ rest ih =>
    obtain ⟨⟨ns', more'⟩, hr, h⟩ := Option.map_eq_some_iff.1 h
    obtain ⟨rfl, rfl⟩ := by simpa using h
    obtain ⟨hns, ih⟩ := ih hr
    refine ⟨by simp, ?_⟩
    cases ns' with
    | nil => exact absurd rfl hns
    | cons => simp [nameTokens, ih]
  | case2 =>
    obtain ⟨rfl, rfl⟩ := by simpa using h
    simp [nameTokens]
  | case3 => simp at h

theorem of_parameters? (h : parameters? ps = some (ns, more)) :
    ∃ bare, ps.map Placed.token = paramTokens ns bare ++ more.map Placed.token := by
  unfold parameters? at h
  split at h
  · obtain ⟨rfl, rfl⟩ := by simpa using h
    exact ⟨true, by simp [paramTokens]⟩
  · obtain ⟨rfl, rfl⟩ := by simpa using h
    exact ⟨false, by simp [paramTokens, nameTokens]⟩
  · obtain ⟨-, h⟩ := of_parametersFrom h
    exact ⟨false, by simp [paramTokens, h]⟩
  · simp at h

/-- Behind a tree that is no more than a name comes what is behind its only token. -/
theorem head_of_tokens_eq_name {t : Surface} {p : Nat} (hp : 1 ≤ p) (hfits : t.Fits false p)
    {n : String} {y : Token} {ys : List Token} (h : t.tokens ++ rest = .name n :: y :: ys)
    (hy : joins y = 0) (hstart : ¬IsStart y) : rest = y :: ys := by
  obtain ⟨x, xs, hxs, -⟩ := exists_tokens_eq_cons hp hfits
  obtain ⟨rfl, h⟩ : x = .name n ∧ xs ++ rest = y :: ys := by simpa [hxs] using h
  cases xs with
  | nil => exact h
  | cons z zs =>
    obtain ⟨rfl, -⟩ : z = y ∧ _ := by simpa using h
    rcases joins_or_isStart_of_name hp hfits hxs z rfl with hz | hz
    · exact absurd hy hz
    · exact absurd hz hstart

/-- What stands in parentheses in front of something else than an arrow is no list of names. -/
theorem tokens_ne_nameTokens {e : Surface} {tail xs : List Token} (hfits : e.Fits false 1)
    (htail : ∀ x ∈ tail.head?, x ≠ .mark .arrow) :
    e.tokens ++ .mark .closeParen :: tail ≠
      nameTokens ns ++ .mark .closeParen :: .mark .arrow :: xs := by
  intro h
  match ns with
  | [] =>
    obtain ⟨y, ys, hys, hstart⟩ := exists_tokens_eq_cons (Nat.le_refl 1) hfits
    obtain ⟨rfl, -⟩ : y = .mark .closeParen ∧ _ := by simpa [hys, nameTokens] using h
    simp [IsStart] at hstart
  | [x] =>
    have := head_of_tokens_eq_name (Nat.le_refl 1) hfits h rfl (by simp [IsStart])
    obtain ⟨-, rfl⟩ := List.cons.inj this
    exact htail _ rfl rfl
  | x :: y :: more =>
    have := head_of_tokens_eq_name (Nat.le_refl 1) hfits h rfl (by simp [IsStart])
    simp at this

/-- No parameters come next where an expression does that no arrow follows. -/
theorem parameters?_eq_none {t : Surface} {p : Nat} (hp : 1 ≤ p) (hfits : t.Fits false p)
    (h : ps.map Placed.token = t.tokens ++ rest) (hrest : ∀ x ∈ rest.head?, x ≠ .mark .arrow) :
    parameters? ps = none := by
  refine Option.eq_none_iff_forall_not_mem.2 fun ⟨ns, more⟩ hsome => ?_
  obtain ⟨bare, hps⟩ := of_parameters? hsome
  rw [h] at hps
  unfold paramTokens at hps
  split at hps
  · have := head_of_tokens_eq_name hp hfits hps rfl (by simp [IsStart])
    exact hrest _ (by rw [this]; rfl) rfl
  · obtain ⟨f, fmore, hf, hfirst, hffits, hm⟩ := hasFirst_tokens hp hfits
    have htail : ∀ x ∈ (fmore ++ rest).head?, x ≠ .mark .arrow := by
      cases fmore with
      | nil => exact hrest
      | cons y ys =>
        rintro x hx rfl
        exact hm _ hx rfl
    rw [hf] at hps
    cases f with
    | group e =>
      have heq : e.tokens ++ .mark .closeParen :: (fmore ++ rest) =
          nameTokens ns ++ .mark .closeParen :: .mark .arrow :: more.map Placed.token := by
        simpa [tokens] using hps
      exact tokens_ne_nameTokens hffits.2 htail heq
    | unary op => cases op <;> simp [tokens, UnaryOp.token] at hps
    | number | text | name | array => simp [tokens] at hps
    | _ => exact hfirst.elim

end Parameters

end Logbook.Expr
