import Mathlib.Order.Bounds.Basic
import Logbook.Proofs.Expr.ByName
import Logbook.Proofs.Expr.Language

/-!
# The height of expressions

The levels that are open while a chain of links or operators is read are closed at its end, and what
goes on behind it opens them once more. So the limit on levels bounds the height of a tree, but not
by the number of levels.

* `tallest`: the height of the highest tree that needs so many levels;
* `Surface.Low`, `Surface.low_resolve`: no tree is higher;
* `Surface.Stands`, `exists_stands`: one tree is as high, each of its chains as long as the levels
  allow and behind all that came before;
* `isGreatest_tallest`: so it is the greatest height that trees of so many levels have;
* **`height_compile`**: the texts that are too deep, those whose trees are too high all the same,
  and the height of the highest tree.
-/

namespace Logbook.Expr

/-! ## The bound -/

/-- The height of the highest tree that needs `n` levels. -/
def tallest : Nat → Nat
  | 0 => 1
  | n + 1 => tallest n + 7 * (n + 1) + 1

/-- The height of the highest operand that needs `n` levels without links: a leaf, or a tree in
parentheses. -/
def tallestOperand : Nat → Nat
  | 0 => 1
  | n + 1 => tallest n

theorem tallest_lt_succ (n : Nat) : tallest n < tallest (n + 1) := by
  rw [tallest]
  omega

theorem tallest_mono {m n : Nat} (h : m ≤ n) : tallest m ≤ tallest n := by
  induction h with
  | refl => exact Nat.le_refl _
  | step _ ih => exact Nat.le_trans ih (Nat.le_of_lt (tallest_lt_succ _))

theorem tallest_le_tallestOperand {m n : Nat} (h : m < n) : tallest m ≤ tallestOperand n := by
  obtain ⟨k, rfl⟩ := Nat.exists_eq_succ_of_ne_zero (Nat.ne_zero_of_lt h)
  exact tallest_mono (Nat.le_of_lt_succ h)

theorem one_le_tallestOperand (n : Nat) : 1 ≤ tallestOperand n := by
  cases n with
  | zero => exact Nat.le_refl 1
  | succ n => exact tallest_mono (Nat.zero_le n)

theorem tallestOperand_mono {m n : Nat} (h : m ≤ n) : tallestOperand m ≤ tallestOperand n := by
  cases m with
  | zero => exact one_le_tallestOperand n
  | succ m => exact tallest_le_tallestOperand h

/-- Above an operand there are seven kinds of chains, and a conditional if there are levels. -/
theorem tallest_eq {n : Nat} (h : 0 < n) : tallest n = tallestOperand n + 7 * n + 1 := by
  obtain ⟨k, rfl⟩ := Nat.exists_eq_succ_of_ne_zero (Nat.ne_zero_of_lt h)
  rfl

theorem tallestOperand_add_le (n : Nat) : tallestOperand n + 7 * n ≤ tallest n := by
  cases n with
  | zero => exact Nat.le_refl 1
  | succ n => exact Nat.le_succ _

/-! ## Trees are low -/

theorem height_meaning (names : List String) (n : String) :
    (Surface.meaning names n).height = 1 := by
  rcases hslot : slotOf? n names with _ | k
  · rw [meaning_of_free hslot]
    obtain ⟨v, h⟩ | ⟨f, h⟩ | ⟨l, h⟩ | ⟨c, h⟩ := meaning_nil_cases n <;> rw [h, height]
  · rw [meaning_of_slot hslot, height]

theorem height_build (op : Joint) (a b : Expr) :
    (op.build a b).height = max a.height b.height + 1 := by
  cases op <;> rw [Joint.build, height]

theorem one_le_height (e : Expr) : 1 ≤ e.height := by
  cases e <;> simp [height]

theorem Joint.exists_rank_eq {p : Nat} (h : 2 ≤ p) (h' : p ≤ 7) : ∃ op : Joint, op.rank = p := by
  match p with
  | 2 => exact ⟨.logical .or, rfl⟩
  | 3 => exact ⟨.logical .and, rfl⟩
  | 4 => exact ⟨.binary .eq, rfl⟩
  | 5 => exact ⟨.binary .lt, rfl⟩
  | 6 => exact ⟨.binary .add, rfl⟩
  | 7 => exact ⟨.binary .mul, rfl⟩

namespace Surface

/-- The height `h` is at most what the levels allow that a tree needs: as a whole, as an argument,
at a place of rank `p`, and with the links of its own chain. -/
structure Low (t : Surface) (h : Nat) : Prop where
  whole : t.rank ≠ 0 → h ≤ tallest t.need
  argument : h ≤ tallest t.need + 1
  place : ∀ p, 2 ≤ p → p ≤ 8 → p ≤ t.rank → h ≤ tallestOperand t.need + (9 - p) * t.need
  chain : 2 ≤ t.rank → t.rank ≠ 8 →
    h ≤ tallestOperand t.need + (8 - t.rank) * t.need + t.links t.rank

namespace Low

variable {t : Surface} {h p : Nat}

theorem of_loose (hrank : t.rank ≤ 1) (hwhole : t.rank ≠ 0 → h ≤ tallest t.need)
    (hargument : h ≤ tallest t.need + 1) : t.Low h :=
  ⟨hwhole, hargument, fun p hp _ hp' => by omega, fun htwo _ => by omega⟩

theorem of_place (hrank : 2 ≤ t.rank) (hplace : ∀ p, 2 ≤ p → p ≤ 8 → p ≤ t.rank →
    h ≤ tallestOperand t.need + (9 - p) * t.need) (hchain : 2 ≤ t.rank → t.rank ≠ 8 →
    h ≤ tallestOperand t.need + (8 - t.rank) * t.need + t.links t.rank) : t.Low h := by
  have htwo := hplace 2 (Nat.le_refl 2) (by omega) hrank
  have hwhole : h ≤ tallest t.need := Nat.le_trans htwo (tallestOperand_add_le t.need)
  exact ⟨fun _ => hwhole, Nat.le_succ_of_le hwhole, hplace, hchain⟩

theorem of_chain (hrank : 2 ≤ t.rank)
    (hchain : h ≤ tallestOperand t.need + (8 - t.rank) * t.need + t.links t.rank) : t.Low h := by
  refine of_place hrank (fun p hp hp' hpr => ?_) fun _ _ => hchain
  have hlinks := t.links_le_need t.rank
  have hmul : (8 - t.rank) * t.need + t.need ≤ (9 - p) * t.need := by
    rw [← Nat.succ_mul]
    exact Nat.mul_le_mul_right _ (by omega)
  omega

theorem of_leaf (hrank : t.rank = 9) : t.Low 1 := by
  have hone := one_le_tallestOperand t.need
  exact of_chain (by omega) (by omega)

/-- The operand of an operator of rank `r`. -/
theorem under {o : Surface} {a r : Nat} (ho : o.Low a) (htwo : 2 ≤ r) (hseven : r ≤ 7)
    (hrank : r ≤ o.rank) (hneed : o.need ≤ t.need) :
    a ≤ tallestOperand t.need + (8 - r) * t.need + o.links r := by
  have hmono := tallestOperand_mono hneed
  have hmul : (8 - r) * o.need ≤ (8 - r) * t.need := Nat.mul_le_mul_left _ hneed
  obtain heq | hlt := Nat.eq_or_lt_of_le hrank
  · have ha := ho.chain (by omega) (by omega)
    rw [← heq] at ha
    omega
  · have ha := ho.place (r + 1) (by omega) (by omega) hlt
    rw [Nat.add_sub_add_right 8 1 r] at ha
    omega

/-- What is written with one more link behind a tree, whose height is `a`, and with something at the
link, whose height is `b`. -/
theorem link {o : Surface} {a b : Nat} (hrank : t.rank = 9) (ho : o.Low a) (horank : o.rank = 9)
    (hneed : o.need ≤ t.need) (hlinks : t.links 9 = o.links 9 + 1)
    (hb : b ≤ tallestOperand t.need) : t.Low (max a b + 1) := by
  have ha := ho.chain (by omega) (by omega)
  have hmono := tallestOperand_mono hneed
  rw [horank] at ha
  refine of_chain (by omega) ?_
  rw [hrank, hlinks]
  omega

end Low

mutual

/-- **No tree is higher than its levels allow.** -/
theorem low_resolve (names : List String) : ∀ {t : Surface} {p : Nat}, t.Fits false p →
    t.Low (t.resolve names).height
  | number _, _, _ | text _, _, _ => Low.of_leaf rfl
  | name n, _, _ => by
    rw [resolve, height_meaning]
    exact Low.of_leaf rfl
  | array items _, _, h => by
    have hitems := (heightList_resolveAll names h).2 rfl
    refine Low.of_chain (by simp [rank]) ?_
    simp only [resolve, height, need, rank, tallestOperand]
    omega
  | group e, _, h => by
    have hrank := le_rank_of_fits h.2 (by omega)
    have he := (low_resolve names h.2).whole (by omega)
    refine Low.of_chain (by simp [rank]) ?_
    simp only [resolve, need, rank, tallestOperand]
    omega
  | dot object n optional, _, h => by
    have hfits : object.Fits false 9 := h
    have hobject := low_resolve names hfits
    rw [resolve, height, height]
    exact hobject.link rfl (Nat.le_antisymm object.rank_le_nine (le_rank_of_fits hfits (by omega)))
      (Nat.le_max_left _ _) rfl (one_le_tallestOperand _)
  | item object key optional, _, h => by
    have hobject := low_resolve names h.1
    have hkeyRank := le_rank_of_fits h.2 (by omega)
    have hkey := (low_resolve names h.2).whole (by omega)
    have hlevel : key.need < (item object key optional).need := by
      rw [need]
      omega
    rw [resolve, height]
    exact hobject.link rfl (Nat.le_antisymm object.rank_le_nine (le_rank_of_fits h.1 (by omega)))
      (Nat.le_max_left _ _) rfl (Nat.le_trans hkey (tallest_le_tallestOperand hlevel))
  | call callee args optional, _, h => by
    have hcallee := low_resolve names h.1
    have hargs := (heightList_resolveAll names h.2).1
    have hlevel : needAll args < (call callee args optional).need := by
      rw [need]
      omega
    rw [resolve, height]
    exact hcallee.link rfl (Nat.le_antisymm callee.rank_le_nine (le_rank_of_fits h.1 (by omega)))
      (Nat.le_max_left _ _) rfl (Nat.le_trans hargs (tallest_le_tallestOperand hlevel))
  | arrow params _ body, _, h => by
    have hrank := le_rank_of_fits h.2 (by omega)
    have hbody := (low_resolve (names ++ params) h.2).whole (by omega)
    rw [resolve, height]
    exact Low.of_loose (Nat.zero_le 1) (fun hne => absurd rfl hne) (Nat.succ_le_succ hbody)
  | unary op operand, _, h => by
    have hrank := le_rank_of_fits h.2 (by omega)
    have hoperand := (low_resolve names h.2).place 8 (by omega) (by omega) hrank
    rw [resolve, height]
    refine Low.of_place (by simp [rank]) (fun p hp hp' _ => ?_) fun _ hne => absurd rfl hne
    have hneed : operand.need ≤ operand.need + 1 := Nat.le_succ _
    have hmono := tallestOperand_mono hneed
    have hmul : 1 * (operand.need + 1) ≤ (9 - p) * (operand.need + 1) :=
      Nat.mul_le_mul_right _ (by omega)
    simp only [need]
    omega
  | joined op left right, _, h => by
    have htwo := op.rung.two_le_rank
    have hseven := op.rung.rank_le_seven
    rw [op.rank_rung] at htwo hseven
    have hleftNeed : left.need ≤ (joined op left right).need := Nat.le_max_left _ _
    have hleft := (low_resolve names h.2.1).under htwo hseven (le_rank_of_fits h.2.1 (by omega))
      hleftNeed
    have hrightRank : op.rank < right.rank := le_rank_of_fits h.2.2 (by omega)
    have hrightNeed : right.need ≤ (joined op left right).need := by
      rw [need]
      omega
    have hright := (low_resolve names h.2.2).under htwo hseven (Nat.le_of_lt hrightRank) hrightNeed
    -- the chain goes on to the left only
    have hlinks : right.links op.rank = 0 := links_eq_zero (Nat.ne_of_lt hrightRank)
    have hchain : (joined op left right).links op.rank = left.links op.rank + 1 := if_pos rfl
    rw [resolve, height_build]
    refine Low.of_chain htwo ?_
    rw [rank, hchain]
    omega
  | conditional test yes no, _, h => by
    have htestRank := le_rank_of_fits h.2.1 (by omega)
    have hyesRank := le_rank_of_fits h.2.2.1 (by omega)
    have hnoRank := le_rank_of_fits h.2.2.2 (by omega)
    have htest := (low_resolve names h.2.1).place 2 (by omega) (by omega) htestRank
    have hyes := (low_resolve names h.2.2.1).whole (by omega)
    have hno := (low_resolve names h.2.2.2).whole (by omega)
    have hneed : (conditional test yes no).need =
        max test.need (max (yes.need + 1) (no.need + 1)) := by rw [need]
    have htestMono := tallestOperand_mono (by omega : test.need ≤ (conditional test yes no).need)
    have hyesMono := tallest_le_tallestOperand
      (by omega : yes.need < (conditional test yes no).need)
    have hnoMono := tallest_le_tallestOperand (by omega : no.need < (conditional test yes no).need)
    have hwhole : ((conditional test yes no).resolve names).height ≤
        tallest (conditional test yes no).need := by
      rw [resolve, height, tallest_eq (by omega)]
      omega
    exact Low.of_loose (Nat.le_refl 1) (fun _ => hwhole) (Nat.le_succ_of_le hwhole)

theorem heightList_resolveAll (names : List String) : ∀ {ts : List Surface} {p : Nat},
    FitAll false p ts → heightList (resolveAll names ts) ≤ tallest (needAll ts) ∧
      (p = 1 → heightList (resolveAll names ts) < tallest (needAll ts))
  | [], _, _ => by simp [resolveAll, heightList, needAll, tallest]
  | t :: ts, p, h => by
    have hfirst := low_resolve names h.1
    have hmore := heightList_resolveAll names h.2
    have hlt := tallest_lt_succ t.need
    have hmono₁ := tallest_mono (Nat.le_max_left (t.need + 1) (needAll ts))
    have hmono₂ := tallest_mono (Nat.le_max_right (t.need + 1) (needAll ts))
    simp only [resolveAll, heightList, needAll]
    refine ⟨?_, fun hp => ?_⟩
    · have := hfirst.argument
      omega
    · have hrank := le_rank_of_fits h.1 (by omega)
      have hwhole := hfirst.whole (by omega)
      omega

end

/-! ## The highest trees -/

/-- A tree at a place of rank `p` that can be written and needs no more than `n` levels, with `k`
links there, and the height of what it stands for. -/
structure Stands (t : Surface) (p n k h : Nat) : Prop where
  fits : t.Fits false p
  known : t.Known []
  spelled : HaveSpellings t.tokens
  need : t.need ≤ n
  links : t.links p = k
  height : (t.resolve []).height = h

theorem exists_spells_id : ∃ lexeme, Spells (.name "id") lexeme :=
  ⟨_, .name (isName_of_mem_knownNames (by decide))⟩

namespace Stands

variable {t : Surface} {p n k h : Nat}

theorem leaf (p n : Nat) : (name "id").Stands p n 0 1 where
  fits := fun heq => absurd heq (by decide)
  known := rfl
  spelled := by simpa [tokens] using exists_spells_id
  need := Nat.zero_le n
  links := rfl
  height := rfl

theorem group (ht : t.Stands 1 n k h) : (Surface.group t).Stands 9 (n + 1) 0 h where
  fits := ⟨fun htight => absurd htight Bool.false_ne_true, ht.fits⟩
  known := ht.known
  spelled := by simpa [tokens] using ht.spelled
  need := Nat.succ_le_succ ht.need
  links := rfl
  height := ht.height

theorem call (ht : t.Stands 9 n k h) (hk : k < n) :
    (Surface.call t [] false).Stands 9 n (k + 1) (h + 1) where
  fits := ⟨ht.fits, trivial⟩
  known := ⟨ht.known, trivial⟩
  spelled := by simpa [tokens, chainTokens, listTokens] using ht.spelled
  need := by
    rw [Surface.need, ht.links]
    exact Nat.max_le.2 ⟨ht.need, hk⟩
  links := congrArg (· + 1) ht.links
  height := by
    rw [resolve, Expr.height, ht.height, resolveAll, heightList, Nat.max_eq_left (Nat.zero_le h)]

theorem joined {op : Joint} (ht : t.Stands op.rank n k h) (hk : k < n) :
    (Surface.joined op t (name "id")).Stands op.rank n (k + 1) (h + 1) where
  fits := ⟨Nat.le_refl _, ht.fits, (leaf _ n).fits⟩
  known := ⟨ht.known, (leaf 1 n).known⟩
  spelled := by simpa [tokens] using ⟨ht.spelled, exists_spells_id⟩
  need := by
    rw [Surface.need, ht.links]
    exact Nat.max_le.2 ⟨ht.need, hk⟩
  links := (if_pos rfl).trans (congrArg (· + 1) ht.links)
  height := by
    have hpos := one_le_height (t.resolve [])
    rw [ht.height] at hpos
    rw [resolve, height_build, ht.height, (leaf 1 n).height, Nat.max_eq_left hpos]

theorem conditional (ht : t.Stands 2 n k h) (hn : 0 < n) :
    (Surface.conditional t (name "id") (name "id")).Stands 1 n 0 (h + 1) where
  fits := ⟨Nat.le_refl 1, ht.fits, (leaf 1 n).fits, (leaf 1 n).fits⟩
  known := ⟨ht.known, (leaf 1 n).known, (leaf 1 n).known⟩
  spelled := by simpa [tokens] using ⟨ht.spelled, exists_spells_id⟩
  need := Nat.max_le.2 ⟨ht.need, Nat.max_le.2 ⟨hn, hn⟩⟩
  links := rfl
  height := by
    have hpos := one_le_height (t.resolve [])
    rw [ht.height] at hpos
    rw [resolve, Expr.height, ht.height, (leaf 1 n).height, Nat.max_self, Nat.max_eq_left hpos]

/-- At a place that binds less tightly a tree has no links. -/
theorem lower (ht : t.Stands (p + 1) n k h) (hp : p ≤ 8) : t.Stands p n 0 h where
  fits := ht.fits.mono (Nat.le_add_left 1 p) (Nat.le_succ p)
  known := ht.known
  spelled := ht.spelled
  need := ht.need
  links := links_eq_zero (Nat.ne_of_lt (le_rank_of_fits ht.fits (Nat.succ_le_succ hp)))
  height := ht.height

end Stands

variable {t : Surface} {n h : Nat}

theorem exists_calls (ht : t.Stands 9 n 0 h) {k : Nat} (hk : k ≤ n) :
    ∃ u : Surface, u.Stands 9 n k (h + k) := by
  induction k with
  | zero => exact ⟨t, ht⟩
  | succ k ih =>
    obtain ⟨u, hu⟩ := ih (Nat.le_of_lt hk)
    exact ⟨_, hu.call hk⟩

theorem exists_joints {op : Joint} (ht : t.Stands op.rank n 0 h) {k : Nat} (hk : k ≤ n) :
    ∃ u : Surface, u.Stands op.rank n k (h + k) := by
  induction k with
  | zero => exact ⟨t, ht⟩
  | succ k ih =>
    obtain ⟨u, hu⟩ := ih (Nat.le_of_lt hk)
    exact ⟨_, hu.joined hk⟩

theorem exists_chain {p k : Nat} (ht : t.Stands (p + 1) n k h) (htwo : 2 ≤ p) (hseven : p ≤ 7) :
    ∃ u : Surface, u.Stands p n n (h + n) := by
  obtain ⟨op, rfl⟩ := Joint.exists_rank_eq htwo hseven
  exact exists_joints (ht.lower (by omega)) (Nat.le_refl n)

theorem exists_chains (ht : t.Stands 9 n 0 h) {d : Nat} (hd : d ≤ 5) :
    ∃ u : Surface, u.Stands (7 - d) n n (h + (d + 2) * n) := by
  induction d with
  | zero =>
    obtain ⟨u, hu⟩ := exists_calls ht (Nat.le_refl n)
    obtain ⟨v, hv⟩ := exists_chain (p := 7) (hu.lower (by omega)) (by omega) (by omega)
    exact ⟨v, by rwa [Nat.zero_add, Nat.two_mul, ← Nat.add_assoc]⟩
  | succ d ih =>
    obtain ⟨u, hu⟩ := ih (by omega)
    rw [(by omega : 7 - d = 7 - (d + 1) + 1)] at hu
    obtain ⟨v, hv⟩ := exists_chain hu (by omega) (by omega)
    exact ⟨v, by rwa [Nat.succ_add d 2, Nat.succ_mul, ← Nat.add_assoc]⟩

/-- **A tree as high as the levels allow.** -/
theorem exists_stands : ∀ n, ∃ t : Surface, t.Stands 1 n 0 (tallest n)
  | 0 => ⟨_, .leaf 1 0⟩
  | n + 1 => by
    obtain ⟨t, ht⟩ := exists_stands n
    obtain ⟨u, hu⟩ := exists_chains ht.group (Nat.le_refl 5)
    exact ⟨_, hu.conditional (Nat.succ_pos n)⟩

end Surface

/-! ## Texts -/

/-- The heights of the expressions that texts compile to whose trees need at most `n` levels. -/
def heightsWithin (n : Nat) : Set Nat :=
  {k | ∃ source t e, IsTreeOf source (some t) ∧ t.need ≤ n ∧
    (compile source).program = .ok (some e) ∧ e.height = k}

theorem tallest_mem_heightsWithin {n : Nat} (hn : n < maxDepth) :
    tallest n ∈ heightsWithin n := by
  obtain ⟨t, ht⟩ := Surface.exists_stands n
  obtain ⟨cs, hspaced⟩ := exists_spaced ht.spelled
  rw [← String.toList_ofList (l := cs)] at hspaced
  have htree := isTreeOf_of_spaced ht.fits ht.known hspaced
  have hprogram := program_of_isTreeOf htree
  rw [if_pos (Nat.lt_of_le_of_lt ht.need hn)] at hprogram
  exact ⟨_, t, _, htree, ht.need, hprogram, ht.height⟩

theorem le_tallest_of_mem_heightsWithin {n k : Nat} (hk : k ∈ heightsWithin n) :
    k ≤ tallest n := by
  obtain ⟨source, t, e, ht, hneed, hprogram, rfl⟩ := hk
  obtain rfl : e = t.resolve [] := Option.some.inj (eq_resolve_of_isTreeOf hprogram ht)
  have hrank := Surface.le_rank_of_fits ht.2.1 (by omega)
  exact Nat.le_trans ((Surface.low_resolve [] ht.2.1).whole (by omega)) (tallest_mono hneed)

theorem isGreatest_tallest {n : Nat} (hn : n < maxDepth) :
    IsGreatest (heightsWithin n) (tallest n) :=
  ⟨tallest_mem_heightsWithin hn, fun _ => le_tallest_of_mem_heightsWithin⟩

theorem tallest_levels : tallest (maxDepth - 1) = 14176 := by decide +kernel

variable {source : String} {t : Surface}

theorem tooDeep_iff (h : IsTreeOf source (some t)) :
    (compile source).program = .error .tooDeep ↔ maxDepth ≤ t.need := by
  rw [program_of_isTreeOf h]
  split
  · next hneed => exact ⟨nofun, fun hle => absurd hneed (Nat.not_lt.2 hle)⟩
  · next hneed => exact ⟨fun _ => Nat.not_lt.1 hneed, fun _ => rfl⟩

theorem height_le_maxDepth_iff (h : IsTreeOf source (some t)) :
    (∀ e, (compile source).program = .ok (some e) → e.height ≤ maxDepth) ↔
      (t.need < maxDepth → (t.resolve []).height ≤ maxDepth) := by
  rw [program_of_isTreeOf h]
  split
  · next hneed =>
    refine ⟨fun hall _ => hall _ rfl, fun hlow e he => ?_⟩
    obtain rfl : t.resolve [] = e := Option.some.inj (Except.ok.inj he)
    exact hlow hneed
  · next hneed => exact ⟨fun _ hlt => absurd hlt hneed, fun _ _ => nofun⟩

/-- **The height of compiled expressions.** A text that compiles to an expression has a tree. A text
is too deep just when its tree needs as many levels as there are; else the expression is no higher
than `maxDepth` just when what the tree stands for is so low. With at most `n` levels the highest
expression has height `tallest n`, which for all the levels is 14176. -/
theorem height_compile (source : String) :
    (∀ e, (compile source).program = .ok (some e) → ∃ t, IsTreeOf source (some t)) ∧
    (∀ t, IsTreeOf source (some t) →
      ((compile source).program = .error .tooDeep ↔ maxDepth ≤ t.need) ∧
      ((∀ e, (compile source).program = .ok (some e) → e.height ≤ maxDepth) ↔
        (t.need < maxDepth → (t.resolve []).height ≤ maxDepth))) ∧
    (∀ n, n < maxDepth → IsGreatest (heightsWithin n) (tallest n)) ∧
    IsGreatest (heightsWithin (maxDepth - 1)) 14176 := by
  refine ⟨fun e h => exists_isTreeOf_some h,
    fun t h => ⟨tooDeep_iff h, height_le_maxDepth_iff h⟩, fun n hn => isGreatest_tallest hn, ?_⟩
  rw [← tallest_levels]
  exact isGreatest_tallest (by decide)

/-- A sum in front of a comparison. -/
def sumLess : Surface :=
  .joined (.binary .lt) (.joined (.binary .add) (.name "id") (.name "id")) (.name "id")

theorem isTreeOf_sumLess : IsTreeOf "id+id<id" (some sumLess) := by
  refine ⟨rfl, ?_, ⟨⟨rfl, rfl⟩, rfl⟩, _, rfl, rfl⟩
  simp [sumLess, Surface.Fits, Joint.rank, BinaryOp.level, Level.rank]

theorem height_compile_sumLess : IsTreeOf "id+id<id" (some sumLess) ∧
    (compile "id+id<id").program ≠ .error .tooDeep ∧
    ∀ e, (compile "id+id<id").program = .ok (some e) → e.height ≤ maxDepth := by
  obtain ⟨hdeep, hlow⟩ := (height_compile "id+id<id").2.1 sumLess isTreeOf_sumLess
  exact ⟨isTreeOf_sumLess, fun h => absurd (hdeep.1 h) (by decide), hlow.2 fun _ => by decide⟩

/-- 63 sums in front of a comparison. -/
theorem maxDepth_lt_height :
    ∃ e, (compile (String.join (List.replicate 63 "id+") ++ "id<id")).program = .ok (some e) ∧
      maxDepth < e.height := by
  have hheight : ((compile (String.join (List.replicate 63 "id+") ++ "id<id")).program.map
      (Option.map height)).toOption = some (some 65) := by decide +kernel
  generalize (compile (String.join (List.replicate 63 "id+") ++ "id<id")).program = program at *
  match program, hheight with
  | .ok (some e), hheight =>
    refine ⟨e, rfl, ?_⟩
    rw [show e.height = 65 from Option.some.inj (Option.some.inj hheight)]
    decide

end Logbook.Expr
