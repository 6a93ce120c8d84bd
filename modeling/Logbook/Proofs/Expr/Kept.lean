import Logbook.Proofs.Expr.Acts

/-!
# What a recorded answer keeps

* `Act.Allowed`, `Way`: acts that a state allows while some levels stay open, one after the other;
* `Past`: a state behind some tokens of another one, in the same scope of the same text;
* **`Keeps`**: what was done for an answer was allowed, its state is the one that the acts lead to
  and is behind some tokens, and an error is placed at a token that was left;
* `Keeps.bind`, `Keeps.take`, `Keeps.enter`, `Keeps.leave`, `Keeps.expect`, `Keeps.scope`: answers
  that are put together keep a state where their parts do.
-/

namespace Logbook.Expr

/-! ## Ways -/

/-- A state with at least `floor` levels, and not too many, allows an act: there is a token to take,
and there are as many levels above `floor` and as many parameters as the act gives up. -/
def Act.Allowed (floor : Nat) (s : State) (a : Act) : Prop :=
  floor ≤ s.depth ∧ s.depth ≤ maxDepth ∧
    match a with
    | .take => s.rest ≠ []
    | .leave n => floor + n ≤ s.depth
    | .pop n => n ≤ s.names.length
    | .enter | .push _ => True

/-- Some acts are done one after the other from a state, each allowed by the state before it. -/
def Way (floor : Nat) (s : State) (acts : List Act) : Prop :=
  ∀ before a after, acts = before ++ a :: after → a.Allowed floor (before.foldl State.after s)

section Way

variable {floor floor' : Nat} {s : State} {a : Act} {acts more : List Act}

theorem Act.Allowed.mono (h : a.Allowed floor' s) (hle : floor ≤ floor') : a.Allowed floor s := by
  obtain ⟨hfloor, hmax, ha⟩ := h
  refine ⟨Nat.le_trans hle hfloor, hmax, ?_⟩
  cases a with
  | leave n => exact Nat.le_trans (Nat.add_le_add_right hle n) ha
  | _ => exact ha

theorem way_nil : Way floor s [] := by
  intro before a after h
  simp at h

theorem way_singleton (h : a.Allowed floor s) : Way floor s [a] := by
  intro before b after heq
  obtain ⟨rfl, rfl, rfl⟩ : before = [] ∧ b = a ∧ after = [] := by
    cases before <;> simp_all
  exact h

theorem Way.append (h : Way floor s acts) (h' : Way floor (acts.foldl State.after s) more) :
    Way floor s (acts ++ more) := by
  intro before a after heq
  -- the act belongs to the second part just when the first part is done before it
  obtain ⟨mid, rfl, hmore⟩ | ⟨mid, hacts, hafter⟩ := List.append_eq_append_iff.1 heq
  · rw [List.foldl_append]
    exact h' mid a after hmore
  · cases mid with
    | nil =>
      obtain rfl : acts = before := by simpa using hacts
      exact h' [] a after (by simpa using hafter.symm)
    | cons b mid =>
      obtain ⟨rfl, -⟩ := List.cons.inj hafter
      exact h before a mid hacts

theorem Way.mono (h : Way floor' s acts) (hle : floor ≤ floor') : Way floor s acts :=
  fun before a after heq => (h before a after heq).mono hle

end Way

/-! ## States behind others -/

namespace State

/-- The columns at which a state can place an error. -/
def columns (s : State) : List Nat := s.rest.map Placed.column ++ [s.endColumn]

variable {s : State}

theorem column_mem_columns : s.column ∈ s.columns := by
  obtain ⟨rest, _, _, _⟩ := s
  cases rest <;> simp [column, columns]

theorem mem_columns_of_unexpected {c : Nat} {problem : Problem}
    (h : s.unexpected = .at c problem) : c ∈ s.columns := by
  obtain ⟨rest, _, _, _⟩ := s
  cases rest <;> simp_all [unexpected, column, columns]

end State

/-- The state `s'` is behind at least `k` tokens of `s`, has `depth` levels, and is in the same
scope of the same text. -/
structure Past (depth k : Nat) (s s' : State) : Prop where
  depth_eq : s'.depth = depth
  names_eq : s'.names = s.names
  endColumn_eq : s'.endColumn = s.endColumn
  exists_taken : ∃ taken, k ≤ taken.length ∧ s.rest = taken ++ s'.rest

namespace Past

variable {d d' k k' : Nat} {s s' s'' : State}

theorem refl (s : State) : Past s.depth 0 s s := ⟨rfl, rfl, rfl, [], Nat.le_refl 0, rfl⟩

theorem trans (h : Past d k s s') (h' : Past d' k' s' s'') : Past d' (k + k') s s'' := by
  obtain ⟨-, hnames, hend, ps, hps, hrest⟩ := h
  obtain ⟨hdepth', hnames', hend', qs, hqs, hrest'⟩ := h'
  refine ⟨hdepth', hnames'.trans hnames, hend'.trans hend, ps ++ qs, ?_, ?_⟩
  · rw [List.length_append]
    omega
  · rw [hrest, hrest', List.append_assoc]

theorem weaken (h : Past d k s s') (hle : k' ≤ k) : Past d k' s s' := by
  obtain ⟨hdepth, hnames, hend, ps, hps, hrest⟩ := h
  exact ⟨hdepth, hnames, hend, ps, Nat.le_trans hle hps, hrest⟩

/-- Levels that are entered or left on the way do not count. -/
theorem of_levels {n : Nat} (h : Past d k { s with depth := n } s') : Past d k s s' :=
  ⟨h.depth_eq, h.names_eq, h.endColumn_eq, h.exists_taken⟩

theorem take (h : s.rest ≠ []) : Past s.depth 1 s (s.after .take) := by
  obtain ⟨p, ps, hs⟩ := List.exists_cons_of_ne_nil h
  exact ⟨rfl, rfl, rfl, [p], Nat.le_refl 1, by simp [State.after_take hs, hs]⟩

theorem columns_subset (h : Past d k s s') : s'.columns ⊆ s.columns := by
  obtain ⟨-, -, hend, ps, -, hrest⟩ := h
  intro c hc
  simp only [State.columns, hend, hrest, List.map_append, List.append_assoc] at hc ⊢
  exact List.mem_append_right _ hc

end Past

/-! ## What an answer keeps -/

/-- What a recorded answer has done to the state `s`. -/
structure Kept {α : Type} (floor k : Nat) (s : State) (x : Recorded (α × State)) : Prop where
  /-- All that was done was allowed, and no level below `floor` was left. -/
  way : Way floor s x.acts
  /-- The state of an answer is the one that the acts lead to. -/
  state_eq : ∀ a s', x.result = .ok (a, s') → s' = x.acts.foldl State.after s
  /-- It has `floor` levels, and is behind at least `k` tokens. -/
  past : ∀ a s', x.result = .ok (a, s') → Past floor k s s'
  /-- A problem is placed at a token that was left, or at the end. -/
  column_mem : ∀ c problem, x.result = .error (.at c problem) → c ∈ s.columns

/-- A recorded answer keeps a state that has at least `floor` levels, and not too many. -/
def Keeps {α : Type} (floor k : Nat) (s : State) (x : Recorded (α × State)) : Prop :=
  floor ≤ s.depth → s.depth ≤ maxDepth → Kept floor k s x

open Recorded

namespace Keeps

variable {α β : Type} {floor k : Nat} {s : State}

theorem weaken {x : Recorded (α × State)} (h : Keeps floor k s x) : Keeps floor 0 s x := by
  intro hfloor hmax
  obtain ⟨hway, hstate, hpast, hcolumn⟩ := h hfloor hmax
  exact ⟨hway, hstate, fun a s' hx => (hpast a s' hx).weaken (Nat.zero_le k), hcolumn⟩

theorem pure (a : α) (h : s.depth = floor) : Keeps floor 0 s (pure (a, s)) := by
  rintro - -
  subst h
  refine ⟨way_nil, ?_, ?_, nofun⟩
  · rintro _ _ ⟨⟩
    rfl
  · rintro _ _ ⟨⟩
    exact Past.refl s

theorem fail {e : CompileError} (h : ∀ c problem, e = .at c problem → c ∈ s.columns) :
    Keeps floor k s (fail e : Recorded (α × State)) := by
  rintro - -
  exact ⟨way_nil, nofun, nofun, fun c problem he => h c problem (Except.error.inj he)⟩

theorem tooDeep : Keeps floor k s (Recorded.fail .tooDeep : Recorded (α × State)) :=
  fail nofun

theorem bind {j : Nat} {x : Recorded (α × State)} {f : α × State → Recorded (β × State)}
    (hx : Keeps s.depth j s x) (hf : ∀ a s', Past s.depth j s s' → Keeps floor k s' (f (a, s'))) :
    Keeps floor (j + k) s (x >>= f) := by
  intro hfloor hmax
  obtain ⟨hway, hstate, hpast, hcolumn⟩ := hx (Nat.le_refl _) hmax
  obtain ⟨acts, result⟩ := x
  cases result with
  | error e =>
    exact ⟨hway.mono hfloor, nofun, nofun,
      fun c problem he => hcolumn c problem (congrArg _ (Except.error.inj he))⟩
  | ok p =>
    obtain ⟨a, s'⟩ := p
    have hs : s' = acts.foldl State.after s := hstate a s' rfl
    have hs' := hpast a s' rfl
    subst hs
    obtain ⟨hway', hstate', hpast', hcolumn'⟩ :=
      hf a _ hs' (hs'.depth_eq ▸ hfloor) (hs'.depth_eq ▸ hmax)
    refine ⟨(hway.mono hfloor).append hway', ?_, ?_, ?_⟩
    · intro b t ht
      rw [hstate' b t ht]
      exact List.foldl_append.symm
    · exact fun b t ht => hs'.trans (hpast' b t ht)
    · exact fun c problem he => hs'.columns_subset (hcolumn' c problem he)

/-- An answer that goes on from another one, which has taken all the tokens it has to. -/
theorem next {x : Recorded (α × State)} {f : α × State → Recorded (β × State)}
    (hx : Keeps s.depth k s x) (hf : ∀ a s', Past s.depth k s s' → Keeps floor 0 s' (f (a, s'))) :
    Keeps floor k s (x >>= f) := bind hx hf

theorem perform {a : Act} {f : State → Recorded (α × State)} (ha : a.Allowed floor s)
    (hcolumns : (s.after a).columns ⊆ s.columns)
    (hf : Kept floor k (s.after a) (f (s.after a)))
    {j : Nat} (hpast : ∀ s', Past floor k (s.after a) s' → Past floor j s s') :
    Kept floor j s (Recorded.perform a s >>= f) := by
  obtain ⟨hway, hstate, hs', hcolumn⟩ := hf
  refine ⟨(way_singleton ha).append hway, hstate, ?_, ?_⟩
  · exact fun b t ht => hpast t (hs' b t ht)
  · exact fun c problem he => hcolumns (hcolumn c problem he)

theorem take {f : State → Recorded (α × State)} (hs : s.rest ≠ [])
    (hf : Keeps floor 0 (s.after .take) (f (s.after .take))) :
    Keeps floor 1 s (Recorded.perform .take s >>= f) := fun hfloor hmax =>
  perform ⟨hfloor, hmax, hs⟩ (Past.take hs).columns_subset (hf hfloor hmax)
    fun _ h => (Past.take hs).trans h

theorem take_pure (a : α) (hs : s.rest ≠ []) (h : s.depth = floor) :
    Keeps floor 1 s (Recorded.perform .take s >>= fun s => Pure.pure (a, s)) :=
  take hs (pure a h)

theorem take_fail {e : CompileError} (hs : s.rest ≠ [])
    (h : ∀ c problem, e = .at c problem → c ∈ s.columns) :
    Keeps floor k s (Recorded.perform .take s >>= fun _ => Recorded.fail e :
      Recorded (α × State)) := fun hfloor hmax =>
  ⟨way_singleton ⟨hfloor, hmax, hs⟩, nofun, nofun,
    fun c problem he => h c problem (Except.error.inj he)⟩

theorem enter {f : State → Recorded (α × State)}
    (hf : Keeps floor k (s.after .enter) (f (s.after .enter))) :
    Keeps floor k s (enter s >>= f) := by
  intro hfloor hmax
  have ha : Act.enter.Allowed floor s := ⟨hfloor, hmax, trivial⟩
  unfold Recorded.enter
  split
  · next hlt =>
    exact perform ha (List.Subset.refl _) (hf (Nat.le_succ_of_le hfloor) hlt) fun _ => .of_levels
  · exact ⟨way_singleton ha, nofun, nofun, nofun⟩

theorem leave {n : Nat} (a : α) (h : s.depth = floor + n) : Keeps floor 0 s (leave n a s) := by
  intro hfloor hmax
  have hdepth : (s.after (.leave n)).depth = floor := by
    change s.depth - n = floor
    omega
  exact perform ⟨hfloor, hmax, Nat.le_of_eq h.symm⟩ (List.Subset.refl _)
    (pure a hdepth (by omega) (by omega)) fun _ => .of_levels

theorem expect {m : Mark} {f : State → Recorded (α × State)}
    (hf : ∀ s', Past s.depth 1 s s' → Keeps floor k s' (f s')) :
    Keeps floor k s (expect m s >>= f) := by
  unfold Recorded.expect
  split
  · next s' h =>
    obtain ⟨hs, -⟩ := State.after_of_eat? h
    intro hfloor hmax
    refine perform ⟨hfloor, hmax, hs⟩ (Past.take hs).columns_subset
      (hf _ (Past.take hs) hfloor hmax) fun t ht => ?_
    exact ((Past.take hs).trans ht).weaken (Nat.le_add_left k 1)
  · refine fail (α := α) fun c problem he => ?_
    obtain ⟨rfl, -⟩ := CompileError.at.inj he
    exact State.column_mem_columns

theorem propertyName (s : State) : Keeps s.depth 1 s (Recorded.propertyName s) := by
  unfold Recorded.propertyName
  cases h : Expr.propertyName s with
  | ok p =>
    obtain ⟨hs, -⟩ := after_of_propertyName h
    exact take_pure _ hs rfl
  | error e =>
    refine fail fun c problem he => ?_
    unfold Expr.propertyName at h
    split at h
    · cases h
    · obtain ⟨rfl, -⟩ := CompileError.at.inj ((Except.error.inj h).trans he)
      exact State.column_mem_columns

/-- An answer in a wider scope, which is left with it. -/
theorem scope {ns : List String} {x : State → Recorded (α × State)} (g : α → β)
    (hx : Keeps s.depth k (s.push ns) (x (s.push ns))) :
    Keeps s.depth k s (do
      let s ← Recorded.perform (.push ns) s
      let (a, s) ← x s
      let s ← Recorded.perform (.pop ns.length) s
      Pure.pure (g a, s)) := by
  intro hfloor hmax
  obtain ⟨hway, hstate, hpast, hcolumn⟩ := hx hfloor hmax
  have hpush : Way s.depth s [.push ns] := way_singleton ⟨hfloor, hmax, trivial⟩
  change Kept s.depth k s ⟨_ :: (x (s.push ns) >>= _).acts, (x (s.push ns) >>= _).result⟩
  generalize x (s.push ns) = y at hway hstate hpast hcolumn ⊢
  obtain ⟨acts, result⟩ := y
  cases result with
  | error e =>
    exact ⟨hpush.append hway, nofun, nofun,
      fun c problem he => hcolumn c problem (congrArg _ (Except.error.inj he))⟩
  | ok p =>
    obtain ⟨a, s'⟩ := p
    have hs : s' = acts.foldl State.after (s.push ns) := hstate a s' rfl
    obtain ⟨hdepth, hnames, hend, htaken⟩ := hpast a s' rfl
    subst hs
    have hpop : Way s.depth (acts.foldl State.after (s.push ns)) [.pop ns.length] :=
      way_singleton ⟨Nat.le_of_eq hdepth.symm, hdepth ▸ hmax, by simp [hnames]⟩
    refine ⟨hpush.append (hway.append hpop), ?_, ?_, nofun⟩
    · rintro _ _ ⟨⟩
      change _ = (acts ++ [Act.pop ns.length]).foldl State.after (s.push ns)
      rw [List.foldl_append]
      rfl
    · rintro _ _ ⟨⟩
      exact ⟨hdepth, by simp [State.after, hnames], hend, htaken⟩

/-- The tokens up to an arrow. -/
theorem skip : ∀ (ps : List Placed) (s : State), s.rest = ps →
    Keeps s.depth 0 s (Recorded.skip ps s)
  | [], s, _ => pure () rfl
  | p :: ps, s, hs => by
    have hrest : (s.after .take).rest = ps := by rw [State.after_take hs]
    rw [Recorded.skip]
    refine (take (by simp [hs]) ?_).weaken
    split
    · exact pure () rfl
    · exact skip ps _ hrest

end Keeps

end Logbook.Expr
