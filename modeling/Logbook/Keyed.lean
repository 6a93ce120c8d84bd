/-!
# Sorted association lists

Members of an object, groups by id and overrides by log name are lists of key–value pairs in
ascending order of key, with each key at most once.

* `Keyed.insert`, `Keyed.find?`, `Keyed.ofList`: writing one pair, looking one up, collecting many;
* `Keyed.Sorted`: the order every one of these lists keeps;
* **`Keyed.find?_insert`**: a look-up after a write sees the write and nothing else;
* **`Keyed.sorted_ofList`**: collecting any list of pairs gives a sorted one.
-/

namespace Logbook

/-- Key–value pairs, meant to be in ascending order of key. -/
abbrev Keyed (α : Type) := List (String × α)

namespace Keyed

variable {α : Type}

/-- Writes `v` at `k`, replacing what was there. -/
def insert (k : String) (v : α) : Keyed α → Keyed α
  | [] => [(k, v)]
  | (k₁, v₁) :: rest =>
    if k < k₁ then (k, v) :: (k₁, v₁) :: rest
    else if k = k₁ then (k, v) :: rest
    else (k₁, v₁) :: insert k v rest

/-- The value at `k`. -/
def find? (k : String) : Keyed α → Option α
  | [] => none
  | (k₁, v₁) :: rest => if k = k₁ then some v₁ else find? k rest

/-- Whether `k` has a value. -/
def contains (k : String) (l : Keyed α) : Bool := (find? k l).isSome

/-- Collects pairs; of several values for one key the last one stays. -/
def ofList (l : List (String × α)) : Keyed α :=
  l.foldl (fun acc p => insert p.1 p.2 acc) []

/-- Changes the value at `k`, starting from `d` when there is none. -/
def alter (k : String) (d : α) (f : α → α) (l : Keyed α) : Keyed α :=
  insert k (f ((find? k l).getD d)) l

/-- Ascending order of key, each key once. -/
def Sorted (l : Keyed α) : Prop := l.Pairwise fun a b => a.1 < b.1

instance (l : Keyed α) : Decidable (Sorted l) := by unfold Sorted; infer_instance

/-! ## Laws of writing and looking up -/

@[simp] theorem find?_nil (k : String) : find? k ([] : Keyed α) = none := rfl

/-- A look-up after a write sees the write at its key and the old list elsewhere. -/
theorem find?_insert (k k' : String) (v : α) (l : Keyed α) :
    find? k' (insert k v l) = if k' = k then some v else find? k' l := by
  induction l with
  | nil => rfl
  | cons p rest ih =>
    obtain ⟨k₁, v₁⟩ := p
    unfold insert
    split
    · simp [find?]
    · split
      · next h => subst h; by_cases hk : k' = k <;> simp [find?, hk]
      · next hne =>
        simp only [find?, ih]
        by_cases hk : k' = k₁
        · subst hk
          have : ¬ k' = k := fun h => hne h.symm
          simp [this]
        · simp [hk]

theorem mem_keys_insert (k k' : String) (v : α) (l : Keyed α) :
    k' ∈ (insert k v l).map Prod.fst ↔ k' = k ∨ k' ∈ l.map Prod.fst := by
  induction l with
  | nil => simp [insert]
  | cons p rest ih =>
    obtain ⟨k₁, v₁⟩ := p
    unfold insert
    split
    · simp
    · split
      · next h => subst h; simp
      · simp only [List.map_cons, List.mem_cons, ih]
        exact ⟨fun h => h.elim (fun h => .inr (.inl h)) (Or.imp_right .inr),
          fun h => h.elim (fun h => .inr (.inl h)) (Or.imp_right .inr)⟩

theorem sorted_insert (k : String) (v : α) {l : Keyed α} (h : Sorted l) :
    Sorted (insert k v l) := by
  induction l with
  | nil => simp [insert, Sorted]
  | cons p rest ih =>
    obtain ⟨k₁, v₁⟩ := p
    obtain ⟨hp, hr⟩ := List.pairwise_cons.1 h
    unfold insert
    split
    · next hlt =>
      refine List.pairwise_cons.2 ⟨fun q hq => ?_, h⟩
      rcases List.mem_cons.1 hq with rfl | hq
      · exact hlt
      · exact String.lt_trans hlt (hp q hq)
    · split
      · next heq => subst heq; exact List.pairwise_cons.2 ⟨hp, hr⟩
      · next hnlt hne =>
        refine List.pairwise_cons.2 ⟨fun q hq => ?_, ih hr⟩
        have hq' := (mem_keys_insert k q.1 v rest).1 (List.mem_map.2 ⟨q, hq, rfl⟩)
        rcases hq' with hk | hk
        · have h₁ : k₁ ≤ k := String.not_lt.1 hnlt
          rw [hk]
          exact Decidable.byContradiction fun hn =>
            hne (String.le_antisymm (String.not_lt.1 hn) h₁)
        · obtain ⟨r, hr', hrk⟩ := List.mem_map.1 hk
          rw [← hrk]
          exact hp r hr'

/-- **Collecting pairs gives a sorted list.** -/
theorem sorted_ofList (l : List (String × α)) : Sorted (ofList l) := by
  unfold ofList
  suffices h : ∀ acc : Keyed α, Sorted acc →
      Sorted (l.foldl (fun acc p => insert p.1 p.2 acc) acc) from h [] List.Pairwise.nil
  induction l with
  | nil => exact fun _ h => h
  | cons p rest ih => exact fun acc h => ih _ (sorted_insert p.1 p.2 h)

end Keyed

end Logbook
