import Mathlib.Data.List.Nodup
import Logbook.Proofs.Dictionary.Entries

/-!
# Dictionaries describe what is reached

* `Dictionary.Describes`: an entry for each path that reaches a value, with the kinds of the values;
* `Dictionary.Includes`: all the paths and all the kinds of another dictionary;
* `mem_kinds_iff`, `includes_dictionary`: the kinds of an entry, and that more records have no
  fewer;
* **`describes_dictionary`**: the dictionary of some records describes them, whatever their order.
-/

namespace Logbook

/-- **A dictionary describes some records**: it has an entry for each path that reaches a value of
one of them, and `undefined` aside the kinds of the entry are those of the values reached. -/
structure Dictionary.Describes (d : Dictionary) (rs : List Record) : Prop where
  entry : ∀ path, (d.at? path).isSome = true ↔ path ≠ [] ∧ ∃ w, Reached rs path w
  kinds : ∀ path e, d.at? path = some e → ∀ kind, kind ≠ "undefined" →
    (kind ∈ e.kinds ↔ ∃ w, Reached rs path w ∧ w.hint = kind)
  /-- Each kind is listed once. -/
  nodup : ∀ path e, d.at? path = some e → e.kinds.Nodup
  /-- Arrays and objects come last. -/
  last : ∀ path e, d.at? path = some e → ∃ before, "array" ∉ before ∧ "object" ∉ before ∧
    e.kinds = before ++ ["array", "object"].filter e.kinds.contains
  nested : ∀ path e, d.at? path = some e →
    (e.nested.isSome = true ↔ ∃ w, Reached rs path w ∧ (w.hint = "array" ∨ w.hint = "object"))
  /-- The hint lists the kinds, ahead of the remark on a field. -/
  hint : ∀ path e, d.at? path = some e →
    e.hint = " | ".intercalate e.kinds ++ noteAt path

/-- A dictionary has all the paths of another one, and all the kinds at each of them. -/
def Dictionary.Includes (d d' : Dictionary) : Prop :=
  ∀ path e, d'.at? path = some e →
    ∃ f, d.at? path = some f ∧ ∀ kind ∈ e.kinds, kind ∈ f.kinds

/-! ## Kinds of marked shapes -/

namespace Shape

variable {vs xs : List Value} {s : Shape} {k name : String}

theorem mem_allKinds {s : Shape} : k ∈ s.allKinds ↔
    k ∈ s.kinds ∨ s.array = true ∧ k = "array" ∨ s.object = true ∧ k = "object" := by
  unfold allKinds
  cases s.array <;> cases s.object <;> simp

theorem Sees.not_mem_kinds (h : Sees vs s) (hk : k = "array" ∨ k = "object") : k ∉ s.kinds := by
  intro hmem
  obtain ⟨v, -, hplain, hhint⟩ := (h.mem_kinds k).mp hmem
  rcases hk with rfl | rfl
  · exact hplain.1 hhint
  · exact hplain.2 hhint

theorem Sees.mem_allKinds (h : Sees vs s) : k ∈ s.allKinds ↔ ∃ v ∈ vs, v.hint = k := by
  rw [Shape.mem_allKinds, h.mem_kinds, h.array, h.object]
  constructor
  · rintro (⟨v, hv, -, hhint⟩ | ⟨⟨v, hv, hhint⟩, rfl⟩ | ⟨⟨v, hv, hhint⟩, rfl⟩)
    · exact ⟨v, hv, hhint⟩
    · exact ⟨v, hv, hhint⟩
    · exact ⟨v, hv, hhint⟩
  · rintro ⟨v, hv, rfl⟩
    by_cases hplain : v.IsPlain
    · exact .inl ⟨v, hv, hplain, rfl⟩
    · rcases Value.exists_eq_of_not_isPlain hplain with ⟨items, rfl⟩ | ⟨ms, rfl⟩
      · exact .inr (.inl ⟨⟨_, hv, rfl⟩, rfl⟩)
      · exact .inr (.inr ⟨⟨_, hv, rfl⟩, rfl⟩)

theorem mem_allKinds_markAbsent : k ∈ (markAbsent name xs s).allKinds ↔
    k ∈ s.allKinds ∨ k = "undefined" ∧ ∃ x ∈ xs, x.Lacks (Step.ofWritten name) := by
  rw [mem_allKinds, mem_allKinds, mem_kinds_markAbsent, array_markAbsent, object_markAbsent,
    or_assoc, or_assoc]
  exact or_congr_right or_comm

theorem Sees.not_mem_kinds_markAbsent (h : Sees vs s) (hk : k = "array" ∨ k = "object") :
    k ∉ (markAbsent name xs s).kinds := by
  rw [mem_kinds_markAbsent]
  rintro (hmem | ⟨hundefined, -⟩)
  · exact h.not_mem_kinds hk hmem
  · rcases hk with rfl | rfl
    · exact absurd hundefined (by decide)
    · exact absurd hundefined (by decide)

theorem allKinds_eq_append (harray : "array" ∉ s.kinds) (hobject : "object" ∉ s.kinds) :
    s.allKinds = s.kinds ++ ["array", "object"].filter s.allKinds.contains := by
  unfold allKinds
  cases s.array <;> cases s.object <;> simp [harray, hobject]

theorem nodup_allKinds (hnodup : s.kinds.Nodup) (harray : "array" ∉ s.kinds)
    (hobject : "object" ∉ s.kinds) : s.allKinds.Nodup := by
  rw [allKinds_eq_append harray hobject, List.nodup_append]
  refine ⟨hnodup, List.Nodup.filter _ (by decide), ?_⟩
  rintro k hk _ hlast rfl
  rcases List.mem_pair.mp (List.mem_filter.mp hlast).1 with rfl | rfl
  · exact harray hk
  · exact hobject hk

end Shape

/-! ## Kinds of entries -/

section Entry

variable {rs : List Record} {path : List String} {name : String} {e : Entry}

/-- The entry at a path comes from a shape that sees the values there. -/
theorem exists_sees_of_at? (h : (dictionary rs).at? (path ++ [name]) = some e) :
    ∃ s, Shape.Sees (Shape.valuesAt (path ++ [name]) (rs.map Record.toValue)) s ∧
      Shape.valuesAt (path ++ [name]) (rs.map Record.toValue) ≠ [] ∧
      e = (Shape.markAbsent name (Shape.instancesAt path (rs.map Record.toValue)) s).entryAt
        (path ++ [name]) := by
  rw [at?_dictionary, Option.map_eq_some_iff] at h
  obtain ⟨s, hs, rfl⟩ := h
  obtain ⟨hne, rfl⟩ := Shape.ofValues?_eq_some hs
  exact ⟨_, Shape.sees_ofValues _, hne, rfl⟩

theorem kinds_entryAt (path : List String) (s : Shape) : (s.entryAt path).kinds = s.allKinds :=
  Shape.kinds_toEntry s

/-- **The kinds of an entry** are those of the values reached, and `undefined` where an instance of
the place above lacks it. -/
theorem mem_kinds_iff (h : (dictionary rs).at? (path ++ [name]) = some e) (kind : String) :
    kind ∈ e.kinds ↔ (∃ w, Reached rs (path ++ [name]) w ∧ w.hint = kind) ∨
      kind = "undefined" ∧
        ∃ x, Instance rs (path.map Step.ofWritten) x ∧ x.Lacks (Step.ofWritten name) := by
  obtain ⟨s, hsees, -, rfl⟩ := exists_sees_of_at? h
  rw [kinds_entryAt, Shape.mem_allKinds_markAbsent, hsees.mem_allKinds]
  simp only [mem_valuesAt_iff_reached, Shape.mem_instancesAt]

end Entry

theorem isSome_at?_dictionary (rs : List Record) (path : List String) :
    ((dictionary rs).at? path).isSome = true ↔ path ≠ [] ∧ ∃ w, Reached rs path w := by
  rcases List.eq_nil_or_concat path with rfl | ⟨path, name, rfl⟩
  · simp [Dictionary.at?]
  · have hne : path ++ [name] ≠ [] := by simp
    simp only [List.concat_eq_append, at?_dictionary, Option.isSome_map, and_iff_right hne,
      ← mem_valuesAt_iff_reached]
    unfold Shape.ofValues?
    split
    · next hempty => simp [List.isEmpty_iff.mp hempty]
    · next hempty =>
      exact iff_of_true rfl (List.exists_mem_of_ne_nil _ fun hnil => hempty (by rw [hnil]; rfl))

theorem isSome_nested_entryAt (path : List String) (s : Shape) :
    (s.entryAt path).nested.isSome = true ↔ s.array = true ∨ s.object = true := by
  have hnested : (s.entryAt path).nested = s.toEntry.nested := rfl
  rw [hnested, Shape.nested_toEntry, ← Bool.or_eq_true]
  split
  · next h => exact iff_of_true rfl h
  · next h => exact iff_of_false (by simp) h

/-! ## The description -/

theorem eq_concat_of_at? {d : Dictionary} {path : List String} {e : Entry}
    (h : d.at? path = some e) : ∃ above name, path = above ++ [name] := by
  rcases List.eq_nil_or_concat path with rfl | ⟨above, name, rfl⟩
  · exact absurd h (by simp [Dictionary.at?])
  · exact ⟨above, name, List.concat_eq_append⟩

theorem dictionary_describes (rs : List Record) : (dictionary rs).Describes rs where
  entry := isSome_at?_dictionary rs
  kinds path e h kind hkind := by
    obtain ⟨above, name, rfl⟩ := eq_concat_of_at? h
    rw [mem_kinds_iff h, or_iff_left fun hundefined => hkind hundefined.1]
  nodup path e h := by
    obtain ⟨above, name, rfl⟩ := eq_concat_of_at? h
    obtain ⟨s, hsees, -, rfl⟩ := exists_sees_of_at? h
    rw [kinds_entryAt]
    exact Shape.nodup_allKinds (Shape.nodup_kinds_markAbsent hsees.nodup _ _)
      (hsees.not_mem_kinds_markAbsent (.inl rfl)) (hsees.not_mem_kinds_markAbsent (.inr rfl))
  last path e h := by
    obtain ⟨above, name, rfl⟩ := eq_concat_of_at? h
    obtain ⟨s, hsees, -, rfl⟩ := exists_sees_of_at? h
    rw [kinds_entryAt]
    exact ⟨_, hsees.not_mem_kinds_markAbsent (.inl rfl), hsees.not_mem_kinds_markAbsent (.inr rfl),
      Shape.allKinds_eq_append (hsees.not_mem_kinds_markAbsent (.inl rfl))
        (hsees.not_mem_kinds_markAbsent (.inr rfl))⟩
  nested path e h := by
    obtain ⟨above, name, rfl⟩ := eq_concat_of_at? h
    obtain ⟨s, hsees, -, rfl⟩ := exists_sees_of_at? h
    rw [isSome_nested_entryAt, Shape.array_markAbsent, Shape.object_markAbsent, hsees.array,
      hsees.object]
    simp only [mem_valuesAt_iff_reached, and_or_left, exists_or]
  hint path e h := by
    obtain ⟨above, name, rfl⟩ := eq_concat_of_at? h
    obtain ⟨w, hw⟩ := ((isSome_at?_dictionary rs _).mp (Option.isSome_of_eq_some h)).2
    have hkind := (mem_kinds_iff h w.hint).mpr (.inl ⟨w, hw, rfl⟩)
    obtain ⟨s, -, -, rfl⟩ := exists_sees_of_at? h
    rw [Entry.hint, if_neg (by simpa using List.ne_nil_of_mem hkind)]
    rfl

theorem reached_mono {rs rs' : List Record} (h : ∀ r ∈ rs, r ∈ rs') {path : List String}
    {w : Value} (hw : Reached rs path w) : Reached rs' path w := by
  obtain ⟨r, hr, hleads⟩ := hw
  exact ⟨r, h r hr, hleads⟩

theorem instance_mono {rs rs' : List Record} (h : ∀ r ∈ rs, r ∈ rs') {p : List Step} {x : Value}
    (hx : Instance rs p x) : Instance rs' p x := by
  induction hx with
  | root hr => exact .root (h _ hr)
  | member _ hw ih => exact .member ih hw
  | missing _ hlacks ih => exact .missing ih hlacks
  | item _ hw ih => exact .item ih hw

/-- More records have no fewer paths and kinds. -/
theorem includes_dictionary {rs rs' : List Record} (h : ∀ r ∈ rs, r ∈ rs') :
    (dictionary rs').Includes (dictionary rs) := by
  intro path e he
  obtain ⟨above, name, rfl⟩ := eq_concat_of_at? he
  obtain ⟨hne, w, hw⟩ := (isSome_at?_dictionary rs _).mp (Option.isSome_of_eq_some he)
  have hsome := (isSome_at?_dictionary rs' _).mpr ⟨hne, w, reached_mono h hw⟩
  obtain ⟨f, hf⟩ := Option.isSome_iff_exists.mp hsome
  refine ⟨f, hf, fun kind hkind => (mem_kinds_iff hf kind).mpr ?_⟩
  rcases (mem_kinds_iff he kind).mp hkind with ⟨v, hv, hhint⟩ | ⟨hundefined, x, hx, hlacks⟩
  · exact .inl ⟨v, reached_mono h hv, hhint⟩
  · exact .inr ⟨hundefined, x, instance_mono h hx, hlacks⟩

/-- **The dictionary of some records describes them.** So it has the same paths and kinds in
whatever order they come, and more records take none of them away. -/
theorem describes_dictionary (rs : List Record) :
    (dictionary rs).Describes rs ∧
      (∀ rs', rs.Perm rs' → (dictionary rs').Includes (dictionary rs) ∧
        (dictionary rs).Includes (dictionary rs')) ∧
      ∀ rs', rs.Sublist rs' → (dictionary rs').Includes (dictionary rs) :=
  ⟨dictionary_describes rs,
    fun _ hperm => ⟨includes_dictionary fun _ hr => hperm.subset hr,
      includes_dictionary fun _ hr => hperm.symm.subset hr⟩,
    fun _ hsub => includes_dictionary fun _ hr => hsub.subset hr⟩

/-- A record with nothing in it but its payload. -/
def payloadRecord (payload : Option Json) : Record :=
  { log := "c", message := "m", line := "l", body := "", payload := payload }

theorem describes_dictionary_swap :
    let empty := payloadRecord none
    let full := payloadRecord (some (.obj [("a", .int 1)]))
    (dictionary [empty, full]).Includes (dictionary [full, empty]) ∧
      (dictionary [full, empty]).Includes (dictionary [full]) :=
  ⟨((describes_dictionary _).2.1 _ (.swap _ _ [])).1,
    (describes_dictionary _).2.2 _ (.cons_cons _ (List.nil_sublist _))⟩

end Logbook
