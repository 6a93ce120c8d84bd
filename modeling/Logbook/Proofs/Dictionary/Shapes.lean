import Mathlib.Data.List.Induction
import Logbook.Dictionary.Basic

/-!
# Shapes of many values

* `Shape.ofValues`, `Shape.ofValues?`: the shape of some values, and of those of a place that there
  may not be;
* `Shape.Sees`, `Shape.sees_ofValues`: the kinds of a shape are those of the values;
* `Value.under`, `Shape.valuesAt`: the values under a name of some values, and those at a path;
* **`Shape.at?_ofValues`**: what a shape has at a path is the shape of the values at this path.
-/

namespace Logbook

/-! ## Kinds of values -/

namespace Value

theorem hint_eq_array {v : Value} : v.hint = "array" ↔ ∃ items, v = .arr items := by
  cases v with
  | str s => by_cases hs : s.isEmpty = true <;> simp [hint, hs]
  | _ => simp [hint]

theorem hint_eq_object {v : Value} : v.hint = "object" ↔ ∃ ms, v = .obj ms := by
  cases v with
  | str s => by_cases hs : s.isEmpty = true <;> simp [hint, hs]
  | _ => simp [hint]

theorem hint_eq_undefined {v : Value} : v.hint = "undefined" ↔ v = .undefined := by
  cases v with
  | str s => by_cases hs : s.isEmpty = true <;> simp [hint, hs]
  | _ => simp [hint]

/-- A value with nothing below it. -/
def IsPlain (v : Value) : Prop := v.hint ≠ "array" ∧ v.hint ≠ "object"

theorem exists_eq_of_not_isPlain {v : Value} (h : ¬ v.IsPlain) :
    (∃ items, v = .arr items) ∨ ∃ ms, v = .obj ms := by
  rw [← hint_eq_array, ← hint_eq_object]
  by_cases harr : v.hint = "array"
  · exact .inl harr
  · exact .inr (by_contra fun hobj => h ⟨harr, hobj⟩)

/-- The values that a value has below it under a name. -/
def under (name : String) : Value → List Value
  | .arr items => if name = elementName then items else []
  | .obj ms => (ms.filter fun m => m.1 = name).map Prod.snd
  | _ => []

end Value

namespace Shape

/-- What a shape has at a path. -/
def at? : List String → Shape → Option Shape
  | [], s => some s
  | name :: path, s => (Keyed.find? name s.members).bind (at? path)

/-- The shape of some values. -/
def ofValues (vs : List Value) : Shape := vs.foldl (fun s v => see v s) {}

/-- The shape of some values, if there is one among them. -/
def ofValues? (vs : List Value) : Option Shape := if vs.isEmpty then none else some (ofValues vs)

theorem ofValues_concat (vs : List Value) (v : Value) :
    ofValues (vs ++ [v]) = see v (ofValues vs) := by
  rw [ofValues, List.foldl_append]
  rfl

/-! ## Kinds of shapes -/

theorem mem_kinds_addKind {k kind : String} {s : Shape} :
    k ∈ (s.addKind kind).kinds ↔ k ∈ s.kinds ∨ k = kind := by
  unfold addKind
  split
  · next h =>
    have hkind : kind ∈ s.kinds := List.contains_iff_mem.mp h
    constructor
    · exact .inl
    · rintro (hk | rfl)
      · exact hk
      · exact hkind
  · simp

theorem nodup_kinds_addKind {kind : String} {s : Shape} (h : s.kinds.Nodup) :
    (s.addKind kind).kinds.Nodup := by
  unfold addKind
  split
  · exact h
  · next hkind =>
    rw [List.nodup_append]
    refine ⟨h, by simp, fun a ha b hb hab => hkind (List.contains_iff_mem.mpr ?_)⟩
    rwa [← List.mem_singleton.mp hb, ← hab]

theorem array_addKind (kind : String) (s : Shape) : (s.addKind kind).array = s.array := by
  unfold addKind
  split
  · rfl
  · rfl

theorem object_addKind (kind : String) (s : Shape) : (s.addKind kind).object = s.object := by
  unfold addKind
  split
  · rfl
  · rfl

theorem members_addKind (kind : String) (s : Shape) : (s.addKind kind).members = s.members := by
  unfold addKind
  split
  · rfl
  · rfl

theorem see_of_isPlain {v : Value} (h : v.IsPlain) (s : Shape) : see v s = s.addKind v.hint := by
  cases v with
  | arr items => exact absurd rfl h.1
  | obj ms => exact absurd rfl h.2
  | _ => rfl

theorem mem_kinds_see {k : String} {v : Value} {s : Shape} :
    k ∈ (see v s).kinds ↔ k ∈ s.kinds ∨ v.IsPlain ∧ v.hint = k := by
  by_cases hv : v.IsPlain
  · rw [see_of_isPlain hv, mem_kinds_addKind, and_iff_right hv, eq_comm]
  · rw [or_iff_left fun hk => hv hk.1]
    rcases Value.exists_eq_of_not_isPlain hv with ⟨items, rfl⟩ | ⟨ms, rfl⟩
    · rfl
    · rfl

theorem nodup_kinds_see {s : Shape} (h : s.kinds.Nodup) (v : Value) : (see v s).kinds.Nodup := by
  by_cases hv : v.IsPlain
  · rw [see_of_isPlain hv]
    exact nodup_kinds_addKind h
  · rcases Value.exists_eq_of_not_isPlain hv with ⟨items, rfl⟩ | ⟨ms, rfl⟩
    · exact h
    · exact h

theorem array_see (v : Value) (s : Shape) :
    (see v s).array = true ↔ s.array = true ∨ v.hint = "array" := by
  by_cases hv : v.IsPlain
  · rw [see_of_isPlain hv, array_addKind, or_iff_left hv.1]
  · rcases Value.exists_eq_of_not_isPlain hv with ⟨items, rfl⟩ | ⟨ms, rfl⟩
    · exact iff_of_true rfl (.inr rfl)
    · rw [or_iff_left (by simp [Value.hint])]
      rfl

theorem object_see (v : Value) (s : Shape) :
    (see v s).object = true ↔ s.object = true ∨ v.hint = "object" := by
  by_cases hv : v.IsPlain
  · rw [see_of_isPlain hv, object_addKind, or_iff_left hv.2]
  · rcases Value.exists_eq_of_not_isPlain hv with ⟨items, rfl⟩ | ⟨ms, rfl⟩
    · rw [or_iff_left (by simp [Value.hint])]
      rfl
    · exact iff_of_true rfl (.inr rfl)

/-- **A shape sees some values**: it has their kinds, those of plain values once and in a list of
their own, and nothing below it where all are plain. -/
structure Sees (vs : List Value) (s : Shape) : Prop where
  mem_kinds : ∀ k, k ∈ s.kinds ↔ ∃ v ∈ vs, v.IsPlain ∧ v.hint = k
  nodup : s.kinds.Nodup
  array : s.array = true ↔ ∃ v ∈ vs, v.hint = "array"
  object : s.object = true ↔ ∃ v ∈ vs, v.hint = "object"
  members : (∀ v ∈ vs, v.IsPlain) → s.members = []

theorem exists_mem_concat {vs : List Value} {v : Value} {p : Value → Prop} :
    (∃ u ∈ vs ++ [v], p u) ↔ (∃ u ∈ vs, p u) ∨ p v := by
  simp [or_and_right, exists_or]

theorem Sees.concat {vs : List Value} {s : Shape} (h : Sees vs s) (v : Value) :
    Sees (vs ++ [v]) (see v s) where
  mem_kinds k := by rw [mem_kinds_see, h.mem_kinds, exists_mem_concat]
  nodup := nodup_kinds_see h.nodup v
  array := by rw [array_see, h.array, exists_mem_concat]
  object := by rw [object_see, h.object, exists_mem_concat]
  members hall := by
    rw [see_of_isPlain (hall v (List.mem_append_right _ List.mem_cons_self)), members_addKind]
    exact h.members fun u hu => hall u (List.mem_append_left _ hu)

theorem sees_ofValues (vs : List Value) : Sees vs (ofValues vs) := by
  induction vs using List.reverseRecOn with
  | nil =>
    exact
      { mem_kinds := fun k => by simp [ofValues]
        nodup := List.nodup_nil
        array := by simp [ofValues]
        object := by simp [ofValues]
        members := fun _ => rfl }
  | append_singleton vs v ih =>
    rw [ofValues_concat]
    exact ih.concat v

/-! ## The values below -/

/-- The values at a path below some values. -/
def valuesAt : List String → List Value → List Value
  | [], vs => vs
  | name :: path, vs => valuesAt path (vs.flatMap (Value.under name))

/-- A shape that may not be there yet, after one more value. -/
def seeNext (s : Option Shape) (v : Value) : Option Shape := some (see v (s.getD {}))

theorem foldl_seeNext_some (vs : List Value) (s : Shape) :
    vs.foldl seeNext (some s) = some (vs.foldl (fun s v => see v s) s) := by
  induction vs generalizing s with
  | nil => rfl
  | cons v vs ih => exact ih (see v s)

theorem foldl_seeNext_none (vs : List Value) : vs.foldl seeNext none = ofValues? vs := by
  cases vs with
  | nil => rfl
  | cons v vs => exact foldl_seeNext_some vs (see v {})

theorem find?_alter {name k : String} {v : Value} {shapes : List (String × Shape)} :
    Keyed.find? name (Keyed.alter k {} (fun s => see v s) shapes) =
      if name = k then seeNext (Keyed.find? name shapes) v else Keyed.find? name shapes := by
  rw [Keyed.alter, Keyed.find?_insert]
  split
  · next h => rw [h, seeNext]
  · rfl

theorem find?_seeItems (name : String) (items : List Value) (shapes : List (String × Shape)) :
    Keyed.find? name (seeItems items shapes) =
      (if name = elementName then items else []).foldl seeNext (Keyed.find? name shapes) := by
  induction items generalizing shapes with
  | nil => simp [seeItems]
  | cons v vs ih =>
    rw [seeItems, ih, find?_alter]
    split
    · rfl
    · rfl

theorem find?_seeMembers (name : String) (ms : List (String × Value))
    (shapes : List (String × Shape)) : Keyed.find? name (seeMembers ms shapes) =
      ((ms.filter fun m => m.1 = name).map Prod.snd).foldl seeNext (Keyed.find? name shapes) := by
  induction ms generalizing shapes with
  | nil => rfl
  | cons m ms ih =>
    obtain ⟨k, v⟩ := m
    rw [seeMembers, ih, find?_alter]
    by_cases hk : k = name
    · rw [if_pos hk.symm, List.filter_cons_of_pos (by simpa using hk)]
      rfl
    · rw [if_neg (Ne.symm hk), List.filter_cons_of_neg (by simpa using hk)]

/-- One more value is seen under a name by what it has below it there. -/
theorem find?_see (name : String) (v : Value) (s : Shape) :
    Keyed.find? name (see v s).members =
      (v.under name).foldl seeNext (Keyed.find? name s.members) := by
  cases v with
  | arr items => exact find?_seeItems name items s.members
  | obj ms => exact find?_seeMembers name ms s.members
  | _ => exact congrArg (Keyed.find? name) (members_addKind _ s)

theorem find?_ofValues (name : String) (vs : List Value) :
    Keyed.find? name (ofValues vs).members = ofValues? (vs.flatMap (Value.under name)) := by
  rw [← foldl_seeNext_none]
  induction vs using List.reverseRecOn with
  | nil => rfl
  | append_singleton vs v ih =>
    rw [ofValues_concat, find?_see, ih, List.flatMap_append, List.foldl_append,
      List.flatMap_singleton]

theorem bind_at?_ofValues? (path : List String) (vs : List Value) :
    (ofValues? vs).bind (at? path) = ofValues? (valuesAt path vs) := by
  induction path generalizing vs with
  | nil => exact Option.bind_fun_some _
  | cons name path ih =>
    rw [valuesAt, ← ih, ← find?_ofValues]
    cases vs with
    | nil => rfl
    | cons v vs => rfl

/-- **What a shape has at a path** is the shape of the values at this path. -/
theorem at?_ofValues {path : List String} (hpath : path ≠ []) (vs : List Value) :
    at? path (ofValues vs) = ofValues? (valuesAt path vs) := by
  cases path with
  | nil => exact absurd rfl hpath
  | cons name path => rw [at?, find?_ofValues, bind_at?_ofValues?, valuesAt]

end Shape

end Logbook
