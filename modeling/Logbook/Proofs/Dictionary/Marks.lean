import Logbook.Proofs.Dictionary.Paths
import Logbook.Proofs.Dictionary.Shapes

/-!
# Marks on missing places

* `Step.ofWritten`: the step that a name in a dictionary is read as;
* `Shape.instancesAt`, `Shape.mem_instancesAt`: the instances of a written path;
* `Shape.markBelow`, **`Shape.at?_markBelow`**: what a shape has at a path once missing places are
  marked.
-/

namespace Logbook

/-- The step that a name in a dictionary is read as. -/
def Step.ofWritten (name : String) : Step := if name = elementName then .item else .member name

namespace Shape

/-! ## Marking -/

/-- The values at a path below some values; a missing member counts as `undefined`. -/
def instancesAt (path : List String) (vs : List Value) : List Value :=
  path.foldl (fun vs name => reached name vs) vs

/-- A shape with marks on all places below it where something is missing. -/
def markBelow (vs : List Value) (s : Shape) : Shape :=
  { s with members := markMembers vs s.members }

theorem find?_markMembers (name : String) (vs : List Value) (ms : List (String × Shape)) :
    Keyed.find? name (markMembers vs ms) = (Keyed.find? name ms).map (markAbsent name vs) := by
  induction ms with
  | nil => rfl
  | cons m ms ih =>
    obtain ⟨k, s⟩ := m
    rw [markMembers, Keyed.find?, Keyed.find?, ih]
    split
    · next h => rw [h]; rfl
    · rfl

theorem markAbsent_eq (name : String) (vs : List Value) (s : Shape) :
    markAbsent name vs s = addMissing name vs (markBelow (reached name vs) s) := by
  cases s
  rfl

theorem members_markAbsent (name : String) (vs : List Value) (s : Shape) :
    (markAbsent name vs s).members = markMembers (reached name vs) s.members := by
  rw [markAbsent_eq, addMissing]
  split
  · exact members_addKind _ _
  · rfl

theorem at?_congr {s t : Shape} (h : s.members = t.members) {path : List String}
    (hpath : path ≠ []) : at? path s = at? path t := by
  cases path with
  | nil => exact absurd rfl hpath
  | cons name path => rw [at?, at?, h]

/-- **What a marked shape has at a path** is what was there, marked by the instances of the place
above. -/
theorem at?_markBelow (path : List String) (name : String) (vs : List Value) (s : Shape) :
    at? (path ++ [name]) (markBelow vs s) =
      (at? (path ++ [name]) s).map (markAbsent name (instancesAt path vs)) := by
  induction path generalizing vs s with
  | nil =>
    simp only [List.nil_append, at?, markBelow, find?_markMembers, instancesAt, List.foldl_nil]
    cases Keyed.find? name s.members <;> rfl
  | cons k path ih =>
    rw [List.cons_append, at?, at?, markBelow, find?_markMembers]
    cases Keyed.find? k s.members with
    | none => rfl
    | some t =>
      have hmembers : (markAbsent k vs t).members = (markBelow (reached k vs) t).members :=
        members_markAbsent k vs t
      rw [Option.map_some, Option.bind_some, Option.bind_some,
        at?_congr hmembers (List.append_ne_nil_of_right_ne_nil _ (List.cons_ne_nil _ _)), ih]
      rfl

/-! ## What is missing -/

theorem memberOf?_eq_none {name : String} {x : Value} :
    memberOf? name x = none ↔ x.Lacks (.member name) := by
  cases x with
  | obj ms => simp [memberOf?, Value.Lacks]
  | _ => simp [memberOf?, Value.Lacks]

theorem itemsOf?_eq_none {x : Value} : itemsOf? x = none ↔ x.Lacks .item := by
  cases x with
  | arr items => simp [itemsOf?, Value.Lacks]
  | _ => simp [itemsOf?, Value.Lacks]

theorem any_stepInto {name : String} {vs : List Value} :
    (stepInto name vs).any Option.isNone = true ↔ ∃ x ∈ vs, x.Lacks (Step.ofWritten name) := by
  unfold stepInto Step.ofWritten
  split
  · simp only [List.any_map, List.any_eq_true, Function.comp_apply, Option.isNone_iff_eq_none,
      itemsOf?_eq_none]
  · simp only [List.any_map, List.any_eq_true, Function.comp_apply, Option.isNone_map,
      Option.isNone_iff_eq_none, memberOf?_eq_none]

theorem mem_kinds_markAbsent {k name : String} {vs : List Value} {s : Shape} :
    k ∈ (markAbsent name vs s).kinds ↔
      k ∈ s.kinds ∨ k = "undefined" ∧ ∃ x ∈ vs, x.Lacks (Step.ofWritten name) := by
  rw [markAbsent_eq, addMissing, ← any_stepInto]
  split
  · next h => rw [mem_kinds_addKind, h]; simp [markBelow]
  · next h => simp [markBelow, h]

theorem nodup_kinds_markAbsent {s : Shape} (h : s.kinds.Nodup) (name : String) (vs : List Value) :
    (markAbsent name vs s).kinds.Nodup := by
  rw [markAbsent_eq, addMissing]
  split
  · exact nodup_kinds_addKind h
  · exact h

theorem array_markAbsent (name : String) (vs : List Value) (s : Shape) :
    (markAbsent name vs s).array = s.array := by
  rw [markAbsent_eq, addMissing]
  split
  · exact array_addKind _ _
  · rfl

theorem object_markAbsent (name : String) (vs : List Value) (s : Shape) :
    (markAbsent name vs s).object = s.object := by
  rw [markAbsent_eq, addMissing]
  split
  · exact object_addKind _ _
  · rfl

/-! ## Instances -/

theorem mem_reached_element {vs : List Value} {w : Value} :
    w ∈ reached elementName vs ↔ ∃ items, .arr items ∈ vs ∧ w ∈ items := by
  simp only [reached, stepInto, if_true, List.flatMap_map, List.mem_flatMap]
  constructor
  · rintro ⟨v, hv, hw⟩
    cases v with
    | arr items => exact ⟨items, hv, hw⟩
    | _ => exact absurd hw (by simp [itemsOf?])
  · rintro ⟨items, hv, hw⟩
    exact ⟨.arr items, hv, hw⟩

theorem mem_reached_of_ne {name : String} (hname : name ≠ elementName) {vs : List Value}
    {w : Value} : w ∈ reached name vs ↔ ∃ v ∈ vs, (memberOf? name v).getD .undefined = w := by
  simp only [reached, stepInto, if_neg hname, List.flatMap_map, List.mem_flatMap]
  refine exists_congr fun v => and_congr_right fun _ => ?_
  cases memberOf? name v with
  | none => simp [eq_comm]
  | some u => simp [eq_comm]

theorem instancesAt_concat (path : List String) (name : String) (vs : List Value) :
    instancesAt (path ++ [name]) vs = reached name (instancesAt path vs) := by
  rw [instancesAt, List.foldl_append]
  rfl

end Shape

theorem instance_concat_item {rs : List Record} {p : List Step} {w : Value} :
    Instance rs (p ++ [.item]) w ↔ ∃ items, Instance rs p (.arr items) ∧ w ∈ items := by
  constructor
  · intro h
    generalize hq : p ++ [.item] = q at h
    cases h with
    | root hr => exact absurd hq (by simp)
    | member hx hw => exact absurd (List.append_inj' hq rfl).2 (by simp)
    | missing hx hlacks => exact absurd (List.append_inj' hq rfl).2 (by simp)
    | item hx hw =>
      obtain rfl := (List.append_inj' hq rfl).1
      exact ⟨_, hx, hw⟩
  · rintro ⟨items, hx, hw⟩
    exact .item hx hw

theorem instance_concat_member {rs : List Record} {p : List Step} {name : String} {w : Value} :
    Instance rs (p ++ [.member name]) w ↔
      ∃ x, Instance rs p x ∧ (Shape.memberOf? name x).getD .undefined = w := by
  constructor
  · intro h
    generalize hq : p ++ [.member name] = q at h
    cases h with
    | root hr => exact absurd hq (by simp)
    | member hx hw =>
      obtain ⟨rfl, hstep⟩ := List.append_inj' hq rfl
      cases hstep
      exact ⟨_, hx, by rw [Shape.memberOf?, hw]; rfl⟩
    | missing hx hlacks =>
      obtain ⟨rfl, hstep⟩ := List.append_inj' hq rfl
      cases hstep
      exact ⟨_, hx, by rw [Shape.memberOf?_eq_none.mpr hlacks]; rfl⟩
    | item hx hw => exact absurd (List.append_inj' hq rfl).2 (by simp)
  · rintro ⟨x, hx, rfl⟩
    cases hw : Shape.memberOf? name x with
    | none => exact .missing hx (Shape.memberOf?_eq_none.mp hw)
    | some w =>
      cases x with
      | obj ms => exact .member hx hw
      | _ => exact absurd hw (by simp [Shape.memberOf?])

/-- **The instances of a written path**, each name read as a step. -/
theorem Shape.mem_instancesAt {rs : List Record} {path : List String} {w : Value} :
    w ∈ Shape.instancesAt path (rs.map Record.toValue) ↔
      Instance rs (path.map Step.ofWritten) w := by
  induction path using List.reverseRecOn generalizing w with
  | nil =>
    constructor
    · intro h
      obtain ⟨r, hr, rfl⟩ := List.mem_map.mp h
      exact .root hr
    · intro h
      generalize hq : ([] : List String).map Step.ofWritten = q at h
      cases h with
      | root hr => exact List.mem_map_of_mem hr
      | _ => exact absurd hq (by simp)
  | append_singleton path name ih =>
    rw [Shape.instancesAt_concat, List.map_append, List.map_singleton, Step.ofWritten]
    split
    · next hname =>
      rw [instance_concat_item, hname, Shape.mem_reached_element]
      exact exists_congr fun items => and_congr_left fun _ => ih
    · next hname =>
      rw [instance_concat_member, Shape.mem_reached_of_ne hname]
      exact exists_congr fun x => and_congr_left fun _ => ih

end Logbook
