import Logbook.Proofs.Dictionary.Marks

/-!
# The entries of a dictionary

* `Shape.Tidy`, `Shape.at?_toEntry`: entries are at the paths of their shapes;
* `Shape.mem_valuesAt`: the values at a written path;
* `Shape.ofRecords`: the marked shape of some records, from which their dictionary is made;
* **`at?_dictionary`**: what a dictionary has at a path.
-/

namespace Logbook

/-! ## From shapes to entries -/

namespace Shape

theorem kinds_toEntry (s : Shape) : s.toEntry.kinds = s.allKinds := by
  cases s
  rw [toEntry]

theorem note_toEntry (s : Shape) : s.toEntry.note = "" := by
  cases s
  rw [toEntry]

theorem nested_toEntry (s : Shape) : s.toEntry.nested =
    if s.array || s.object then some (toEntries s.members) else none := by
  cases s
  rw [toEntry]

theorem find?_toEntries (name : String) (ms : List (String × Shape)) :
    Keyed.find? name (toEntries ms) = (Keyed.find? name ms).map toEntry := by
  induction ms with
  | nil => rw [toEntries]; rfl
  | cons m ms ih =>
    obtain ⟨k, s⟩ := m
    rw [toEntries, Keyed.find?, Keyed.find?, ih]
    split
    · rfl
    · rfl

/-- A shape that has nothing below it where there is neither an array nor an object. -/
def Tidy (s : Shape) : Prop :=
  ∀ path t, at? path s = some t → (t.array || t.object) = false → t.members = []

theorem Tidy.of_find? {s t : Shape} (h : s.Tidy) {name : String}
    (ht : Keyed.find? name s.members = some t) : t.Tidy := fun path u hu =>
  h (name :: path) u (by rw [at?, ht]; exact hu)

theorem at?_toEntry {s : Shape} (h : s.Tidy) (path : List String) :
    s.toEntry.at? path = (at? path s).map toEntry := by
  induction path generalizing s with
  | nil => rfl
  | cons name path ih =>
    have hfind : Keyed.find? name (s.toEntry.nested.getD []) =
        (Keyed.find? name s.members).map toEntry := by
      rw [nested_toEntry]
      split
      · exact find?_toEntries name s.members
      · next hnone => rw [h [] s rfl (Bool.eq_false_iff.mpr hnone)]; rfl
    rw [Entry.at?, hfind, at?]
    cases ht : Keyed.find? name s.members with
    | none => rfl
    | some t => exact ih (h.of_find? ht)

theorem isPlain_of_sees {vs : List Value} {s : Shape} (h : Sees vs s)
    (hnone : (s.array || s.object) = false) : ∀ v ∈ vs, v.IsPlain := by
  obtain ⟨harray, hobject⟩ := Bool.or_eq_false_iff.mp hnone
  refine fun v hv => ⟨fun hhint => ?_, fun hhint => ?_⟩
  · exact absurd (h.array.mpr ⟨v, hv, hhint⟩) (by simp [harray])
  · exact absurd (h.object.mpr ⟨v, hv, hhint⟩) (by simp [hobject])

theorem ofValues?_eq_some {vs : List Value} {s : Shape} (h : ofValues? vs = some s) :
    vs ≠ [] ∧ s = ofValues vs := by
  unfold ofValues? at h
  split at h
  · exact absurd h (by simp)
  · next hne => exact ⟨by simpa using hne, (Option.some.inj h).symm⟩

theorem tidy_markBelow (vs : List Value) : (markBelow vs (ofValues vs)).Tidy := by
  intro path t ht hnone
  rcases List.eq_nil_or_concat path with rfl | ⟨path, name, rfl⟩
  · obtain rfl := Option.some.inj ht
    have hsees := sees_ofValues vs
    rw [markBelow, hsees.members (isPlain_of_sees hsees hnone)]
    rfl
  · rw [List.concat_eq_append, at?_markBelow, at?_ofValues (by simp), Option.map_eq_some_iff] at ht
    obtain ⟨s, hs, rfl⟩ := ht
    obtain ⟨-, rfl⟩ := ofValues?_eq_some hs
    have hsees := sees_ofValues (valuesAt (path ++ [name]) vs)
    rw [array_markAbsent, object_markAbsent] at hnone
    rw [members_markAbsent, hsees.members (isPlain_of_sees hsees hnone)]
    rfl

/-! ## The values at a written path -/

theorem mem_under_arr {name : String} {items : List Value} {w : Value} :
    w ∈ (Value.arr items).under name ↔ name = elementName ∧ w ∈ items := by
  by_cases h : name = elementName
  · simp [Value.under, h]
  · simp [Value.under, h]

theorem mem_under_obj {name : String} {ms : List (String × Value)} {w : Value} :
    w ∈ (Value.obj ms).under name ↔ (name, w) ∈ ms := by
  simp [Value.under]

/-- A written path goes on from the values under its first name. -/
theorem exists_leads_cons {name : String} {path : List String} {v w : Value} :
    (∃ p : List Step, p.map Step.written = name :: path ∧ Leads p v w) ↔
      ∃ u ∈ v.under name, ∃ p : List Step, p.map Step.written = path ∧ Leads p u w := by
  constructor
  · rintro ⟨p, hp, hleads⟩
    cases hleads with
    | here => exact absurd hp (by simp)
    | member hmem hleads =>
      obtain ⟨hname, hpath⟩ := List.cons.inj hp
      rw [← hname]
      exact ⟨_, mem_under_obj.mpr hmem, _, hpath, hleads⟩
    | item hmem hleads =>
      obtain ⟨hname, hpath⟩ := List.cons.inj hp
      exact ⟨_, mem_under_arr.mpr ⟨hname.symm, hmem⟩, _, hpath, hleads⟩
  · rintro ⟨u, hu, p, rfl, hleads⟩
    cases v with
    | arr items =>
      obtain ⟨rfl, hmem⟩ := mem_under_arr.mp hu
      exact ⟨.item :: p, rfl, .item hmem hleads⟩
    | obj ms => exact ⟨.member name :: p, rfl, .member (mem_under_obj.mp hu) hleads⟩
    | _ => exact absurd hu (by simp [Value.under])

theorem mem_valuesAt {path : List String} {vs : List Value} {w : Value} :
    w ∈ valuesAt path vs ↔
      ∃ v ∈ vs, ∃ p : List Step, p.map Step.written = path ∧ Leads p v w := by
  induction path generalizing vs with
  | nil =>
    rw [valuesAt]
    constructor
    · exact fun hw => ⟨w, hw, [], rfl, .here w⟩
    · rintro ⟨v, hv, p, hp, hleads⟩
      obtain rfl := List.map_eq_nil_iff.mp hp
      cases hleads
      exact hv
  | cons name path ih =>
    rw [valuesAt, ih]
    simp only [List.mem_flatMap, exists_leads_cons]
    constructor
    · rintro ⟨u, ⟨v, hv, hu⟩, hleads⟩
      exact ⟨v, hv, u, hu, hleads⟩
    · rintro ⟨v, hv, u, hu, hleads⟩
      exact ⟨u, ⟨v, hv, hu⟩, hleads⟩

end Shape

theorem mem_valuesAt_iff_reached {rs : List Record} {path : List String} {w : Value} :
    w ∈ Shape.valuesAt path (rs.map Record.toValue) ↔ Reached rs path w := by
  rw [Shape.mem_valuesAt]
  constructor
  · rintro ⟨v, hv, hleads⟩
    obtain ⟨r, hr, rfl⟩ := List.mem_map.mp hv
    exact ⟨r, hr, hleads⟩
  · rintro ⟨r, hr, hleads⟩
    exact ⟨_, List.mem_map_of_mem hr, hleads⟩

/-! ## The dictionary -/

/-- The remark on what is at a path: only the fields of records have one. -/
def noteAt : List String → String
  | [name] => ((Field.ofName? name).map Field.note).getD ""
  | _ => ""

theorem fst_withNote (p : String × Entry) : (withNote p).1 = p.1 := by
  unfold withNote
  split
  · rfl
  · rfl

theorem find?_map_withNote (name : String) (entries : List (String × Entry)) :
    Keyed.find? name (entries.map withNote) =
      (Keyed.find? name entries).map fun e => (withNote (name, e)).2 := by
  induction entries with
  | nil => rfl
  | cons m entries ih =>
    obtain ⟨k, e⟩ := m
    rw [List.map_cons, ← Prod.eta (withNote (k, e)), fst_withNote, Keyed.find?, Keyed.find?, ih]
    split
    · next h => rw [h]; rfl
    · rfl

/-- The entry of a shape at a path, with the remark on what is there. -/
def Shape.entryAt (path : List String) (s : Shape) : Entry := { s.toEntry with note := noteAt path }

theorem Entry.eta (e : Entry) : ⟨e.kinds, e.note, e.nested⟩ = e := by
  cases e
  rfl

theorem snd_withNote_toEntry (name : String) (s : Shape) :
    (withNote (name, s.toEntry)).2 = s.entryAt [name] := by
  have hnote : noteAt [name] = ((Field.ofName? name).map Field.note).getD "" := rfl
  rw [Shape.entryAt, hnote]
  cases hf : Field.ofName? name with
  | none =>
    rw [Option.map_none, Option.getD_none, ← Shape.note_toEntry s, Entry.eta]
    simp only [withNote, hf]
  | some f => simp only [withNote, hf, Option.map_some, Option.getD_some]

theorem toEntry_eq_entryAt (k name : String) (path : List String) (s : Shape) :
    s.toEntry = s.entryAt (k :: (path ++ [name])) := by
  have hnote : noteAt (k :: (path ++ [name])) = s.toEntry.note := by
    rw [Shape.note_toEntry]
    cases path with
    | nil => rfl
    | cons k' path => rfl
  rw [Shape.entryAt, hnote, Entry.eta]

theorem at?_entryAt (path path' : List String) (name : String) (s : Shape) :
    (s.entryAt path').at? (path ++ [name]) = s.toEntry.at? (path ++ [name]) := by
  cases path with
  | nil => rfl
  | cons k path => rfl

/-- The marked shape of some records. -/
def Shape.ofRecords (rs : List Record) : Shape :=
  markBelow (rs.map Record.toValue) (ofValues (rs.map Record.toValue))

theorem Shape.at?_ofRecords (rs : List Record) (path : List String) (name : String) :
    (ofRecords rs).at? (path ++ [name]) =
      (ofValues? (valuesAt (path ++ [name]) (rs.map Record.toValue))).map
        (markAbsent name (instancesAt path (rs.map Record.toValue))) := by
  rw [ofRecords, at?_markBelow, at?_ofValues (by simp)]

theorem find?_dictionary (rs : List Record) (name : String) :
    Keyed.find? name (dictionary rs) =
      (Keyed.find? name (Shape.ofRecords rs).members).map (Shape.entryAt [name]) := by
  have hfields : fieldShapes rs = (Shape.ofRecords rs).members := rfl
  rw [dictionary, find?_map_withNote, Shape.find?_toEntries, hfields, Option.map_map]
  exact congrArg (Option.map · _) (funext (snd_withNote_toEntry name))

/-- Remarks stand at the fields of the records and do not change what is below them. -/
theorem at?_dictionary_eq_map (rs : List Record) (path : List String) (name : String) :
    (dictionary rs).at? (path ++ [name]) =
      ((Shape.ofRecords rs).at? (path ++ [name])).map (Shape.entryAt (path ++ [name])) := by
  cases path with
  | nil =>
    rw [List.nil_append, Dictionary.at?, find?_dictionary, Shape.at?]
    cases Keyed.find? name (Shape.ofRecords rs).members with
    | none => rfl
    | some s => rfl
  | cons k path =>
    rw [List.cons_append, Dictionary.at?, find?_dictionary, Shape.at?]
    cases hk : Keyed.find? k (Shape.ofRecords rs).members with
    | none => rfl
    | some s =>
      have htidy : s.Tidy := (Shape.tidy_markBelow (rs.map Record.toValue)).of_find? hk
      rw [Option.map_some, Option.bind_some, Option.bind_some, at?_entryAt, Shape.at?_toEntry htidy]
      exact congrArg (Option.map · _) (funext (toEntry_eq_entryAt k name path))

/-- **What a dictionary has at a path**: the entry of the values there, with a mark if an instance
of the place above lacks it. -/
theorem at?_dictionary (rs : List Record) (path : List String) (name : String) :
    (dictionary rs).at? (path ++ [name]) =
      (Shape.ofValues? (Shape.valuesAt (path ++ [name]) (rs.map Record.toValue))).map fun s =>
        (Shape.markAbsent name (Shape.instancesAt path (rs.map Record.toValue)) s).entryAt
          (path ++ [name]) := by
  rw [at?_dictionary_eq_map, Shape.at?_ofRecords, Option.map_map]
  rfl

end Logbook
