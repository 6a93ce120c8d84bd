import Mathlib.Data.List.Nodup
import Logbook.Proofs.Keyed
import Logbook.Proofs.Message.Division
import Logbook.Proofs.Message.Places

/-!
# Tags as objects

The tags of a message are written as one object: the kind, the rest, and beside these two members
one for each key. Nothing is lost by that, as no key is the name of one of the two.

* `Tags.Flat`: tags that can be written as one object;
* `Tags.members`, `Tags.toJson_eq`, `Tags.exists_toValue`: the members of both objects;
* `Tags.toJson?_toValue`, `Tags.ofJson_toJson`: both objects say the same, and what they say;
* `Tags.flat_of_readMessage?`: the tags of a message can be written so, those of a trace too;
* **`toJson_tells_tags`**: so both objects tell the tags of every message.
-/

namespace Logbook

open Keyed

/-! ## Members as structured data -/

namespace Value

theorem membersToJson_eq (ms : List (String × Value)) :
    membersToJson ms = ms.filterMap fun m => m.2.toJson?.map (m.1, ·) := by
  induction ms with
  | nil => rfl
  | cons m ms ih =>
    obtain ⟨k, v⟩ := m
    rw [membersToJson, List.filterMap_cons]
    cases toJson? v <;> simp [ih]

theorem sorted_membersToJson {ms : List (String × Value)} (h : Sorted ms) :
    Sorted (membersToJson ms) := by
  rw [membersToJson_eq]
  refine List.Pairwise.filterMap _ (fun m m' hlt j hj j' hj' => ?_) h
  obtain ⟨_, -, rfl⟩ := Option.map_eq_some_iff.1 hj
  obtain ⟨_, -, rfl⟩ := Option.map_eq_some_iff.1 hj'
  exact hlt

theorem itemsToJson_texts (texts : List String) :
    itemsToJson (texts.map str) = texts.map Json.str := by
  induction texts with
  | nil => rfl
  | cons s texts ih => rw [List.map_cons, itemsToJson, ih, toJson?]; rfl

end Value

namespace Tags

/-! ## Members of an object -/

/-- **Tags that can be written as one object.** -/
structure Flat (t : Tags) : Prop where
  sorted : Sorted t.named
  free : ∀ key ∈ reservedKeys, key ∉ t.named.map Prod.fst

section Members

variable {α : Type} (text : String → α) (array : List α → α)

/-- The members that some tags have beside their rest. -/
def keyMembers (t : Tags) : List (String × α) :=
  (t.kind.map fun k => ("kind", text k)).toList ++ t.named.map fun p => (p.1, text p.2)

/-- The members of the object of some tags, in the order in which they are written. -/
def members (t : Tags) : List (String × α) :=
  t.keyMembers text ++ [("positional", array (t.positional.map text))]

variable {t : Tags}

theorem Flat.nodup_keyMembers (h : t.Flat) : ((t.keyMembers text).map Prod.fst).Nodup := by
  have hnamed := h.sorted.nodup_keys
  have hkind := h.free "kind" (by decide)
  rw [keyMembers]
  cases t.kind <;> simp_all [Function.comp_def]

theorem Flat.positional_not_mem (h : t.Flat) : "positional" ∉ (t.keyMembers text).map Prod.fst := by
  have hpositional := h.free "positional" (by decide)
  rw [keyMembers]
  cases t.kind <;> simp_all

/-- No member is written twice. -/
theorem Flat.nodup_members (h : t.Flat) : ((t.members text array).map Prod.fst).Nodup := by
  rw [members, List.map_append, List.map_singleton, ← List.concat_eq_append]
  exact List.Nodup.concat (h.positional_not_mem text) (h.nodup_keyMembers text)

end Members

theorem toJson_eq (t : Tags) : t.toJson = .obj (ofList (t.members .str .arr)) := by
  unfold toJson members keyMembers
  cases t.kind <;> rfl

theorem membersToJson_members (t : Tags) :
    Value.membersToJson (t.members .str .arr) = t.members .str .arr := by
  rw [Value.membersToJson_eq, members, members, keyMembers, keyMembers]
  cases t.kind <;> simp [Value.toJson?, Value.itemsToJson_texts, Function.comp_def]

variable {t : Tags}

theorem exists_toValue (h : t.Flat) :
    ∃ ms, t.toValue = .obj ms ∧ Sorted ms ∧ ms.Perm (t.members .str .arr) := by
  obtain ⟨ms, hvalue, hsorted, hperm⟩ : ∃ ms, t.toValue =
      .obj (insert "positional" (.arr (t.positional.map .str)) ms) ∧ Sorted ms ∧
        ms.Perm (t.keyMembers .str) := by
    have hnamed : Sorted (t.named.map fun p => (p.1, Value.str p.2)) := h.sorted.map Value.str
    have hkind : "kind" ∉ (t.named.map fun p => (p.1, Value.str p.2)).map Prod.fst := by
      rw [List.map_map]
      exact h.free "kind" (by decide)
    unfold toValue keyMembers
    cases t.kind with
    | none => exact ⟨_, rfl, hnamed, .refl _⟩
    | some k => exact ⟨_, rfl, sorted_insert _ _ hnamed, insert_perm _ hkind⟩
  have hnew : "positional" ∉ ms.map Prod.fst := fun hmem =>
    h.positional_not_mem Value.str ((hperm.map Prod.fst).mem_iff.1 hmem)
  exact ⟨_, hvalue, sorted_insert _ _ hsorted,
    (insert_perm _ hnew).trans ((hperm.cons _).trans (List.perm_append_singleton _ _).symm)⟩

/-- **The object as a value and the object as structured data say the same.** -/
theorem toJson?_toValue (h : t.Flat) : t.toValue.toJson? = some t.toJson := by
  obtain ⟨ms, hvalue, hsorted, hperm⟩ := exists_toValue h
  have hjson : (Value.membersToJson ms).Perm (ofList (t.members .str .arr)) := by
    refine List.Perm.trans ?_ (ofList_perm (h.nodup_members Json.str Json.arr)).symm
    rw [← membersToJson_members, Value.membersToJson_eq, Value.membersToJson_eq]
    exact hperm.filterMap _
  rw [hvalue, Value.toJson?, toJson_eq,
    (Value.sorted_membersToJson hsorted).eq_of_perm (sorted_ofList _) hjson]

/-! ## Reading the object -/

/-- The texts of an array. -/
def texts : Json → List String
  | .arr items => items.filterMap Json.text?
  | _ => []

/-- The tags that an object says. -/
def ofJson : Json → Tags
  | .obj ms =>
    { kind := (find? "kind" ms).bind Json.text?
      named := (ms.filter fun m => m.1 ∉ reservedKeys).filterMap fun m => m.2.text?.map (m.1, ·)
      positional := ((find? "positional" ms).map texts).getD [] }
  | _ => {}

theorem Flat.filter_members (h : t.Flat) :
    (t.members Json.str Json.arr).filter (fun m => m.1 ∉ reservedKeys) =
      t.named.map fun p => (p.1, Json.str p.2) := by
  have hkept : (t.named.map fun p => (p.1, Json.str p.2)).filter (fun m => m.1 ∉ reservedKeys) =
      t.named.map fun p => (p.1, Json.str p.2) := by
    refine List.filter_eq_self.2 fun m hm => ?_
    obtain ⟨p, hp, rfl⟩ := List.mem_map.1 hm
    exact decide_eq_true fun hkey => h.free p.1 hkey (List.mem_map_of_mem hp)
  rw [members, keyMembers, List.filter_append, List.filter_append, hkept]
  cases t.kind <;> simp [reservedKeys]

theorem Flat.find?_kind (h : t.Flat) :
    find? "kind" (ofList (t.members Json.str Json.arr)) = t.kind.map Json.str := by
  have hkind := h.free "kind" (by decide)
  refine Option.ext fun v => ?_
  rw [find?_ofList_eq_some_iff (h.nodup_members Json.str Json.arr), members, keyMembers]
  cases t.kind <;> simp_all [eq_comm]

theorem Flat.find?_positional (h : t.Flat) :
    find? "positional" (ofList (t.members Json.str Json.arr)) =
      some (.arr (t.positional.map Json.str)) :=
  (find?_ofList_eq_some_iff (h.nodup_members Json.str Json.arr)).2
    (List.mem_append_right _ List.mem_cons_self)

theorem texts_arr (l : List String) : texts (.arr (l.map Json.str)) = l := by
  simp [texts, List.filterMap_map, Function.comp_def, Json.text?]

/-- **The object tells its tags.** -/
theorem ofJson_toJson (h : t.Flat) : ofJson t.toJson = t := by
  have hnamed : (ofList (t.members Json.str Json.arr)).filter (fun m => m.1 ∉ reservedKeys) =
      t.named.map fun p => (p.1, Json.str p.2) := by
    refine Sorted.eq_of_perm (List.Pairwise.filter _ (sorted_ofList _)) (h.sorted.map Json.str) ?_
    rw [← h.filter_members]
    exact (ofList_perm (h.nodup_members Json.str Json.arr)).filter _
  rw [toJson_eq, ofJson, h.find?_kind, h.find?_positional, hnamed, List.filterMap_map]
  obtain ⟨kind, named, positional⟩ := t
  cases kind <;> simp [texts_arr, Json.text?, Function.comp_def]

/-- The tags that an object says as a value. -/
def ofValue (v : Value) : Tags := (v.toJson?.map ofJson).getD {}

theorem ofValue_toValue (h : t.Flat) : ofValue t.toValue = t := by
  rw [ofValue, toJson?_toValue h, Option.map_some, Option.getD_some, ofJson_toJson h]

/-! ## The tags of a message -/

/-- Sorted tags are free of the keys that belong with the rest. -/
theorem flat_of_sorts {tags : List (List Char)} {c : Classified} (h : Sorts tags c) :
    c.tags.Flat where
  sorted := h.sorted
  free key hkey := by
    have hnone : tags.filter (Belongs · (.named key)) = [] := by
      refine List.filter_eq_nil_iff.2 fun tag _ hbelongs => ?_
      cases of_decide_eq_true hbelongs with
      | named _ _ _ hfree => exact hfree hkey
    rw [← find?_eq_none_iff, h.named, hnone]
    rfl

theorem flat_classify (raw : List (List Char)) : (classify raw).tags.Flat :=
  flat_of_sorts (Sorts.foldl (severityOf raw).1 (severityOf raw).2)

theorem flat_of_readMessage? {log : String} {lines : List Line} {m : Record × Option Instant}
    (h : readMessage? log lines = some m) : m.1.tags.Flat := by
  obtain ⟨first, following, -, -, rfl⟩ := exists_reading_of_readMessage? h
  unfold reading
  split
  · exact flat_classify _
  · exact ⟨.nil, fun _ _ => List.not_mem_nil⟩

end Tags

/-- **Nothing is lost in the object of the tags of a message**, be it a trace or not: the object as
a value and the one as structured data say the same, and either tells the tags. -/
theorem toJson_tells_tags {log : String} {prev : Option Instant} {lines : List Line} {r : Record}
    (h : parseMessage? log prev lines = some r) :
    (∀ key ∈ Tags.reservedKeys, key ∉ r.tags.named.map Prod.fst) ∧
      r.tags.toValue.toJson? = some r.tags.toJson ∧
      Tags.ofJson r.tags.toJson = r.tags ∧ Tags.ofValue r.tags.toValue = r.tags := by
  obtain ⟨m, hm, rfl⟩ := Option.map_eq_some_iff.1 h
  have hflat := Tags.flat_of_readMessage? hm
  exact ⟨hflat.free, Tags.toJson?_toValue hflat, Tags.ofJson_toJson hflat,
    Tags.ofValue_toValue hflat⟩

/-- Tags with the names of members for their keys, and the tags of a trace. -/
theorem toJson_tells_tags_reserved :
    (∃ r, parseMessage? "a" none ["INFO [kind#3] [req#5] [positional#4] ping".toList] = some r ∧
      r.tags = ⟨some "INFO", [("req", "req#5")], ["kind#3", "positional#4"]⟩ ∧
      Tags.ofJson r.tags.toJson = r.tags ∧ Tags.ofValue r.tags.toValue = r.tags) ∧
    ∃ r, parseMessage? "a" none
        ["[Trace - 9:43:06 PM] Sending request 'textDocument/hover - (12)'.".toList] = some r ∧
      r.tags = ⟨some "request", [], []⟩ ∧
      Tags.ofJson r.tags.toJson = r.tags ∧ Tags.ofValue r.tags.toValue = r.tags := by
  have hplain : (parseMessage? "a" none ["INFO [kind#3] [req#5] [positional#4] ping".toList]).map
      Record.tags = some ⟨some "INFO", [("req", "req#5")], ["kind#3", "positional#4"]⟩ := by
    decide +kernel
  have htrace : (parseMessage? "a" none
      ["[Trace - 9:43:06 PM] Sending request 'textDocument/hover - (12)'.".toList]).map
      Record.tags = some ⟨some "request", [], []⟩ := by
    decide +kernel
  obtain ⟨r, hr, hrtags⟩ := Option.map_eq_some_iff.1 hplain
  obtain ⟨s, hs, hstags⟩ := Option.map_eq_some_iff.1 htrace
  exact ⟨⟨r, hr, hrtags, (toJson_tells_tags hr).2.2⟩, s, hs, hstags, (toJson_tells_tags hs).2.2⟩

end Logbook
