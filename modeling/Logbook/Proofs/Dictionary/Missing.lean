import Logbook.Proofs.Dictionary.Description
import Logbook.Proofs.Keyed

/-!
# Marks in a dictionary

* `Value.Defined`, `Record.defined_toValue`: there is no `undefined` in a record;
* `Dictionary.MarksMissing`: `undefined` is listed just where an instance lacks something;
* **`marksMissing_dictionary`**: so it is when every `ELEMENT` is read as the step to an item;
* `not_marksMissing_element`: a member of this name is marked although nothing lacks it.
-/

namespace Logbook

/-! ## Values without `undefined` -/

/-- No path leads to `undefined`. -/
def Value.Defined (v : Value) : Prop := ∀ p w, Leads p v w → w ≠ .undefined

namespace Value

theorem defined_arr {items : List Value} (h : ∀ v ∈ items, v.Defined) : (arr items).Defined := by
  intro p w hleads
  cases hleads with
  | here => simp
  | item hmem hleads => exact h _ hmem _ _ hleads

theorem defined_obj {ms : List (String × Value)} (h : ∀ m ∈ ms, m.2.Defined) :
    (obj ms).Defined := by
  intro p w hleads
  cases hleads with
  | here => simp
  | member hmem hleads => exact h _ hmem _ _ hleads

theorem defined_of_isPlain {v : Value} (hplain : v.IsPlain) (h : v ≠ .undefined) : v.Defined := by
  intro p w hleads
  cases hleads with
  | here => exact h
  | member => exact absurd rfl hplain.2
  | item => exact absurd rfl hplain.1

theorem defined_null : null.Defined := defined_of_isPlain (by simp [IsPlain, hint]) (by simp)

theorem defined_str (s : String) : (str s).Defined := by
  refine defined_of_isPlain ?_ (by simp)
  by_cases hs : s.isEmpty = true
  · simp [IsPlain, hint, hs]
  · simp [IsPlain, hint, hs]

mutual

theorem defined_ofJson : ∀ j : Json, (ofJson j).Defined
  | .null => defined_null
  | .bool b => defined_of_isPlain (by simp [ofJson, IsPlain, hint]) (by simp [ofJson])
  | .int n => defined_of_isPlain (by simp [ofJson, IsPlain, hint]) (by simp [ofJson])
  | .double x => defined_of_isPlain (by simp [ofJson, IsPlain, hint]) (by simp [ofJson])
  | .str s => defined_str s
  | .arr items => defined_arr (defined_itemsOfJson items)
  | .obj members => defined_obj (defined_membersOfJson members)

theorem defined_itemsOfJson : ∀ (js : List Json), ∀ v ∈ itemsOfJson js, v.Defined
  | [], v, hv => absurd hv (by simp [itemsOfJson])
  | j :: js, v, hv => by
    rw [itemsOfJson] at hv
    rcases List.mem_cons.mp hv with rfl | hv
    · exact defined_ofJson j
    · exact defined_itemsOfJson js v hv

theorem defined_membersOfJson : ∀ (ms : List (String × Json)), ∀ m ∈ membersOfJson ms, m.2.Defined
  | [], m, hm => absurd hm (by simp [membersOfJson])
  | (k, j) :: ms, m, hm => by
    rw [membersOfJson] at hm
    rcases List.mem_cons.mp hm with rfl | hm
    · exact defined_ofJson j
    · exact defined_membersOfJson ms m hm

end

end Value

/-! ## Records without `undefined` -/

theorem Tags.defined_toValue (t : Tags) : t.toValue.Defined := by
  have hnamed : ∀ m ∈ t.named.map fun p => (p.1, Value.str p.2), m.2.Defined := by
    intro m hm
    obtain ⟨p, -, rfl⟩ := List.mem_map.mp hm
    exact Value.defined_str p.2
  have hpositional : (Value.arr (t.positional.map Value.str)).Defined := by
    refine Value.defined_arr fun v hv => ?_
    obtain ⟨s, -, rfl⟩ := List.mem_map.mp hv
    exact Value.defined_str s
  refine Value.defined_obj fun m hm => ?_
  rcases Keyed.mem_of_mem_insert hm with rfl | hm
  · exact hpositional
  · cases hkind : t.kind with
    | none =>
      rw [hkind] at hm
      exact hnamed m hm
    | some k =>
      rw [hkind] at hm
      rcases Keyed.mem_of_mem_insert hm with rfl | hm
      · exact Value.defined_str k
      · exact hnamed m hm

theorem Value.defined_ofText? (s : Option String) : (Value.ofText? s).Defined := by
  cases s with
  | none => exact defined_null
  | some s => exact defined_str s

theorem Record.defined_field (r : Record) (f : Field) : (r.field f).Defined := by
  cases f with
  | log => exact Value.defined_str r.log
  | message => exact Value.defined_str r.message
  | tags => exact r.tags.defined_toValue
  | time =>
    rw [Record.field]
    split
    · exact Value.defined_of_isPlain (by simp [Value.IsPlain, Value.hint]) (by simp)
    · exact Value.defined_null
  | line => exact Value.defined_str r.line
  | title => exact Value.defined_ofText? r.title
  | body => exact Value.defined_str r.body
  | id => exact Value.defined_ofText? r.id
  | filename => exact Value.defined_ofText? r.filename
  | payload =>
    rw [Record.field]
    split
    · exact Value.defined_ofJson _
    · exact Value.defined_null

theorem Record.defined_toValue (r : Record) : r.toValue.Defined := by
  refine Value.defined_obj fun m hm => ?_
  obtain ⟨f, -, rfl⟩ := List.mem_map.mp (Keyed.mem_of_mem_ofList hm)
  exact r.defined_field f

/-! ## Marks -/

/-- **A dictionary marks what is missing at a step**: if there is an entry, it lists `undefined`
just where an instance of the place above has nothing at the step. -/
def Dictionary.MarksMissing (d : Dictionary) (rs : List Record) (p : List Step) (step : Step) :
    Prop :=
  ∀ e, d.at? ((p ++ [step]).map Step.written) = some e →
    ("undefined" ∈ e.kinds ↔ ∃ x, Instance rs p x ∧ x.Lacks step)

theorem Step.written_ofWritten (name : String) : (ofWritten name).written = name := by
  unfold ofWritten
  split
  · next h => exact h.symm
  · rfl

theorem Step.ofWritten_written {step : Step} (h : step ≠ .member elementName) :
    ofWritten step.written = step := by
  cases step with
  | member name => exact if_neg fun hname => h (congrArg member hname)
  | item => rfl

theorem reached_ne_undefined {rs : List Record} {path : List String} {w : Value}
    (h : Reached rs path w) : w.hint ≠ "undefined" := by
  obtain ⟨r, -, p, -, hleads⟩ := h
  rw [Ne, Value.hint_eq_undefined]
  exact r.defined_toValue p w hleads

theorem marksMissing_ofWritten (rs : List Record) (path : List String) (name : String) :
    (dictionary rs).MarksMissing rs (path.map Step.ofWritten) (Step.ofWritten name) := by
  intro e he
  have hwritten : (path.map Step.ofWritten ++ [Step.ofWritten name]).map Step.written =
      path ++ [name] := by
    rw [List.map_append, List.map_map, List.map_singleton, Step.written_ofWritten]
    exact congrArg (· ++ [name]) (List.map_id'' Step.written_ofWritten path)
  rw [hwritten] at he
  rw [mem_kinds_iff he, or_iff_right, and_iff_right rfl]
  rintro ⟨w, hw, hhint⟩
  exact reached_ne_undefined hw hhint

/-- **A dictionary marks what is missing** when every `ELEMENT` is read as the step to an item, and
so at the end of every path that has no member of this name. -/
theorem marksMissing_dictionary (rs : List Record) :
    (∀ (path : List String) (name : String),
      (dictionary rs).MarksMissing rs (path.map Step.ofWritten) (Step.ofWritten name)) ∧
      ∀ p step, .member elementName ∉ p ++ [step] → (dictionary rs).MarksMissing rs p step := by
  refine ⟨marksMissing_ofWritten rs, fun p step hmember => ?_⟩
  have hread : ∀ s ∈ p ++ [step], Step.ofWritten s.written = s :=
    fun s hs => Step.ofWritten_written fun heq => hmember (heq ▸ hs)
  have hp : (p.map Step.written).map Step.ofWritten = p := by
    rw [List.map_map]
    exact (List.map_congr_left fun s hs => hread s (List.mem_append_left _ hs)).trans
      (List.map_id' _)
  have hmarks := marksMissing_ofWritten rs (p.map Step.written) step.written
  rwa [hp, hread step (List.mem_append_right _ List.mem_cons_self)] at hmarks

theorem marksMissing_dictionary_absent :
    let rs := [payloadRecord none, payloadRecord (some (.obj [("a", .int 1)]))]
    ∃ x, Instance rs [.member "payload"] x ∧ x.Lacks (.member "a") := by
  intro rs
  have hkinds : ((dictionary rs).at? ["payload", "a"]).map Entry.kinds =
      some ["number", "undefined"] := rfl
  obtain ⟨e, he, hkinds⟩ := Option.map_eq_some_iff.mp hkinds
  exact ((marksMissing_dictionary rs).2 [.member "payload"] (.member "a") (by decide) e he).mp
    (hkinds ▸ by decide)

/-- **A member `ELEMENT` is marked where nothing lacks it**, as if it were the step to an item. -/
theorem not_marksMissing_element :
    let rs := [payloadRecord (some (.obj [("ELEMENT", .int 1)]))]
    (∀ x, Instance rs [.member "payload"] x → ¬ x.Lacks (.member "ELEMENT")) ∧
      ¬ (dictionary rs).MarksMissing rs [.member "payload"] (.member "ELEMENT") := by
  intro rs
  have hpresent : ∀ x, Instance rs [.member "payload"] x → ¬ x.Lacks (.member "ELEMENT") := by
    intro x hx hlacks
    have hinstances : Shape.instancesAt ["payload"] (rs.map Record.toValue) =
        [.obj [("ELEMENT", .num (Binary64.ofInt 1))]] := rfl
    have hmem : x ∈ Shape.instancesAt ["payload"] (rs.map Record.toValue) :=
      Shape.mem_instancesAt.mpr hx
    rw [hinstances] at hmem
    obtain rfl := List.mem_singleton.mp hmem
    exact absurd (hlacks _ rfl) (by simp [Keyed.find?])
  refine ⟨hpresent, fun hmarks => ?_⟩
  have hkinds : ((dictionary rs).at? ["payload", "ELEMENT"]).map Entry.kinds =
      some ["number", "undefined"] := rfl
  obtain ⟨e, he, hkinds⟩ := Option.map_eq_some_iff.mp hkinds
  obtain ⟨x, hx, hlacks⟩ := (hmarks e he).mp (hkinds ▸ by decide)
  exact hpresent x hx hlacks

end Logbook
