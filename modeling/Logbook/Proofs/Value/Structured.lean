import Logbook.Proofs.Value.Equality

/-!
# Values as structured data and back

Structured data have a form for every value but `undefined`, dates and numbers that are not finite:
these get the form of another value, or none. An integer below `9 · 10 ^ 15` is written as an
integer and comes back as a double that equals it.

* `HasForm`, `IsData`: values that have a form of their own, by themselves and with all their parts;
* `numberToJson_cases`: what comes back of a number;
* **`comesBack`**: what comes back of a value is strictly equal to it if and only if it is data with
  all its parts;
* `toJson?_ofJson`: what comes back has the structured data that it came from;
* **`dataLaws`**: there and back, and there once more.
-/

namespace Logbook.Value

/-! ## Values with a form -/

/-- By itself a value that structured data have a form for: not `undefined`, no date, and if a
number neither NaN nor an infinity. -/
def HasForm : Value → Prop
  | undefined | date _ => False
  | num x => x.isFinite = true
  | _ => True

/-- At any depth nothing but values that structured data have a form for. -/
def IsData (v : Value) : Prop := ∀ w, Within w v → w.HasForm

theorem isData_iff_hasForm {v : Value} (harr : ∀ items, v ≠ .arr items)
    (hobj : ∀ members, v ≠ .obj members) : IsData v ↔ v.HasForm := by
  simp only [IsData, within_iff_eq harr hobj, forall_eq]

theorem isData_arr {items : List Value} : IsData (.arr items) ↔ ∀ v ∈ items, IsData v := by
  simp only [IsData, within_arr]
  exact ⟨fun h v hv w hw => h w (.inr ⟨v, hv, hw⟩),
    fun h w hw => hw.elim (fun hw => hw ▸ trivial) fun ⟨v, hv, hw⟩ => h v hv w hw⟩

theorem isData_obj {members : List (String × Value)} :
    IsData (.obj members) ↔ ∀ m ∈ members, IsData m.2 := by
  simp only [IsData, within_obj]
  exact ⟨fun h m hm w hw => h w (.inr ⟨m, hm, hw⟩),
    fun h w hw => hw.elim (fun hw => hw ▸ trivial) fun ⟨m, hm, hw⟩ => h m hm w hw⟩

/-! ## Numbers -/

/-- **What comes back of a number**: `null` if it is not finite, else a number that equals it. -/
theorem numberToJson_cases (x : Float) :
    x.isFinite = false ∧ numberToJson x = .null ∨
      x.isFinite = true ∧ ∃ y, (y == x) = true ∧ ofJson (numberToJson x) = .num y := by
  rw [numberToJson]
  cases hfinite : x.isFinite with
  | false => exact .inl ⟨rfl, rfl⟩
  | true =>
    have hself : (x == x) = true := Binary64.beq_self_of_isFinite hfinite
    refine .inr ⟨rfl, ?_⟩
    rw [if_neg (by simp)]
    split
    · next n hintegral hn =>
      split
      · exact ⟨_, Binary64.beq_ofInt hintegral hn, rfl⟩
      · exact ⟨x, hself, rfl⟩
    · exact ⟨x, hself, rfl⟩

/-! ## There and back -/

theorem toJson?_eq_none_iff {v : Value} : v.toJson? = none ↔ v = .undefined := by
  cases v <;> simp [toJson?]

/-- A value that has structured data is what comes back of these if and only if it is data. -/
def ComesBack (v : Value) : Prop :=
  ∀ j, v.toJson? = some j → (strictEq (ofJson j) v = true ↔ IsData v)

theorem not_isData_of_toJson?_eq_none {v : Value} (h : v.toJson? = none) : ¬IsData v := by
  rw [toJson?_eq_none_iff.1 h]
  exact fun hdata => hdata _ (.refl _)

theorem strictEqItems_itemsOfJson_iff {items : List Value} (h : ∀ v ∈ items, ComesBack v) :
    strictEqItems (itemsOfJson (itemsToJson items)) items = true ↔ ∀ v ∈ items, IsData v := by
  induction items with
  | nil => simp [itemsToJson, itemsOfJson, strictEqItems]
  | cons v items ih =>
    obtain ⟨hv, hitems⟩ := List.forall_mem_cons.1 h
    have hfirst : strictEq (ofJson (v.toJson?.getD .null)) v = true ↔ IsData v := by
      cases hj : v.toJson? with
      | some j => exact hv j hj
      | none =>
        have hnot := not_isData_of_toJson?_eq_none hj
        rw [toJson?_eq_none_iff.1 hj] at hnot ⊢
        exact iff_of_false (by decide) hnot
    rw [itemsToJson, itemsOfJson, strictEqItems, Bool.and_eq_true_iff, hfirst, ih hitems,
      List.forall_mem_cons]

theorem length_membersOfJson_le (members : List (String × Value)) :
    (membersOfJson (membersToJson members)).length ≤ members.length := by
  induction members with
  | nil => exact Nat.le_refl 0
  | cons m members ih =>
    obtain ⟨k, v⟩ := m
    rw [membersToJson]
    cases v.toJson? with
    | none => exact ih.trans (Nat.le_succ _)
    | some j => exact Nat.succ_le_succ ih

theorem strictEqMembers_membersOfJson_iff {members : List (String × Value)}
    (h : ∀ m ∈ members, ComesBack m.2) :
    strictEqMembers (membersOfJson (membersToJson members)) members = true ↔
      ∀ m ∈ members, IsData m.2 := by
  induction members with
  | nil => simp [membersToJson, membersOfJson, strictEqMembers]
  | cons m members ih =>
    obtain ⟨k, v⟩ := m
    obtain ⟨hv, hmembers⟩ := List.forall_mem_cons.1 h
    rw [membersToJson, List.forall_mem_cons, ← ih hmembers]
    cases hj : v.toJson? with
    | some j => simp [membersOfJson, strictEqMembers, hv j hj]
    | none =>
      -- a member that is left out makes the object shorter
      refine iff_of_false (fun heq => ?_) fun hdata => not_isData_of_toJson?_eq_none hj hdata.1
      have hlength : (membersOfJson (membersToJson members)).length = members.length + 1 :=
        (strictEqMembers_iff.1 heq).length_eq
      have hle := length_membersOfJson_le members
      omega

/-- **There and back.** -/
theorem comesBack (v : Value) : ComesBack v := by
  induction v with
  | undefined => exact fun j h => nomatch h
  | num x =>
    rintro _ ⟨⟩
    rw [isData_iff_hasForm (by simp) (by simp), HasForm]
    obtain ⟨hx, hnull⟩ | ⟨hx, y, hy, hj⟩ := numberToJson_cases x
    · simp [hnull, hx, ofJson, strictEq]
    · simp [hj, hx, hy, strictEq]
  | arr items ih =>
    rintro _ ⟨⟩
    exact (strictEqItems_itemsOfJson_iff ih).trans isData_arr.symm
  | obj members ih =>
    rintro _ ⟨⟩
    exact (strictEqMembers_membersOfJson_iff ih).trans isData_obj.symm
  | _ =>
    rintro _ ⟨⟩
    simp [isData_iff_hasForm, HasForm, ofJson, strictEq]

/-! ## There once more -/

theorem itemsToJson_itemsOfJson {items : List Value}
    (h : ∀ v ∈ items, ∀ j, v.toJson? = some j → (ofJson j).toJson? = some j) :
    itemsToJson (itemsOfJson (itemsToJson items)) = itemsToJson items := by
  induction items with
  | nil => rfl
  | cons v items ih =>
    obtain ⟨hv, hitems⟩ := List.forall_mem_cons.1 h
    have hfirst : (ofJson (v.toJson?.getD .null)).toJson? = some (v.toJson?.getD .null) := by
      cases hj : v.toJson? with
      | none => rfl
      | some j => exact hv j hj
    rw [itemsToJson, itemsOfJson, itemsToJson, hfirst, ih hitems]
    rfl

theorem membersToJson_membersOfJson {members : List (String × Value)}
    (h : ∀ m ∈ members, ∀ j, m.2.toJson? = some j → (ofJson j).toJson? = some j) :
    membersToJson (membersOfJson (membersToJson members)) = membersToJson members := by
  induction members with
  | nil => rfl
  | cons m members ih =>
    obtain ⟨k, v⟩ := m
    obtain ⟨hv, hmembers⟩ := List.forall_mem_cons.1 h
    rw [membersToJson]
    cases hj : v.toJson? with
    | none => exact ih hmembers
    | some j => simp only [membersOfJson, membersToJson, hv j hj, ih hmembers]

/-- **There once more**: what comes back has the data that it came from. -/
theorem toJson?_ofJson {v : Value} {j : Json} (h : v.toJson? = some j) :
    (ofJson j).toJson? = some j := by
  induction v generalizing j with
  | undefined => cases h
  | num x =>
    obtain rfl := Option.some.inj h
    obtain ⟨-, hnull⟩ | ⟨-, y, hy, hj⟩ := numberToJson_cases x
    · rw [hnull]
      rfl
    · rw [hj, (alike_num hy).toJson?]
      rfl
  | arr items ih =>
    obtain rfl := Option.some.inj h
    rw [ofJson, toJson?, itemsToJson_itemsOfJson fun v hv j => ih v hv]
  | obj members ih =>
    obtain rfl := Option.some.inj h
    rw [ofJson, toJson?, membersToJson_membersOfJson fun m hm j => ih m hm]
  | _ =>
    obtain rfl := Option.some.inj h
    rfl

/-! ## The laws -/

/-- What structured data keep of a value. -/
structure DataLaws (v : Value) : Prop where
  back : IsData v ↔ ∃ j, v.toJson? = some j ∧ strictEq (ofJson j) v = true
  none_iff : v.toJson? = none ↔ v = .undefined
  again : ∀ j, v.toJson? = some j → (ofJson j).toJson? = some j

/-- **Structured data** keep the values that they have a form for, up to strict equality,
`undefined` alone has none, and another time there and back changes nothing. -/
theorem dataLaws (v : Value) : DataLaws v where
  back := by
    constructor
    · intro hdata
      cases hj : v.toJson? with
      | none => exact absurd hdata (not_isData_of_toJson?_eq_none hj)
      | some j => exact ⟨j, rfl, (comesBack v j hj).2 hdata⟩
    · rintro ⟨j, hj, heq⟩
      exact (comesBack v j hj).1 heq
  none_iff := toJson?_eq_none_iff
  again := fun _ => toJson?_ofJson

end Logbook.Value
