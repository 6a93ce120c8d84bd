import Logbook.Proofs.Number.Doubles
import Logbook.Proofs.Dictionary.Paths
import Logbook.Value.Relation

/-!
# The equalities of values

Strict equality compares values part by part, so whatever passes from the parts of values to the
values holds of strictly equal ones as soon as it holds of equal numbers.

* `induct`: induction over values; `Within`: what stands in a value at some depth;
* `strictEq_num`, `strictEq_arr`, `strictEq_obj`: what a value of one kind is strictly equal to;
* **`Congruent.of_strictEq`**: strict equality is below every relation that passes from the parts of
  values to the values;
* `strictEq_self_iff`: only NaN keeps a value from being strictly equal to itself;
* `Alike`: two values that are of one kind and count as the same truth value, text and data;
* **`equalityLaws`**: the laws of strict equality, loose equality and `sameValueZero`.
-/

namespace Logbook.Value

/-! ## Values and their parts -/

/-- **Induction over values**, from the items of an array and the values of an object's members. -/
@[elab_as_elim, induction_eliminator]
theorem induct {motive : Value → Prop} (undefined : motive .undefined) (null : motive .null)
    (bool : ∀ b, motive (.bool b)) (num : ∀ x, motive (.num x)) (str : ∀ s, motive (.str s))
    (date : ∀ t, motive (.date t))
    (arr : ∀ items, (∀ v ∈ items, motive v) → motive (.arr items))
    (obj : ∀ members, (∀ m ∈ members, motive m.2) → motive (.obj members)) : ∀ v, motive v
  | .undefined => undefined
  | .null => null
  | .bool b => bool b
  | .num x => num x
  | .str s => str s
  | .date t => date t
  | .arr items => arr items fun v _ => induct undefined null bool num str date arr obj v
  | .obj members => obj members fun m _ => induct undefined null bool num str date arr obj m.2
termination_by v => sizeOf v
decreasing_by
  · simp_wf
    have hlt := List.sizeOf_lt_of_mem ‹v ∈ items›
    omega
  · obtain ⟨k, w⟩ := m
    simp_wf
    have hlt := List.sizeOf_lt_of_mem ‹(k, w) ∈ members›
    simp only [Prod.mk.sizeOf_spec] at hlt
    omega

/-- What stands in a value at some depth; a value stands in itself. -/
def Within (w v : Value) : Prop := ∃ p, Leads p v w

theorem Within.refl (v : Value) : Within v v := ⟨[], .here v⟩

theorem within_arr {w : Value} {items : List Value} :
    Within w (.arr items) ↔ w = .arr items ∨ ∃ v ∈ items, Within w v := by
  constructor
  · rintro ⟨_, _ | _ | ⟨hv, hp⟩⟩
    · exact .inl rfl
    · exact .inr ⟨_, hv, _, hp⟩
  · rintro (rfl | ⟨v, hv, p, hp⟩)
    · exact .refl _
    · exact ⟨_, .item hv hp⟩

theorem within_obj {w : Value} {members : List (String × Value)} :
    Within w (.obj members) ↔ w = .obj members ∨ ∃ m ∈ members, Within w m.2 := by
  constructor
  · rintro ⟨_, _ | ⟨hv, hp⟩ | _⟩
    · exact .inl rfl
    · exact .inr ⟨_, hv, _, hp⟩
  · rintro (rfl | ⟨⟨k, v⟩, hv, p, hp⟩)
    · exact .refl _
    · exact ⟨_, .member hv hp⟩

/-- In a value without parts stands nothing else. -/
theorem within_iff_eq {w v : Value} (harr : ∀ items, v ≠ .arr items)
    (hobj : ∀ members, v ≠ .obj members) : Within w v ↔ w = v := by
  constructor
  · rintro ⟨_, _ | _ | _⟩
    · rfl
    · exact absurd rfl (hobj _)
    · exact absurd rfl (harr _)
  · rintro rfl
    exact .refl w

/-! ## Strict equality by kind -/

theorem strictEqItems_iff {as bs : List Value} :
    strictEqItems as bs = true ↔ List.Forall₂ (fun a b => strictEq a b = true) as bs := by
  induction as generalizing bs with
  | nil => cases bs <;> simp [strictEqItems]
  | cons a as ih => cases bs <;> simp [strictEqItems, ih]

theorem strictEqMembers_iff {as bs : List (String × Value)} :
    strictEqMembers as bs = true ↔
      List.Forall₂ (fun m n => m.1 = n.1 ∧ strictEq m.2 n.2 = true) as bs := by
  induction as generalizing bs with
  | nil => cases bs <;> simp [strictEqMembers]
  | cons a as ih => cases bs <;> simp [strictEqMembers, ih]

theorem strictEq_num {x : Float} {b : Value} :
    strictEq (.num x) b = true ↔ ∃ y, b = .num y ∧ (x == y) = true := by
  cases b <;> simp [strictEq]

theorem strictEq_arr {as : List Value} {b : Value} :
    strictEq (.arr as) b = true ↔
      ∃ bs, b = .arr bs ∧ List.Forall₂ (fun a b => strictEq a b = true) as bs := by
  cases b <;> simp [strictEq, strictEqItems_iff]

theorem strictEq_obj {as : List (String × Value)} {b : Value} :
    strictEq (.obj as) b = true ↔
      ∃ bs, b = .obj bs ∧
        List.Forall₂ (fun m n => m.1 = n.1 ∧ strictEq m.2 n.2 = true) as bs := by
  cases b <;> simp [strictEq, strictEqMembers_iff]

/-- What is no number, array or object is strictly equal to itself alone. -/
theorem eq_of_strictEq {a b : Value} (hnum : ∀ x, a ≠ .num x) (harr : ∀ items, a ≠ .arr items)
    (hobj : ∀ members, a ≠ .obj members) (h : strictEq a b = true) : a = b := by
  cases a with
  | num x => exact absurd rfl (hnum x)
  | arr items => exact absurd rfl (harr items)
  | obj members => exact absurd rfl (hobj members)
  | _ => cases b <;> simp_all [strictEq]

/-! ## Congruence -/

/-- A relation that passes from the parts of values to the values. -/
structure Congruent (R : Value → Value → Prop) : Prop where
  same : ∀ {v}, strictEq v v = true → R v v
  num : ∀ {x y : Float}, (x == y) = true → R (.num x) (.num y)
  arr : ∀ {as bs}, List.Forall₂ R as bs → R (.arr as) (.arr bs)
  obj : ∀ {as bs : List (String × Value)},
    List.Forall₂ (fun m n => m.1 = n.1 ∧ R m.2 n.2) as bs → R (.obj as) (.obj bs)

/-- **Strict equality lies below** every such relation. -/
theorem Congruent.of_strictEq {R : Value → Value → Prop} (hR : Congruent R) {a b : Value}
    (h : strictEq a b = true) : R a b := by
  induction a generalizing b with
  | num x =>
    obtain ⟨y, rfl, hxy⟩ := strictEq_num.1 h
    exact hR.num hxy
  | arr as ih =>
    obtain ⟨bs, rfl, hbs⟩ := strictEq_arr.1 h
    exact hR.arr (((List.forall₂_and_left _ _).2 ⟨ih, hbs⟩).imp fun _ _ h => h.1 h.2)
  | obj as ih =>
    obtain ⟨bs, rfl, hbs⟩ := strictEq_obj.1 h
    exact hR.obj (((List.forall₂_and_left _ _).2 ⟨ih, hbs⟩).imp fun _ _ h => ⟨h.2.1, h.1 h.2.2⟩)
  | _ =>
    obtain rfl := eq_of_strictEq (by simp) (by simp) (by simp) h
    exact hR.same h

/-! ## Symmetric, transitive, reflexive but for NaN -/

theorem strictEq_comm (a b : Value) : strictEq a b = strictEq b a := by
  have hR : Congruent fun a b => strictEq b a = true :=
    { same := id
      num := fun h => BEq.symm h
      arr := fun h => strictEq_arr.2 ⟨_, rfl, h.flip⟩
      obj := fun h => strictEq_obj.2 ⟨_, rfl, h.flip.imp fun _ _ h => ⟨h.1.symm, h.2⟩⟩ }
  exact Bool.eq_iff_iff.2 ⟨hR.of_strictEq, hR.of_strictEq⟩

theorem forall₂_trans {α : Type} {R : α → α → Prop} {as bs cs : List α}
    (h : List.Forall₂ (fun a b => ∀ c, R b c → R a c) as bs) (h' : List.Forall₂ R bs cs) :
    List.Forall₂ R as cs := by
  induction h generalizing cs with
  | nil => exact h'
  | cons h _ ih =>
    obtain _ | ⟨h₁, hrest⟩ := h'
    exact .cons (h _ h₁) (ih hrest)

theorem strictEq_trans {a b c : Value} (h : strictEq a b = true) (h' : strictEq b c = true) :
    strictEq a c = true := by
  have hR : Congruent fun a b => ∀ c, strictEq b c = true → strictEq a c = true :=
    { same := fun _ _ => id
      num := fun h c hc => by
        obtain ⟨z, rfl, hz⟩ := strictEq_num.1 hc
        exact BEq.trans h hz
      arr := fun h c hc => by
        obtain ⟨cs, rfl, hcs⟩ := strictEq_arr.1 hc
        exact strictEq_arr.2 ⟨_, rfl, forall₂_trans h hcs⟩
      obj := fun h c hc => by
        obtain ⟨cs, rfl, hcs⟩ := strictEq_obj.1 hc
        refine strictEq_obj.2 ⟨_, rfl, forall₂_trans (h.imp fun m n h p hp => ?_) hcs⟩
        exact ⟨h.1.trans hp.1, h.2 p.2 hp.2⟩ }
  exact hR.of_strictEq h c h'

/-- **NaN alone** keeps a value from being equal to itself. -/
theorem strictEq_self_iff (a : Value) :
    strictEq a a = true ↔ ∀ x, Within (.num x) a → x.isNaN = false := by
  induction a with
  | num x => simp only [strictEq, Binary64.beq_self_iff, within_iff_eq, ne_eq, reduceCtorEq,
      not_false_eq_true, implies_true, num.injEq, forall_eq]
  | arr items ih =>
    have hitems : strictEq (.arr items) (.arr items) = true ↔ ∀ v ∈ items, strictEq v v = true := by
      simp [strictEq_arr, List.forall₂_same]
    simp only [hitems, within_arr, reduceCtorEq, false_or, forall_exists_index, and_imp]
    exact ⟨fun h x v hv => (ih v hv).1 (h v hv) x, fun h v hv => (ih v hv).2 fun x => h x v hv⟩
  | obj members ih =>
    have hmembers : strictEq (.obj members) (.obj members) = true ↔
        ∀ m ∈ members, strictEq m.2 m.2 = true := by
      simp [strictEq_obj, List.forall₂_same]
    simp only [hmembers, within_obj, reduceCtorEq, false_or, forall_exists_index, and_imp]
    exact ⟨fun h x m hm => (ih m hm).1 (h m hm) x, fun h m hm => (ih m hm).2 fun x => h x m hm⟩
  | _ => simp [strictEq, within_iff_eq]

/-! ## What equal values have in common -/

/-- Two values that are of one kind and count as the same truth value, text and data. -/
structure Alike (a b : Value) : Prop where
  typeName : a.typeName = b.typeName
  isNullish : a.isNullish = b.isNullish
  isTruthy : a.isTruthy = b.isTruthy
  display : a.display = b.display
  toJson? : a.toJson? = b.toJson?

theorem Alike.refl (v : Value) : Alike v v := ⟨rfl, rfl, rfl, rfl, rfl⟩

theorem Alike.displayChars {a b : Value} (h : Alike a b) : a.displayChars = b.displayChars :=
  String.ofList_inj.1 h.display

theorem numberToJson_zero {x : Float} (hx : x = 0 ∨ x = -0) : numberToJson x = .int 0 := by
  have hfinite : x.isFinite = true := by
    obtain rfl | rfl := hx <;> decide +kernel
  have hintegral : Binary64.isIntegral x = true := by
    obtain rfl | rfl := hx <;> decide +kernel
  have hpart : Binary64.integerPart? x = some 0 := by
    obtain rfl | rfl := hx <;> decide +kernel
  rw [numberToJson, hfinite, hintegral, hpart]
  rfl

theorem alike_num {x y : Float} (h : (x == y) = true) : Alike (.num x) (.num y) where
  typeName := rfl
  isNullish := rfl
  isTruthy := Binary64.congr_of_beq (fun x => isTruthy (.num x)) (by decide +kernel) h
  display := congrArg String.ofList (Binary64.congr_of_beq numberText (by decide +kernel) h)
  toJson? := by
    have hzero : numberToJson 0 = numberToJson (-0) :=
      (numberToJson_zero (.inl rfl)).trans (numberToJson_zero (.inr rfl)).symm
    exact congrArg some (Binary64.congr_of_beq numberToJson hzero h)

theorem displayItems_congr {as bs : List Value} (h : List.Forall₂ Alike as bs) :
    displayItems as = displayItems bs := by
  induction h with
  | nil => rfl
  | cons h _ ih => rw [displayItems, displayItems, h.isNullish, h.displayChars, ih]

theorem itemsToJson_congr {as bs : List Value} (h : List.Forall₂ Alike as bs) :
    itemsToJson as = itemsToJson bs := by
  induction h with
  | nil => rfl
  | cons h _ ih => rw [itemsToJson, itemsToJson, h.toJson?, ih]

theorem membersToJson_congr {as bs : List (String × Value)}
    (h : List.Forall₂ (fun m n => m.1 = n.1 ∧ Alike m.2 n.2) as bs) :
    membersToJson as = membersToJson bs := by
  induction h with
  | nil => rfl
  | @cons m n _ _ h _ ih =>
    obtain ⟨k, a⟩ := m
    obtain ⟨l, b⟩ := n
    obtain ⟨rfl, h⟩ := h
    rw [membersToJson, membersToJson, h.toJson?, ih]

theorem congruent_alike : Congruent Alike where
  same := fun {v} _ => .refl v
  num := alike_num
  arr := fun h =>
    { typeName := rfl
      isNullish := rfl
      isTruthy := rfl
      display := congrArg (fun pieces => String.ofList (commaJoin pieces)) (displayItems_congr h)
      toJson? := congrArg (fun items => some (Json.arr items)) (itemsToJson_congr h) }
  obj := fun h =>
    have hmembers := membersToJson_congr h
    { typeName := rfl
      isNullish := rfl
      isTruthy := rfl
      display := congrArg (fun members => String.ofList (Json.compact (.obj members))) hmembers
      toJson? := congrArg (fun members => some (Json.obj members)) hmembers }

/-! ## Loose equality -/

theorem looseEq_comm (a b : Value) : looseEq a b = looseEq b a := by
  by_cases hnull : (a.isNullish || b.isNullish) = true
  · have hnull' := Bool.or_comm .. ▸ hnull
    unfold looseEq
    rw [if_pos hnull, if_pos hnull', Bool.and_comm]
  · have hnull' := Bool.or_comm .. ▸ hnull
    unfold looseEq
    rw [if_neg hnull, if_neg hnull']
    cases a <;> cases b <;> dsimp only <;>
      first
      | rw [strictEq_comm]
      | rw [BEq.comm]

theorem looseEq_of_strictEq {a b : Value} (h : strictEq a b = true) : looseEq a b = true := by
  cases a with
  | bool x =>
    obtain rfl := eq_of_strictEq (by simp) (by simp) (by simp) h
    have hnan : (Value.bool x).toNumber.isNaN = false := by cases x <;> decide +kernel
    exact Binary64.beq_self_iff.2 hnan
  | num x =>
    obtain ⟨y, rfl, hxy⟩ := strictEq_num.1 h
    exact hxy
  | arr as =>
    obtain ⟨bs, rfl, -⟩ := strictEq_arr.1 h
    exact h
  | obj as =>
    obtain ⟨bs, rfl, -⟩ := strictEq_obj.1 h
    exact h
  | _ =>
    obtain rfl := eq_of_strictEq (by simp) (by simp) (by simp) h
    exact h

theorem sameValueZero_of_strictEq {a b : Value} (h : strictEq a b = true) :
    sameValueZero a b = true := by
  unfold sameValueZero
  split
  · exact Bool.or_eq_true_iff.2 (.inr h)
  · exact h

/-! ## The laws -/

/-- The laws of the equalities, for three values. -/
structure EqualityLaws (a b c : Value) : Prop where
  symm : strictEq a b = strictEq b a
  trans : strictEq a b = true → strictEq b c = true → strictEq a c = true
  self_iff : strictEq a a = true ↔ ∀ x, Within (.num x) a → x.isNaN = false
  loose : strictEq a b = true → looseEq a b = true
  loose_symm : looseEq a b = looseEq b a
  sameValueZero : strictEq a b = true → sameValueZero a b = true
  alike : strictEq a b = true → Alike a b

/-- **The laws of the equalities** hold of all values, although the two zeros, which are different
numbers, are strictly equal. -/
theorem equalityLaws :
    (∀ a b c : Value, EqualityLaws a b c) ∧
      strictEq (.num 0) (.num (-0)) = true ∧ (0 : Float) ≠ -0 := by
  refine ⟨fun a b c => ?_, ?_, fun h => ?_⟩
  · exact
      { symm := strictEq_comm a b
        trans := strictEq_trans
        self_iff := strictEq_self_iff a
        loose := looseEq_of_strictEq
        loose_symm := looseEq_comm a b
        sameValueZero := sameValueZero_of_strictEq
        alike := congruent_alike.of_strictEq }
  · exact strictEq_num.2 ⟨-0, rfl, by decide +kernel⟩
  · exact absurd (congrArg Float.toBits h) (by decide +kernel)

end Logbook.Value
