import Logbook.Expr.Function

/-!
# What calls no arrow function

Apart from loops over items, a method or a function of a library depends on its arguments only
through their values, where an arrow function counts as `undefined`.

* `callMethod_congr`: a method of a value that is no loop;
* `libraryCall_congr`: a function of a library that runs no arrow function;
* `conversion_congr`: a conversion.
-/

namespace Logbook.Expr

variable {args args' : Arguments}

theorem value_congr (h : args.values = args'.values) : args.value = args'.value := by
  have hvalue : ∀ (as : Arguments) (i : Nat), as.value i = (as.values[i]?).getD .undefined := by
    intro as i
    rw [Arguments.value, Arguments.values, List.getElem?_map]
    cases as[i]? <;> rfl
  funext i
  rw [hvalue, hvalue, h]

theorem number_congr (h : args.values = args'.values) : args.number = args'.number := by
  funext i default
  rw [Arguments.number, Arguments.number, value_congr h]

theorem text_congr (h : args.values = args'.values) : args.text = args'.text := by
  funext i
  rw [Arguments.text, Arguments.text, value_congr h]

theorem isEmpty_congr (h : args.values = args'.values) : args.isEmpty = args'.isEmpty := by
  have hlength := congrArg List.isEmpty h
  rwa [Arguments.values, Arguments.values, List.isEmpty_map, List.isEmpty_map] at hlength

theorem textMethod_congr (m : TextMethod) (cs : List Char) (h : args.values = args'.values) :
    m.apply cs args = m.apply cs args' := by
  have hpadding : ∀ method, TextMethod.paddingFor method cs args =
      TextMethod.paddingFor method cs args' := by
    intro method
    rw [TextMethod.paddingFor, TextMethod.paddingFor, value_congr h, number_congr h]
  simp only [TextMethod.apply, hpadding, value_congr h, number_congr h, text_congr h, h]

theorem numberMethod_congr (m : NumberMethod) (x : Float) (h : args.values = args'.values) :
    m.apply x args = m.apply x args' := by
  simp only [NumberMethod.apply, number_congr h]

theorem arrayMethod_congr {m : ArrayMethod} (items : List Value) (hm : ∀ l, m ≠ .loop l)
    (h : args.values = args'.values) : m.apply items args = m.apply items args' := by
  cases m with
  | loop l => exact absurd rfl (hm l)
  | _ => simp only [ArrayMethod.apply, value_congr h, number_congr h, h]

theorem callMethod_congr {receiver : Value} {name : String}
    (hloop : ∀ items l, receiver = .arr items → methodOf? receiver name ≠ some (.array (.loop l)))
    (h : args.values = args'.values) :
    callMethod receiver name args = callMethod receiver name args' := by
  rw [callMethod, callMethod]
  cases hmethod : methodOf? receiver name with
  | none => rfl
  | some m =>
    change m.apply receiver args = m.apply receiver args'
    unfold Method.apply
    split
    · exact textMethod_congr _ _ h
    · next m items =>
      exact arrayMethod_congr items (fun l heq => hloop items l rfl (heq ▸ hmethod)) h
    · exact numberMethod_congr _ _ h
    · rfl
    · rfl

theorem conversion_congr (c : Conversion) (h : args.values = args'.values) :
    c.apply args = c.apply args' := by
  simp only [Conversion.apply, value_congr h, isEmpty_congr h]

theorem callArray_congr {name : String}
    (hargs : name = "from" → ∀ f, args[1]? ≠ some (.arrow f))
    (hargs' : name = "from" → ∀ f, args'[1]? ≠ some (.arrow f)) (h : args.values = args'.values) :
    callArray name args = callArray name args' := by
  have hfrom : ∀ as : Arguments, (∀ f, as[1]? ≠ some (.arrow f)) →
      callArray "from" as = .ok (.arr (itemsOf (as.value 0))) := by
    intro as has
    rw [callArray]
    split
    · next f heq => exact absurd heq (has f)
    · rfl
  by_cases hname : name = "from"
  · rw [hname, hfrom args (hargs hname), hfrom args' (hargs' hname), value_congr h]
  · unfold callArray
    split
    · rw [value_congr h]
    · rw [h]
    · exact absurd rfl hname
    · rfl

theorem libraryCall_congr {l : Library} {name : String}
    (hfrom : l = .array → callArray name args = callArray name args')
    (h : args.values = args'.values) : l.call name args = l.call name args' := by
  cases l with
  | math => simp only [Library.call, MathFunction.apply, number_congr h, h]
  | json => simp only [Library.call, callJson, value_congr h, text_congr h]
  | array => exact hfrom rfl
  | object => simp only [Library.call, callObject, value_congr h]
  | string => simp only [Library.call, callString, h]

end Logbook.Expr
