import Logbook.Proofs.Expr.Failures
import Logbook.Proofs.Expr.Fields

/-!
# Optional calls

An optional call `r.m?.(…)` gives `undefined` where the receiver has no method of that name. It
tells this from the error of the call, and an arrow function that itself calls what is no function
has an error of that kind too.

* `loop_of_notAFunction`: a method that is there has such an error only from an arrow function;
* `eval_call_member`: the value of a call of a member;
* `MissesInside`: an arrow function that a loop runs calls what is no function;
* `OptionalCall`: an optional call beside the plain one;
* **`optionalCall_eval`**: they differ only for an unknown method and for what misses inside;
* **`not_eval_optional_call`**: what misses inside is lost.
-/

namespace Logbook.Expr

variable {args : Arguments} {receiver v : Value} {name missing : String}

/-! ## Methods that are there -/

/-- **A method that is there** calls what is no function only within a loop. -/
theorem loop_of_notAFunction {m : Method}
    (h : m.apply receiver args = .error (.notAFunction name)) :
    ∃ l f items, m = .array (.loop l) ∧ receiver = .arr items ∧ args[0]? = some (.arrow f) ∧
      l.run f items = .error (.notAFunction name) := by
  unfold Method.apply at h
  split at h
  · obtain ⟨-, p, hp⟩ := methodFails_of_text h
    cases hp
  · next m items =>
    cases m with
    | loop l =>
      rcases error_of_bind h with h | ⟨f, hf, h⟩
      · unfold Arguments.arrow at h
        split at h <;> cases h
      · refine ⟨l, f, items, rfl, rfl, ?_, h⟩
        unfold Arguments.arrow at hf
        split at hf
        · next g hg => rw [hg, Except.ok.inj hf]
        · cases hf
    | _ => cases h
  · obtain ⟨-, p, hp⟩ := methodFails_of_number h
    cases hp
  · cases h
  · cases h

/-- A loop over items meets an arrow function that calls what is no function. -/
def MissesInside (receiver : Value) (name : String) (args : Arguments) (missing : String) : Prop :=
  ∃ items l f, receiver = .arr items ∧ methodOf? receiver name = some (.array (.loop l)) ∧
    args[0]? = some (.arrow f) ∧ l.run f items = .error (.notAFunction missing)

theorem missesInside_iff (h : methodOf? receiver name ≠ none) :
    MissesInside receiver name args missing ↔
      callMethod receiver name args = .error (.notAFunction missing) := by
  obtain ⟨m, hm⟩ := Option.ne_none_iff_exists'.1 h
  constructor
  · rintro ⟨items, l, f, rfl, hmethod, hf, hrun⟩
    rw [callMethod, hmethod]
    change args.arrow 0 l.name >>= (fun f => l.run f items) = _
    rw [Arguments.arrow, hf]
    exact hrun
  · intro hcall
    rw [callMethod, hm] at hcall
    obtain ⟨l, f, items, rfl, rfl, hf, hrun⟩ := loop_of_notAFunction hcall
    exact ⟨items, l, f, rfl, hm, hf, hrun⟩

/-! ## Calls -/

variable {r : Record} {locals : List Value} {object property : Expr} {key : Value}

theorem eval_call_member (hlibrary : library? object = none)
    (hobject : object.eval r locals = .ok receiver) (hreceiver : receiver.isNullish = false)
    (hkey : property.eval r locals = .ok key) (optionalMember : Bool) (args : List Expr)
    (optional : Bool) :
    (call (.member object property optionalMember) args optional).eval r locals =
      arguments r locals args >>= fun passed =>
        (optionalOutcome optional (callMethod receiver key.display passed)).map
          (·.getD .undefined) := by
  have hchain : object.chain r locals = .ok (some receiver) := by
    rw [eval] at hobject
    cases hc : object.chain r locals with
    | error x =>
      rw [hc] at hobject
      cases hobject
    | ok o =>
      rw [hc] at hobject
      obtain rfl : o.getD .undefined = receiver := Except.ok.inj hobject
      cases o with
      | some v => rfl
      | none => cases hreceiver
  rw [eval] at hkey
  rw [eval, chain, hlibrary, hchain]
  simp only [bind, Except.bind, hreceiver, Bool.and_false, Bool.false_eq_true, if_false, hkey]
  cases arguments r locals args <;> rfl

theorem optionalOutcome_false (y : Except RunError Value) :
    (optionalOutcome false y).map (·.getD .undefined) = y := by
  obtain (_ | _ | _) | _ := y <;> rfl

theorem optionalOutcome_true {y : Except RunError Value}
    (h : ∀ missing, y ≠ .error (.notAFunction missing)) :
    (optionalOutcome true y).map (·.getD .undefined) = y := by
  cases y with
  | ok o => rfl
  | error x =>
    cases x with
    | notAFunction missing => exact absurd rfl (h missing)
    | _ => rfl

/-- **An optional call beside the plain one**, with the same receiver, name and arguments. Where the
receiver has no method of the name, the optional call gives `undefined` once the arguments have
values. For a method that is there both give the same, unless it misses inside: then the optional
call drops the error. -/
structure OptionalCall (r : Record) (locals : List Value) (receiver : Value) (name : String)
    (args : List Expr) (optional plain : Except RunError Value) : Prop where
  unknown : methodOf? receiver name = none →
    optional = (arguments r locals args).map fun _ => .undefined
  same : methodOf? receiver name ≠ none →
    (∀ passed missing, arguments r locals args = .ok passed →
      ¬MissesInside receiver name passed missing) → optional = plain
  dropped : ∀ passed missing, arguments r locals args = .ok passed →
    MissesInside receiver name passed missing →
      plain = .error (.notAFunction missing) ∧ optional = .ok .undefined

theorem optionalCall_eval (r : Record) (locals : List Value) {object property : Expr}
    {receiver key : Value} (hlibrary : library? object = none)
    (hobject : object.eval r locals = .ok receiver) (hreceiver : receiver.isNullish = false)
    (hkey : property.eval r locals = .ok key) (optionalMember : Bool) (args : List Expr) :
    OptionalCall r locals receiver key.display args
      ((call (.member object property optionalMember) args true).eval r locals)
      ((call (.member object property optionalMember) args false).eval r locals) := by
  rw [eval_call_member hlibrary hobject hreceiver hkey,
    eval_call_member hlibrary hobject hreceiver hkey]
  refine ⟨fun hmethod => ?_, fun hmethod hmisses => ?_, fun passed missing hargs hmisses => ?_⟩
  · congr 1
    funext passed
    rw [callMethod, hmethod]
    rfl
  · cases hargs : arguments r locals args with
    | error x => rfl
    | ok passed =>
      change Except.map _ (optionalOutcome true _) = Except.map _ (optionalOutcome false _)
      rw [optionalOutcome_false, optionalOutcome_true fun missing => ?_]
      exact mt (missesInside_iff hmethod).2 (hmisses passed missing hargs)
  · have hmethod : methodOf? receiver key.display ≠ none := by
      obtain ⟨items, l, f, -, hl, -⟩ := hmisses
      exact hl ▸ Option.some_ne_none _
    rw [hargs]
    change Except.map _ (optionalOutcome false _) = _ ∧ Except.map _ (optionalOutcome true _) = _
    rw [(missesInside_iff hmethod).1 hmisses]
    exact ⟨rfl, rfl⟩

/-- The methods `map` of an array with the text `a` in it, for an arrow function. -/
def mapLetter (body : Expr) (optional : Bool) : Expr :=
  .call (.member (.array [.literal (.str "a")]) (.literal (.str "map")) false) [.lambda 1 body]
    optional

theorem optionalCall_eval_nullish :
    methodOf? (.arr [.str "a"]) "map" ≠ none ∧
    (mapLetter (.member (.literal .null) (.param 0) false) true).eval (titled "client" 1) [] =
      .error (.type (.readOfNullish "null" "a")) ∧
    (mapLetter (.member (.literal .null) (.param 0) false) true).eval (titled "client" 1) [] =
      (mapLetter (.member (.literal .null) (.param 0) false) false).eval
        (titled "client" 1) [] := by
  have hmethod : methodOf? (.arr [.str "a"]) (Value.display (.str "map")) ≠ none := by
    decide +kernel
  have hobject : Expr.eval (titled "client" 1) [] (.array [.literal (.str "a")]) =
      .ok (.arr [.str "a"]) := rfl
  have hkey : Expr.eval (titled "client" 1) [] (.literal (.str "map")) = .ok (.str "map") := rfl
  have hcall : OptionalCall (titled "client" 1) [] (.arr [.str "a"]) (Value.display (.str "map"))
      [.lambda 1 (.member (.literal .null) (.param 0) false)] _ _ :=
    optionalCall_eval (titled "client" 1) [] rfl hobject rfl hkey false _
  refine ⟨by decide +kernel, rfl, hcall.same hmethod ?_⟩
  rintro passed missing hargs hmisses
  obtain rfl := Except.ok.inj hargs
  have hfails := (missesInside_iff hmethod).1 hmisses
  cases hfails

/-- **What misses inside is lost.** `['a'].map?.(x => x.fly())` is `undefined`, although an array
has the method `map` and the plain call fails. -/
theorem not_eval_optional_call :
    ¬ ∀ (r : Record) (locals : List Value) (object property : Expr) (args : List Expr)
      (receiver key : Value), library? object = none → object.eval r locals = .ok receiver →
      receiver.isNullish = false → property.eval r locals = .ok key →
      methodOf? receiver key.display ≠ none →
        (call (.member object property false) args true).eval r locals =
          (call (.member object property false) args false).eval r locals := by
  intro h
  have hsame := h (titled "client" 1) [] (.array [.literal (.str "a")]) (.literal (.str "map"))
    [.lambda 1 (.call (.member (.param 0) (.literal (.str "fly")) false) [] false)]
    (.arr [.str "a"]) (.str "map") rfl rfl rfl rfl (by decide +kernel)
  cases hsame

end Logbook.Expr
