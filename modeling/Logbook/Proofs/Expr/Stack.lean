import Logbook.Proofs.Expr.Arguments
import Logbook.Proofs.Expr.Machine
import Mathlib.Data.List.Forall2

/-!
# The stack and the scopes

* `Does`: what a computation of the machine comes to, with the stack as it was before, and with as
  many values on the stack as there are parameters in scope wherever an expression is evaluated;
* `does_bind`, `does_invoke`, `does_loop`, `does_callMethod`, `does_callLibrary`: the steps;
* **`does_run`**: evaluation on the stack comes to the value of the tree.
-/

namespace Logbook.Expr

namespace Machine

/-! ## Computations -/

theorem execute_bind {α β : Type} (x : Machine α) (f : α → Machine β) (m : Memory) :
    execute (x >>= f) m =
      match execute x m with
      | (.ok a, after) => execute (f a) after
      | (.error e, after) => (.error e, after) := by
  unfold execute
  rw [ExceptT.run_bind, StateT.run_bind]
  generalize StateT.run (ExceptT.run x) m = p
  obtain ⟨y, after⟩ : Except RunError α × Memory := p
  cases y <;> rfl

/-- The same error, or values that `R` relates. -/
def Agree {α β : Type} (R : α → β → Prop) : Except RunError α → Except RunError β → Prop
  | .ok a, .ok b => R a b
  | .error e, .error e' => e = e'
  | _, _ => False

theorem eq_of_agree {α : Type} {y z : Except RunError α} (h : Agree Eq y z) : y = z := by
  match y, z, h with
  | .ok _, .ok _, h | .error _, .error _, h => exact congrArg _ h

/-- Where `locals` are on the stack, a computation comes to `y` up to `R`. It leaves the stack as it
was, and each expression it evaluates finds as many values there as parameters are in scope. -/
def Does {α β : Type} (R : α → β → Prop) (locals : List Value) (x : Machine α)
    (y : Except RunError β) : Prop :=
  ∀ visits, ∃ z more, execute x ⟨locals, visits⟩ = (z, ⟨locals, more ++ visits⟩) ∧ Agree R z y ∧
    ∀ v ∈ more, v.height = v.scope

variable {α β γ δ : Type} {R : α → β → Prop} {S : γ → δ → Prop} {locals : List Value}

theorem does_pure {a : α} {b : β} (h : R a b) : Does R locals (pure a) (.ok b) :=
  fun _ => ⟨.ok a, [], rfl, h, nofun⟩

theorem does_throw (e : RunError) : Does R locals (throw e) (.error e) :=
  fun _ => ⟨.error e, [], rfl, rfl, nofun⟩

theorem does_lift (y : Except RunError α) : Does Eq locals (lift y) y := by
  intro visits
  refine ⟨y, [], rfl, ?_, nofun⟩
  cases y <;> rfl

theorem does_bind {x : Machine α} {y : Except RunError β} {f : α → Machine γ}
    {g : β → Except RunError δ} (hx : Does R locals x y)
    (hf : ∀ a b, R a b → Does S locals (f a) (g b)) : Does S locals (x >>= f) (y >>= g) := by
  intro visits
  obtain ⟨z, more, hexecute, hagree, hmore⟩ := hx visits
  rw [execute_bind, hexecute]
  match z, y, hagree with
  | .error e, .error _, hagree => exact ⟨.error e, more, rfl, hagree, hmore⟩
  | .ok a, .ok b, hagree =>
    obtain ⟨z', more', hexecute', hagree', hmore'⟩ := hf a b hagree (more ++ visits)
    refine ⟨z', more' ++ more, ?_, hagree', fun v hv => ?_⟩
    · rw [List.append_assoc]
      exact hexecute'
    · exact (List.mem_append.1 hv).elim (hmore' v) (hmore v)

theorem does_visit {x : Machine α} {y : Except RunError β} (h : Does R locals x y) :
    Does R locals (visit locals.length >>= fun _ => x) y := by
  intro visits
  obtain ⟨z, more, hexecute, hagree, hmore⟩ := h (⟨locals.length, locals.length⟩ :: visits)
  refine ⟨z, more ++ [⟨locals.length, locals.length⟩], ?_, hagree, fun v hv => ?_⟩
  · rw [List.append_assoc]
    exact hexecute
  · rcases List.mem_append.1 hv with hv | hv
    · exact hmore v hv
    · rw [List.mem_singleton.1 hv]

theorem does_value {x : Machine (Option Value)} {y : Except RunError (Option Value)}
    (h : Does Eq locals x y) : Does Eq locals (value x) (y.map (·.getD .undefined)) := by
  have hmap : y.map (·.getD .undefined) = y >>= fun o => .ok (o.getD .undefined) := by
    cases y <;> rfl
  have hvalue : value x = x >>= fun o => pure (o.getD .undefined) :=
    (bind_pure_comp (fun o : Option Value => o.getD .undefined) x).symm
  rw [hmap, hvalue]
  refine does_bind h fun a b hab => ?_
  subst hab
  exact does_pure rfl

theorem does_load (slot : Nat) :
    Does Eq locals (load slot) (.ok (locals.getD slot .undefined)) :=
  fun _ => ⟨_, [], rfl, rfl, nofun⟩

theorem does_optionally (optional : Bool) {x : Machine Value} {y : Except RunError Value}
    (h : Does Eq locals x y) :
    Does Eq locals (optionally optional x) (optionalOutcome optional y) := by
  intro visits
  obtain ⟨z, more, hexecute, hagree, hmore⟩ := h visits
  obtain rfl := eq_of_agree hagree
  refine ⟨optionalOutcome optional z, more, ?_, ?_, hmore⟩
  · change ((optionalOutcome optional (execute x ⟨locals, visits⟩).1),
      (execute x ⟨locals, visits⟩).2) = _
    rw [hexecute]
  · cases optionalOutcome optional z <;> rfl

/-- **A call of an arrow function** leaves the stack as it was, with an error too. -/
theorem does_invoke {arity : Nat} {args : List Value} {x : Machine Value}
    {y : Except RunError Value} (h : Does Eq (locals ++ bindParameters arity args) x y) :
    Does Eq locals (invoke arity x args) y := by
  intro visits
  obtain ⟨z, more, hexecute, hagree, hmore⟩ := h visits
  refine ⟨z, more, ?_, hagree, hmore⟩
  change ((execute x ⟨locals ++ bindParameters arity args, visits⟩).1,
    ({ (execute x ⟨locals ++ bindParameters arity args, visits⟩).2 with
      stack := (execute x ⟨locals ++ bindParameters arity args, visits⟩).2.stack.take
        locals.length } : Memory)) = _
  rw [hexecute, List.take_left]

/-! ## Loops -/

section Loops

variable {f : List Value → Machine Value} {g : List Value → Except RunError Value}

theorem does_findFrom (hf : ∀ args, Does Eq locals (f args) (g args)) (wanted : Bool)
    (items : List Value) (i : Nat) :
    Does Eq locals (Loop.findFrom f wanted i items) (Loop.findFrom g wanted i items) := by
  induction items generalizing i with
  | nil => exact does_pure rfl
  | cons v vs ih =>
    rw [Loop.findFrom, Loop.findFrom]
    refine does_bind (hf _) fun a b hab => ?_
    subst hab
    by_cases hwanted : (a.isTruthy == wanted) = true
    · rw [if_pos hwanted, if_pos hwanted]
      exact does_pure rfl
    · rw [if_neg hwanted, if_neg hwanted]
      exact ih (i + 1)

theorem does_mapFrom (hf : ∀ args, Does Eq locals (f args) (g args)) (items : List Value)
    (i : Nat) : Does Eq locals (Loop.mapFrom f i items) (Loop.mapFrom g i items) := by
  induction items generalizing i with
  | nil => exact does_pure rfl
  | cons v vs ih =>
    rw [Loop.mapFrom, Loop.mapFrom]
    refine does_bind (hf _) fun a b hab => does_bind (ih (i + 1)) fun as bs has => ?_
    rw [hab, has]
    exact does_pure rfl

theorem does_filterFrom (hf : ∀ args, Does Eq locals (f args) (g args)) (items : List Value)
    (i : Nat) : Does Eq locals (Loop.filterFrom f i items) (Loop.filterFrom g i items) := by
  induction items generalizing i with
  | nil => exact does_pure rfl
  | cons v vs ih =>
    rw [Loop.filterFrom, Loop.filterFrom]
    refine does_bind (hf _) fun a b hab => does_bind (ih (i + 1)) fun as bs has => ?_
    rw [hab, has]
    exact does_pure rfl

/-- A loop whose arrow function does what `g` gives. -/
theorem does_loop (hf : ∀ args, Does Eq locals (f args) (g args)) (l : Loop)
    (items : List Value) : Does Eq locals (l.run f items) (l.run g items) := by
  have hmap := does_mapFrom hf items 0
  have hfilter := does_filterFrom hf items 0
  have hfind := fun wanted => does_findFrom hf wanted items 0
  cases l with
  | map => exact does_bind hmap fun a b hab => hab ▸ does_pure rfl
  | filter => exact does_bind hfilter fun a b hab => hab ▸ does_pure rfl
  | some | find | findIndex => exact does_bind (hfind true) fun a b hab => hab ▸ does_pure rfl
  | every => exact does_bind (hfind false) fun a b hab => hab ▸ does_pure rfl

end Loops

/-! ## Calls -/

/-- An argument on the stack is the argument: an arrow function does what the other one gives. -/
def Passes (locals : List Value) : Passed → Argument → Prop
  | .value v, .value w => v = w
  | .arrow f, .arrow g => ∀ args, Does Eq locals (f args) (g args)
  | _, _ => False

theorem passes_arrow {f : List Value → Machine Value} {a : Argument}
    (h : Passes locals (.arrow f) a) :
    ∃ g, a = .arrow g ∧ ∀ args, Does Eq locals (f args) (g args) := by
  cases a with
  | value v => exact absurd h id
  | arrow g => exact ⟨g, rfl, h⟩

variable {ps : List Passed} {args : Arguments}

theorem values_plain (h : List.Forall₂ (Passes locals) ps args) :
    Arguments.values (ps.map Passed.plain) = args.values := by
  induction h with
  | nil => rfl
  | @cons p a ps args hp _ ih =>
    have hfirst : p.plain.toValue = a.toValue := by
      cases p with
      | arrow f =>
        obtain ⟨g, rfl, -⟩ := passes_arrow hp
        rfl
      | value v =>
        cases a with
        | value w => exact hp
        | arrow g => exact absurd hp id
    rw [Arguments.values] at ih ⊢
    rw [List.map_cons, List.map_cons, hfirst, ih]
    rfl

theorem passes_getElem? (h : List.Forall₂ (Passes locals) ps args) (i : Nat) :
    ps[i]? = none ∧ args[i]? = none ∨
      ∃ p a, ps[i]? = some p ∧ args[i]? = some a ∧ Passes locals p a := by
  induction h generalizing i with
  | nil => exact .inl ⟨rfl, rfl⟩
  | @cons p a ps args hp _ ih =>
    cases i with
    | zero => exact .inr ⟨p, a, rfl, rfl, hp⟩
    | succ i => exact ih i

theorem does_arrowAt (h : List.Forall₂ (Passes locals) ps args) (i : Nat) (method : String) :
    Does (fun f g => ∀ vs, Does Eq locals (f vs) (g vs)) locals (arrowAt ps i method)
      (args.arrow i method) := by
  rw [arrowAt, Arguments.arrow]
  obtain ⟨hp, ha⟩ | ⟨p, a, hp, ha, hpass⟩ := passes_getElem? h i
  · rw [hp, ha]
    exact does_throw _
  · rw [hp, ha]
    cases p with
    | arrow f =>
      obtain ⟨g, rfl, hfg⟩ := passes_arrow hpass
      exact does_pure hfg
    | value v =>
      cases a with
      | value w => exact does_throw _
      | arrow g => exact absurd hpass id

theorem does_callMethod (receiver : Value) (name : String)
    (h : List.Forall₂ (Passes locals) ps args) :
    Does Eq locals (callMethod receiver name ps) (Expr.callMethod receiver name args) := by
  unfold callMethod
  split
  · next items l hmethod =>
    have hcall : Expr.callMethod (.arr items) name args =
        args.arrow 0 l.name >>= fun f => l.run f items := by
      rw [Expr.callMethod, hmethod]
      rfl
    rw [hcall]
    exact does_bind (does_arrowAt h 0 l.name) fun f g hfg => does_loop hfg l items
  · next hloop =>
    rw [callMethod_congr (fun items l hitems hmethod => hloop items l hitems hmethod)
      (values_plain h)]
    exact does_lift _

theorem does_callLibrary (l : Library) (name : String)
    (h : List.Forall₂ (Passes locals) ps args) :
    Does Eq locals (callLibrary l name ps) (l.call name args) := by
  have hplain : ∀ f, (ps.map Passed.plain)[1]? ≠ some (.arrow f) := by
    intro f
    rw [List.getElem?_map]
    rcases ps[1]? with _ | _ | _ <;> nofun
  unfold callLibrary
  split
  · next f hf =>
    obtain ⟨hp, -⟩ | ⟨p, a, hp, ha, hpass⟩ := passes_getElem? h 1
    · rw [hp] at hf
      cases hf
    · obtain rfl : p = .arrow f := Option.some.inj (hp.symm.trans hf)
      obtain ⟨g, rfl, hfg⟩ := passes_arrow hpass
      have hcall : Library.call .array "from" args =
          Loop.map.run g (itemsOf (args.value 0)) := by
        rw [Library.call, callArray, ha]
      rw [hcall, value_congr (values_plain h)]
      exact does_loop hfg _ _
  · next l name _ _ _ hfrom =>
    have hargs : l = .array → name = "from" → ∀ f, args[1]? ≠ some (.arrow f) := by
      intro hl hname f hf
      obtain ⟨-, ha⟩ | ⟨p, a, hp, ha, hpass⟩ := passes_getElem? h 1
      · rw [ha] at hf
        cases hf
      · obtain rfl : a = .arrow f := Option.some.inj (ha.symm.trans hf)
        cases p with
        | value v => exact absurd hpass id
        | arrow g => exact hfrom g hl hname hp
    have harray : l = .array → callArray name (ps.map Passed.plain) = callArray name args :=
      fun hl => callArray_congr (fun _ => hplain) (hargs hl) (values_plain h)
    rw [libraryCall_congr harray (values_plain h)]
    exact does_lift _

/-! ## Trees -/

theorem length_bindParameters (arity : Nat) (args : List Value) :
    (bindParameters arity args).length = arity := by
  simp [bindParameters]

/-- Two steps, the first of which gives the same value on both sides. -/
theorem does_next {x : Machine α} {y : Except RunError α} {f : α → Machine γ}
    {g : α → Except RunError δ} (hx : Does Eq locals x y) (hf : ∀ a, Does S locals (f a) (g a)) :
    Does S locals (x >>= f) (y >>= g) := by
  refine does_bind hx fun a b hab => ?_
  rw [hab]
  exact hf b

theorem does_link (optional : Bool) (o : Option Value) {f : Value → Machine (Option Value)}
    {g : Value → Except RunError (Option Value)}
    (h : ∀ target, Does Eq locals (f target) (g target)) :
    Does Eq locals
      (match o with
      | none => pure none
      | some target => if optional && target.isNullish then pure none else f target)
      (match o with
      | none => .ok none
      | some target => if optional && target.isNullish then .ok none else g target) := by
  cases o with
  | none => exact does_pure rfl
  | some target =>
    by_cases hended : (optional && target.isNullish) = true
    · simp only [hended, if_true]
      exact does_pure rfl
    · simp only [hended]
      exact h target

mutual

/-- **Evaluation on the stack** comes to the value of the tree. -/
theorem does_run (r : Record) : ∀ (e : Expr) (locals : List Value),
    Does Eq locals (run r locals.length e) (chain r locals e)
  | .literal v, locals => by
    rw [run, chain]
    exact does_visit (does_pure rfl)
  | .field f, locals => by
    rw [run, chain]
    exact does_visit (does_pure rfl)
  | .param slot, locals => by
    rw [run, chain]
    exact does_visit
      (does_next (g := fun v => .ok (some v)) (does_load slot) fun v => does_pure rfl)
  | .library l, locals => by
    rw [run, chain]
    exact does_visit (does_throw _)
  | .conversion c, locals => by
    rw [run, chain]
    exact does_visit (does_throw _)
  | .lambda arity body, locals => by
    rw [run, chain]
    exact does_visit (does_throw _)
  | .array es, locals => by
    rw [run, chain]
    exact does_visit (does_next (does_runItems r es locals) fun vs => does_pure rfl)
  | .member object property optional, locals => by
    have hkey := does_value (does_run r property locals)
    rw [run, chain]
    refine does_visit ?_
    cases library? object with
    | some l => exact does_next hkey fun key => does_next (does_lift _) fun v => does_pure rfl
    | none =>
      refine does_next (does_run r object locals) fun o => does_link optional o fun target => ?_
      exact does_next hkey fun key => does_next (does_lift _) fun v => does_pure rfl
  | .call callee args optional, locals => by
    have hargs := does_runArguments r args locals
    cases callee with
    | member object property optionalMember =>
      have hkey := does_value (does_run r property locals)
      rw [run, chain]
      refine does_visit ?_
      cases library? object with
      | some l =>
        refine does_next hkey fun key => does_bind hargs fun ps as hps => ?_
        exact does_next (does_callLibrary l key.display hps) fun v => does_pure rfl
      | none =>
        refine does_next (does_run r object locals) fun o =>
          does_link optionalMember o fun receiver => does_next hkey fun key => ?_
        by_cases hnullish : receiver.isNullish = true
        · rw [if_pos hnullish, if_pos hnullish]
          exact does_lift _
        · rw [if_neg hnullish, if_neg hnullish]
          refine does_bind hargs fun ps as hps => ?_
          exact does_optionally optional (does_callMethod receiver key.display hps)
    | conversion c =>
      rw [run, chain]
      refine does_visit (does_bind hargs fun ps as hps => ?_)
      rw [conversion_congr c (values_plain hps)]
      exact does_pure rfl
    | _ =>
      rw [run, chain]
      · refine does_visit (does_next (does_run r _ locals) fun o => ?_)
        exact does_link optional o fun target => does_throw _
      all_goals exact nofun
  | .unary op e, locals => by
    rw [run, chain]
    exact does_visit (does_next (does_value (does_run r e locals)) fun v => does_pure rfl)
  | .binary op left right, locals => by
    rw [run, chain]
    refine does_visit (does_next (does_value (does_run r left locals)) fun a => ?_)
    exact does_next (does_value (does_run r right locals)) fun b => does_pure rfl
  | .logical op left right, locals => by
    rw [run, chain]
    refine does_visit (does_next (does_value (does_run r left locals)) fun a => ?_)
    by_cases hdecides : decides op a = true
    · rw [if_pos hdecides, if_pos hdecides]
      exact does_pure rfl
    · rw [if_neg hdecides, if_neg hdecides]
      exact does_next (does_value (does_run r right locals)) fun b => does_pure rfl
  | .conditional test yes no, locals => by
    rw [run, chain]
    refine does_visit (does_next (does_value (does_run r test locals)) fun t => ?_)
    by_cases ht : t.isTruthy = true
    · rw [if_pos ht, if_pos ht]
      exact does_next (does_value (does_run r yes locals)) fun v => does_pure rfl
    · rw [if_neg ht, if_neg ht]
      exact does_next (does_value (does_run r no locals)) fun v => does_pure rfl

theorem does_runArguments (r : Record) : ∀ (es : List Expr) (locals : List Value),
    Does (List.Forall₂ (Passes locals)) locals (runArguments r locals.length es)
      (arguments r locals es)
  | [], _ => by
    rw [runArguments, arguments]
    exact does_pure .nil
  | e :: es, locals => by
    have hmore := does_runArguments r es locals
    cases e with
    | lambda arity body =>
      rw [runArguments, arguments]
      refine does_bind hmore fun ps as hps => does_pure (.cons (fun args => ?_) hps)
      have hbody := does_run r body (locals ++ bindParameters arity args)
      rw [List.length_append, length_bindParameters] at hbody
      exact does_invoke (does_value hbody)
    | _ =>
      rw [runArguments, arguments]
      · refine does_next (does_value (does_run r _ locals)) fun v => ?_
        exact does_bind hmore fun ps as hps => does_pure (.cons rfl hps)
      all_goals exact nofun

theorem does_runItems (r : Record) : ∀ (es : List Expr) (locals : List Value),
    Does Eq locals (runItems r locals.length es) (itemValues r locals es)
  | [], _ => by
    rw [runItems, itemValues]
    exact does_pure rfl
  | e :: es, locals => by
    rw [runItems, itemValues]
    refine does_next (does_value (does_run r e locals)) fun v => ?_
    exact does_next (does_runItems r es locals) fun vs => does_pure rfl

end

end Machine

end Logbook.Expr
