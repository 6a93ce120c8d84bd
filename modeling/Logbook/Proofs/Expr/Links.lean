import Logbook.Proofs.Expr.Fields
import Logbook.Proofs.Expr.Stack

/-!
# Chains on an optional link

A link `a?.name` or `a?.[key]` decides about the whole chain of members and calls that is built on
it, however long that is.

* `Link`, `linked`: what continues a chain, and a chain continued by links;
* `Machine.guard`, `Machine.Guarded`: what is in front of an optional link decides what follows;
* `guards_link`, `guards_linked`: one more link, and all of them;
* `LinkDecides`: what an optional link has to do for the chain on it;
* **`linkDecides_linked`**: it does so for every chain.
-/

namespace Logbook.Expr

/-! ## Chains -/

/-- What continues a chain: a member of what is there, or a call of it. -/
inductive Link where
  | member (key : Expr) (optional : Bool)
  | call (args : List Expr) (optional : Bool)

/-- A chain with one more link. -/
def Link.on : Link → Expr → Expr
  | member key optional, e => .member e key optional
  | call args optional, e => .call e args optional

/-- A chain with more links, the innermost one first. -/
def linked (e : Expr) (links : List Link) : Expr := links.foldl (fun e l => l.on e) e

/-- A memory after `n` more visits where `scope` parameters are in scope. -/
def Memory.visited (n scope : Nat) (m : Memory) : Memory :=
  { m with visits := List.replicate n ⟨scope, m.stack.length⟩ ++ m.visits }

theorem Memory.visited_succ (n scope : Nat) (m : Memory) :
    (m.visited 1 scope).visited n scope = m.visited (n + 1) scope := by
  simp only [Memory.visited, List.replicate_succ', List.replicate_zero, List.append_assoc,
    List.nil_append]

namespace Machine

/-! ## Links on the stack -/

/-- What follows a link, unless the chain ends there. -/
def afterLink (optional : Bool) (f : Value → Machine (Option Value)) :
    Option Value → Machine (Option Value)
  | none => pure none
  | some target => if optional && target.isNullish then pure none else f target

/-- What a member does with the value of its object. -/
def readMember (r : Record) (scope : Nat) (property : Expr) (target : Value) :
    Machine (Option Value) := do
  let key ← value (run r scope property)
  let v ← lift (memberOf target key)
  pure (some v)

/-- What a call of a member does with the value of its object. -/
def callMember (r : Record) (scope : Nat) (property : Expr) (args : List Expr) (optional : Bool)
    (receiver : Value) : Machine (Option Value) := do
  let key ← value (run r scope property)
  if receiver.isNullish then lift (readOfNullish receiver key.display)
  else do
    let args ← runArguments r scope args
    optionally optional (callMethod receiver key.display args)

variable {r : Record} {scope : Nat} {a e e' X X' : Expr} {n k : Nat}

theorem run_member {object : Expr} (h : library? object = none) (property : Expr)
    (optional : Bool) : run r scope (.member object property optional) =
      visit scope >>= fun _ => run r scope object >>=
        afterLink optional (readMember r scope property) := by
  rw [run, h]
  rfl

theorem run_call_member {object : Expr} (h : library? object = none) (property : Expr)
    (optionalMember : Bool) (args : List Expr) (optional : Bool) :
    run r scope (.call (.member object property optionalMember) args optional) =
      visit scope >>= fun _ => run r scope object >>=
        afterLink optionalMember (callMember r scope property args optional) := by
  rw [run, h]
  rfl

theorem run_call_call (callee : Expr) (args' : List Expr) (optional' : Bool) (args : List Expr)
    (optional : Bool) : run r scope (.call (.call callee args' optional') args optional) =
      visit scope >>= fun _ => run r scope (.call callee args' optional') >>=
        afterLink optional fun _ => throw (.notAFunction "expression") := by
  rw [run]
  · rfl
  · rintro object property optionalMember h
    cases h
  · rintro name h
    cases h

theorem execute_visit_bind {α : Type} (x : Machine α) (m : Memory) :
    execute (visit scope >>= fun _ => x) m = execute x (m.visited 1 scope) := rfl

/-! ## What a link decides -/

/-- What comes of a chain behind an optional link, by what comes of the expression in front of the
link: an error passes, `undefined` and `null` end the chain, and all else is left to the chain. -/
def guard (front chain : Except RunError (Option Value) × Memory) :
    Except RunError (Option Value) × Memory :=
  match front with
  | (.error x, after) => (.error x, after)
  | (.ok o, after) => if (o.getD .undefined).isNullish then (.ok none, after) else chain

/-- After `n` visits `e` evaluates `a`, which decides whether it goes on as `e'` does. -/
def Guarded (r : Record) (scope : Nat) (a e e' : Expr) (n : Nat) : Prop :=
  ∀ m, execute (run r scope e) m =
    guard (execute (run r scope a) (m.visited n scope)) (execute (run r scope e') m)

theorem guarded_of_link {f : Value → Machine (Option Value)}
    (hX : run r scope X = visit scope >>= fun _ => run r scope a >>= afterLink true f)
    (hX' : run r scope X' = visit scope >>= fun _ => run r scope a >>= afterLink false f) :
    Guarded r scope a X X' 1 := by
  intro m
  rw [hX, hX', execute_visit_bind, execute_visit_bind, execute_bind, execute_bind]
  generalize execute (run r scope a) (m.visited 1 scope) = front
  obtain ⟨_ | _ | v, after⟩ := front
  · rfl
  · rfl
  · cases hv : v.isNullish <;> simp only [guard, afterLink, Option.getD_some, hv] <;> rfl

/-- What begins with a guarded expression is guarded, as it ends where that ends. -/
theorem guarded_of_bind {optional : Bool} {f : Value → Machine (Option Value)}
    (hX : run r scope X = visit scope >>= fun _ => run r scope e >>= afterLink optional f)
    (hX' : run r scope X' = visit scope >>= fun _ => run r scope e' >>= afterLink optional f)
    (h : Guarded r scope a e e' n) : Guarded r scope a X X' (n + 1) := by
  intro m
  rw [hX, hX', execute_visit_bind, execute_visit_bind, execute_bind, execute_bind,
    h (m.visited 1 scope), Memory.visited_succ]
  generalize execute (run r scope a) (m.visited (n + 1) scope) = front
  obtain ⟨_ | o, after⟩ := front
  · rfl
  · cases ho : (o.getD .undefined).isNullish <;> simp only [guard, ho] <;> rfl

/-- A chain and the same chain with a plain link: the chain itself, and a call of it, which looks
into a member that it calls. -/
structure Guards (r : Record) (scope : Nat) (a e e' : Expr) (k : Nat) : Prop where
  chain : ∃ n ≤ k, Guarded r scope a e e' n
  call : ∀ args optional, ∃ n ≤ k + 1,
    Guarded r scope a (.call e args optional) (.call e' args optional) n
  library : library? e = none
  library' : library? e' = none

theorem guards_member (ha : library? a = none) (key : Expr) :
    Guards r scope a (.member a key true) (.member a key false) 1 where
  chain := ⟨1, Nat.le_refl 1, guarded_of_link (run_member ha key true) (run_member ha key false)⟩
  call args optional := ⟨1, by omega, guarded_of_link
    (run_call_member ha key true args optional) (run_call_member ha key false args optional)⟩
  library := rfl
  library' := rfl

theorem guards_link (h : Guards r scope a e e' k) (l : Link) :
    Guards r scope a (l.on e) (l.on e') (k + 1) := by
  cases l with
  | member key optional =>
    obtain ⟨n, hn, hchain⟩ := h.chain
    refine ⟨⟨n + 1, by omega, ?_⟩, fun args o => ⟨n + 1, by omega, ?_⟩, rfl, rfl⟩
    · exact guarded_of_bind (run_member h.library key optional)
        (run_member h.library' key optional) hchain
    · exact guarded_of_bind (run_call_member h.library key optional args o)
        (run_call_member h.library' key optional args o) hchain
  | call args optional =>
    obtain ⟨n, hn, hcall⟩ := h.call args optional
    refine ⟨⟨n, hn, hcall⟩, fun args' o => ⟨n + 1, by omega, ?_⟩, rfl, rfl⟩
    exact guarded_of_bind (run_call_call e args optional args' o)
      (run_call_call e' args optional args' o) hcall

theorem guards_linked (links : List Link) (h : Guards r scope a e e' k) :
    Guards r scope a (e.linked links) (e'.linked links) (k + links.length) := by
  induction links generalizing e e' k with
  | nil => exact h
  | cons l links ih =>
    rw [List.length_cons, Nat.add_comm links.length 1, ← Nat.add_assoc]
    exact ih (guards_link h l)

/-- What an expression comes to on the stack is what it comes to. -/
theorem execute_run_fst (r : Record) (e : Expr) (locals : List Value) (visits : List Visit) :
    (execute (run r locals.length e) ⟨locals, visits⟩).1 = e.chain r locals := by
  obtain ⟨y, more, hexecute, hagree, -⟩ := does_run r e locals visits
  rw [hexecute]
  exact eq_of_agree hagree

theorem execute_value (x : Machine (Option Value)) (m : Memory) :
    execute (value x) m = ((execute x m).1.map (·.getD .undefined), (execute x m).2) := by
  rw [value, ← bind_pure_comp, execute_bind]
  generalize execute x m = p
  obtain ⟨_ | o, after⟩ := p <;> rfl

theorem guard_fst (front chain : Except RunError (Option Value) × Memory) :
    (guard front chain).1 =
      front.1 >>= fun o => if (o.getD .undefined).isNullish then .ok none else chain.1 := by
  obtain ⟨_ | o, after⟩ := front
  · rfl
  · change (guard (.ok o, after) chain).1 = if (o.getD .undefined).isNullish then _ else _
    cases ho : (o.getD .undefined).isNullish <;> simp only [guard, ho] <;> rfl

end Machine

/-! ## Values of chains -/

theorem eval_linked (r : Record) (locals : List Value) {a : Expr} (ha : library? a = none)
    (key : Expr) (links : List Link) : ((member a key true).linked links).eval r locals =
      a.eval r locals >>= fun v =>
        if v.isNullish then .ok .undefined
        else ((member a key false).linked links).eval r locals := by
  obtain ⟨n, -, hguarded⟩ :=
    (Machine.guards_linked links (Machine.guards_member (r := r) ha key)).chain
  have hfront : (Machine.execute (Machine.run r locals.length a)
      (Memory.visited n locals.length ⟨locals, []⟩)).1 = a.chain r locals :=
    Machine.execute_run_fst r a locals _
  have hchain := congrArg Prod.fst (hguarded ⟨locals, []⟩)
  rw [Machine.guard_fst, hfront, Machine.execute_run_fst, Machine.execute_run_fst] at hchain
  rw [eval, hchain, eval, eval]
  cases a.chain r locals with
  | error x => rfl
  | ok o =>
    change Except.map _ (if (o.getD .undefined).isNullish then _ else _) =
      if (o.getD .undefined).isNullish then _ else _
    split <;> rfl

/-- **What an optional link has to do** for the chain on it: an error in front of the link is the
error of the chain; `undefined` and `null` in front of it make the chain `undefined`; and for any
other value there the chain comes to what it comes to with a plain link. Where the chain ends,
nothing but the nodes of the chain itself and what is in front of the link is evaluated. -/
structure LinkDecides (r : Record) (a key : Expr) (links : List Link) : Prop where
  error : ∀ locals x, a.eval r locals = .error x →
    ((member a key true).linked links).eval r locals = .error x
  ended : ∀ locals v, a.eval r locals = .ok v → v.isNullish = true →
    ((member a key true).linked links).eval r locals = .ok .undefined
  plain : ∀ locals v, a.eval r locals = .ok v → v.isNullish = false →
    ((member a key true).linked links).eval r locals =
      ((member a key false).linked links).eval r locals
  alone : ∀ scope, ∃ n ≤ links.length + 1, ∀ m y after,
    Machine.execute (Machine.value (Machine.run r scope a)) (m.visited n scope) = (y, after) →
    (∀ v, y = .ok v → v.isNullish = true) →
    Machine.execute (Machine.value (Machine.run r scope ((member a key true).linked links))) m =
      (y.map fun _ => .undefined, after)

theorem linkDecides_linked (r : Record) {a : Expr} (ha : library? a = none) (key : Expr)
    (links : List Link) : LinkDecides r a key links where
  error locals x h := by
    rw [eval_linked r locals ha, h]
    rfl
  ended locals v h hv := by
    rw [eval_linked r locals ha, h]
    exact if_pos hv
  plain locals v h hv := by
    rw [eval_linked r locals ha, h]
    exact if_neg (Bool.eq_false_iff.1 hv)
  alone scope := by
    have hmember : Machine.Guards r scope a (.member a key true) (.member a key false) 1 :=
      Machine.guards_member ha key
    obtain ⟨n, hn, hguarded⟩ := (Machine.guards_linked links hmember).chain
    refine ⟨n, by omega, fun m y after hfront hy => ?_⟩
    rw [Machine.execute_value] at hfront ⊢
    rw [hguarded m]
    generalize Machine.execute (Machine.run r scope a) (m.visited n scope) = front at *
    obtain ⟨x | o, after'⟩ := front
    · obtain ⟨rfl, rfl⟩ := Prod.mk.inj hfront
      rfl
    · obtain ⟨rfl, rfl⟩ := Prod.mk.inj hfront
      have ho : (o.getD .undefined).isNullish = true := hy _ rfl
      simp only [Machine.guard, ho]
      rfl

/-- A chain of which everything behind the link would fail: `payload?.[null.x].y(z => z.w())`. -/
def brokenLinks : List Link :=
  [.member (.literal (.str "y")) false,
    .call [.lambda 1 (.call (.member (.param 0) (.literal (.str "w")) false) [] false)] false]

theorem linkDecides_payload :
    library? (.field .payload) = none ∧
    Expr.eval (titled "client" 1) [] (.field .payload) = .ok .null ∧
    Expr.eval (titled "client" 1) [] ((member (.field .payload)
      (.member (.literal .null) (.literal (.str "x")) false) true).linked brokenLinks) =
        .ok .undefined ∧
    Expr.eval (titled "client" 1) [] ((member (.field .title)
      (.literal (.str "length")) true).linked brokenLinks) =
        Expr.eval (titled "client" 1) [] ((member (.field .title)
          (.literal (.str "length")) false).linked brokenLinks) := by
  have hnull : Expr.eval (titled "client" 1) [] (.field .payload) = .ok .null := rfl
  have htitle : Expr.eval (titled "client" 1) [] (.field .title) = .ok (.str "start") := rfl
  exact ⟨rfl, hnull,
    (linkDecides_linked (titled "client" 1) rfl _ brokenLinks).ended [] _ hnull rfl,
    (linkDecides_linked (titled "client" 1) rfl _ brokenLinks).plain [] _ htitle rfl⟩

end Logbook.Expr
