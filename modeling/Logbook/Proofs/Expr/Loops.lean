import Logbook.Proofs.Expr.Searches

/-!
# Loops over the items of an array

The six methods that call an arrow function go through the items in the same way. They differ in the
answers that let them go on, and in what they make of the answers.

* `Loop.walk`, `Loop.run_eq_walk`: the way all of them go;
* `Watched`, `Loop.watched`: a loop that writes down the calls of its arrow function;
* `Results`: the answers of an arrow function for some items;
* `Loop.Gives`: what a loop has to give, and which calls it has to make;
* `Loop.watched_eq_iff`: it gives that, with these calls;
* **`loops_callMethod`**: so do the methods of arrays, and how they depend on each other.
-/

namespace Logbook.Expr

namespace Loop

/-! ## One way through the items -/

/-- An answer that lets a loop go on to the next item. -/
def goesOn : Loop → Value → Bool
  | some, r | find, r | findIndex, r => !r.isTruthy
  | every, r => r.isTruthy
  | map, _ | filter, _ => true

/-- The items whose answers are true. -/
def kept (items answers : List Value) : List Value :=
  ((items.zip answers).filter fun p => p.2.isTruthy).map Prod.fst

/-- What a loop makes of the answers that let it go on, and of the item with its index at which it
stopped. -/
def outcome : Loop → List Value → List Value → Option (Nat × Value) → Value
  | map, _, answers, _ => .arr answers
  | filter, items, answers, _ => .arr (kept items answers)
  | some, _, _, stop => .bool stop.isSome
  | every, _, _, stop => .bool stop.isNone
  | find, _, _, stop => (stop.map Prod.snd).getD .undefined
  | findIndex, _, _, stop => position (stop.map Prod.fst)

section Walk

variable {m : Type → Type} [Monad m] (f : List Value → m Value)

/-- Goes through the items from index `i` on as long as the answers allow: these answers, and the
item with its index at which it stopped. -/
def walk (allows : Value → Bool) : Nat → List Value → m (List Value × Option (Nat × Value))
  | _, [] => pure ([], none)
  | i, v :: vs => do
    let r ← f [v, .ofNat i]
    if allows r then do
      let p ← walk allows (i + 1) vs
      pure (r :: p.1, p.2)
    else pure ([], Option.some (i, v))

variable [LawfulMonad m]

theorem mapFrom_eq_walk (i : Nat) (items : List Value) :
    mapFrom f i items = Prod.fst <$> walk f (fun _ => true) i items := by
  induction items generalizing i with
  | nil => simp [mapFrom, walk]
  | cons v vs ih => simp [mapFrom, walk, ih]

theorem filterFrom_eq_walk (i : Nat) (items : List Value) :
    filterFrom f i items = (fun p => kept items p.1) <$> walk f (fun _ => true) i items := by
  induction items generalizing i with
  | nil => simp [filterFrom, walk, kept]
  | cons v vs ih =>
    simp only [filterFrom, walk, ih, map_bind, bind_map_left, map_pure, if_true]
    refine bind_congr fun r => bind_congr fun p => ?_
    cases hr : r.isTruthy <;> simp [kept, hr]

theorem findFrom_eq_walk (wanted : Bool) (i : Nat) (items : List Value) :
    findFrom f wanted i items = Prod.snd <$> walk f (·.isTruthy != wanted) i items := by
  induction items generalizing i with
  | nil => simp [findFrom, walk]
  | cons v vs ih =>
    simp only [findFrom, walk, ih, map_bind]
    refine bind_congr fun r => ?_
    cases hr : r.isTruthy == wanted <;> simp [hr, bne]

/-- **All loops go through the items in the same way.** -/
theorem run_eq_walk (l : Loop) (items : List Value) :
    l.run f items = (fun p => l.outcome items p.1 p.2) <$> walk f l.goesOn 0 items := by
  have hsearch : (fun r : Value => r.isTruthy != true) = some.goesOn :=
    funext fun r => Bool.bne_true _
  have hevery : (fun r : Value => r.isTruthy != false) = every.goesOn :=
    funext fun r => Bool.bne_false _
  cases l with
  | map =>
    rw [run, mapFrom_eq_walk, bind_pure_comp, Functor.map_map]
    rfl
  | filter =>
    rw [run, filterFrom_eq_walk, bind_pure_comp, Functor.map_map]
    rfl
  | some | find | findIndex =>
    rw [run, findFrom_eq_walk, hsearch, bind_pure_comp, Functor.map_map]
    rfl
  | every =>
    rw [run, findFrom_eq_walk, hevery, bind_pure_comp, Functor.map_map]
    rfl

end Walk

end Loop

/-! ## Calls that are written down -/

/-- A computation that writes down the calls of an arrow function, those that fail too. -/
abbrev Watched := ExceptT RunError (StateM (List (List Value)))

/-- An arrow function whose calls are written down, each by its arguments. -/
def watch (f : Arrow) (args : List Value) : Watched Value :=
  ExceptT.mk fun calls => (f args, calls ++ [args])

/-- What a loop gives, and the calls that it makes. -/
def Loop.watched (l : Loop) (f : Arrow) (items : List Value) :
    Except RunError Value × List (List Value) :=
  (l.run (watch f) items).run.run []

/-- A computation comes to `y` and writes down `calls`. -/
def Writes {α : Type} (x : Watched α) (calls : List (List Value)) (y : Except RunError α) : Prop :=
  ∀ before, x.run.run before = (y, before ++ calls)

section Writes

variable {α β : Type} {x : Watched α} {g : α → Watched β} {c d : List (List Value)}

theorem writes_watch {f : Arrow} {args : List Value} {y : Except RunError Value} (h : f args = y) :
    Writes (watch f args) [args] y := fun _ => by
  rw [← h]
  rfl

theorem writes_pure (a : α) : Writes (pure a) [] (.ok a) := fun before => by
  rw [List.append_nil]
  rfl

theorem Writes.bind {a : α} {y : Except RunError β} (hx : Writes x c (.ok a))
    (hg : Writes (g a) d y) : Writes (x >>= g) (c ++ d) y := by
  intro before
  rw [ExceptT.run_bind, StateT.run_bind, hx before, ← List.append_assoc]
  exact hg (before ++ c)

theorem Writes.bind_error {e : RunError} (hx : Writes x c (.error e)) :
    Writes (x >>= g) c (.error e) := by
  intro before
  rw [ExceptT.run_bind, StateT.run_bind, hx before]
  rfl

theorem Writes.map {y : Except RunError α} (h : α → β) (hx : Writes x c y) :
    Writes (h <$> x) c (y.map h) := by
  intro before
  rw [ExceptT.run_map, StateT.run_map, hx before]
  rfl

theorem Writes.unique {y z : Except RunError α} (hx : Writes x c y) (hz : Writes x d z) :
    y = z ∧ c = d := Prod.mk.inj ((hx []).symm.trans (hz []))

end Writes

/-! ## Answers -/

/-- The calls for some items, the first one with index `i`. -/
def callsFrom : Nat → List Value → List (List Value)
  | _, [] => []
  | i, v :: vs => [v, .ofNat i] :: callsFrom (i + 1) vs

/-- The answers of an arrow function for some items, the first one with index `i`. -/
inductive Results (f : Arrow) : Nat → List Value → List Value → Prop where
  | nil {i : Nat} : Results f i [] []
  | cons {i : Nat} {v r : Value} {vs rs : List Value} :
    f [v, .ofNat i] = .ok r → Results f (i + 1) vs rs → Results f i (v :: vs) (r :: rs)

variable {f : Arrow} {allows : Value → Bool} {i : Nat} {items rs : List Value}

theorem Results.length_eq (h : Results f i items rs) : rs.length = items.length := by
  induction h with
  | nil => rfl
  | cons _ _ ih => rw [List.length_cons, List.length_cons, ih]

theorem callsFrom_append (i : Nat) (ahead more : List Value) :
    callsFrom i (ahead ++ more) = callsFrom i ahead ++ callsFrom (i + ahead.length) more := by
  induction ahead generalizing i with
  | nil => rfl
  | cons v ahead ih =>
    rw [List.cons_append, callsFrom, ih, callsFrom, List.cons_append, List.length_cons,
      Nat.add_assoc, Nat.add_comm 1]

/-- **How a loop may go** from index `i` on, as long as the answers allow. It makes the calls for
the items up to the first one with an error or with an answer that stops it, and no other calls. -/
inductive Goes (f : Arrow) (allows : Value → Bool) (i : Nat) (items : List Value) :
    List (List Value) → Except RunError (List Value × Option (Nat × Value)) → Prop where
  | through {rs : List Value} : Results f i items rs → (∀ r ∈ rs, allows r = true) →
    Goes f allows i items (callsFrom i items) (.ok (rs, none))
  | stopped {ahead rest rs : List Value} {v r : Value} : items = ahead ++ v :: rest →
    Results f i ahead rs → (∀ r ∈ rs, allows r = true) →
    f [v, .ofNat (i + ahead.length)] = .ok r → allows r = false →
    Goes f allows i items (callsFrom i (ahead ++ [v])) (.ok (rs, some (i + ahead.length, v)))
  | failed {ahead rest rs : List Value} {v : Value} {e : RunError} : items = ahead ++ v :: rest →
    Results f i ahead rs → (∀ r ∈ rs, allows r = true) →
    f [v, .ofNat (i + ahead.length)] = .error e →
    Goes f allows i items (callsFrom i (ahead ++ [v])) (.error e)

/-- Items whose answers a loop passes are called, and then the loop goes on behind them. -/
theorem writes_walk_append {more : List Value} {calls : List (List Value)}
    {y : Except RunError (List Value × Option (Nat × Value))} {ahead : List Value}
    (h : Results f i ahead rs) (hallows : ∀ r ∈ rs, allows r = true)
    (hmore : Writes (Loop.walk (watch f) allows (i + ahead.length) more) calls y) :
    Writes (Loop.walk (watch f) allows i (ahead ++ more)) (callsFrom i ahead ++ calls)
      (y.map fun p => (rs ++ p.1, p.2)) := by
  induction h with
  | nil =>
    have hsame : (y.map fun p => ([] ++ p.1, p.2)) = y := by cases y <;> rfl
    rw [hsame]
    exact hmore
  | @cons i v r vs rs hr _ ih =>
    obtain ⟨hfirst, hrest⟩ := List.forall_mem_cons.1 hallows
    rw [List.length_cons, Nat.add_comm vs.length, ← Nat.add_assoc] at hmore
    have hmap : (y.map fun p => (r :: rs ++ p.1, p.2)) =
        (y.map fun p => (rs ++ p.1, p.2)).map fun p => (r :: p.1, p.2) := by
      cases y <;> rfl
    rw [List.cons_append, Loop.walk, hmap]
    refine (writes_watch hr).bind (d := callsFrom (i + 1) vs ++ calls) ?_
    rw [if_pos hfirst, bind_pure_comp]
    exact (ih hrest hmore).map _

/-- **A loop goes as it may.** -/
theorem writes_walk {calls : List (List Value)}
    {y : Except RunError (List Value × Option (Nat × Value))} (h : Goes f allows i items calls y) :
    Writes (Loop.walk (watch f) allows i items) calls y := by
  cases h with
  | @through rs hrs hallows =>
    have hend : Writes (Loop.walk (watch f) allows (i + items.length) []) [] (.ok ([], none)) :=
      writes_pure _
    simpa [Except.map] using writes_walk_append hrs hallows hend
  | @stopped ahead rest rs v r hitems hrs hallows hr hstop =>
    subst hitems
    have hend : Writes (Loop.walk (watch f) allows (i + ahead.length) (v :: rest))
        [[v, .ofNat (i + ahead.length)]] (.ok ([], some (i + ahead.length, v))) := by
      rw [Loop.walk]
      refine (writes_watch hr).bind (d := []) ?_
      rw [hstop]
      exact writes_pure _
    simpa [Except.map, callsFrom_append, callsFrom] using writes_walk_append hrs hallows hend
  | @failed ahead rest rs v e hitems hrs hallows he =>
    subst hitems
    have hend : Writes (Loop.walk (watch f) allows (i + ahead.length) (v :: rest))
        [[v, .ofNat (i + ahead.length)]] (.error e) := by
      rw [Loop.walk]
      exact (writes_watch he).bind_error
    simpa [Except.map, callsFrom_append, callsFrom] using writes_walk_append hrs hallows hend

theorem Goes.cons {calls : List (List Value)}
    {y : Except RunError (List Value × Option (Nat × Value))} {v r : Value}
    (hr : f [v, .ofNat i] = .ok r) (hallows : allows r = true)
    (h : Goes f allows (i + 1) items calls y) :
    Goes f allows i (v :: items) ([v, .ofNat i] :: calls) (y.map fun p => (r :: p.1, p.2)) := by
  have hindex (ahead : List Value) : i + 1 + ahead.length = i + (v :: ahead).length := by
    rw [List.length_cons, Nat.add_assoc, Nat.add_comm 1]
  cases h with
  | through hrs h => exact .through (.cons hr hrs) (List.forall_mem_cons.2 ⟨hallows, h⟩)
  | @stopped ahead rest rs w r' hitems hrs h hr' hstop =>
    subst hitems
    rw [hindex] at hr'
    have hitems : v :: (ahead ++ w :: rest) = v :: ahead ++ w :: rest := List.cons_append.symm
    have hgoes := Goes.stopped hitems (.cons hr hrs)
      (List.forall_mem_cons.2 ⟨hallows, h⟩) hr' hstop
    rw [← hindex] at hgoes
    exact hgoes
  | @failed ahead rest rs w e hitems hrs h he =>
    subst hitems
    rw [hindex] at he
    exact Goes.failed List.cons_append.symm (.cons hr hrs)
      (List.forall_mem_cons.2 ⟨hallows, h⟩) he

/-- There is a way through all items, and it comes to what the loop comes to. -/
theorem exists_goes (f : Arrow) (allows : Value → Bool) (i : Nat) (items : List Value) :
    ∃ calls, Goes f allows i items calls (Loop.walk f allows i items) := by
  induction items generalizing i with
  | nil => exact ⟨_, .through .nil nofun⟩
  | cons v vs ih =>
    rw [Loop.walk]
    cases hr : f [v, .ofNat i] with
    | error e => exact ⟨_, .failed (List.nil_append _).symm .nil nofun hr⟩
    | ok r =>
      change ∃ calls, Goes f allows i (v :: vs) calls (if allows r = true then _ else _)
      cases hallows : allows r with
      | false => exact ⟨_, .stopped (List.nil_append _).symm .nil nofun hr hallows⟩
      | true =>
        obtain ⟨calls, h⟩ := ih (i + 1)
        have hmap : (Loop.walk f allows (i + 1) vs >>= fun p => pure (r :: p.1, p.2)) =
            (Loop.walk f allows (i + 1) vs).map fun p => (r :: p.1, p.2) := by
          cases Loop.walk f allows (i + 1) vs <;> rfl
        rw [if_pos rfl, hmap]
        exact ⟨_, h.cons hr hallows⟩

/-- A loop goes in no other way. -/
theorem goes_iff {calls : List (List Value)}
    {y : Except RunError (List Value × Option (Nat × Value))} :
    Goes f allows i items calls y ↔
      Writes (Loop.walk (watch f) allows i items) calls y ∧ Loop.walk f allows i items = y := by
  obtain ⟨calls', hgoes⟩ := exists_goes f allows i items
  have hwrites := writes_walk hgoes
  constructor
  · intro h
    obtain ⟨rfl, rfl⟩ := hwrites.unique (writes_walk h)
    exact ⟨hwrites, rfl⟩
  · rintro ⟨h, rfl⟩
    obtain ⟨-, rfl⟩ := hwrites.unique h
    exact hgoes

/-! ## Methods of arrays -/

/-- **What a loop has to give, and the calls that it has to make**: it goes through the items as
long as the answers let it. -/
def Loop.Gives (l : Loop) (f : Arrow) (items : List Value) (calls : List (List Value))
    (y : Except RunError Value) : Prop :=
  ∃ z, Goes f l.goesOn 0 items calls z ∧ y = z.map fun p => l.outcome items p.1 p.2

theorem Loop.watched_eq_iff {l : Loop} {calls : List (List Value)} {y : Except RunError Value} :
    l.watched f items = (y, calls) ↔ l.Gives f items calls y := by
  obtain ⟨calls', hgoes⟩ := exists_goes f l.goesOn 0 items
  have hwatched : l.watched f items =
      ((Loop.walk f l.goesOn 0 items).map (fun p => l.outcome items p.1 p.2), calls') := by
    rw [Loop.watched, Loop.run_eq_walk]
    exact (writes_walk hgoes).map (fun p => l.outcome items p.1 p.2) []
  rw [hwatched, Prod.mk.injEq]
  constructor
  · rintro ⟨rfl, rfl⟩
    exact ⟨_, hgoes, rfl⟩
  · rintro ⟨z, hz, rfl⟩
    obtain ⟨rfl, rfl⟩ := (writes_walk hgoes).unique (writes_walk hz)
    exact ⟨rfl, rfl⟩

variable {more : Arguments}

theorem callMethod_loop (l : Loop) (f : Arrow) (items : List Value) (more : Arguments) :
    callMethod (.arr items) l.name (.arrow f :: more) =
      (Loop.walk f l.goesOn 0 items).map fun p => l.outcome items p.1 p.2 := by
  have hrun : callMethod (.arr items) l.name (.arrow f :: more) = l.run f items := by
    cases l <;> rfl
  rw [hrun, Loop.run_eq_walk]
  rfl

theorem callMethod_of_goes {l : Loop} {calls : List (List Value)}
    {z : Except RunError (List Value × Option (Nat × Value))}
    (h : Goes f l.goesOn 0 items calls z) :
    callMethod (.arr items) l.name (.arrow f :: more) =
      z.map fun p => l.outcome items p.1 p.2 := by
  rw [callMethod_loop, (goes_iff.1 h).2]

/-- A method gives a value just if there is a way through the items of which it makes that value. -/
theorem callMethod_loop_eq_ok_iff {l : Loop} {v : Value} :
    callMethod (.arr items) l.name (.arrow f :: more) = .ok v ↔
      ∃ calls p, Goes f l.goesOn 0 items calls (.ok p) ∧ l.outcome items p.1 p.2 = v := by
  constructor
  · intro h
    obtain ⟨calls, hgoes⟩ := exists_goes f l.goesOn 0 items
    rw [callMethod_loop] at h
    cases hwalk : Loop.walk f l.goesOn 0 items with
    | error e =>
      rw [hwalk] at h
      cases h
    | ok p =>
      rw [hwalk] at h hgoes
      exact ⟨calls, p, hgoes, Except.ok.inj h⟩
  · rintro ⟨calls, p, hgoes, rfl⟩
    exact callMethod_of_goes hgoes

/-- A loop that stops at no answer needs all of them. -/
theorem results_of_goes {calls : List (List Value)} {p : List Value × Option (Nat × Value)}
    (h : Goes f (fun _ => true) i items calls (.ok p)) : Results f i items p.1 := by
  cases h with
  | through hrs _ => exact hrs
  | stopped _ _ _ _ hstop => cases hstop

theorem Loop.kept_sublist (h : rs.length = items.length) : (kept items rs).Sublist items := by
  have hzip : (items.zip rs).map Prod.fst = items := List.map_fst_zip h.ge
  calc (kept items rs).Sublist ((items.zip rs).map Prod.fst) := List.filter_sublist.map _
    _ = items := hzip

/-- **What the loops say of an array**, by the answers of the arrow function. An answer behind the
one at which a loop stops does not matter to it, not even an error. -/
structure LoopLaws (f : Arrow) (items : List Value) (result : Loop → Except RunError Value) :
    Prop where
  found : ∀ ahead v rest rs r, items = ahead ++ v :: rest → Results f 0 ahead rs →
    (∀ x ∈ rs, x.isTruthy = false) → f [v, .ofNat ahead.length] = .ok r → r.isTruthy = true →
      result .findIndex = .ok (.ofNat ahead.length) ∧ result .find = .ok v ∧
        result .some = .ok (.bool true)
  missing : ∀ rs, Results f 0 items rs → (∀ x ∈ rs, x.isTruthy = false) →
    result .findIndex = .ok (.num (Binary64.ofInt (-1))) ∧ result .find = .ok .undefined ∧
      result .some = .ok (.bool false)
  some_iff : result .some = .ok (.bool true) ↔
    ∃ v, result .findIndex = .ok v ∧ applyBinary .ne v minusOne = .bool true
  every_iff : result .every = .ok (.bool true) ↔
    ∃ rs, Results f 0 items rs ∧ ∀ x ∈ rs, x.isTruthy = true
  map_iff : ∀ v, result .map = .ok v ↔
    ∃ rs, Results f 0 items rs ∧ rs.length = items.length ∧ v = .arr rs
  filter_iff : ∀ v, result .filter = .ok v ↔
    ∃ rs, Results f 0 items rs ∧ (Loop.kept items rs).Sublist items ∧ v = .arr (Loop.kept items rs)

theorem loopLaws (f : Arrow) (items : List Value) (more : Arguments) :
    LoopLaws f items fun l => callMethod (.arr items) l.name (.arrow f :: more) where
  found := by
    rintro ahead v rest rs r hitems hrs hfalse hr htrue
    have hgoes : Goes f (fun r => !r.isTruthy) 0 items (callsFrom 0 (ahead ++ [v]))
        (.ok (rs, some (0 + ahead.length, v))) :=
      .stopped hitems hrs (fun x hx => by rw [hfalse x hx]; rfl) (by rw [Nat.zero_add]; exact hr)
        (by rw [htrue]; rfl)
    rw [Nat.zero_add] at hgoes
    exact ⟨callMethod_of_goes (l := .findIndex) hgoes, callMethod_of_goes (l := .find) hgoes,
      callMethod_of_goes (l := .some) hgoes⟩
  missing := by
    rintro rs hrs hfalse
    have hgoes : Goes f (fun r => !r.isTruthy) 0 items (callsFrom 0 items) (.ok (rs, none)) :=
      .through hrs fun x hx => by rw [hfalse x hx]; rfl
    exact ⟨callMethod_of_goes (l := .findIndex) hgoes, callMethod_of_goes (l := .find) hgoes,
      callMethod_of_goes (l := .some) hgoes⟩
  some_iff := by
    -- the two go through the items in the same way
    have hsame : Loop.some.goesOn = Loop.findIndex.goesOn := rfl
    have hne (p : List Value × Option (Nat × Value)) :
        applyBinary .ne (Loop.findIndex.outcome items p.1 p.2) minusOne =
          Loop.some.outcome items p.1 p.2 := by
      rw [Loop.outcome, Loop.outcome, position_ne_minusOne, Option.isSome_map]
    constructor
    · intro h
      obtain ⟨calls, p, hgoes, hp⟩ := callMethod_loop_eq_ok_iff.1 h
      exact ⟨_, callMethod_of_goes (hsame ▸ hgoes), (hne p).trans hp⟩
    · rintro ⟨v, hv, htrue⟩
      obtain ⟨calls, p, hgoes, rfl⟩ := callMethod_loop_eq_ok_iff.1 hv
      exact callMethod_loop_eq_ok_iff.2 ⟨calls, p, hsame ▸ hgoes, (hne p).symm.trans htrue⟩
  every_iff := by
    constructor
    · intro h
      obtain ⟨calls, p, hgoes, hp⟩ := callMethod_loop_eq_ok_iff.1 h
      cases hgoes with
      | through hrs htrue => exact ⟨_, hrs, htrue⟩
      | stopped => cases hp
    · rintro ⟨rs, hrs, htrue⟩
      exact callMethod_of_goes (l := .every) (.through hrs htrue)
  map_iff v := by
    constructor
    · intro h
      obtain ⟨calls, p, hgoes, rfl⟩ := callMethod_loop_eq_ok_iff.1 h
      have hrs := results_of_goes hgoes
      exact ⟨p.1, hrs, hrs.length_eq, rfl⟩
    · rintro ⟨rs, hrs, -, rfl⟩
      exact callMethod_of_goes (l := .map) (.through hrs fun _ _ => rfl)
  filter_iff v := by
    constructor
    · intro h
      obtain ⟨calls, p, hgoes, rfl⟩ := callMethod_loop_eq_ok_iff.1 h
      have hrs := results_of_goes hgoes
      exact ⟨p.1, hrs, Loop.kept_sublist hrs.length_eq, rfl⟩
    · rintro ⟨rs, hrs, -, rfl⟩
      exact callMethod_of_goes (l := .filter) (.through hrs fun _ _ => rfl)

/-- **The loops over an array.** -/
theorem loops_callMethod (f : Arrow) (items : List Value) (more : Arguments) :
    (∀ (l : Loop) calls y, l.watched f items = (y, calls) ↔ l.Gives f items calls y) ∧
    (∀ l : Loop, callMethod (.arr items) l.name (.arrow f :: more) = (l.watched f items).1) ∧
    LoopLaws f items fun l => callMethod (.arr items) l.name (.arrow f :: more) := by
  refine ⟨fun l calls y => Loop.watched_eq_iff, fun l => ?_, loopLaws f items more⟩
  obtain ⟨z, hz, hy⟩ := Loop.watched_eq_iff.1 (rfl : l.watched f items = _)
  exact (callMethod_of_goes hz).trans hy.symm

end Logbook.Expr
