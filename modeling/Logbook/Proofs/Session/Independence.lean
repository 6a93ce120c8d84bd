import Mathlib.Data.List.Induction
import Logbook.Session

/-!
# Independence of the controls

Each control of a query has a part of the outcome to itself, and one that fails leaves the other
parts as they are. Only the color also shows whether the ids fail.

* `Aspect`: what is told of annotations and of their errors, such as all but the labels;
* `annotate_concat`: annotating one more record, **`agreeOn_annotate`**: two ways to annotate that
  agree on each record agree on all of them;
* `agree_query`: expressions that agree on each record give outcomes that agree;
* `colorAt_of_id_ok`, `colorAt_of_id_error`: how the color depends on the ids;
* `Session.Independent`: what another text in one of the controls cannot change;
* **`independent_query`**: the controls of every query are independent.
-/

namespace Logbook

/-! ## Annotating record by record -/

/-- The first errors stay. -/
def AnnotationErrors.or (e e' : AnnotationErrors) : AnnotationErrors :=
  { text := e.text.or e'.text
    color := e.color.or e'.color
    id := e.id.or e'.id }

def Annotators.errorsOn (a : Annotators) (r : Record) : AnnotationErrors :=
  { text := errorOf? (a.text.eval r)
    color := errorOf? (a.color.eval r)
    id := errorOf? (a.id.eval r) }

theorem firstError?_concat {ε α : Type} (f : Record → Except ε α) (rs : List Record) (r : Record) :
    firstError? f (rs ++ [r]) = (firstError? f rs).or (errorOf? (f r)) := by
  rw [firstError?, List.findSome?_append, List.findSome?_singleton]
  rfl

/-- **Annotating one more record** adds its annotation, and its errors where there are none yet. -/
theorem annotate_concat (rs : List Record) (r : Record) (a : Annotators) (align : String → Align) :
    annotate (rs ++ [r]) a align =
      ((annotate rs a align).1 ++ [a.annotate align r],
        (annotate rs a align).2.or (a.errorsOn r)) := by
  simp only [annotate, List.map_append, List.map_singleton, firstError?_concat]
  rfl

/-- What is told of annotations and of their errors. Of first errors it can be told record by
record. -/
structure Aspect where
  part : Annotation → Annotation
  slots : AnnotationErrors → AnnotationErrors
  slots_or : ∀ e e', slots (e.or e') = (slots e).or (slots e')

namespace Aspect

/-- All but the labels and their error. -/
def butLabels : Aspect where
  part a := { a with label := "" }
  slots e := { e with text := none }
  slots_or _ _ := rfl

/-- All but the colors and their error. -/
def butColors : Aspect where
  part a := { a with color := "" }
  slots e := { e with color := none }
  slots_or _ _ := rfl

/-- All but the ids, their error, and the colors, which show that there is one. -/
def butIds : Aspect where
  part a := { a with ids := [], color := "" }
  slots e := { e with id := none }
  slots_or _ _ := rfl

/-- Annotations and errors agree in an aspect. -/
structure AgreeOn (x : Aspect) (p p' : List Annotation × AnnotationErrors) : Prop where
  annotations : p.1.map x.part = p'.1.map x.part
  errors : x.slots p.2 = x.slots p'.2

structure AgreeOnRecord (x : Aspect) (a a' : Annotators) (align : String → Align) (r : Record) :
    Prop where
  annotation : x.part (a.annotate align r) = x.part (a'.annotate align r)
  errors : x.slots (a.errorsOn r) = x.slots (a'.errorsOn r)

theorem AgreeOn.concat {x : Aspect} {a a' : Annotators} {align : String → Align} {rs : List Record}
    {r : Record} (h : x.AgreeOn (annotate rs a align) (annotate rs a' align))
    (hr : x.AgreeOnRecord a a' align r) :
    x.AgreeOn (annotate (rs ++ [r]) a align) (annotate (rs ++ [r]) a' align) where
  annotations := by
    rw [annotate_concat, annotate_concat, List.map_append, List.map_append, h.annotations,
      List.map_singleton, List.map_singleton, hr.annotation]
  errors := by
    rw [annotate_concat, annotate_concat, x.slots_or, x.slots_or, h.errors, hr.errors]

/-- **Two ways to annotate that agree on each record** agree on all of them. -/
theorem agreeOn_annotate {x : Aspect} {a a' : Annotators} {align : String → Align}
    (h : ∀ r, x.AgreeOnRecord a a' align r) (rs : List Record) :
    x.AgreeOn (annotate rs a align) (annotate rs a' align) := by
  induction rs using List.reverseRecOn with
  | nil => exact ⟨rfl, rfl⟩
  | append_singleton rs r ih => exact ih.concat (h r)

end Aspect

/-! ## Independence -/

/-- Two outcomes agree in an aspect of their annotations and errors, and in all the rest. -/
structure Outcome.Agree (x : Aspect) (o o' : Outcome) : Prop where
  records : o.records = o'.records
  dictionary : o.dictionary = o'.dictionary
  start : o.start = o'.start
  finish : o.finish = o'.finish
  annotated : x.AgreeOn (o.annotations, ⟨o.errors.text, o.errors.color, o.errors.id⟩)
    (o'.annotations, ⟨o'.errors.text, o'.errors.color, o'.errors.id⟩)
  filter_error : o.errors.filter = o'.errors.filter
  start_error : o.errors.start = o'.errors.start
  finish_error : o.errors.finish = o'.errors.finish

def Outcome.colorAt (o : Outcome) (i : Nat) : Option String :=
  o.annotations[i]?.map Annotation.color

/-- **The controls of a query are independent**: whatever text one of them has instead, only its own
part of the outcome is another. -/
structure Session.Independent (s : Session) (q : Query) : Prop where
  text : ∀ text, (s.query q).Agree .butLabels (s.query { q with text := text })
  color : ∀ color, (s.query q).Agree .butColors (s.query { q with color := color })
  id : ∀ id, (s.query q).Agree .butIds (s.query { q with id := id })
  /-- Where the ids do not fail, they leave the color as it is. -/
  id_color : ∀ id i r v w, (s.query q).records[i]? = some r →
    (compile q.id).eval r = .ok v → (compile id).eval r = .ok w →
      ∃ c, (s.query q).colorAt i = some c ∧ (s.query { q with id := id }).colorAt i = some c
  /-- Where they fail, the color shows it. -/
  id_error : ∀ i r e, (s.query q).records[i]? = some r → (compile q.id).eval r = .error e →
    (s.query q).colorAt i = some errorColor
  filter : ∀ filter, (s.query { q with filter := filter }).start = (s.query q).start ∧
    (s.query { q with filter := filter }).finish = (s.query q).finish ∧
    (s.query { q with filter := filter }).errors.start = (s.query q).errors.start ∧
    (s.query { q with filter := filter }).errors.finish = (s.query q).errors.finish

def Query.annotators (q : Query) : Annotators := ⟨compile q.text, compile q.color, compile q.id⟩

/-- How a query aligns the records of a log. -/
def Session.alignOf (s : Session) (q : Query) (log : String) : Align :=
  (((s.logViews q).lookup log).map LogView.align).getD s.view.alignForOtherLogs

section Query

variable {s : Session} {q : Query} {i : Nat} {r : Record}

theorem agree_query {x : Aspect} {text color id : String}
    (h : ∀ align r, x.AgreeOnRecord q.annotators
      { q with text := text, color := color, id := id }.annotators align r) :
    (s.query q).Agree x (s.query { q with text := text, color := color, id := id }) where
  records := rfl
  dictionary := rfl
  start := rfl
  finish := rfl
  annotated := Aspect.agreeOn_annotate (h (s.alignOf q)) (s.query q).records
  filter_error := rfl
  start_error := rfl
  finish_error := rfl

theorem colorAt_query (h : (s.query q).records[i]? = some r) :
    (s.query q).colorAt i = some (q.annotators.colorOf r) := by
  have hannotations : (s.query q).annotations =
      (s.query q).records.map (q.annotators.annotate (s.alignOf q)) := rfl
  rw [Outcome.colorAt, hannotations, List.getElem?_map, h]
  rfl

/-- The color that the expression for it gives a record. -/
def Annotators.ownColor (a : Annotators) (r : Record) : String :=
  match a.color.eval r with
  | .ok v => colorFor v
  | .error _ => errorColor

theorem colorAt_of_id_ok {v : Value} (h : (s.query q).records[i]? = some r)
    (hv : (compile q.id).eval r = .ok v) :
    (s.query q).colorAt i = some (q.annotators.ownColor r) := by
  have hid : q.annotators.id.eval r = .ok v := hv
  rw [colorAt_query h, Annotators.colorOf, Annotators.ownColor, hid]
  cases q.annotators.color.eval r with
  | ok c => rfl
  | error e => rfl

theorem colorAt_of_id_error {e : ExprError} (h : (s.query q).records[i]? = some r)
    (he : (compile q.id).eval r = .error e) : (s.query q).colorAt i = some errorColor := by
  have hid : q.annotators.id.eval r = .error e := he
  rw [colorAt_query h, Annotators.colorOf, hid]

end Query

/-- **The controls of every query are independent.** -/
theorem independent_query (s : Session) (q : Query) : s.Independent q where
  text _ := agree_query fun _ _ => ⟨rfl, rfl⟩
  color _ := agree_query fun _ _ => ⟨rfl, rfl⟩
  id _ := agree_query fun _ _ => ⟨rfl, rfl⟩
  -- The color that the expression for it gives does not depend on the ids.
  id_color id _ r _ _ h hv hw :=
    ⟨q.annotators.ownColor r, colorAt_of_id_ok h hv,
      colorAt_of_id_ok (q := { q with id := id }) h hw⟩
  id_error _ _ _ h he := colorAt_of_id_error h he
  filter _ := ⟨rfl, rfl, rfl, rfl⟩

end Logbook
