import Logbook.Proofs.Expr.ByName
import Logbook.View.Annotation

/-!
# The fields of an expression

An expression sees of a record only the fields that occur in it.

* `Expr.fields`, `Compiled.fields`, `Annotators.fields`: the fields that occur;
* `Record.AgreeOn`: two records have the same values in some fields;
* `chain_congr`: a tree has the same value for records that agree on its fields, whatever the
  parameters in scope;
* **`determined_by_fields`**: so has a text, and with it a filter, a label, a color and ids.
-/

namespace Logbook

/-! ## Fields that occur -/

namespace Expr

mutual

/-- The fields that occur in an expression. -/
def fields : Expr → List Field
  | field f => [f]
  | literal _ | param _ | library _ | conversion _ => []
  | array items => fieldsAll items
  | member object property _ => object.fields ++ property.fields
  | call callee args _ => callee.fields ++ fieldsAll args
  | lambda _ body => body.fields
  | unary _ operand => operand.fields
  | binary _ left right => left.fields ++ right.fields
  | logical _ left right => left.fields ++ right.fields
  | conditional test yes no => test.fields ++ (yes.fields ++ no.fields)

/-- The fields that occur in some expressions. -/
def fieldsAll : List Expr → List Field
  | [] => []
  | e :: es => e.fields ++ fieldsAll es

end

end Expr

/-- The fields that occur in a compiled expression; none does in a text that fails. -/
def Compiled.fields (c : Compiled) : List Field :=
  match c.program with
  | .ok (some e) => e.fields
  | _ => []

/-- The fields that occur in the expressions for label, color and ids. -/
def Annotators.fields (a : Annotators) : List Field :=
  a.text.fields ++ (a.color.fields ++ a.id.fields)

/-! ## Agreement of records -/

namespace Record

/-- Two records have the same values in some fields. -/
def AgreeOn (fs : List Field) (r r' : Record) : Prop := ∀ f ∈ fs, r.field f = r'.field f

variable {fs gs : List Field} {r r' : Record}

theorem agreeOn_append : AgreeOn (fs ++ gs) r r' ↔ AgreeOn fs r r' ∧ AgreeOn gs r r' :=
  List.forall_mem_append

/-- No field tells the index of a record. -/
theorem agreeOn_index (fs : List Field) (r : Record) (i : Nat) :
    AgreeOn fs r { r with index := i } := by
  intro f _
  cases f <;> rfl

end Record

/-! ## Evaluation -/

namespace Expr

open Record

variable {r r' : Record}

mutual

/-- **A tree has the same value for records that agree on its fields.** -/
theorem chain_congr : ∀ (e : Expr) (locals : List Value), AgreeOn e.fields r r' →
    chain r locals e = chain r' locals e
  | literal _, _, _ | param _, _, _ | library _, _, _ | conversion _, _, _ | lambda .., _, _ => by
    rw [chain, chain]
  | field f, _, h => by
    rw [chain, chain, h f (List.mem_singleton_self f)]
  | array items, locals, h => by
    rw [chain, chain, itemValues_congr items locals h]
  | member object property _, locals, h => by
    obtain ⟨hobject, hproperty⟩ := agreeOn_append.1 h
    rw [chain, chain, chain_congr object locals hobject, chain_congr property locals hproperty]
  | call callee args optional, locals, h => by
    obtain ⟨hcallee, hargs⟩ := agreeOn_append.1 h
    have hargs := arguments_congr args locals hargs
    by_cases hmember : ∃ o p q, callee = member o p q
    · obtain ⟨object, property, optionalMember, rfl⟩ := hmember
      obtain ⟨hobject, hproperty⟩ := agreeOn_append.1 hcallee
      rw [chain, chain, chain_congr object locals hobject, chain_congr property locals hproperty,
        hargs]
    · have hne : ∀ o p q, callee ≠ member o p q := fun o p q heq => hmember ⟨o, p, q, heq⟩
      rw [chain_call r _ _ _ hne, chain_call r' _ _ _ hne, chain_congr callee locals hcallee, hargs]
  | unary _ operand, locals, h => by
    rw [chain, chain, chain_congr operand locals h]
  | binary _ left right, locals, h => by
    obtain ⟨hleft, hright⟩ := agreeOn_append.1 h
    rw [chain, chain, chain_congr left locals hleft, chain_congr right locals hright]
  | logical _ left right, locals, h => by
    obtain ⟨hleft, hright⟩ := agreeOn_append.1 h
    rw [chain, chain, chain_congr left locals hleft, chain_congr right locals hright]
  | conditional test yes no, locals, h => by
    obtain ⟨htest, h⟩ := agreeOn_append.1 h
    obtain ⟨hyes, hno⟩ := agreeOn_append.1 h
    rw [chain, chain, chain_congr test locals htest, chain_congr yes locals hyes,
      chain_congr no locals hno]

theorem arguments_congr : ∀ (es : List Expr) (locals : List Value), AgreeOn (fieldsAll es) r r' →
    arguments r locals es = arguments r' locals es
  | [], _, _ => by rw [arguments, arguments]
  | e :: es, locals, h => by
    obtain ⟨hfirst, hmore⟩ := agreeOn_append.1 h
    have hmore := arguments_congr es locals hmore
    by_cases hlambda : ∃ arity body, e = lambda arity body
    · obtain ⟨arity, body, rfl⟩ := hlambda
      -- The function closes over the record: its bodies agree for all values of its parameters.
      have hbody : ∀ args, chain r (locals ++ bindParameters arity args) body =
          chain r' (locals ++ bindParameters arity args) body :=
        fun args => chain_congr body _ hfirst
      rw [arguments, arguments, hmore]
      simp only [hbody]
    · have hne : ∀ arity body, e ≠ lambda arity body := fun arity body heq =>
        hlambda ⟨arity, body, heq⟩
      rw [arguments_cons r _ _ hne, arguments_cons r' _ _ hne, chain_congr e locals hfirst, hmore]

theorem itemValues_congr : ∀ (es : List Expr) (locals : List Value), AgreeOn (fieldsAll es) r r' →
    itemValues r locals es = itemValues r' locals es
  | [], _, _ => by rw [itemValues, itemValues]
  | e :: es, locals, h => by
    obtain ⟨hfirst, hmore⟩ := agreeOn_append.1 h
    rw [itemValues, itemValues, chain_congr e locals hfirst, itemValues_congr es locals hmore]

end

end Expr

variable {r r' : Record}

theorem Compiled.eval_congr {c : Compiled} (h : r.AgreeOn c.fields r') : c.eval r = c.eval r' := by
  obtain ⟨source, program⟩ := c
  unfold Compiled.eval
  match program with
  | .error _ | .ok none => rfl
  | .ok (some e) =>
    have hchain : e.chain r [] = e.chain r' [] := Expr.chain_congr e [] h
    dsimp only
    rw [Expr.eval, Expr.eval, hchain]

theorem Compiled.test_congr {c : Compiled} (h : r.AgreeOn c.fields r') : c.test r = c.test r' := by
  rw [Compiled.test, Compiled.test, Compiled.eval_congr h]

namespace Annotators

variable {a : Annotators}

theorem labelOf_congr (h : r.AgreeOn a.text.fields r') : a.labelOf r = a.labelOf r' := by
  rw [labelOf, labelOf, Compiled.eval_congr h]

theorem ids_congr (h : r.AgreeOn a.id.fields r') : a.ids r = a.ids r' := by
  rw [ids, ids, Compiled.eval_congr h]

/-- The color also tells whether the ids fail. -/
theorem colorOf_congr (hcolor : r.AgreeOn a.color.fields r') (hid : r.AgreeOn a.id.fields r') :
    a.colorOf r = a.colorOf r' := by
  rw [colorOf, colorOf, Compiled.eval_congr hcolor, Compiled.eval_congr hid]

end Annotators

/-- **Expressions see only the fields that occur in them.** A text has the same value or the same
error for records that agree on its fields, and holds for both or for none; label, color and ids
depend on the fields of their texts alone. The index of a record is in no field. -/
theorem determined_by_fields :
    (∀ (source : String) (r r' : Record), r.AgreeOn (compile source).fields r' →
      (compile source).eval r = (compile source).eval r' ∧
      (compile source).test r = (compile source).test r') ∧
    (∀ (a : Annotators) (r r' : Record), r.AgreeOn a.fields r' →
      a.labelOf r = a.labelOf r' ∧ a.colorOf r = a.colorOf r' ∧ a.ids r = a.ids r') ∧
    ∀ (source : String) (r : Record) (i : Nat),
      (compile source).eval { r with index := i } = (compile source).eval r := by
  refine ⟨fun source r r' h => ⟨Compiled.eval_congr h, Compiled.test_congr h⟩,
    fun a r r' h => ?_, fun source r i => ?_⟩
  · obtain ⟨htext, h⟩ := Record.agreeOn_append.1 h
    obtain ⟨hcolor, hid⟩ := Record.agreeOn_append.1 h
    exact ⟨Annotators.labelOf_congr htext, Annotators.colorOf_congr hcolor hid,
      Annotators.ids_congr hid⟩
  · exact (Compiled.eval_congr (Record.agreeOn_index _ r i)).symm

/-- Records of two logs that have nothing but the title in common. -/
def titled (log : String) (index : Nat) : Record :=
  { log, message := log, line := log, title := some "start", body := log, id := some log, index }

theorem determined_by_fields_titled :
    (compile "[title].map((x, i) => x.length + i)").fields = [.title] ∧
    (titled "client" 1).AgreeOn [.title] (titled "server" 2) ∧
    (titled "client" 1).field .log ≠ (titled "server" 2).field .log ∧
    (compile "[title].map((x, i) => x.length + i)").eval (titled "client" 1) =
      (compile "[title].map((x, i) => x.length + i)").eval (titled "server" 2) := by
  have hfields : (compile "[title].map((x, i) => x.length + i)").fields = [.title] := by
    decide +kernel
  have hagree : (titled "client" 1).AgreeOn [.title] (titled "server" 2) :=
    List.forall_mem_singleton.2 rfl
  refine ⟨hfields, hagree, by simp [titled, Record.field], ?_⟩
  exact (determined_by_fields.1 _ _ _ (hfields ▸ hagree)).1

end Logbook
