import Logbook.Expr.Parser
import Mathlib.Data.List.Induction

/-!
# What names stand for

* `slotOf?_concat`, `slotOf?_of_nodup`: the slot of a parameter is that of its innermost one;
* `Denotes`: what a name may stand for among parameters;
* **`resolve_of_denotes`**: where no parameter hides another one or a known name, that is what it
  stands for.
-/

namespace Logbook.Expr

/-! ## Slots -/

variable {names : List String} {n : String} {k : Nat}

theorem slotOf?_concat (n x : String) (names : List String) :
    slotOf? n (names ++ [x]) = if x = n then some names.length else slotOf? n names := by
  rw [slotOf?, List.reverse_concat, List.findIdx?_cons]
  by_cases hx : x = n
  · simp [hx]
  · simp [hx, slotOf?, Function.comp_def, Nat.sub_sub, Nat.add_comm]

theorem slotOf?_lt (h : slotOf? n names = some k) : k < names.length := by
  obtain ⟨i, hi, rfl⟩ := Option.map_eq_some_iff.1 h
  obtain ⟨hlt, -⟩ := List.findIdx?_eq_some_iff_findIdx_eq.1 hi
  rw [List.length_reverse] at hlt
  omega

theorem slotOf?_eq_none (h : n ∉ names) : slotOf? n names = none := by
  simp only [slotOf?, Option.map_eq_none_iff, List.findIdx?_eq_none_iff, List.mem_reverse]
  rintro x hx
  exact beq_eq_false_iff_ne.2 fun heq => h (heq ▸ hx)

theorem slotOf?_of_nodup (hnames : names.Nodup) (hk : names[k]? = some n) :
    slotOf? n names = some k := by
  induction names using List.reverseRecOn with
  | nil => simp at hk
  | append_singleton names x ih =>
    rw [slotOf?_concat]
    obtain ⟨hnodup, -, hx⟩ := List.nodup_append.1 hnames
    by_cases hlt : k < names.length
    · rw [List.getElem?_append_left hlt] at hk
      have hne : x ≠ n := fun heq => hx n (List.mem_of_getElem? hk) x (by simp) heq.symm
      rw [if_neg hne, ih hnodup hk]
    · rw [List.getElem?_append_right (by omega), List.getElem?_singleton] at hk
      split at hk
      · next heq =>
        rw [if_pos (Option.some.inj hk)]
        exact congrArg some (by omega)
      · cases hk

/-! ## Known names -/

/-- The names that have a meaning without parameters. -/
def knownNames : List String :=
  ["typeof", "true", "false", "null", "undefined", "NaN", "Infinity", "log", "message", "tags",
    "time", "line", "title", "body", "id", "filename", "payload", "Math", "JSON", "Array", "Object",
    "String", "Number", "Boolean"]

/-- What a name may stand for among the parameters `names`. -/
inductive Denotes (names : List String) : String → Expr → Prop where
  | param {k : Nat} {n : String} : names[k]? = some n → Denotes names n (.param k)
  | true : Denotes names "true" (.literal (.bool Bool.true))
  | false : Denotes names "false" (.literal (.bool Bool.false))
  | null : Denotes names "null" (.literal .null)
  | undefined : Denotes names "undefined" (.literal .undefined)
  | field (f : Field) : Denotes names f.name (.field f)
  | library (l : Library) : l ≠ .string → Denotes names l.name (.library l)
  | conversion (c : Conversion) : Denotes names c.name (.conversion c)

/-- No parameter hides another one or a known name. -/
def Distinct (names : List String) : Prop := names.Nodup ∧ ∀ n ∈ names, n ∉ knownNames

theorem resolve_of_denotes {e : Expr} (hnames : Distinct names) (h : Denotes names n e) :
    resolve n names = .ok e := by
  have hknown : ∀ m ∈ knownNames, slotOf? m names = none := fun m hm =>
    slotOf?_eq_none fun hmem => hnames.2 m hmem hm
  cases h with
  | param hk => rw [resolve, slotOf?_of_nodup hnames.1 hk]
  | true => rw [resolve, hknown "true" (by decide)]; rfl
  | false => rw [resolve, hknown "false" (by decide)]; rfl
  | null => rw [resolve, hknown "null" (by decide)]; rfl
  | undefined => rw [resolve, hknown "undefined" (by decide)]; rfl
  | field f => rw [resolve, hknown f.name (by cases f <;> decide)]; cases f <;> rfl
  | library l hl =>
    rw [resolve, hknown l.name (by cases l <;> decide)]
    cases l <;> first | rfl | exact absurd rfl hl
  | conversion c => rw [resolve, hknown c.name (by cases c <;> decide)]; cases c <;> rfl

end Logbook.Expr
