import Logbook.Expr.Compiled
import Logbook.Proofs.Expr.Parse
import Logbook.Proofs.Expr.Sound

/-!
# The trees of a text

* `IsTreeOf`: a tree that a text is written as; a blank text has none;
* `program_of_isTreeOf`: a text compiles to what its tree stands for, or is too deep;
* `exists_isTreeOf`, `exists_isTreeOf_some`: a text that compiles has a tree.
-/

namespace Logbook.Expr

/-- A tree of a text. -/
def IsTreeOf (source : String) : Option Surface → Prop
  | none => Text.isAllBlank source.toList = true
  | some t => Text.isAllBlank source.toList = false ∧ t.Fits false 1 ∧ t.Known [] ∧
    ∃ ps, tokenize source.toList = .ok ps ∧ ps.map Placed.token = t.tokens

variable {source : String}

theorem program_of_isAllBlank (h : Text.isAllBlank source.toList = true) :
    (compile source).program = .ok none := by
  rw [compile, h]
  rfl

theorem program_of_tokenize {ps : List Placed} (hblank : Text.isAllBlank source.toList = false)
    (hps : tokenize source.toList = .ok ps) :
    (compile source).program = (parse ps).map some := by
  simp only [compile, hblank, hps]
  change (parse ps >>= fun e => .ok (some e)) = _
  cases parse ps <;> rfl

theorem program_of_isTreeOf {t : Surface} (h : IsTreeOf source (some t)) :
    (compile source).program =
      if t.need < maxDepth then .ok (some (t.resolve [])) else .error .tooDeep := by
  obtain ⟨hblank, hfits, hknown, ps, hps, hmap⟩ := h
  rw [program_of_tokenize hblank hps, parse_tokens hfits hknown hmap]
  by_cases hneed : t.need < maxDepth
  · rw [if_pos hneed, if_pos hneed]
    rfl
  · rw [if_neg hneed, if_neg hneed]
    rfl

theorem exists_isTreeOf {program : Option Expr} (h : (compile source).program = .ok program) :
    ∃ t, IsTreeOf source t := by
  cases hblank : Text.isAllBlank source.toList with
  | true => exact ⟨none, hblank⟩
  | false =>
    simp only [compile, hblank] at h
    obtain ⟨ps, hps, h⟩ := exists_of_bind_eq_ok h
    obtain ⟨e, he, -⟩ := exists_of_bind_eq_ok h
    obtain ⟨t, ⟨hfits, hknown, -⟩, hmap⟩ := exists_of_parse he
    exact ⟨some t, hblank, hfits, hknown, ps, hps, hmap⟩

theorem exists_isTreeOf_some {e : Expr} (h : (compile source).program = .ok (some e)) :
    ∃ t, IsTreeOf source (some t) := by
  obtain ⟨t, ht⟩ := exists_isTreeOf h
  cases t with
  | none =>
    rw [program_of_isAllBlank ht] at h
    cases h
  | some t => exact ⟨t, ht⟩

theorem eq_resolve_of_isTreeOf {t : Surface} {program : Option Expr}
    (h : (compile source).program = .ok program) (ht : IsTreeOf source (some t)) :
    program = some (t.resolve []) := by
  rw [program_of_isTreeOf ht] at h
  split at h
  · exact (Except.ok.inj h).symm
  · cases h

end Logbook.Expr
