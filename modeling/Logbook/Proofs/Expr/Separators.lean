import Logbook.Proofs.Expr.Slices
import Logbook.Proofs.Text.Matches

/-!
# Cutting, joining and replacing texts

* `callMethod_split`, `callMethod_replaceAll`: the methods for a separator that is not empty;
* **`callMethod_pieces`**: a text is cut at the matches of a separator; its pieces with the
  separator between them are the text again, and with another text between them they are what
  `replaceAll` gives.
-/

namespace Logbook.Expr

theorem splitText_of_ne {p : String} (hp : p ≠ "") (cs : List Char) :
    TextMethod.splitText cs (.str p) = (Text.splitOn p.toList cs).map .ofChars := by
  have hdisplay : (Value.str p).displayChars = p.toList := rfl
  obtain ⟨c, q, hq⟩ := List.exists_cons_of_ne_nil (mt String.toList_eq_nil_iff.1 hp)
  simp only [TextMethod.splitText, hdisplay, hq]

theorem callMethod_split {p : String} (hp : p ≠ "") (s : String) :
    callMethod (.str s) "split" [.value (.str p)] =
      .ok (.arr ((Text.splitOn p.toList s.toList).map .ofChars)) := by
  change Except.ok (Value.arr ((TextMethod.splitText s.toList (.str p)).take
    (absoluteIndex Binary64.infinity (TextMethod.splitText s.toList (.str p)).length))) = _
  rw [absoluteIndex_infinity, List.take_length, splitText_of_ne hp]

theorem callMethod_replaceAll {p : String} (hp : p ≠ "") (s r : String) :
    callMethod (.str s) "replaceAll" [.value (.str p), .value (.str r)] =
      .ok (.ofChars (Text.replaceAll p.toList r.toList s.toList)) := by
  have hne : p.toList.isEmpty = false := by
    rw [List.isEmpty_eq_false_iff]
    exact mt String.toList_eq_nil_iff.1 hp
  change (if p.toList.isEmpty = true then (.error (.argument .emptyPattern) : Except RunError Value)
    else .ok (.ofChars (Text.replaceAll p.toList r.toList s.toList))) = _
  rw [hne, if_neg Bool.false_ne_true]

theorem split_join (s p : String) :
    (do
      let pieces ← callMethod (.str s) "split" [.value (.str p)]
      callMethod pieces "join" [.value (.str p)]) = .ok (.str s) := by
  by_cases hp : p = ""
  · subst hp
    simp only [callMethod_split_text, bind, Except.bind, callMethod_join_characters]
    rw [Value.ofChars, String.ofList_toList]
  · simp only [callMethod_split hp, bind, Except.bind, callMethod_join]
    rw [← Text.join, Text.join_splitOn (mt String.toList_eq_nil_iff.1 hp), Value.ofChars,
      String.ofList_toList]

/-- Replacing a text is cutting at it, and joining with the other one. -/
theorem replaceAll_eq_split_join {p : String} (hp : p ≠ "") (s r : String) :
    callMethod (.str s) "replaceAll" [.value (.str p), .value (.str r)] = (do
      let pieces ← callMethod (.str s) "split" [.value (.str p)]
      callMethod pieces "join" [.value (.str r)]) := by
  simp only [callMethod_replaceAll hp, callMethod_split hp, bind, Except.bind, callMethod_join,
    Text.replaceAll_eq_join, Text.join]

/-- **Cutting, joining and replacing texts.** The pieces of a text with the separator between them
are the text again. An empty separator cuts a text into its characters, any other one at its
matches, taken from the left; and these pieces with another text between them are what `replaceAll`
gives for it. -/
theorem callMethod_pieces (s p r : String) :
    (do
      let pieces ← callMethod (.str s) "split" [.value (.str p)]
      callMethod pieces "join" [.value (.str p)]) = .ok (.str s) ∧
    callMethod (.str s) "split" [.value (.str "")] =
      .ok (.arr (s.toList.map fun c => .ofChars [c])) ∧
    (p ≠ "" →
      (∃ pieces, callMethod (.str s) "split" [.value (.str p)] = .ok (.arr (pieces.map .ofChars)) ∧
        Text.Cut p.toList s.toList pieces) ∧
      callMethod (.str s) "replaceAll" [.value (.str p), .value (.str r)] = do
        let pieces ← callMethod (.str s) "split" [.value (.str p)]
        callMethod pieces "join" [.value (.str r)]) := by
  refine ⟨split_join s p, callMethod_split_text s, fun hp => ⟨?_, replaceAll_eq_split_join hp s r⟩⟩
  exact ⟨_, callMethod_split hp s, Text.cut_splitOn (mt String.toList_eq_nil_iff.1 hp) _⟩

theorem callMethod_pieces_euros : "€€" ≠ "" ∧
    callMethod (.str "€€€") "replaceAll" [.value (.str "€€"), .value (.str "-")] = (do
      let pieces ← callMethod (.str "€€€") "split" [.value (.str "€€")]
      callMethod pieces "join" [.value (.str "-")]) ∧
    callMethod (.str "€€€") "split" [.value (.str "€€")] = .ok (.arr [.str "", .str "€"]) :=
  ⟨by decide, ((callMethod_pieces "€€€" "€€" "-").2.2 (by decide)).2, rfl⟩

end Logbook.Expr
