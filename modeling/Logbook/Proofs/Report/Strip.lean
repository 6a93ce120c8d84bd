import Logbook.Proofs.Text.Numerals
import Logbook.Proofs.Text.Pieces
import Logbook.Report.Style

/-!
# Texts without their styles

What sets the styles of a terminal are sequences of a fixed form. They can be removed from a text,
and what a report writes for a span is its text between such sequences.

* `IsSequence`: a sequence that sets styles;
* `strip`: a text without these sequences, and `strip_sequence_append`, `strip_plain_append`;
* `Surrounds`: to write spans so that only sequences stand around their texts;
* **`surrounds_render`**: reports are written so;
* **`strip_flatMap`**: what is left of them are the texts of the spans.
-/

namespace Logbook.Report

/-! ## Sequences -/

/-- The character that every control sequence starts with. -/
def escape : Char := '\x1b'

/-- A text that has no control sequence in it, as it does not have this character. -/
def Plain (cs : List Char) : Prop := escape ∉ cs

instance (cs : List Char) : Decidable (Plain cs) := inferInstanceAs (Decidable (_ ∉ _))

@[simp] theorem plain_nil : Plain [] := List.not_mem_nil

@[simp] theorem plain_cons {c : Char} {cs : List Char} :
    Plain (c :: cs) ↔ c ≠ escape ∧ Plain cs := by
  rw [Plain, List.mem_cons, not_or, ne_comm, Plain]

@[simp] theorem plain_append {as bs : List Char} : Plain (as ++ bs) ↔ Plain as ∧ Plain bs := by
  rw [Plain, List.mem_append, not_or, Plain, Plain]

/-- A character of the numbers of a sequence. -/
def isParameter (c : Char) : Bool := c.isDigit || c == ';'

/-- **A sequence that sets styles**: numbers between the introducer and the letter for it. -/
def IsSequence (cs : List Char) : Prop :=
  ∃ codes, (∀ c ∈ codes, isParameter c = true) ∧ cs = Style.introducer ++ codes ++ ['m']

/-- What follows a sequence at the start of a text. -/
def afterSequence? : List Char → Option (List Char)
  | '\x1b' :: '[' :: cs =>
    match cs.dropWhile isParameter with
    | 'm' :: rest => some rest
    | _ => none
  | _ => none

theorem length_afterSequence? {cs rest : List Char} (h : afterSequence? cs = some rest) :
    rest.length < cs.length := by
  unfold afterSequence? at h
  split at h
  · next cs =>
    split at h
    · next hdrop =>
      obtain rfl := Option.some.inj h
      have hsuffix : cs.dropWhile isParameter <:+ cs := List.dropWhile_suffix isParameter
      have hle := hsuffix.length_le
      rw [hdrop] at hle
      simp only [List.length_cons] at hle ⊢
      omega
    · cases h
  · cases h

/-- **A text without the sequences** that set styles. -/
def strip : List Char → List Char
  | [] => []
  | c :: cs =>
    match _h : afterSequence? (c :: cs) with
    | some rest => strip rest
    | none => c :: strip cs
  termination_by cs => cs.length
  decreasing_by
    · exact length_afterSequence? ‹_›
    · exact Nat.lt_succ_self _

theorem afterSequence?_append {q : List Char} (h : IsSequence q) (rest : List Char) :
    afterSequence? (q ++ rest) = some rest := by
  obtain ⟨codes, hcodes, rfl⟩ := h
  have hdrop : (codes ++ 'm' :: rest).dropWhile isParameter = 'm' :: rest :=
    (Text.takeWhile_dropWhile_append hcodes (by simp; decide)).2
  have htext :
      Style.introducer ++ codes ++ ['m'] ++ rest = '\x1b' :: '[' :: (codes ++ 'm' :: rest) := by
    simp [Style.introducer]
  rw [htext, afterSequence?]
  simp only [hdrop]

theorem afterSequence?_cons_ne {c : Char} (hc : c ≠ escape) (cs : List Char) :
    afterSequence? (c :: cs) = none := by
  unfold afterSequence?
  split
  · next heq => exact absurd (List.cons.inj heq).1 hc
  · rfl

theorem strip_sequence_append {q : List Char} (h : IsSequence q) (rest : List Char) :
    strip (q ++ rest) = strip rest := by
  have hafter := afterSequence?_append h rest
  obtain ⟨codes, -, rfl⟩ := h
  cases hq : Style.introducer ++ codes ++ ['m'] ++ rest with
  | nil => simp at hq
  | cons c cs =>
    rw [hq] at hafter
    rw [strip]
    split
    · next heq => rw [Option.some.inj (hafter.symm.trans heq)]
    · next heq => cases hafter.symm.trans heq

theorem strip_sequences_append {qs : List (List Char)} (h : ∀ q ∈ qs, IsSequence q)
    (rest : List Char) : strip (qs.flatten ++ rest) = strip rest := by
  induction qs with
  | nil => rfl
  | cons q qs ih =>
    rw [List.forall_mem_cons] at h
    rw [List.flatten_cons, List.append_assoc, strip_sequence_append h.1, ih h.2]

theorem strip_plain_append {cs : List Char} (h : Plain cs) (rest : List Char) :
    strip (cs ++ rest) = cs ++ strip rest := by
  induction cs with
  | nil => rfl
  | cons c cs ih =>
    obtain ⟨hc, hcs⟩ := plain_cons.1 h
    have hafter := afterSequence?_cons_ne hc (cs ++ rest)
    rw [List.cons_append, strip]
    split
    · next heq => cases hafter.symm.trans heq
    · rw [ih hcs, List.cons_append]

/-! ## Spans between sequences -/

/-- **To write spans so** that there are only sequences around the text of a span, whatever its
style is. -/
def Surrounds (write : Span → List Char) : Prop :=
  ∀ s : Span, Plain s.text → ∃ before after : List (List Char),
    (∀ q ∈ before ++ after, IsSequence q) ∧ write s = before.flatten ++ s.text ++ after.flatten

/-- **What is left of a report** are the texts of its spans. -/
theorem strip_flatMap {write : Span → List Char} (h : Surrounds write) {d : Document}
    (hd : Plain d.text) : strip (d.flatMap write) = d.text := by
  induction d with
  | nil =>
    rw [List.flatMap_nil, strip]
    rfl
  | cons s d ih =>
    obtain ⟨hs, hd⟩ := plain_append.1 hd
    obtain ⟨before, after, hsequences, hwrite⟩ := h s hs
    rw [List.forall_mem_append] at hsequences
    rw [List.flatMap_cons, hwrite, List.append_assoc, List.append_assoc,
      strip_sequences_append hsequences.1, strip_plain_append hs,
      strip_sequences_append hsequences.2, ih hd]
    rfl

/-! ## The sequences of a style -/

/-- No style is switched off in a plain text. -/
theorem replaceAll_switchOff (r : List Char) {cs : List Char} (h : Plain cs) :
    Text.replaceAll Style.switchOff r cs = cs := by
  unfold Text.replaceAll
  induction cs with
  | nil => rfl
  | cons c cs ih =>
    obtain ⟨hc, hcs⟩ := plain_cons.1 h
    have hprefix : ¬ Style.switchOff.isPrefixOf (c :: cs) = true := by
      rw [List.isPrefixOf_iff_prefix, Style.switchOff, Style.introducer, List.cons_append,
        List.cons_prefix_cons]
      exact fun hboth => hc hboth.1.symm
    rw [Text.replacedAfter, if_neg hprefix, ih hcs]

theorem isParameter_of_isDigit {c : Char} (h : c.isDigit = true) : isParameter c = true := by
  rw [isParameter, h, Bool.true_or]

theorem isParameter_groundCode (c : Rgb) : ∀ x ∈ groundCode c, isParameter x = true := by
  have hdecimal (n : Nat) : ∀ x ∈ Text.decimal n, isParameter x = true :=
    fun x hx => isParameter_of_isDigit ((Text.writes_decimal n).isDigit x hx)
  have hlead : ∀ x ∈ "48;2;".toList, isParameter x = true := List.all_eq_true.1 rfl
  have hmark : isParameter ';' = true := rfl
  change ∀ x ∈ "48;2;".toList ++ _ ++ ';' :: _ ++ ';' :: _, _
  simp only [List.forall_mem_append, List.forall_mem_cons]
  exact ⟨⟨⟨hlead, hdecimal _⟩, hmark, hdecimal _⟩, hmark, hdecimal _⟩

theorem isParameter_codes (s : Style) : ∀ code ∈ s.codes, ∀ c ∈ code, isParameter c = true := by
  intro code hcode
  rw [Style.codes, List.mem_append, List.mem_append] at hcode
  simp only [Option.mem_toList, Option.map_eq_some_iff] at hcode
  rcases hcode with (⟨e, -, rfl⟩ | ⟨c, -, rfl⟩) | ⟨i, -, rfl⟩
  · cases e <;> exact List.all_eq_true.1 rfl
  · exact isParameter_groundCode c
  · cases i <;> exact List.all_eq_true.1 rfl

theorem isSequence_switchOn (s : Style) : IsSequence s.switchOn := by
  refine ⟨[';'].intercalate s.codes, fun c hc => ?_, rfl⟩
  rcases Text.mem_intercalate hc with hc | ⟨code, hcode, hc⟩
  · rw [List.mem_singleton.1 hc]
    rfl
  · exact isParameter_codes s code hcode c hc

/-- **Reports are written so** that only sequences stand around the texts of spans. -/
theorem surrounds_render : Surrounds (Span.render true) := by
  intro s hs
  by_cases hstyled : (!s.style.codes.isEmpty) = true
  · refine ⟨[s.style.switchOn], [Style.switchOff], ?_, ?_⟩
    · rw [List.singleton_append, List.forall_mem_cons, List.forall_mem_singleton]
      exact ⟨isSequence_switchOn s.style, ['0'], List.all_eq_true.1 rfl, rfl⟩
    · rw [Span.render, Bool.true_and, if_pos hstyled, Style.wrap, replaceAll_switchOff _ hs,
        List.flatten_singleton, List.flatten_singleton]
  · refine ⟨[], [], by simp, ?_⟩
    rw [Span.render, Bool.true_and, if_neg hstyled]
    simp

end Logbook.Report
