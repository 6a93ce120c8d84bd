import Mathlib.Data.List.Basic
import Logbook.Json.Reader
import Logbook.Proofs.Json.Numerals

/-!
# Space and quoted texts in JSON

* `Space`: space between tokens, which the reader skips;
* `Escape`, `StringText`: what stands behind a backslash, and texts up to their closing quote;
* `readEscape?_append`, `exists_escape`: reading an escape;
* **`readString?_append`**, **`exists_stringText`**: reading a text up to its closing quote.
-/

namespace Logbook.Json

/-! ## Space -/

/-- Space between tokens and nothing else. -/
def Space (cs : List Char) : Prop := ∀ c ∈ cs, isSpace c = true

namespace Space

variable {a b rest : List Char}

theorem nil : Space [] := by
  rintro c ⟨⟩

theorem append (ha : Space a) (hb : Space b) : Space (a ++ b) :=
  List.forall_mem_append.2 ⟨ha, hb⟩

theorem skipSpace_append (ha : Space a) (rest : List Char) :
    skipSpace (a ++ rest) = skipSpace rest :=
  List.dropWhile_append_of_pos ha

theorem skipSpace (ha : Space a) : skipSpace a = [] := by
  rw [← List.append_nil a, ha.skipSpace_append]
  rfl

theorem endsNumeral (ha : Space a) (h : EndsNumeral rest) : EndsNumeral (a ++ rest) := by
  cases a with
  | nil => exact h
  | cons c a =>
    refine .cons ?_
    have hc : isSpace c = true := ha c List.mem_cons_self
    simp only [isSpace, Bool.or_eq_true, beq_iff_eq] at hc
    rcases hc with ((rfl | rfl) | rfl) | rfl <;> decide

end Space

theorem exists_space (cs : List Char) : ∃ a, Space a ∧ cs = a ++ skipSpace cs :=
  ⟨cs.takeWhile isSpace, List.all_eq_true.1 List.all_takeWhile,
    List.takeWhile_append_dropWhile.symm⟩

theorem skipSpace_cons {c : Char} (h : isSpace c = false) (cs : List Char) :
    skipSpace (c :: cs) = c :: cs :=
  List.dropWhile_cons_of_neg (Bool.eq_false_iff.1 h)

theorem skipSpace_skipSpace (cs : List Char) : skipSpace (skipSpace cs) = skipSpace cs := by
  obtain ⟨a, ha, hcs⟩ := exists_space cs
  calc skipSpace (skipSpace cs) = skipSpace (a ++ skipSpace cs) := (ha.skipSpace_append _).symm
    _ = skipSpace cs := by rw [← hcs]

/-! ## Texts between quotes -/

/-- The escapes of one character. -/
def shortEscapes : List (Char × Char) :=
  [('"', '"'), ('\\', '\\'), ('/', '/'), ('b', '\x08'), ('f', '\x0c'), ('n', '\n'), ('r', '\r'),
    ('t', '\t')]

/-- What stands behind a backslash, and the character that it is. -/
inductive Escape : List Char → Char → Prop where
  | short {c d : Char} (h : (c, d) ∈ shortEscapes) : Escape [c] d
  | unit {ds : List Char} {n : Nat} (h : readUnit? ds = some (n, []))
    (hhigh : ¬(0xD800 ≤ n ∧ n < 0xDC00)) (hlow : ¬(0xDC00 ≤ n ∧ n < 0xE000)) :
    Escape ('u' :: ds) (Char.ofNat n)
  | pair {ds es : List Char} {n m : Nat} (hn : readUnit? ds = some (n, []))
    (hm : readUnit? es = some (m, [])) (hhigh : 0xD800 ≤ n ∧ n < 0xDC00)
    (hlow : 0xDC00 ≤ m ∧ m < 0xE000) :
    Escape ('u' :: (ds ++ '\\' :: 'u' :: es))
      (Char.ofNat (0x10000 + (n - 0xD800) * 0x400 + (m - 0xDC00)))

/-- A text up to its closing quote and with it. -/
inductive StringText : List Char → List Char → Prop where
  | close : StringText ['"'] []
  | escape {e cs s : List Char} {c : Char} (he : Escape e c) (h : StringText cs s) :
    StringText ('\\' :: (e ++ cs)) (c :: s)
  | char {c : Char} {cs s : List Char} (hquote : c ≠ '"') (hescape : c ≠ '\\')
    (hcontrol : ¬c.toNat < 0x20) (h : StringText cs s) : StringText (c :: cs) (c :: s)

/-- A character that stands for itself between quotes. -/
def isPlain (c : Char) : Bool := c != '"' && c != '\\' && !(decide (c.toNat < 0x20))

theorem stringText_plain {s : List Char} (h : s.all isPlain = true) :
    StringText (s ++ ['"']) s := by
  induction s with
  | nil => exact .close
  | cons c s ih =>
    rw [List.all_cons, Bool.and_eq_true] at h
    obtain ⟨hc, hs⟩ := h
    simp only [isPlain, Bool.and_eq_true, bne_iff_ne, Bool.not_eq_true', decide_eq_false_iff_not]
      at hc
    exact .char hc.1.1 hc.1.2 hc.2 (ih hs)

theorem readUnit?_append {ds m : List Char} {n : Nat} (h : readUnit? ds = some (n, m))
    (rest : List Char) : readUnit? (ds ++ rest) = some (n, m ++ rest) := by
  unfold readUnit? at h
  split at h
  · next a b c d m' =>
    split at h
    · next hall =>
      cases h
      simp only [List.cons_append, readUnit?, hall, if_true]
    · cases h
  · cases h

theorem exists_unit {cs rest : List Char} {n : Nat} (h : readUnit? cs = some (n, rest)) :
    ∃ ds, cs = ds ++ rest ∧ readUnit? ds = some (n, []) ∧ ∀ c ∈ ds, Text.isHex c = true := by
  unfold readUnit? at h
  split at h
  · next a b c d m =>
    split at h
    · next hall =>
      cases h
      exact ⟨[a, b, c, d], rfl, by simp only [readUnit?, hall, if_true], List.all_eq_true.1 hall⟩
    · cases h
  · cases h

theorem readEscape?_unit (cs : List Char) : readEscape? ('u' :: cs) = readEscapedUnit? cs := rfl

theorem readEscape?_append {e : List Char} {c : Char} (h : Escape e c) (rest : List Char) :
    readEscape? (e ++ rest) = some (c, rest) := by
  cases h with
  | short h =>
    simp only [shortEscapes, List.mem_cons, Prod.mk.injEq, List.not_mem_nil, or_false] at h
    rcases h with ⟨rfl, rfl⟩ | ⟨rfl, rfl⟩ | ⟨rfl, rfl⟩ | ⟨rfl, rfl⟩ | ⟨rfl, rfl⟩ | ⟨rfl, rfl⟩ |
      ⟨rfl, rfl⟩ | ⟨rfl, rfl⟩ <;> rfl
  | unit h hhigh hlow =>
    rw [List.cons_append, readEscape?_unit, readEscapedUnit?, readUnit?_append h]
    dsimp only [Option.bind_eq_bind, Option.bind_some]
    rw [if_neg hhigh, if_neg hlow, List.nil_append]
  | pair hn hm hhigh hlow =>
    rw [List.cons_append, readEscape?_unit, List.append_assoc, readEscapedUnit?,
      readUnit?_append hn]
    dsimp only [Option.bind_eq_bind, Option.bind_some, List.nil_append, List.cons_append]
    rw [if_pos hhigh]
    change (readUnit? (_ ++ rest)).bind _ = _
    rw [readUnit?_append hm]
    dsimp only [Option.bind_some]
    rw [if_pos hlow, List.nil_append]

theorem exists_escapedUnit {cs rest : List Char} {c : Char}
    (h : readEscapedUnit? cs = some (c, rest)) : ∃ ds, cs = ds ++ rest ∧ Escape ('u' :: ds) c := by
  unfold readEscapedUnit? at h
  cases hn : readUnit? cs with
  | none =>
    rw [hn] at h
    cases h
  | some r =>
    obtain ⟨n, more⟩ := r
    obtain ⟨ds, rfl, hds, -⟩ := exists_unit hn
    rw [hn] at h
    dsimp only [Option.bind_eq_bind, Option.bind_some] at h
    split_ifs at h with hhigh hlow
    · split at h
      · next more =>
        cases hm : readUnit? more with
        | none =>
          rw [hm] at h
          cases h
        | some r =>
          obtain ⟨m, more'⟩ := r
          obtain ⟨es, rfl, hes, -⟩ := exists_unit hm
          rw [hm] at h
          dsimp only [Option.bind_some] at h
          split_ifs at h with hm
          obtain ⟨rfl, rfl⟩ := Prod.mk.inj (Option.some.inj h)
          exact ⟨ds ++ '\\' :: 'u' :: es, by simp, .pair hds hes hhigh hm⟩
      · cases h
    · obtain ⟨rfl, rfl⟩ := Prod.mk.inj (Option.some.inj h)
      exact ⟨ds, rfl, .unit hds hhigh hlow⟩

theorem exists_escape {cs rest : List Char} {c : Char} (h : readEscape? cs = some (c, rest)) :
    ∃ e, cs = e ++ rest ∧ Escape e c := by
  have hshort : ∀ {a b : Char} {m : List Char}, (a, b) ∈ shortEscapes →
      some (b, m) = some (c, rest) → ∃ e, a :: m = e ++ rest ∧ Escape e c := by
    intro a b m hmem heq
    cases heq
    exact ⟨[a], rfl, .short hmem⟩
  unfold readEscape? at h
  split at h
  · exact hshort (by decide) h
  · exact hshort (by decide) h
  · exact hshort (by decide) h
  · exact hshort (by decide) h
  · exact hshort (by decide) h
  · exact hshort (by decide) h
  · exact hshort (by decide) h
  · exact hshort (by decide) h
  · obtain ⟨ds, rfl, hds⟩ := exists_escapedUnit h
    exact ⟨'u' :: ds, rfl, hds⟩
  · cases h

/-- **A text between quotes is read** up to its closing quote. -/
theorem readString?_append {q s : List Char} (h : StringText q s) (rest : List Char) {fuel : Nat}
    (hfuel : q.length ≤ fuel) : readString? fuel (q ++ rest) = some (s, rest) := by
  induction h generalizing fuel with
  | close =>
    cases fuel with
    | zero => cases hfuel
    | succ fuel => rfl
  | @escape e cs s c he h ih =>
    cases fuel with
    | zero => cases hfuel
    | succ fuel =>
      have hlen : cs.length ≤ fuel := by
        simp only [List.length_cons, List.length_append] at hfuel
        omega
      rw [List.cons_append, List.append_assoc, readString?]
      simp [readEscape?_append he, ih hlen]
  | @char c cs s hquote hescape hcontrol h ih =>
    cases fuel with
    | zero => cases hfuel
    | succ fuel =>
      rw [List.cons_append, readString?, if_neg hquote, if_neg hescape, if_neg hcontrol,
        ih (Nat.le_of_succ_le_succ hfuel)]
      rfl

theorem exists_stringText {fuel : Nat} {cs s rest : List Char}
    (h : readString? fuel cs = some (s, rest)) : ∃ q, cs = q ++ rest ∧ StringText q s := by
  induction fuel generalizing cs s with
  | zero => cases h
  | succ fuel ih =>
    cases cs with
    | nil => cases h
    | cons c cs =>
      rw [readString?] at h
      split_ifs at h with hquote hescape hcontrol
      · cases h
        exact ⟨['"'], by rw [hquote]; rfl, .close⟩
      · cases he : readEscape? cs with
        | none =>
          rw [he] at h
          cases h
        | some r =>
          obtain ⟨d, m⟩ := r
          rw [he] at h
          dsimp only [Option.bind_eq_bind, Option.bind_some] at h
          cases hs : readString? fuel m with
          | none =>
            rw [hs] at h
            cases h
          | some r =>
            obtain ⟨ds, m'⟩ := r
            rw [hs] at h
            cases h
            obtain ⟨e, rfl, hchar⟩ := exists_escape he
            obtain ⟨q, rfl, hq⟩ := ih hs
            refine ⟨'\\' :: (e ++ q), ?_, .escape hchar hq⟩
            rw [hescape, List.cons_append, List.append_assoc]
      · cases hs : readString? fuel cs with
        | none =>
          rw [hs] at h
          cases h
        | some r =>
          obtain ⟨ds, m⟩ := r
          rw [hs] at h
          cases h
          obtain ⟨q, rfl, hq⟩ := ih hs
          exact ⟨c :: q, rfl, .char hquote hescape hcontrol hq⟩

end Logbook.Json
