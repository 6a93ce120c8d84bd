import Logbook.Proofs.Json.Grammar
import Logbook.Proofs.Text.Blanks
import Logbook.Proofs.Text.Numerals

/-!
# The layout of JSON text

Where space may come and go, and where an array or an object begins and ends.

* `Thinned`: a text with some carriage returns left out;
* **`Spells.thinned`**: it is the same value, for no token has a carriage return in it;
* `brackets?`, `Bare.enclosed`: arrays and objects stand between their brackets;
* **`Bare.brackets?_eq`**: a value is an array or an object just if its text begins with a bracket;
* `exists_bare_of_parse?`: the value in a text with blanks in front;
* `Spells.append_space`, `Items.space`, `Members.space`: where space may come.
-/

namespace Logbook.Json

/-! ## Texts without carriage returns -/

/-- A text with some carriage returns left out. -/
inductive Thinned : List Char → List Char → Prop where
  | nil : Thinned [] []
  | keep {c : Char} {a b : List Char} (h : Thinned a b) : Thinned (c :: a) (c :: b)
  | drop {a b : List Char} (h : Thinned a b) : Thinned ('\r' :: a) b

namespace Thinned

variable {a b a' b' c : List Char}

theorem refl (a : List Char) : Thinned a a := by
  induction a with
  | nil => exact .nil
  | cons _ _ ih => exact .keep ih

theorem append (ha : Thinned a a') (hb : Thinned b b') : Thinned (a ++ b) (a' ++ b') := by
  induction ha with
  | nil => exact hb
  | keep _ ih => exact .keep ih
  | drop _ ih => exact .drop ih

theorem exists_append (h : Thinned (a ++ b) c) :
    ∃ a' b', c = a' ++ b' ∧ Thinned a a' ∧ Thinned b b' := by
  induction a generalizing c with
  | nil => exact ⟨[], c, rfl, .nil, h⟩
  | cons d a ih =>
    cases h with
    | keep h =>
      obtain ⟨a', b', rfl, ha, hb⟩ := ih h
      exact ⟨d :: a', b', rfl, .keep ha, hb⟩
    | drop h =>
      obtain ⟨a', b', rfl, ha, hb⟩ := ih h
      exact ⟨a', b', rfl, .drop ha, hb⟩

theorem exists_cons {d : Char} (h : Thinned (d :: a) b) (hd : d ≠ '\r') :
    ∃ b', b = d :: b' ∧ Thinned a b' := by
  cases h with
  | keep h => exact ⟨_, rfl, h⟩
  | drop => exact absurd rfl hd

theorem eq_of_not_mem (h : Thinned a b) (ha : '\r' ∉ a) : b = a := by
  induction h with
  | nil => rfl
  | keep _ ih => rw [ih (List.not_mem_of_not_mem_cons ha)]
  | drop => exact absurd List.mem_cons_self ha

theorem exists_token (h : Thinned (a ++ b) c) (ha : '\r' ∉ a) :
    ∃ b', c = a ++ b' ∧ Thinned b b' := by
  obtain ⟨a', b', rfl, ha', hb⟩ := h.exists_append
  exact ⟨b', by rw [ha'.eq_of_not_mem ha], hb⟩

theorem space (h : Thinned a b) (ha : Space a) : Space b := by
  induction h with
  | nil => exact ha
  | keep _ ih =>
    obtain ⟨hc, ha⟩ := List.forall_mem_cons.1 ha
    exact List.forall_mem_cons.2 ⟨hc, ih ha⟩
  | drop _ ih => exact ih (List.forall_mem_cons.1 ha).2

end Thinned

/-! ## Tokens -/

theorem Numeral.not_mem_return {n : List Char} {v : Json} (h : Numeral n v) : '\r' ∉ n := by
  intro hmem
  have hc := h.isNumeralChar _ hmem
  revert hc
  decide

theorem not_mem_return_of_readUnit? {ds : List Char} {n : Nat}
    (h : readUnit? ds = some (n, [])) : '\r' ∉ ds := by
  obtain ⟨ds', hds, -, hhex⟩ := exists_unit h
  rw [List.append_nil] at hds
  subst hds
  intro hmem
  have hc := hhex _ hmem
  revert hc
  decide

theorem Escape.not_mem_return {e : List Char} {c : Char} (h : Escape e c) : '\r' ∉ e := by
  cases h with
  | @short a _ h =>
    intro hmem
    obtain rfl := List.mem_singleton.1 hmem
    simp [shortEscapes] at h
  | unit h =>
    exact List.not_mem_cons_of_ne_of_not_mem (by decide) (not_mem_return_of_readUnit? h)
  | pair hn hm =>
    have hn := not_mem_return_of_readUnit? hn
    have hm := not_mem_return_of_readUnit? hm
    simp [hn, hm]

theorem StringText.not_mem_return {q s : List Char} (h : StringText q s) : '\r' ∉ q := by
  induction h with
  | close => decide
  | escape he _ ih =>
    have he := he.not_mem_return
    simp [he, ih]
  | char _ _ hcontrol _ ih =>
    refine List.not_mem_cons_of_ne_of_not_mem ?_ ih
    rintro rfl
    exact hcontrol (by decide)

/-! ## Values -/

theorem Name.thinned {ns ns' : List Char} {k : String} (h : Name ns k) (hns : Thinned ns ns') :
    Name ns' k := by
  obtain ⟨ha, hq, hb⟩ := h
  obtain ⟨a', m, rfl, ha', hm⟩ := hns.exists_append
  obtain ⟨m', rfl, hm'⟩ := hm.exists_cons (by decide)
  obtain ⟨b', rfl, hb'⟩ := hm'.exists_token hq.not_mem_return
  exact .intro (ha'.space ha) hq (hb'.space hb)

mutual

theorem Bare.thinned : ∀ {room : Nat} {t : List Char} {v : Json}, Bare room t v →
    ∀ {t' : List Char}, Thinned t t' → Bare room t' v
  | _, _, _, .null, _, ht => by
    rw [ht.eq_of_not_mem (by decide)]
    exact .null
  | _, _, _, .boolTrue, _, ht => by
    rw [ht.eq_of_not_mem (by decide)]
    exact .boolTrue
  | _, _, _, .boolFalse, _, ht => by
    rw [ht.eq_of_not_mem (by decide)]
    exact .boolFalse
  | _, _, _, .number h, _, ht => by
    rw [ht.eq_of_not_mem h.not_mem_return]
    exact .number h
  | _, _, _, .text h, _, ht => by
    rw [ht.eq_of_not_mem (List.not_mem_cons_of_ne_of_not_mem (by decide) h.not_mem_return)]
    exact .text h
  | _, _, _, .emptyArray ha, _, ht => by
    obtain ⟨m, rfl, hm⟩ := ht.exists_cons (by decide)
    obtain ⟨a', b', rfl, ha', hb⟩ := hm.exists_append
    rw [hb.eq_of_not_mem (by decide)]
    exact .emptyArray (ha'.space ha)
  | _, _, _, .array h, _, ht => by
    obtain ⟨m, rfl, hm⟩ := ht.exists_cons (by decide)
    exact .array (Items.thinned h hm)
  | _, _, _, .emptyObject ha, _, ht => by
    obtain ⟨m, rfl, hm⟩ := ht.exists_cons (by decide)
    obtain ⟨a', b', rfl, ha', hb⟩ := hm.exists_append
    rw [hb.eq_of_not_mem (by decide)]
    exact .emptyObject (ha'.space ha)
  | _, _, _, .object h, _, ht => by
    obtain ⟨m, rfl, hm⟩ := ht.exists_cons (by decide)
    exact .object (Members.thinned h hm)

/-- **A text is the same value** with some of its carriage returns left out. -/
theorem Spells.thinned : ∀ {room : Nat} {cs : List Char} {v : Json}, Spells room cs v →
    ∀ {cs' : List Char}, Thinned cs cs' → Spells room cs' v
  | _, _, _, .intro ha h hb, _, hcs => by
    obtain ⟨a', m, rfl, ha', hm⟩ := hcs.exists_append
    obtain ⟨t', b', rfl, ht', hb'⟩ := hm.exists_append
    exact .intro (ha'.space ha) (Bare.thinned h ht') (hb'.space hb)

theorem Items.thinned : ∀ {room : Nat} {cs : List Char} {vs : List Json}, Items room cs vs →
    ∀ {cs' : List Char}, Thinned cs cs' → Items room cs' vs
  | _, _, _, .last h, _, hcs => by
    obtain ⟨t', b', rfl, ht', hb'⟩ := hcs.exists_append
    rw [hb'.eq_of_not_mem (by decide)]
    exact .last (Spells.thinned h ht')
  | _, _, _, .more h hs, _, hcs => by
    obtain ⟨t', b', rfl, ht', hb'⟩ := hcs.exists_append
    obtain ⟨m, rfl, hm⟩ := hb'.exists_cons (by decide)
    exact .more (Spells.thinned h ht') (Items.thinned hs hm)

theorem Members.thinned : ∀ {room : Nat} {cs : List Char} {ms : List (String × Json)},
    Members room cs ms → ∀ {cs' : List Char}, Thinned cs cs' → Members room cs' ms
  | _, _, _, .last hk h, _, hcs => by
    obtain ⟨ns', m, rfl, hns, hm⟩ := hcs.exists_append
    obtain ⟨m', rfl, hm'⟩ := hm.exists_cons (by decide)
    obtain ⟨t', b', rfl, ht', hb'⟩ := hm'.exists_append
    rw [hb'.eq_of_not_mem (by decide)]
    exact .last (hk.thinned hns) (Spells.thinned h ht')
  | _, _, _, .more hk h hs, _, hcs => by
    obtain ⟨ns', m, rfl, hns, hm⟩ := hcs.exists_append
    obtain ⟨m', rfl, hm'⟩ := hm.exists_cons (by decide)
    obtain ⟨t', b', rfl, ht', hb'⟩ := hm'.exists_append
    obtain ⟨ds', rfl, hds⟩ := hb'.exists_cons (by decide)
    exact .more (hk.thinned hns) (Spells.thinned h ht') (Members.thinned hs hds)

end

/-! ## Brackets -/

/-- The brackets of an array or of an object. -/
def brackets? : Json → Option (Char × Char)
  | .arr _ => some ('[', ']')
  | .obj _ => some ('\x7b', '\x7d')
  | _ => none

theorem Numeral.brackets?_eq_none {n : List Char} {v : Json} (h : Numeral n v) :
    brackets? v = none := by
  have hwhole : ∀ {negative : Bool} {s : Significand}, ofWhole? negative s = some v →
      brackets? v = none := by
    intro negative s h
    unfold ofWhole? at h
    split_ifs at h
    · obtain ⟨x, -, rfl⟩ := Option.map_eq_some_iff.1 h
      rfl
    · obtain rfl := Option.some.inj h
      rfl
    · obtain ⟨x, -, rfl⟩ := Option.map_eq_some_iff.1 h
      rfl
    · obtain rfl := Option.some.inj h
      rfl
  obtain ⟨-, -, ht⟩ := h
  cases ht with
  | whole h => exact hwhole h
  | fraction | exponent | fractionExponent => rfl

theorem Items.exists_close {room : Nat} {cs : List Char} {vs : List Json} (h : Items room cs vs) :
    ∃ m, cs = m ++ [']'] := by
  match h with
  | .last _ => exact ⟨_, rfl⟩
  | .more _ hs =>
    obtain ⟨m, rfl⟩ := hs.exists_close
    exact ⟨_, (List.append_assoc _ (',' :: m) _).symm⟩

theorem Members.exists_close {room : Nat} {cs : List Char} {ms : List (String × Json)}
    (h : Members room cs ms) : ∃ m, cs = m ++ ['\x7d'] := by
  match h with
  | @Members.last _ ns ds _ _ _ _ => exact ⟨ns ++ ':' :: ds, by simp⟩
  | @Members.more _ ns ds _ _ _ _ _ _ hs =>
    obtain ⟨m, rfl⟩ := hs.exists_close
    exact ⟨ns ++ ':' :: (ds ++ ',' :: m), by simp⟩

/-- An array or an object stands between its brackets. -/
theorem Bare.enclosed {room : Nat} {t : List Char} {v : Json} {o c : Char} (h : Bare room t v)
    (hv : brackets? v = some (o, c)) : ∃ m, t = o :: (m ++ [c]) := by
  cases h with
  | null | boolTrue | boolFalse | text => cases hv
  | number h =>
    rw [h.brackets?_eq_none] at hv
    cases hv
  | emptyArray =>
    cases hv
    exact ⟨_, rfl⟩
  | array h =>
    cases hv
    obtain ⟨m, rfl⟩ := h.exists_close
    exact ⟨m, rfl⟩
  | emptyObject =>
    cases hv
    exact ⟨_, rfl⟩
  | object h =>
    cases hv
    obtain ⟨m, rfl⟩ := h.exists_close
    exact ⟨m, rfl⟩

/-- The brackets of which a character opens one pair. -/
def bracketsFrom? : Char → Option (Char × Char)
  | '[' => some ('[', ']')
  | '\x7b' => some ('\x7b', '\x7d')
  | _ => none

theorem bracketsFrom?_of_numeral {c : Char} (h : c = '-' ∨ c.isDigit = true) :
    bracketsFrom? c = none := by
  unfold bracketsFrom?
  split
  · revert h
    decide
  · revert h
    decide
  · rfl

/-- **A value is an array or an object just if its text begins with a bracket.** -/
theorem Bare.brackets?_eq {room : Nat} {c : Char} {m : List Char} {v : Json}
    (h : Bare room (c :: m) v) : brackets? v = bracketsFrom? c := by
  generalize ht : c :: m = t at h
  cases h with
  | null | boolTrue | boolFalse | text | emptyArray | array | emptyObject | object =>
    obtain ⟨rfl, -⟩ := List.cons.inj ht
    rfl
  | number h =>
    obtain ⟨d, ds, rfl, hd⟩ := h.exists_cons
    obtain ⟨rfl, -⟩ := List.cons.inj ht
    rw [h.brackets?_eq_none, bracketsFrom?_of_numeral hd]

/-! ## Blanks in front -/

theorem isBlank_of_isSpace {c : Char} (h : isSpace c = true) : Text.isBlank c = true := by
  simp only [isSpace, Bool.or_eq_true, beq_iff_eq] at h
  rcases h with ((rfl | rfl) | rfl) | rfl <;> decide

/-- No text of a value begins with a blank, be it space or not. -/
theorem Bare.not_isBlank {room : Nat} {c : Char} {m : List Char} {v : Json}
    (h : Bare room (c :: m) v) : Text.isBlank c = false := by
  generalize ht : c :: m = t at h
  cases h with
  | null | boolTrue | boolFalse | text | emptyArray | array | emptyObject | object =>
    obtain ⟨rfl, -⟩ := List.cons.inj ht
    rfl
  | number h =>
    obtain ⟨d, ds, rfl, hd⟩ := h.exists_cons
    obtain ⟨rfl, -⟩ := List.cons.inj ht
    refine Bool.eq_false_iff.2 fun hblank => ?_
    rcases hd with rfl | hd
    · cases hblank
    · rw [Text.not_isDigit_of_isBlank hblank] at hd
      cases hd

/-- Behind blanks, the value of a text begins with its first other character. -/
theorem exists_bare_of_parse? {b m : List Char} {c : Char} {v : Json}
    (hb : ∀ d ∈ b, Text.isBlank d = true) (hc : Text.isBlank c = false)
    (h : parse? (b ++ c :: m) = some v) :
    ∃ t s, m = t ++ s ∧ Bare maxNesting (c :: t) v ∧ Space s := by
  obtain ⟨a, t, s, heq, ha, ht, hs⟩ := spells_iff.1 (parse?_eq_some_iff.1 h)
  obtain ⟨d, t, rfl, -⟩ := ht.exists_cons
  have hdrop : (b ++ c :: m).dropWhile Text.isBlank = c :: m :=
    (Text.takeWhile_dropWhile_append hb (by simpa using hc)).2
  have hdrop' : (a ++ (d :: t ++ s)).dropWhile Text.isBlank = d :: t ++ s :=
    (Text.takeWhile_dropWhile_append (fun e he => isBlank_of_isSpace (ha e he))
      (by simpa using ht.not_isBlank)).2
  rw [heq, hdrop'] at hdrop
  obtain ⟨rfl, hm⟩ := List.cons.inj hdrop
  exact ⟨t, s, hm.symm, ht, hs⟩

/-! ## Where space may come -/

theorem Spells.append_space {room : Nat} {cs b : List Char} {v : Json} (h : Spells room cs v)
    (hb : Space b) : Spells room (cs ++ b) v := by
  obtain ⟨ha, ht, hc⟩ := h
  rw [List.append_assoc, List.append_assoc]
  exact .intro ha ht (hc.append hb)

theorem Items.space {room : Nat} {a cs : List Char} {vs : List Json} (ha : Space a)
    (h : Items room cs vs) : Items room (a ++ cs) vs := by
  cases h with
  | last h =>
    rw [← List.append_assoc]
    exact .last (h.space ha)
  | more h hs =>
    rw [← List.append_assoc]
    exact .more (h.space ha) hs

theorem Name.space {a ns : List Char} {k : String} (ha : Space a) (h : Name ns k) :
    Name (a ++ ns) k := by
  obtain ⟨hb, hq, hc⟩ := h
  rw [← List.append_assoc]
  exact .intro (ha.append hb) hq hc

theorem Members.space {room : Nat} {a cs : List Char} {ms : List (String × Json)} (ha : Space a)
    (h : Members room cs ms) : Members room (a ++ cs) ms := by
  cases h with
  | last hk h =>
    rw [← List.append_assoc]
    exact .last (hk.space ha) h
  | more hk h hs =>
    rw [← List.append_assoc]
    exact .more (hk.space ha) h hs

end Logbook.Json
