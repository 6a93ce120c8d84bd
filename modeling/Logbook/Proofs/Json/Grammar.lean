import Logbook.Proofs.Json.Strings

/-!
# The grammar of JSON text

Which texts are values, and of which value.

* `Name`: the name of a member between quotes, with space around it;
* `Bare`, **`Spells`**, `Items`, `Members`: values without and with space around them, and what
  stands in arrays and objects behind the opening bracket;
* `readValue?_append`, `sound`: reading a value at the start of a text;
* **`parse?_eq_some_iff`**: the reader accepts just the texts of the grammar.
-/

namespace Logbook.Json

/-- A name between quotes with space around it. -/
inductive Name : List Char → String → Prop where
  | intro {a q s b : List Char} (ha : Space a) (h : StringText q s) (hb : Space b) :
    Name (a ++ '"' :: (q ++ b)) (String.ofList s)

mutual

/-- The texts that are a value, without space around it, in which at most `room` arrays and objects
are nested. -/
inductive Bare : Nat → List Char → Json → Prop where
  | null {room : Nat} : Bare room ['n', 'u', 'l', 'l'] .null
  | boolTrue {room : Nat} : Bare room ['t', 'r', 'u', 'e'] (.bool true)
  | boolFalse {room : Nat} : Bare room ['f', 'a', 'l', 's', 'e'] (.bool false)
  | text {room : Nat} {q s : List Char} (h : StringText q s) :
    Bare room ('"' :: q) (.str (String.ofList s))
  | number {room : Nat} {n : List Char} {v : Json} (h : Numeral n v) : Bare room n v
  | emptyArray {room : Nat} {a : List Char} (ha : Space a) :
    Bare (room + 1) ('[' :: (a ++ [']'])) (.arr [])
  | array {room : Nat} {cs : List Char} {items : List Json} (h : Items room cs items) :
    Bare (room + 1) ('[' :: cs) (.arr items)
  | emptyObject {room : Nat} {a : List Char} (ha : Space a) :
    Bare (room + 1) ('\x7b' :: (a ++ ['\x7d'])) (.obj [])
  | object {room : Nat} {cs : List Char} {members : List (String × Json)}
    (h : Members room cs members) : Bare (room + 1) ('\x7b' :: cs) (.obj (Keyed.ofList members))

/-- **The texts that are a value**, with space around it. -/
inductive Spells : Nat → List Char → Json → Prop where
  | intro {room : Nat} {a t b : List Char} {v : Json} (ha : Space a) (h : Bare room t v)
    (hb : Space b) : Spells room (a ++ (t ++ b)) v

/-- The items of an array up to its closing bracket; there is at least one. -/
inductive Items : Nat → List Char → List Json → Prop where
  | last {room : Nat} {cs : List Char} {v : Json} (h : Spells room cs v) :
    Items room (cs ++ [']']) [v]
  | more {room : Nat} {cs ds : List Char} {v : Json} {vs : List Json} (h : Spells room cs v)
    (hs : Items room ds vs) : Items room (cs ++ ',' :: ds) (v :: vs)

/-- The members of an object up to its closing brace; there is at least one. -/
inductive Members : Nat → List Char → List (String × Json) → Prop where
  | last {room : Nat} {ns cs : List Char} {k : String} {v : Json} (hk : Name ns k)
    (h : Spells room cs v) : Members room (ns ++ ':' :: (cs ++ ['\x7d'])) [(k, v)]
  | more {room : Nat} {ns cs ds : List Char} {k : String} {v : Json} {ms : List (String × Json)}
    (hk : Name ns k) (h : Spells room cs v) (hs : Members room ds ms) :
    Members room (ns ++ ':' :: (cs ++ ',' :: ds)) ((k, v) :: ms)

end

theorem spells_iff {room : Nat} {cs : List Char} {v : Json} :
    Spells room cs v ↔ ∃ a t b, cs = a ++ (t ++ b) ∧ Space a ∧ Bare room t v ∧ Space b := by
  constructor
  · rintro ⟨ha, ht, hb⟩
    exact ⟨_, _, _, rfl, ha, ht, hb⟩
  · rintro ⟨a, t, b, rfl, ha, ht, hb⟩
    exact .intro ha ht hb

/-! ## Beginnings -/

theorem Bare.exists_cons {room : Nat} {t : List Char} {v : Json} (h : Bare room t v) :
    ∃ c cs, t = c :: cs ∧ isSpace c = false ∧ c ≠ ']' := by
  cases h with
  | null | boolTrue | boolFalse | text | emptyArray | array | emptyObject | object =>
    exact ⟨_, _, rfl, rfl, by decide⟩
  | number h =>
    obtain ⟨c, cs, rfl, hc⟩ := h.exists_cons
    refine ⟨c, cs, rfl, ?_, ?_⟩
    · refine Bool.eq_false_iff.2 fun hs => ?_
      simp only [isSpace, Bool.or_eq_true, beq_iff_eq] at hs
      rcases hs with ((rfl | rfl) | rfl) | rfl <;> revert hc <;> decide
    · rintro rfl
      revert hc
      decide

theorem readValue?_skipSpace (fuel room : Nat) (cs : List Char) :
    readValue? fuel room (skipSpace cs) = readValue? fuel room cs := by
  cases fuel with
  | zero => rfl
  | succ fuel => rw [readValue?, readValue?, skipSpace_skipSpace]

theorem readItems?_skipSpace (fuel room : Nat) (cs : List Char) :
    readItems? fuel room (skipSpace cs) = readItems? fuel room cs := by
  cases fuel with
  | zero => rfl
  | succ fuel => rw [readItems?, readItems?, readValue?_skipSpace]

theorem readMembers?_skipSpace (fuel room : Nat) (cs : List Char) :
    readMembers? fuel room (skipSpace cs) = readMembers? fuel room cs := by
  cases fuel with
  | zero => rfl
  | succ fuel => rw [readMembers?, readMembers?, skipSpace_skipSpace]

/-! ## Reading what is in the grammar -/

theorem readValue?_numeral {n rest : List Char} {v : Json} (h : Numeral n v)
    (hrest : EndsNumeral rest) (fuel room : Nat) :
    readValue? (fuel + 1) room (n ++ rest) = some (v, rest) := by
  obtain ⟨c, cs, hn, hc⟩ := h.exists_cons
  have hread := readNumeral?_append h hrest
  have hspace : isSpace c = false := by
    have hbare : Bare room n v := .number h
    obtain ⟨c', cs', hcons, hspace, -⟩ := hbare.exists_cons
    rw [hn] at hcons
    rw [(List.cons.inj hcons).1]
    exact hspace
  rw [hn, List.cons_append] at hread ⊢
  have hhead : ∀ {d : Char} {ds : List Char}, c :: (cs ++ rest) = d :: ds →
      d = '-' ∨ d.isDigit = true := by
    intro d ds heq
    rwa [← (List.cons.inj heq).1]
  rw [readValue?, skipSpace_cons hspace]
  split
  · next heq => exact absurd (hhead heq) (by decide)
  · next heq => exact absurd (hhead heq) (by decide)
  · next heq => exact absurd (hhead heq) (by decide)
  · next heq => exact absurd (hhead heq) (by decide)
  · next heq => exact absurd (hhead heq) (by decide)
  · next heq => exact absurd (hhead heq) (by decide)
  · exact hread

theorem Items.exists_skipSpace {room : Nat} {cs : List Char} {vs : List Json}
    (h : Items room cs vs) (rest : List Char) :
    ∃ c ds, skipSpace (cs ++ rest) = c :: ds ∧ c ≠ ']' := by
  have hspells : ∀ {ds : List Char} {v : Json}, Spells room ds v → ∀ rest,
      ∃ c es, skipSpace (ds ++ rest) = c :: es ∧ c ≠ ']' := by
    rintro _ v ⟨ha, hbare, -⟩ rest
    obtain ⟨c, es, rfl, hc, hne⟩ := hbare.exists_cons
    rw [List.append_assoc, ha.skipSpace_append]
    exact ⟨c, _, skipSpace_cons hc _, hne⟩
  cases h with
  | last h =>
    rw [List.append_assoc]
    exact hspells h _
  | more h hs =>
    rw [List.append_assoc]
    exact hspells h _

theorem Members.exists_skipSpace {room : Nat} {cs : List Char} {ms : List (String × Json)}
    (h : Members room cs ms) (rest : List Char) : ∃ ds, skipSpace (cs ++ rest) = '"' :: ds := by
  have hname : ∀ {ns : List Char} {k : String}, Name ns k → ∀ rest,
      ∃ es, skipSpace (ns ++ rest) = '"' :: es := by
    rintro _ k ⟨ha, -, -⟩ rest
    rw [List.append_assoc, ha.skipSpace_append]
    exact ⟨_, skipSpace_cons rfl _⟩
  cases h with
  | last hk =>
    rw [List.append_assoc]
    exact hname hk _
  | more hk =>
    rw [List.append_assoc]
    exact hname hk _

theorem readValue?_quote (fuel room : Nat) (rest : List Char) :
    readValue? (fuel + 1) room ('"' :: rest) = (do
      let (s, rest) ← readString? (rest.length + 1) rest
      some (.str (String.ofList s), rest)) := by
  rw [readValue?, skipSpace_cons rfl]
  rfl

theorem readMembers?_quote (fuel room : Nat) (rest : List Char) :
    readMembers? (fuel + 1) room ('"' :: rest) = (do
      let (name, rest) ← readString? (rest.length + 1) rest
      match skipSpace rest with
      | ':' :: rest => do
        let (v, rest) ← readValue? fuel room rest
        match skipSpace rest with
        | ',' :: rest => do
          let (vs, rest) ← readMembers? fuel room rest
          some ((String.ofList name, v) :: vs, rest)
        | '\x7d' :: rest => some ([(String.ofList name, v)], rest)
        | _ => none
      | _ => none) := by
  rw [readMembers?, skipSpace_cons rfl]
  rfl

theorem readMembers?_name {ns : List Char} {k : String} (hk : Name ns k) (fuel room : Nat)
    (rest : List Char) :
    readMembers? (fuel + 1) room (ns ++ ':' :: rest) = (do
      let (v, rest) ← readValue? fuel room rest
      match skipSpace rest with
      | ',' :: rest => do
        let (vs, rest) ← readMembers? fuel room rest
        some ((k, v) :: vs, rest)
      | '\x7d' :: rest => some ([(k, v)], rest)
      | _ => none) := by
  obtain @⟨a, q, s, b, ha, hq, hb⟩ := hk
  have hlen : q.length ≤ (q ++ (b ++ ':' :: rest)).length + 1 := by
    rw [List.length_append]
    omega
  have hskip : skipSpace (b ++ ':' :: rest) = ':' :: rest := by
    rw [hb.skipSpace_append]
    rfl
  rw [List.append_assoc, List.cons_append, List.append_assoc, ← readMembers?_skipSpace,
    ha.skipSpace_append, readMembers?_skipSpace, readMembers?_quote, readString?_append hq _ hlen]
  simp [hskip]

mutual

/-- **A value is read** in front of anything that does not go on with it. -/
theorem readValue?_append : ∀ {room : Nat} {t : List Char} {v : Json}, Bare room t v →
    ∀ {rest : List Char}, EndsNumeral rest → ∀ {fuel : Nat}, 2 * t.length ≤ fuel →
      readValue? fuel room (t ++ rest) = some (v, rest)
  | room, _, _, h, rest, hrest, 0, hfuel => by
    obtain ⟨c, cs, rfl, -⟩ := h.exists_cons
    cases hfuel
  | room, _, _, .null, rest, hrest, fuel + 1, hfuel => rfl
  | room, _, _, .boolTrue, rest, hrest, fuel + 1, hfuel => rfl
  | room, _, _, .boolFalse, rest, hrest, fuel + 1, hfuel => rfl
  | room, _, _, .number h, rest, hrest, fuel + 1, hfuel => readValue?_numeral h hrest fuel room
  | room, _, _, @Bare.text _ q _ h, rest, hrest, fuel + 1, hfuel => by
    have hlen : q.length ≤ (q ++ rest).length + 1 := by
      rw [List.length_append]
      omega
    rw [List.cons_append, readValue?_quote, readString?_append h rest hlen]
    rfl
  | room + 1, _, _, @Bare.emptyArray _ a ha, rest, hrest, fuel + 1, hfuel => by
    have hskip : skipSpace (a ++ ']' :: rest) = ']' :: rest := by
      rw [ha.skipSpace_append]
      rfl
    rw [List.cons_append, List.append_assoc, readValue?, skipSpace_cons rfl]
    simp [hskip]
  | room + 1, _, _, @Bare.array _ cs _ h, rest, hrest, fuel + 1, hfuel => by
    obtain ⟨c, ds, hskip, hc⟩ := h.exists_skipSpace rest
    have hlen : 2 * cs.length + 1 ≤ fuel := by
      rw [List.length_cons] at hfuel
      omega
    have hread := @readItems?_append _ _ _ h rest _ hlen
    rw [← readItems?_skipSpace, hskip] at hread
    rw [List.cons_append, readValue?, skipSpace_cons rfl]
    simp [hskip, hc, hread]
  | room + 1, _, _, @Bare.emptyObject _ a ha, rest, hrest, fuel + 1, hfuel => by
    have hskip : skipSpace (a ++ '\x7d' :: rest) = '\x7d' :: rest := by
      rw [ha.skipSpace_append]
      rfl
    rw [List.cons_append, List.append_assoc, readValue?, skipSpace_cons rfl]
    simp [hskip]
  | room + 1, _, _, @Bare.object _ cs _ h, rest, hrest, fuel + 1, hfuel => by
    obtain ⟨ds, hskip⟩ := h.exists_skipSpace rest
    have hlen : 2 * cs.length + 1 ≤ fuel := by
      rw [List.length_cons] at hfuel
      omega
    have hread := @readMembers?_append _ _ _ h rest _ hlen
    rw [← readMembers?_skipSpace, hskip] at hread
    rw [List.cons_append, readValue?, skipSpace_cons rfl]
    simp [hskip, hread]

theorem exists_readValue?_append : ∀ {room : Nat} {cs : List Char} {v : Json}, Spells room cs v →
    ∀ {rest : List Char}, EndsNumeral rest → ∀ {fuel : Nat}, 2 * cs.length ≤ fuel →
      ∃ b, Space b ∧ readValue? fuel room (cs ++ rest) = some (v, b ++ rest)
  | room, _, _, @Spells.intro _ a t b _ ha h hb, rest, hrest, fuel, hfuel => by
    have hlen : 2 * t.length ≤ fuel := by
      simp only [List.length_append] at hfuel
      omega
    refine ⟨b, hb, ?_⟩
    rw [List.append_assoc, List.append_assoc, ← readValue?_skipSpace, ha.skipSpace_append,
      readValue?_skipSpace]
    exact readValue?_append h (hb.endsNumeral hrest) hlen

theorem readItems?_append : ∀ {room : Nat} {cs : List Char} {vs : List Json}, Items room cs vs →
    ∀ {rest : List Char} {fuel : Nat}, 2 * cs.length + 1 ≤ fuel →
      readItems? fuel room (cs ++ rest) = some (vs, rest)
  | room, _, _, _, rest, 0, hfuel => absurd hfuel (by omega)
  | room, _, _, @Items.last _ cs _ h, rest, fuel + 1, hfuel => by
    have hlen : 2 * cs.length ≤ fuel := by
      simp only [List.length_append] at hfuel
      omega
    have hend : EndsNumeral (']' :: rest) := .cons rfl
    obtain ⟨b, hb, hread⟩ := exists_readValue?_append h hend hlen
    have hskip : skipSpace (b ++ ']' :: rest) = ']' :: rest := by
      rw [hb.skipSpace_append]
      rfl
    rw [List.append_assoc, List.singleton_append, readItems?, hread]
    simp [hskip]
  | room, _, _, @Items.more _ cs ds _ _ h hs, rest, fuel + 1, hfuel => by
    have hlen : 2 * cs.length ≤ fuel := by
      simp only [List.length_append] at hfuel
      omega
    have hlen' : 2 * ds.length + 1 ≤ fuel := by
      simp only [List.length_append, List.length_cons] at hfuel
      omega
    have hend : EndsNumeral (',' :: (ds ++ rest)) := .cons rfl
    obtain ⟨b, hb, hread⟩ := exists_readValue?_append h hend hlen
    have hskip : skipSpace (b ++ ',' :: (ds ++ rest)) = ',' :: (ds ++ rest) := by
      rw [hb.skipSpace_append]
      rfl
    rw [List.append_assoc, List.cons_append, readItems?, hread]
    simp [hskip, readItems?_append hs hlen']

theorem readMembers?_append : ∀ {room : Nat} {cs : List Char} {ms : List (String × Json)},
    Members room cs ms → ∀ {rest : List Char} {fuel : Nat}, 2 * cs.length + 1 ≤ fuel →
      readMembers? fuel room (cs ++ rest) = some (ms, rest)
  | room, _, _, _, rest, 0, hfuel => absurd hfuel (by omega)
  | room, _, _, @Members.last _ ns cs _ _ hk h, rest, fuel + 1, hfuel => by
    have hlen : 2 * cs.length ≤ fuel := by
      simp only [List.length_append, List.length_cons] at hfuel
      omega
    have hend : EndsNumeral ('\x7d' :: rest) := .cons rfl
    obtain ⟨b, hb, hread⟩ := exists_readValue?_append h hend hlen
    have hskip : skipSpace (b ++ '\x7d' :: rest) = '\x7d' :: rest := by
      rw [hb.skipSpace_append]
      rfl
    rw [List.append_assoc, List.cons_append, List.append_assoc, List.singleton_append,
      readMembers?_name hk, hread]
    simp [hskip]
  | room, _, _, @Members.more _ ns cs ds _ _ _ hk h hs, rest, fuel + 1, hfuel => by
    have hlen : 2 * cs.length ≤ fuel := by
      simp only [List.length_append, List.length_cons] at hfuel
      omega
    have hlen' : 2 * ds.length + 1 ≤ fuel := by
      simp only [List.length_append, List.length_cons] at hfuel
      omega
    have hend : EndsNumeral (',' :: (ds ++ rest)) := .cons rfl
    obtain ⟨b, hb, hread⟩ := exists_readValue?_append h hend hlen
    have hskip : skipSpace (b ++ ',' :: (ds ++ rest)) = ',' :: (ds ++ rest) := by
      rw [hb.skipSpace_append]
      rfl
    rw [List.append_assoc, List.cons_append, List.append_assoc, List.cons_append,
      readMembers?_name hk, hread]
    simp [hskip, readMembers?_append hs hlen']

end

/-! ## What is read is in the grammar -/

theorem Spells.space {room : Nat} {a cs : List Char} {v : Json} (ha : Space a)
    (h : Spells room cs v) : Spells room (a ++ cs) v := by
  obtain ⟨hb, ht, hc⟩ := h
  rw [← List.append_assoc]
  exact .intro (ha.append hb) ht hc

theorem Bare.spells {room : Nat} {a t : List Char} {v : Json} (ha : Space a) (h : Bare room t v) :
    Spells room (a ++ t) v := by
  rw [← List.append_nil t]
  exact .intro ha h .nil

/-- What the readers find at the start of a text with some fuel is in the grammar. -/
structure Sound (fuel : Nat) : Prop where
  value : ∀ {room : Nat} {cs rest : List Char} {v : Json},
    readValue? fuel room cs = some (v, rest) →
      ∃ a t, cs = a ++ (t ++ rest) ∧ Space a ∧ Bare room t v
  items : ∀ {room : Nat} {cs rest : List Char} {vs : List Json},
    readItems? fuel room cs = some (vs, rest) → ∃ t, cs = t ++ rest ∧ Items room t vs
  members : ∀ {room : Nat} {cs rest : List Char} {ms : List (String × Json)},
    readMembers? fuel room cs = some (ms, rest) → ∃ t, cs = t ++ rest ∧ Members room t ms

namespace Sound

variable {fuel room : Nat} {cs rest : List Char}

theorem value_succ (h : Sound fuel) {v : Json}
    (hread : readValue? (fuel + 1) room cs = some (v, rest)) :
    ∃ a t, cs = a ++ (t ++ rest) ∧ Space a ∧ Bare room t v := by
  obtain ⟨a, ha, hcs⟩ := exists_space cs
  suffices hbare : ∃ t, skipSpace cs = t ++ rest ∧ Bare room t v by
    obtain ⟨t, ht, hbare⟩ := hbare
    exact ⟨a, t, by rw [← ht, ← hcs], ha, hbare⟩
  rw [readValue?] at hread
  split at hread
  · next heq =>
    obtain ⟨rfl, rfl⟩ := Prod.mk.inj (Option.some.inj hread)
    exact ⟨_, heq, .null⟩
  · next heq =>
    obtain ⟨rfl, rfl⟩ := Prod.mk.inj (Option.some.inj hread)
    exact ⟨_, heq, .boolTrue⟩
  · next heq =>
    obtain ⟨rfl, rfl⟩ := Prod.mk.inj (Option.some.inj hread)
    exact ⟨_, heq, .boolFalse⟩
  · next m heq =>
    obtain ⟨⟨s, m'⟩, hs, hsome⟩ := Option.bind_eq_some_iff.1 hread
    obtain ⟨rfl, rfl⟩ := Prod.mk.inj (Option.some.inj hsome)
    obtain ⟨q, rfl, hq⟩ := exists_stringText hs
    exact ⟨'"' :: q, heq, .text hq⟩
  · next m heq =>
    cases room with
    | zero => cases hread
    | succ room =>
      dsimp only at hread
      split at hread
      · next m' hclose =>
        obtain ⟨rfl, rfl⟩ := Prod.mk.inj (Option.some.inj hread)
        obtain ⟨b, hb, hm⟩ := exists_space m
        rw [hclose] at hm
        exact ⟨'[' :: (b ++ [']']), by rw [heq, hm]; simp, .emptyArray hb⟩
      · obtain ⟨⟨items, m'⟩, hitems, hsome⟩ := Option.bind_eq_some_iff.1 hread
        obtain ⟨rfl, rfl⟩ := Prod.mk.inj (Option.some.inj hsome)
        rw [readItems?_skipSpace] at hitems
        obtain ⟨t, rfl, ht⟩ := h.items hitems
        exact ⟨'[' :: t, heq, .array ht⟩
  · next m heq =>
    cases room with
    | zero => cases hread
    | succ room =>
      dsimp only at hread
      split at hread
      · next m' hclose =>
        obtain ⟨rfl, rfl⟩ := Prod.mk.inj (Option.some.inj hread)
        obtain ⟨b, hb, hm⟩ := exists_space m
        rw [hclose] at hm
        exact ⟨'\x7b' :: (b ++ ['\x7d']), by rw [heq, hm]; simp, .emptyObject hb⟩
      · obtain ⟨⟨members, m'⟩, hmembers, hsome⟩ := Option.bind_eq_some_iff.1 hread
        obtain ⟨rfl, rfl⟩ := Prod.mk.inj (Option.some.inj hsome)
        rw [readMembers?_skipSpace] at hmembers
        obtain ⟨t, rfl, ht⟩ := h.members hmembers
        exact ⟨'\x7b' :: t, heq, .object ht⟩
  · obtain ⟨n, hn, hnumeral⟩ := exists_numeral hread
    exact ⟨n, hn, .number hnumeral⟩

theorem spells (h : Sound fuel) {v : Json} (hread : readValue? fuel room cs = some (v, rest)) :
    ∃ t, cs = t ++ skipSpace rest ∧ Spells room t v := by
  obtain ⟨a, t, rfl, ha, ht⟩ := h.value hread
  obtain ⟨b, hb, hrest⟩ := exists_space rest
  refine ⟨a ++ (t ++ b), ?_, .intro ha ht hb⟩
  rw [List.append_assoc, List.append_assoc, ← hrest]

theorem items_succ (h : Sound fuel) {vs : List Json}
    (hread : readItems? (fuel + 1) room cs = some (vs, rest)) :
    ∃ t, cs = t ++ rest ∧ Items room t vs := by
  rw [readItems?] at hread
  obtain ⟨⟨v, m⟩, hv, hmore⟩ := Option.bind_eq_some_iff.1 hread
  obtain ⟨t, rfl, ht⟩ := h.spells hv
  dsimp only at hmore
  split at hmore
  · next m' heq =>
    obtain ⟨⟨ws, m''⟩, hws, hsome⟩ := Option.bind_eq_some_iff.1 hmore
    obtain ⟨rfl, rfl⟩ := Prod.mk.inj (Option.some.inj hsome)
    obtain ⟨ds, rfl, hds⟩ := h.items hws
    exact ⟨t ++ ',' :: ds, by rw [heq]; simp, .more ht hds⟩
  · next m' heq =>
    obtain ⟨rfl, rfl⟩ := Prod.mk.inj (Option.some.inj hmore)
    exact ⟨t ++ [']'], by rw [heq]; simp, .last ht⟩
  · cases hmore

theorem members_succ (h : Sound fuel) {ms : List (String × Json)}
    (hread : readMembers? (fuel + 1) room cs = some (ms, rest)) :
    ∃ t, cs = t ++ rest ∧ Members room t ms := by
  obtain ⟨a, ha, hcs⟩ := exists_space cs
  rw [readMembers?] at hread
  split at hread
  · next m heq =>
    obtain ⟨⟨k, m₁⟩, hk, hcolon⟩ := Option.bind_eq_some_iff.1 hread
    obtain ⟨q, rfl, hq⟩ := exists_stringText hk
    obtain ⟨b, hb, hm₁⟩ := exists_space m₁
    have hname : Name (a ++ '"' :: (q ++ b)) (String.ofList k) := .intro ha hq hb
    dsimp only at hcolon
    split at hcolon
    · next m₂ heq₂ =>
      obtain ⟨⟨v, m₃⟩, hv, hmore⟩ := Option.bind_eq_some_iff.1 hcolon
      obtain ⟨t, rfl, ht⟩ := h.spells hv
      rw [heq₂] at hm₁
      have hcs : cs = (a ++ '"' :: (q ++ b)) ++ ':' :: (t ++ skipSpace m₃) := by
        rw [hcs, heq, hm₁]
        simp
      dsimp only at hmore
      split at hmore
      · next m₄ heq₄ =>
        obtain ⟨⟨ws, m₅⟩, hws, hsome⟩ := Option.bind_eq_some_iff.1 hmore
        obtain ⟨rfl, rfl⟩ := Prod.mk.inj (Option.some.inj hsome)
        obtain ⟨ds, rfl, hds⟩ := h.members hws
        exact ⟨_, by rw [hcs, heq₄]; simp, .more hname ht hds⟩
      · next m₄ heq₄ =>
        obtain ⟨rfl, rfl⟩ := Prod.mk.inj (Option.some.inj hmore)
        exact ⟨_, by rw [hcs, heq₄]; simp, .last hname ht⟩
      · cases hmore
    · cases hcolon
  · cases hread

end Sound

theorem sound (fuel : Nat) : Sound fuel := by
  induction fuel with
  | zero =>
    constructor
    · intro room cs rest v h
      cases h
    · intro room cs rest vs h
      cases h
    · intro room cs rest ms h
      cases h
  | succ fuel ih => exact ⟨ih.value_succ, ih.items_succ, ih.members_succ⟩

/-- **A whole text is read as a value just if the grammar says so.** -/
theorem parse?_eq_some_iff {cs : List Char} {v : Json} :
    parse? cs = some v ↔ Spells maxNesting cs v := by
  constructor
  · intro h
    obtain ⟨⟨w, rest⟩, hread, hend⟩ := Option.bind_eq_some_iff.1 h
    obtain ⟨t, ht, hspells⟩ := (sound _).spells hread
    dsimp only at hend
    split at hend
    · next hempty =>
      obtain rfl := Option.some.inj hend
      rw [ht, List.isEmpty_iff.1 hempty, List.append_nil]
      exact hspells
    · cases hend
  · intro h
    have hlen : 2 * cs.length ≤ 2 * cs.length + 2 := Nat.le_add_right _ 2
    obtain ⟨b, hb, hread⟩ := exists_readValue?_append h .nil hlen
    rw [List.append_nil, List.append_nil] at hread
    unfold parse?
    rw [hread]
    simp [hb.skipSpace]

end Logbook.Json
