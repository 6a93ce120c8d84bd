import Logbook.Proofs.Console.Steps

/-!
# The tokens of a value

* `Tree.tokens`: the tokens that a value is printed with;
* **`Tree.doubleQuotes_write`**: with double quotes, the notation of a value is its tokens in their
  first look;
* `closes_memberTokens`: which commas have no value behind them;
* **`Tree.apart_tokens`**: tokens of a calm value keep apart.
-/

namespace Logbook.Console

open Relaxed

/-! ## Tokens -/

/-- The tokens of a member, from those of its value; `more` says whether another member follows. -/
def named (k : String) (more : Bool) : Tree → List Tok → List Tok
  | .undefined, _ => [.missing k.toList more]
  | .str s, _ => [.member k.toList s.toList]
  | _, ts => .key k.toList :: ts

/-- What stands between a member with this value and the members behind it. -/
def between (v : Tree) (ms : List (String × Tree)) : List Tok :=
  if v.isUndefined then [.mark ' '] else [.comma (ms.all fun m => m.2.isUndefined), .mark ' ']

namespace Tree

mutual

/-- **The tokens of a value.** -/
def tokens : Tree → List Tok
  | undefined => []
  | null => [.word nullWord]
  | bool b => [.word (boolWord b)]
  | int n => [.word (Text.signed n)]
  | str s => [.item s.toList]
  | arr items => .mark '[' :: (itemTokens items ++ [.mark ']'])
  | obj members => .mark '\x7b' :: (memberTokens members ++ [.mark '\x7d'])

/-- The tokens of items. -/
def itemTokens : List Tree → List Tok
  | [] => []
  | [v] => v.tokens
  | v :: w :: vs => v.tokens ++ .comma false :: .mark ' ' :: itemTokens (w :: vs)

/-- The tokens of members. -/
def memberTokens : List (String × Tree) → List Tok
  | [] => []
  | [(k, v)] => named k false v v.tokens
  | (k, v) :: m :: ms => named k true v v.tokens ++ (between v (m :: ms) ++ memberTokens (m :: ms))

end

end Tree

/-! ## Members with and without a value -/

variable {v : Tree} {k : String} {more : Bool} {ts : List Tok}

theorem eq_undefined (h : v.isUndefined = true) : v = .undefined := by
  cases v with
  | undefined => rfl
  | null | bool | int | str | arr | obj => cases h

theorem Tree.Fits.isUndefined {room : Nat} (h : v.Fits room) : v.isUndefined = false := by
  cases v with
  | undefined =>
    unfold Tree.Fits at h
    exact h.elim
  | null | bool | int | str | arr | obj => rfl

theorem Tree.Fits.exists_items {room : Nat} {items : List Tree} (h : (Tree.arr items).Fits room) :
    ∃ n, room = n + 1 ∧ Tree.FitsItems n items := by
  cases room with
  | zero =>
    unfold Tree.Fits at h
    exact h.elim
  | succ n =>
    unfold Tree.Fits at h
    exact ⟨n, rfl, h⟩

theorem Tree.Fits.exists_members {room : Nat} {members : List (String × Tree)}
    (h : (Tree.obj members).Fits room) : ∃ n, room = n + 1 ∧ Tree.FitsMembers n members := by
  cases room with
  | zero =>
    unfold Tree.Fits at h
    exact h.elim
  | succ n =>
    unfold Tree.Fits at h
    exact ⟨n, rfl, h⟩

theorem named_cases (h : v.isUndefined = false) (k : String) (more : Bool) (ts : List Tok) :
    (∃ s, v = .str s ∧ named k more v ts = [.member k.toList s.toList]) ∨
      ((∀ s, v ≠ .str s) ∧ named k more v ts = .key k.toList :: ts) := by
  cases v with
  | undefined => cases h
  | str s => exact .inl ⟨s, rfl, rfl⟩
  | null | bool | int | arr | obj => exact .inr ⟨fun s => Tree.noConfusion, rfl⟩

theorem text_printed_named (h : v.isUndefined = false) (k : String) (more : Bool) :
    text printed (named k more v v.tokens) = k.toList ++ ':' :: ' ' :: text printed v.tokens := by
  rcases named_cases h k more v.tokens with ⟨s, rfl, hnamed⟩ | ⟨-, hnamed⟩
  · rw [hnamed, Tree.tokens, text_cons, text_cons, text_nil, text_member_append, printed_key_append,
      text_item_append]
    rfl
  · rw [hnamed, text_cons, Tok.text, printed_key_append]

/-! ## Double quotes -/

theorem doubleQuotes_append (as bs : List Char) :
    doubleQuotes (as ++ bs) = doubleQuotes as ++ doubleQuotes bs :=
  List.map_append

theorem doubleQuotes_cons_of_ne {c : Char} (h : c ≠ '\'') (cs : List Char) :
    doubleQuotes (c :: cs) = c :: doubleQuotes cs := by
  rw [doubleQuotes, List.map_cons, if_neg h]
  rfl

theorem doubleQuotes_of_not_mem {cs : List Char} (h : '\'' ∉ cs) : doubleQuotes cs = cs := by
  refine (List.map_congr_left fun c hc => if_neg ?_).trans (List.map_id' cs)
  rintro rfl
  exact h hc

theorem PlainText.not_mem {s : List Char} (h : PlainText s) : '"' ∉ s ∧ '\'' ∉ s :=
  ⟨fun hc => (h _ hc).1 rfl, fun hc => (h _ hc).2.1 rfl⟩

theorem isWord_of_name {w : List Char} (hne : w ≠ []) (hu : w.head? ≠ some 'u')
    (hw : ∀ c ∈ w, isNameChar c = true) : IsWord w := by
  obtain ⟨c, ds, rfl⟩ := List.exists_cons_of_ne_nil hne
  exact ⟨⟨[], c :: ds, rfl, .inl rfl, hw⟩, c, ds, rfl, fun hc => hu (congrArg some hc)⟩

theorem isWord_boolWord (b : Bool) : IsWord (boolWord b) := by
  cases b <;> exact isWord_of_name (by decide) (by decide) (List.all_eq_true.1 rfl)

theorem isWord_nullWord : IsWord nullWord :=
  isWord_of_name (by decide) (by decide) (List.all_eq_true.1 rfl)

theorem isWord_signed (n : Int) : IsWord (Text.signed n) := by
  have hwrites := Text.writes_decimal n.natAbs
  have hname : ∀ c ∈ Text.decimal n.natAbs, isNameChar c = true := by
    intro c hc
    simp [isNameChar, Char.isAlphanum, hwrites.isDigit c hc]
  unfold Text.signed
  split
  · exact ⟨⟨['-'], _, rfl, .inr rfl, hname⟩, '-', _, rfl, by decide⟩
  · have hu : (Text.decimal n.natAbs).head? ≠ some 'u' := fun hc =>
      hwrites.not_mem rfl (List.mem_of_mem_head? hc)
    exact isWord_of_name hwrites.ne_nil hu hname

theorem doubleQuotes_word {w : List Char} (h : IsWord w) :
    doubleQuotes w = text printed [.word w] :=
  (doubleQuotes_of_not_mem (h.not_mem rfl (by decide))).trans (List.append_nil w).symm

theorem doubleQuotes_name {k : List Char} (h : BareName k) (cs : List Char) :
    doubleQuotes (k ++ ':' :: ' ' :: cs) = k ++ ':' :: ' ' :: doubleQuotes cs := by
  rw [doubleQuotes_append, doubleQuotes_of_not_mem (h.not_mem rfl),
    doubleQuotes_cons_of_ne (by decide), doubleQuotes_cons_of_ne (by decide)]

theorem doubleQuotes_separator (cs : List Char) :
    doubleQuotes (',' :: ' ' :: cs) = ',' :: ' ' :: doubleQuotes cs := by
  rw [doubleQuotes_cons_of_ne (by decide), doubleQuotes_cons_of_ne (by decide)]

theorem text_printed_separator (trailing : Bool) (ts : List Tok) :
    text printed (.comma trailing :: .mark ' ' :: ts) = ',' :: ' ' :: text printed ts := by
  rw [text_cons, text_comma rfl]
  rfl

mutual

/-- **With double quotes the notation of a value is its tokens as printed.** -/
theorem Tree.doubleQuotes_write : ∀ {v : Tree} {room : Nat}, v.Fits room →
    doubleQuotes v.write = text printed v.tokens
  | .undefined, _, h => by
    unfold Tree.Fits at h
    exact h.elim
  | .null, _, _ => doubleQuotes_word isWord_nullWord
  | .bool b, _, _ => doubleQuotes_word (isWord_boolWord b)
  | .int n, _, _ => doubleQuotes_word (isWord_signed n)
  | .str s, _, h => by
    unfold Tree.Fits at h
    have hs : doubleQuotes s.toList = s.toList := doubleQuotes_of_not_mem h.not_mem.2
    have hopen : ∀ cs, doubleQuotes ('\'' :: cs) = '"' :: doubleQuotes cs := fun _ => rfl
    rw [Tree.write, Tree.tokens, hopen, doubleQuotes_append, hs, text_cons, text_nil,
      text_item_append]
    rfl
  | .arr items, _, h => by
    obtain ⟨n, rfl, h⟩ := h.exists_items
    rw [Tree.write, Tree.tokens, doubleQuotes_cons_of_ne (by decide), doubleQuotes_append,
      doubleQuotes_writeItems h, text_cons, text_append]
    rfl
  | .obj members, _, h => by
    obtain ⟨n, rfl, h⟩ := h.exists_members
    rw [Tree.write, Tree.tokens, doubleQuotes_cons_of_ne (by decide), doubleQuotes_append,
      doubleQuotes_writeMembers h, text_cons, text_append]
    rfl

theorem doubleQuotes_writeItems : ∀ {vs : List Tree} {room : Nat}, Tree.FitsItems room vs →
    doubleQuotes (Tree.writeItems vs) = text printed (Tree.itemTokens vs)
  | [], _, _ => rfl
  | [v], _, h => by
    unfold Tree.FitsItems at h
    exact Tree.doubleQuotes_write h.1
  | v :: w :: vs, _, h => by
    unfold Tree.FitsItems at h
    rw [Tree.writeItems, Tree.itemTokens, doubleQuotes_append, Tree.doubleQuotes_write h.1,
      doubleQuotes_separator, doubleQuotes_writeItems h.2, text_append, text_printed_separator]

theorem doubleQuotes_writeMembers : ∀ {ms : List (String × Tree)} {room : Nat},
    Tree.FitsMembers room ms →
      doubleQuotes (Tree.writeMembers ms) = text printed (Tree.memberTokens ms)
  | [], _, _ => rfl
  | [(k, v)], room, h => by
    unfold Tree.FitsMembers at h
    obtain ⟨hk, hv, -⟩ := h
    rw [Tree.writeMembers, Tree.memberTokens, doubleQuotes_name hk]
    rcases hv with hv | hv
    · rw [eq_undefined hv, named, text_cons, text_missing_append rfl, printed_key_append]
      rfl
    · rw [text_printed_named hv.isUndefined, Tree.doubleQuotes_write hv]
  | (k, v) :: m :: ms, room, h => by
    unfold Tree.FitsMembers at h
    obtain ⟨hk, hv, hms⟩ := h
    rw [Tree.writeMembers, Tree.memberTokens, doubleQuotes_name hk, doubleQuotes_append,
      doubleQuotes_separator, doubleQuotes_writeMembers hms, text_append, text_append, between]
    rcases hv with hv | hv
    · rw [hv, eq_undefined hv, named, text_cons, text_missing_append rfl, printed_key_append]
      have hword : doubleQuotes undefinedWord = undefinedWord :=
        doubleQuotes_of_not_mem (by decide)
      simp [Tree.write, hword, Tok.text]
    · rw [hv.isUndefined, text_printed_named hv.isUndefined, Tree.doubleQuotes_write hv]
      simp [Tok.text, printed]

end

/-! ## Tokens keep apart -/

theorem Tree.exists_begins {room : Nat} (h : v.Fits room) (hstr : ∀ s, v ≠ .str s) :
    ∃ t us, v.tokens = t :: us ∧ t.Begins := by
  cases v with
  | undefined => cases h.isUndefined
  | str s => exact absurd rfl (hstr s)
  | null | bool | int => exact ⟨_, _, rfl, trivial⟩
  | arr items =>
    rw [Tree.tokens]
    exact ⟨_, _, rfl, Or.inl rfl⟩
  | obj members =>
    rw [Tree.tokens]
    exact ⟨_, _, rfl, Or.inr rfl⟩

/-- A value in front closes nothing. -/
theorem closes_tokens {room : Nat} (h : v.Fits room) (ts : List Tok) :
    closes (v.tokens ++ ts) = false := by
  cases v with
  | undefined => cases h.isUndefined
  | null | bool | int | str => rfl
  | arr | obj =>
    rw [Tree.tokens]
    rfl

theorem closes_itemTokens {room : Nat} {vs : List Tree} (h : Tree.FitsItems room (v :: vs))
    (ts : List Tok) : closes (Tree.itemTokens (v :: vs) ++ ts) = false := by
  unfold Tree.FitsItems at h
  cases vs with
  | nil => exact closes_tokens h.1 ts
  | cons w vs =>
    rw [Tree.itemTokens, List.append_assoc]
    exact closes_tokens h.1 _

/-- A comma has no value behind it if all members behind it are missing. -/
theorem closes_memberTokens (ms : List (String × Tree)) (ts : List Tok) :
    closes (Tree.memberTokens ms ++ .mark '\x7d' :: ts) = ms.all fun m => m.2.isUndefined := by
  have hnamed : ∀ {v : Tree} (k : String) (more : Bool) (ts us : List Tok), v.isUndefined = false →
      closes (named k more v ts ++ us) = false := by
    intro v k more ts us h
    rcases named_cases h k more ts with ⟨s, -, hnamed⟩ | ⟨-, hnamed⟩
    · rw [hnamed]
      rfl
    · rw [hnamed]
      rfl
  induction ms with
  | nil => rfl
  | cons m ms ih =>
    obtain ⟨k, v⟩ := m
    cases hv : v.isUndefined with
    | false =>
      cases ms with
      | nil =>
        rw [Tree.memberTokens, hnamed k _ _ _ hv]
        simp [hv]
      | cons m ms =>
        rw [Tree.memberTokens, List.append_assoc, hnamed k _ _ _ hv]
        simp [hv]
    | true =>
      rw [eq_undefined hv]
      cases ms with
      | nil => rfl
      | cons m ms =>
        rw [Tree.memberTokens]
        exact ih

theorem forall_head_cons {t : Tok} {ts : List Tok} (h : t.Ends) :
    ∀ u ∈ (t :: ts).head?, u.Ends := by
  rintro _ ⟨⟩
  exact h

theorem Tree.Calm.of_member (hstr : ∀ s, v ≠ .str s) (h : v.Calm true) : v.Calm false := by
  cases v with
  | str s => exact absurd rfl (hstr s)
  | undefined | null | bool | int => trivial
  | arr | obj =>
    unfold Tree.Calm at h ⊢
    exact h

/-- A member with a value keeps apart from what follows, if a value that is no text does. -/
theorem apart_named {room : Nat} (hk : BareName k.toList) (hv : v.Fits room)
    (hends : ∀ t ∈ ts.head?, t.Ends) (hts : Apart ts)
    (hvalue : (∀ s, v ≠ .str s) → Apart (v.tokens ++ ts)) :
    Apart (named k more v v.tokens ++ ts) := by
  rcases named_cases hv.isUndefined k more v.tokens with ⟨s, rfl, hnamed⟩ | ⟨hstr, hnamed⟩
  · unfold Tree.Fits at hv
    rw [hnamed]
    exact ⟨⟨hk, hv.not_mem.1⟩, hends, hts⟩
  · obtain ⟨t, us, htokens, hbegins⟩ := Tree.exists_begins hv hstr
    rw [hnamed]
    exact ⟨hk, ⟨t, us ++ ts, congrArg (· ++ ts) htokens, hbegins⟩, hvalue hstr⟩

theorem Apart.mark {c : Char} (hts : Apart ts) (hc : c ∈ ['[', ']', '\x7b', '\x7d', ' ']) :
    Apart (.mark c :: ts) :=
  ⟨hc, trivial, hts⟩

mutual

/-- **The tokens of a calm value keep apart**, in front of what may stand behind a value. -/
theorem Tree.apart_tokens : ∀ {v : Tree} {room : Nat} {ts : List Tok}, v.Fits room →
    v.Calm false → (∀ t ∈ ts.head?, t.Ends) → Apart ts → Apart (v.tokens ++ ts)
  | .undefined, _, _, h, _, _, _ => by cases h.isUndefined
  | .null, _, _, _, _, hends, hts => ⟨isWord_nullWord, hends, hts⟩
  | .bool b, _, _, _, _, hends, hts => ⟨isWord_boolWord b, hends, hts⟩
  | .int n, _, _, _, _, hends, hts => ⟨isWord_signed n, hends, hts⟩
  | .str s, _, _, h, hcalm, hends, hts => by
    unfold Tree.Fits at h
    unfold Tree.Calm at hcalm
    exact ⟨⟨h.not_mem.1, hcalm.resolve_left Bool.false_ne_true⟩, hends, hts⟩
  | .arr items, _, ts, h, hcalm, _, hts => by
    obtain ⟨n, rfl, h⟩ := h.exists_items
    unfold Tree.Calm at hcalm
    rw [Tree.tokens, List.cons_append, List.append_assoc]
    exact (apart_itemTokens h hcalm hts).mark (by decide)
  | .obj members, _, ts, h, hcalm, _, hts => by
    obtain ⟨n, rfl, h⟩ := h.exists_members
    unfold Tree.Calm at hcalm
    rw [Tree.tokens, List.cons_append, List.append_assoc]
    exact (apart_memberTokens h hcalm hts).mark (by decide)

theorem apart_itemTokens : ∀ {vs : List Tree} {room : Nat} {ts : List Tok},
    Tree.FitsItems room vs → Tree.CalmItems vs → Apart ts →
      Apart (Tree.itemTokens vs ++ .mark ']' :: ts)
  | [], _, _, _, _, hts => hts.mark (by decide)
  | [v], _, _, h, hcalm, hts => by
    unfold Tree.FitsItems at h
    unfold Tree.CalmItems at hcalm
    exact Tree.apart_tokens h.1 hcalm.1 (forall_head_cons (Or.inl rfl))
      (hts.mark (by decide))
  | v :: w :: vs, room, ts, h, hcalm, hts => by
    unfold Tree.FitsItems at h
    unfold Tree.CalmItems at hcalm
    have hnext : Apart (.mark ' ' :: (Tree.itemTokens (w :: vs) ++ .mark ']' :: ts)) :=
      (apart_itemTokens h.2 hcalm.2 hts).mark (by decide)
    rw [Tree.itemTokens, List.append_assoc]
    exact Tree.apart_tokens h.1 hcalm.1 (forall_head_cons trivial)
      ⟨trivial, closes_itemTokens h.2 _, hnext⟩

theorem apart_memberTokens : ∀ {ms : List (String × Tree)} {room : Nat} {ts : List Tok},
    Tree.FitsMembers room ms → Tree.CalmMembers ms → Apart ts →
      Apart (Tree.memberTokens ms ++ .mark '\x7d' :: ts)
  | [], _, _, _, _, hts => hts.mark (by decide)
  | [(k, v)], _, ts, h, hcalm, hts => by
    unfold Tree.FitsMembers at h
    unfold Tree.CalmMembers at hcalm
    have hclose : Apart (.mark '\x7d' :: ts) := hts.mark (by decide)
    have hends : ∀ t ∈ (Tok.mark '\x7d' :: ts).head?, t.Ends := forall_head_cons (Or.inr rfl)
    obtain ⟨hk, hv, -⟩ := h
    rcases hv with hv | hv
    · rw [eq_undefined hv]
      refine ⟨hk, ?_, hclose⟩
      rintro _ ⟨⟩
      exact ⟨_, rfl, Or.inr rfl⟩
    · exact apart_named hk hv hends hclose fun hstr =>
        Tree.apart_tokens hv (hcalm.1.of_member hstr) hends hclose
  | (k, v) :: m :: ms, _, ts, h, hcalm, hts => by
    unfold Tree.FitsMembers at h
    unfold Tree.CalmMembers at hcalm
    obtain ⟨hk, hv, hms⟩ := h
    have hnext : Apart (.mark ' ' :: (Tree.memberTokens (m :: ms) ++ .mark '\x7d' :: ts)) :=
      (apart_memberTokens hms hcalm.2 hts).mark (by decide)
    rw [Tree.memberTokens, List.append_assoc, List.append_assoc, between]
    rcases hv with hv | hv
    · rw [if_pos hv, eq_undefined hv]
      exact ⟨hk, trivial, hnext⟩
    · rw [if_neg (Bool.eq_false_iff.1 hv.isUndefined)]
      have hcomma : Apart (.comma ((m :: ms).all fun m => m.2.isUndefined) ::
          .mark ' ' :: (Tree.memberTokens (m :: ms) ++ .mark '\x7d' :: ts)) :=
        ⟨trivial, closes_memberTokens _ _, hnext⟩
      exact apart_named hk hv (forall_head_cons trivial) hcomma fun hstr =>
        Tree.apart_tokens hv (hcalm.1.of_member hstr) (forall_head_cons trivial) hcomma

end

end Logbook.Console
