import Logbook.Proofs.Expr.Names
import Logbook.Proofs.Expr.Source
import Logbook.Proofs.Expr.Spelling

/-!
# Writing expressions

* `Surface.Writes`: a tree writes an expression, with distinct names for the parameters;
* `Surface.need_le`: twice as many levels as an expression has nodes are enough for a tree without
  needless parentheses;
* `Expr.WrittenAs`: the texts of an expression, with blanks between the tokens and no needless
  parentheses;
* **`program_of_written`**: such a text compiles to the expression or is too deep.
-/

namespace Logbook.Expr

namespace Surface

/-! ## What a tree writes -/

mutual

/-- A tree writes an expression among the parameters `names`. No parameter of an arrow function
hides another one or a known name. -/
def Writes (names : List String) : Surface → Expr → Prop
  | number x, e => e = .literal (.num x)
  | text s, e => e = .literal (.str s)
  | name n, e => Denotes names n e
  | array items _, e => ∃ es, e = .array es ∧ WritesAll names items es
  | group t, e => t.Writes names e
  | dot object n optional, e =>
    ∃ o, e = .member o (.literal (.str n)) optional ∧ object.Writes names o
  | item object key optional, e =>
    ∃ o k, e = .member o k optional ∧ object.Writes names o ∧ key.Writes names k
  | call callee args optional, e =>
    ∃ c as, e = .call c as optional ∧ callee.Writes names c ∧ WritesAll names args as
  | arrow params _ body, e =>
    ∃ b, e = .lambda params.length b ∧ Distinct (names ++ params) ∧ body.Writes (names ++ params) b
  | unary op operand, e => ∃ a, e = .unary op a ∧ operand.Writes names a
  | joined op left right, e =>
    ∃ a b, e = op.build a b ∧ left.Writes names a ∧ right.Writes names b
  | conditional test yes no, e =>
    ∃ a b c, e = .conditional a b c ∧ test.Writes names a ∧ yes.Writes names b ∧ no.Writes names c

/-- Trees write expressions, one each. -/
def WritesAll (names : List String) : List Surface → List Expr → Prop
  | [], es => es = []
  | t :: ts, es => ∃ a as, es = a :: as ∧ t.Writes names a ∧ WritesAll names ts as

end

mutual

theorem known_resolve_of_writes : ∀ {t : Surface} {names : List String} {e : Expr},
    Distinct names → t.Writes names e → t.Known names ∧ t.resolve names = e
  | number _, _, _, _, h | text _, _, _, _, h => ⟨trivial, h.symm⟩
  | name n, names, e, hnames, h => by
    have hresolve := resolve_of_denotes hnames h
    have hmeaning : meaning names n = e := by rw [meaning, hresolve]
    exact ⟨by rw [Known, HasMeaning, hmeaning, hresolve], hmeaning⟩
  | array .., _, _, hnames, ⟨_, he, h⟩ => by
    obtain ⟨hknown, hall⟩ := known_resolve_of_writesAll hnames h
    exact ⟨hknown, by rw [resolve, hall, he]⟩
  | group t, _, _, hnames, h => known_resolve_of_writes (t := t) hnames h
  | dot .., _, _, hnames, ⟨_, he, h⟩ => by
    obtain ⟨hknown, hobject⟩ := known_resolve_of_writes hnames h
    exact ⟨hknown, by rw [resolve, hobject, he]⟩
  | item .., _, _, hnames, ⟨_, _, he, h, hkey⟩ => by
    obtain ⟨hknown, hobject⟩ := known_resolve_of_writes hnames h
    obtain ⟨hknown', hkey⟩ := known_resolve_of_writes hnames hkey
    exact ⟨⟨hknown, hknown'⟩, by rw [resolve, hobject, hkey, he]⟩
  | call .., _, _, hnames, ⟨_, _, he, h, hargs⟩ => by
    obtain ⟨hknown, hcallee⟩ := known_resolve_of_writes hnames h
    obtain ⟨hknown', hargs⟩ := known_resolve_of_writesAll hnames hargs
    exact ⟨⟨hknown, hknown'⟩, by rw [resolve, hcallee, hargs, he]⟩
  | arrow .., _, _, _, ⟨_, he, hparams, h⟩ => by
    obtain ⟨hknown, hbody⟩ := known_resolve_of_writes hparams h
    exact ⟨hknown, by rw [resolve, hbody, he]⟩
  | unary .., _, _, hnames, ⟨_, he, h⟩ => by
    obtain ⟨hknown, hoperand⟩ := known_resolve_of_writes hnames h
    exact ⟨hknown, by rw [resolve, hoperand, he]⟩
  | joined .., _, _, hnames, ⟨_, _, he, h, hright⟩ => by
    obtain ⟨hknown, hleft⟩ := known_resolve_of_writes hnames h
    obtain ⟨hknown', hright⟩ := known_resolve_of_writes hnames hright
    exact ⟨⟨hknown, hknown'⟩, by rw [resolve, hleft, hright, he]⟩
  | conditional .., _, _, hnames, ⟨_, _, _, he, h, hyes, hno⟩ => by
    obtain ⟨hknown, htest⟩ := known_resolve_of_writes hnames h
    obtain ⟨hknown', hyes⟩ := known_resolve_of_writes hnames hyes
    obtain ⟨hknown'', hno⟩ := known_resolve_of_writes hnames hno
    exact ⟨⟨hknown, hknown', hknown''⟩, by rw [resolve, htest, hyes, hno, he]⟩

theorem known_resolve_of_writesAll : ∀ {ts : List Surface} {names : List String} {es : List Expr},
    Distinct names → WritesAll names ts es → AllKnown names ts ∧ resolveAll names ts = es
  | [], _, _, _, h => ⟨trivial, h.symm⟩
  | _ :: _, _, _, hnames, ⟨_, _, he, h, hmore⟩ => by
    obtain ⟨hknown, hfirst⟩ := known_resolve_of_writes hnames h
    obtain ⟨hknown', hmore⟩ := known_resolve_of_writesAll hnames hmore
    exact ⟨⟨hknown, hknown'⟩, by rw [resolveAll, hfirst, hmore, he]⟩

end

mutual

theorem Fits.loose : ∀ {t : Surface} {p : Nat}, t.Fits true p → t.Fits false p
  | number _, _, _ | text _, _, _ => trivial
  | name _, _, h => h
  | array .., _, h => FitAll.loose h
  | group _, _, h => ⟨nofun, h.2.loose⟩
  | dot object _ _, _, h => Fits.loose (t := object) h
  | item .., _, h => ⟨h.1.loose, h.2.loose⟩
  | call .., _, h => ⟨h.1.loose, FitAll.loose h.2⟩
  | arrow .., _, h => ⟨h.1, h.2.loose⟩
  | unary .., _, h => ⟨h.1, h.2.loose⟩
  | joined .., _, h => ⟨h.1, h.2.1.loose, h.2.2.loose⟩
  | conditional .., _, h => ⟨h.1, h.2.1.loose, h.2.2.1.loose, h.2.2.2.loose⟩

theorem FitAll.loose : ∀ {ts : List Surface} {p : Nat}, FitAll true p ts → FitAll false p ts
  | [], _, _ => trivial
  | _ :: _, _, h => ⟨h.1.loose, FitAll.loose h.2⟩

end

end Surface

/-! ## Levels and nodes -/

mutual

/-- The number of nodes of an expression. -/
def size : Expr → Nat
  | literal _ | field _ | param _ | library _ | conversion _ => 1
  | array items => sizeAll items + 1
  | member object property _ => object.size + property.size + 1
  | call callee args _ => callee.size + sizeAll args + 1
  | lambda _ body => body.size + 1
  | unary _ operand => operand.size + 1
  | binary _ left right => left.size + right.size + 1
  | logical _ left right => left.size + right.size + 1
  | conditional test yes no => test.size + yes.size + no.size + 1

/-- The number of nodes of some expressions. -/
def sizeAll : List Expr → Nat
  | [] => 0
  | e :: es => e.size + sizeAll es

end

theorem size_pos (e : Expr) : 0 < e.size := by
  cases e <;> simp [size]

@[simp] theorem size_build (op : Joint) (a b : Expr) :
    (op.build a b).size = a.size + b.size + 1 := by
  cases op <;> simp [Joint.build, size]

namespace Surface

mutual

/-- Each node needs at most two levels: one of its own, and one for parentheses around it or for an
item or argument. -/
theorem need_le (names : List String) : ∀ {t : Surface} {p : Nat}, t.Fits true p →
    t.need ≤ 2 * (t.resolve names).size ∧ (p ≤ 1 → t.need < 2 * (t.resolve names).size)
  | number _, _, _ | text _, _, _ => by simp [need, resolve, size]
  | name n, _, _ => by
    have hpos := size_pos (meaning names n)
    simp only [need, resolve]
    omega
  | array items _, _, h => by
    have hitems := needAll_le names (by omega : 1 ≤ 1) h
    simp only [need, resolve, size]
    omega
  | group e, p, h => by
    have he := (need_le names h.2).2 (Nat.le_refl 1)
    have hrank := h.1 rfl
    have hone : 1 ≤ e.rank := le_rank_of_fits h.2.loose (by omega)
    simp only [need, resolve]
    omega
  | dot object n _, _, h => by
    have hfits : object.Fits true 9 := h
    have hobject := (need_le names hfits).1
    have hlinks := object.links_le_need 9
    simp only [need, resolve, size]
    omega
  | item object key _, _, h => by
    have hobject := (need_le names h.1).1
    have hkey := (need_le names h.2).2 (Nat.le_refl 1)
    have hlinks := object.links_le_need 9
    simp only [need, resolve, size]
    omega
  | call callee args _, _, h => by
    have hcallee := (need_le names h.1).1
    have hargs := needAll_le names (by omega : 0 ≤ 1) h.2
    have hlinks := callee.links_le_need 9
    simp only [need, resolve, size]
    omega
  | arrow params _ body, _, h => by
    have hbody := (need_le (names ++ params) h.2).1
    simp only [need, resolve, size]
    omega
  | unary _ operand, _, h => by
    have hoperand := (need_le names h.2).1
    simp only [need, resolve, size]
    omega
  | joined op left right, _, h => by
    have hleft := (need_le names h.2.1).1
    have hright := (need_le names h.2.2).1
    have hlinks := left.links_le_need op.rank
    simp only [need, resolve, size_build]
    omega
  | conditional test yes no, _, h => by
    have htest := (need_le names h.2.1).1
    have hyes := (need_le names h.2.2.1).1
    have hno := (need_le names h.2.2.2).1
    simp only [need, resolve, size]
    omega

theorem needAll_le (names : List String) : ∀ {ts : List Surface} {p : Nat}, p ≤ 1 →
    FitAll true p ts → needAll ts ≤ 2 * sizeAll (resolveAll names ts)
  | [], _, _, _ => Nat.zero_le _
  | _ :: _, _, hp, h => by
    have hfirst := (need_le names h.1).2 hp
    have hmore := needAll_le names hp h.2
    simp only [needAll, resolveAll, sizeAll]
    omega

end

end Surface

/-! ## Texts -/

/-- A text of an expression: its tokens with blanks between them, without needless parentheses. -/
def WrittenAs (e : Expr) (source : String) : Prop :=
  ∃ t : Surface, t.Fits true 1 ∧ t.Writes [] e ∧ Spaced t.tokens source.toList

theorem not_isAllBlank_of_spaced {ts : List Token} {cs : List Char} (h : Spaced ts cs)
    (hts : ts ≠ []) : Text.isAllBlank cs = false := by
  induction h with
  | nil => exact absurd rfl hts
  | blank hc _ ih => simpa [Text.isAllBlank, hc] using ih hts
  | token hspells hends _ _ =>
    obtain ⟨c, cs, rfl, hc, -⟩ := readToken_append hspells hends 1
    simp [Text.isAllBlank, hc]

theorem isTreeOf_of_spaced {t : Surface} {source : String} (hfits : t.Fits false 1)
    (hknown : t.Known []) (h : Spaced t.tokens source.toList) : IsTreeOf source (some t) := by
  obtain ⟨x, ts, hts, -⟩ := Surface.exists_tokens_eq_cons (Nat.le_refl 1) hfits
  have hne : t.tokens ≠ [] := by
    rw [hts]
    exact List.cons_ne_nil x ts
  obtain ⟨ps, hps, hmap⟩ := tokenize_spaced h
  exact ⟨not_isAllBlank_of_spaced h hne, hfits, hknown, ps, hps, hmap⟩

/-- **A text of an expression compiles** to that expression or is too deep. -/
theorem program_of_written {e : Expr} {source : String} (h : e.WrittenAs source) :
    ((compile source).program = .ok (some e) ∨ (compile source).program = .error .tooDeep) ∧
      (e.size ≤ 20 → (compile source).program = .ok (some e)) := by
  obtain ⟨t, hfits, hwrites, hspaced⟩ := h
  have hnil : Distinct [] := ⟨List.nodup_nil, by simp⟩
  obtain ⟨hknown, hresolve⟩ := Surface.known_resolve_of_writes hnil hwrites
  have hneed := (Surface.need_le [] hfits).2 (Nat.le_refl 1)
  rw [program_of_isTreeOf (isTreeOf_of_spaced hfits.loose hknown hspaced)]
  rw [hresolve] at hneed ⊢
  by_cases hdeep : t.need < maxDepth
  · rw [if_pos hdeep]
    exact ⟨.inl rfl, fun _ => rfl⟩
  · rw [if_neg hdeep]
    refine ⟨.inr rfl, fun hsize => absurd ?_ hdeep⟩
    rw [maxDepth]
    omega

end Logbook.Expr
