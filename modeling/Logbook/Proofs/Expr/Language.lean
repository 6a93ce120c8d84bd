import Logbook.Proofs.Expr.Scope
import Logbook.Proofs.Expr.Writing

/-!
# The expressions that can be written

* `Expr.InLanguage`: the expressions of the language;
* `paramName`, `Expr.write`: a name for each slot, and a tree for each expression;
* `HaveSpellings`: tokens that can be spelled;
* `exists_writtenAs`: each expression of the language has a text;
* **`compile_writtenAs`**: and each of its texts compiles to it or is too deep.
-/

namespace Logbook.Expr

/-- A leaf that can be written: numbers are decimal numbers, and there are no dates, arrays or
objects. `String` names a conversion and no library. -/
def Writable : Expr → Prop
  | literal (.num x) => ∃ cs, IsDecimal cs ∧ Literal.toFloat? cs = some x
  | literal (.date _) | literal (.arr _) | literal (.obj _) => False
  | library l => l ≠ .string
  | _ => True

/-- An expression of the language. -/
def InLanguage (e : Expr) : Prop := e.Scoped Writable 0 false

/-! ## Names for parameters -/

/-- The name for a slot. -/
def paramName (slot : Nat) : String := String.ofList (List.replicate (slot + 1) '_')

/-- The names for the first slots. -/
def paramNames (scope : Nat) : List String := (List.range scope).map paramName

theorem toList_paramName (slot : Nat) :
    (paramName slot).toList = '_' :: List.replicate slot '_' := by
  simp [paramName, List.replicate_succ]

theorem paramName_injective {i j : Nat} (h : paramName i = paramName j) : i = j := by
  have hlength := congrArg (fun s => s.toList.length) h
  simpa [toList_paramName] using hlength

theorem isName_paramName (slot : Nat) : IsName (paramName slot) := by
  refine ⟨'_', List.replicate slot '_', toList_paramName slot, by decide, fun d hd => ?_⟩
  rw [List.eq_of_mem_replicate hd]
  decide

theorem paramName_not_mem_knownNames (slot : Nat) : paramName slot ∉ knownNames := by
  have hknown : ∀ m ∈ knownNames, m.toList.head? ≠ some '_' := by decide
  intro hmem
  exact hknown _ hmem (by rw [toList_paramName]; rfl)

theorem distinct_paramNames (scope : Nat) : Distinct (paramNames scope) := by
  refine ⟨?_, fun n hn => ?_⟩
  · exact List.Pairwise.map _ (fun i j hne heq => hne (paramName_injective heq)) List.nodup_range
  · obtain ⟨i, -, rfl⟩ := List.mem_map.1 hn
    exact paramName_not_mem_knownNames i

theorem paramNames_append (scope arity : Nat) :
    paramNames scope ++ (List.range' scope arity).map paramName = paramNames (scope + arity) := by
  rw [paramNames, paramNames, ← List.map_append, List.range_eq_range', List.range_eq_range',
    ← List.range'_append_1, Nat.zero_add]

theorem getElem?_paramNames {slot scope : Nat} (h : slot < scope) :
    (paramNames scope)[slot]? = some (paramName slot) := by
  rw [paramNames, List.getElem?_map, List.getElem?_range h]
  rfl

/-! ## Trees for expressions -/

/-- A tree in parentheses where it does not fit without them. -/
def Surface.place (p : Nat) (t : Surface) : Surface := if t.rank < p then .group t else t

/-- A tree for a literal. -/
def writeValue : Value → Surface
  | .num x => .number x
  | .str s => .text s
  | .bool b => .name (if b then "true" else "false")
  | .null => .name "null"
  | _ => .name "undefined"

mutual

/-- A tree for an expression at a place of rank `p`. -/
def write (scope p : Nat) : Expr → Surface
  | literal v => writeValue v
  | field f => .name f.name
  | library l => .name l.name
  | conversion c => .name c.name
  | param slot => .name (paramName slot)
  | array items => .array (writeAll scope 1 items) false
  | member object property optional =>
    .item (object.write scope 9) (property.write scope 1) optional
  | call callee args optional => .call (callee.write scope 9) (writeAll scope 0 args) optional
  | lambda arity body =>
    .arrow ((List.range' scope arity).map paramName) false (body.write (scope + arity) 1)
  | unary op operand => .place p (.unary op (operand.write scope 8))
  | binary op left right => .place p (.joined (.binary op) (left.write scope op.level.rank)
    (right.write scope (op.level.rank + 1)))
  | logical op left right => .place p (.joined (.logical op) (left.write scope op.rank)
    (right.write scope (op.rank + 1)))
  | conditional test yes no =>
    .place p (.conditional (test.write scope 2) (yes.write scope 1) (no.write scope 1))

/-- Trees for some expressions at places of rank `p`. -/
def writeAll (scope p : Nat) : List Expr → List Surface
  | [] => []
  | e :: es => e.write scope p :: writeAll scope p es

end

/-! ## The trees fit -/

theorem Surface.fits_place {t : Surface} (p : Nat) (hone : 1 ≤ t.rank)
    (h : ∀ q, q ≤ t.rank → t.Fits true q) : (Surface.place p t).Fits true p := by
  unfold Surface.place
  split
  · next hrank => exact ⟨fun _ => hrank, h 1 hone⟩
  · exact h p (by omega)

theorem Surface.fits_name {n : String} {p : Nat} (h : n ≠ "typeof") :
    (Surface.name n).Fits true p := h

theorem fits_writeValue {v : Value} {p : Nat} (h : Writable (.literal v)) :
    (writeValue v).Fits true p := by
  cases v with
  | num | str => exact trivial
  | bool b => exact Surface.fits_name (by cases b <;> decide)
  | null | undefined => exact Surface.fits_name (by decide)
  | date | arr | obj => exact absurd h id

theorem Joint.one_le_rank (op : Joint) : 1 ≤ op.rank := by
  have htwo := op.rung.two_le_rank
  rw [op.rank_rung] at htwo
  omega

mutual

theorem fits_write (scope : Nat) : ∀ {e : Expr} {argument : Bool} {p : Nat},
    e.Scoped Writable scope argument → (argument = true → p = 0) →
      (e.write scope p).Fits true p
  | literal _, _, _, h, _ => fits_writeValue h
  | field f, _, _, _, _ => Surface.fits_name (by cases f <;> decide)
  | library l, _, _, _, _ => Surface.fits_name (by cases l <;> decide)
  | conversion c, _, _, _, _ => Surface.fits_name (by cases c <;> decide)
  | param slot, _, _, _, _ => fun heq =>
    paramName_not_mem_knownNames slot (heq ▸ List.mem_cons_self)
  | array items, _, _, h, _ => fitAll_writeAll scope h nofun
  | member .., _, _, h, _ => ⟨fits_write scope h.1 nofun, fits_write scope h.2 nofun⟩
  | call .., _, _, h, _ => ⟨fits_write scope h.1 nofun, fitAll_writeAll scope h.2 fun _ => rfl⟩
  | lambda arity _, _, _, h, hp => ⟨hp h.1, fits_write (scope + arity) h.2 nofun⟩
  | unary _ operand, _, p, h, _ =>
    Surface.fits_place p (Nat.le_add_left 1 7) fun _ hq =>
      ⟨hq, fits_write (e := operand) scope h nofun⟩
  | binary op .., _, p, h, _ =>
    Surface.fits_place p (Joint.one_le_rank (.binary op)) fun _ hq =>
      ⟨hq, fits_write scope h.1 nofun, fits_write scope h.2 nofun⟩
  | logical op .., _, p, h, _ =>
    Surface.fits_place p (Joint.one_le_rank (.logical op)) fun _ hq =>
      ⟨hq, fits_write scope h.1 nofun, fits_write scope h.2 nofun⟩
  | conditional .., _, p, h, _ =>
    Surface.fits_place p (Nat.le_refl 1) fun _ hq => ⟨hq, fits_write scope h.1 nofun,
      fits_write scope h.2.1 nofun, fits_write scope h.2.2 nofun⟩

theorem fitAll_writeAll (scope : Nat) : ∀ {es : List Expr} {argument : Bool} {p : Nat},
    ScopedAll Writable scope argument es → (argument = true → p = 0) →
      Surface.FitAll true p (writeAll scope p es)
  | [], _, _, _, _ => trivial
  | _ :: _, _, _, h, hp => ⟨fits_write scope h.1 hp, fitAll_writeAll scope h.2 hp⟩

end

/-! ## The trees write the expressions -/

theorem Surface.writes_place {t : Surface} {names : List String} {e : Expr} (p : Nat)
    (h : t.Writes names e) : (Surface.place p t).Writes names e := by
  unfold Surface.place
  split <;> exact h

theorem writes_writeValue {v : Value} {names : List String} (h : Writable (.literal v)) :
    (writeValue v).Writes names (.literal v) := by
  cases v with
  | num | str => exact rfl
  | bool b =>
    cases b
    · exact .false
    · exact .true
  | null => exact .null
  | undefined => exact .undefined
  | date | arr | obj => exact absurd h id

mutual

theorem writes_write (scope : Nat) : ∀ {e : Expr} {argument : Bool} (p : Nat),
    e.Scoped Writable scope argument → (e.write scope p).Writes (paramNames scope) e
  | literal _, _, _, h => writes_writeValue h
  | field f, _, _, _ => .field f
  | library l, _, _, h => .library l h
  | conversion c, _, _, _ => .conversion c
  | param _, _, _, h => .param (getElem?_paramNames h)
  | array _, _, _, h => ⟨_, rfl, writesAll_writeAll scope 1 h⟩
  | member .., _, _, h => ⟨_, _, rfl, writes_write scope 9 h.1, writes_write scope 1 h.2⟩
  | call .., _, _, h => ⟨_, _, rfl, writes_write scope 9 h.1, writesAll_writeAll scope 0 h.2⟩
  | lambda arity body, _, _, h => by
    have hbody := writes_write (scope + arity) 1 h.2
    have hnames := distinct_paramNames (scope + arity)
    rw [← paramNames_append] at hbody hnames
    exact ⟨body, by simp, hnames, hbody⟩
  | unary _ operand, _, p, h =>
    Surface.writes_place p ⟨operand, rfl, writes_write scope 8 h⟩
  | binary .., _, p, h =>
    Surface.writes_place p ⟨_, _, rfl, writes_write scope _ h.1, writes_write scope _ h.2⟩
  | logical .., _, p, h =>
    Surface.writes_place p ⟨_, _, rfl, writes_write scope _ h.1, writes_write scope _ h.2⟩
  | conditional .., _, p, h =>
    Surface.writes_place p ⟨_, _, _, rfl, writes_write scope 2 h.1, writes_write scope 1 h.2.1,
      writes_write scope 1 h.2.2⟩

theorem writesAll_writeAll (scope : Nat) : ∀ {es : List Expr} {argument : Bool} (p : Nat),
    ScopedAll Writable scope argument es →
      Surface.WritesAll (paramNames scope) (writeAll scope p es) es
  | [], _, _, _ => rfl
  | _ :: _, _, p, h => ⟨_, _, rfl, writes_write scope p h.1, writesAll_writeAll scope p h.2⟩

end

/-! ## The trees can be spelled -/

theorem exists_quoted (cs : List Char) : ∃ quoted, Quoted '"' quoted cs := by
  induction cs with
  | nil => exact ⟨[], .nil⟩
  | cons c cs ih =>
    obtain ⟨quoted, h⟩ := ih
    by_cases hquote : c = '"'
    · subst hquote
      exact ⟨_, .letter (c := '"') (by decide) (by decide) h⟩
    · by_cases hslash : c = '\\'
      · subst hslash
        exact ⟨_, .letter (c := '\\') (by decide) (by decide) h⟩
      · exact ⟨_, .plain hquote hslash h⟩

theorem isName_of_mem_knownNames {n : String} (h : n ∈ knownNames) : IsName n := by
  have hknown : ∀ m ∈ knownNames, m.toList.head?.any isNameStart = true ∧
      m.toList.tail.all isNamePart = true := by decide
  obtain ⟨hhead, htail⟩ := hknown n h
  obtain ⟨c, hc, hstart⟩ := (Option.any_eq_true _ _).1 hhead
  obtain ⟨cs, hcs⟩ := List.head?_eq_some_iff.1 hc
  rw [hcs] at htail
  exact ⟨c, cs, hcs, hstart, by simpa using htail⟩

/-- Each of some tokens has a spelling. -/
def HaveSpellings (ts : List Token) : Prop := ∀ t ∈ ts, ∃ lexeme, Spells t lexeme

@[simp] theorem haveSpellings_nil : HaveSpellings [] := by simp [HaveSpellings]

@[simp] theorem haveSpellings_cons {t : Token} {ts : List Token} :
    HaveSpellings (t :: ts) ↔ (∃ lexeme, Spells t lexeme) ∧ HaveSpellings ts := by
  simp [HaveSpellings]

@[simp] theorem haveSpellings_append {ts us : List Token} :
    HaveSpellings (ts ++ us) ↔ HaveSpellings ts ∧ HaveSpellings us := by
  simp [HaveSpellings, or_imp, forall_and]

@[simp] theorem exists_spells_mark (m : Mark) : ∃ lexeme, Spells (.mark m) lexeme := ⟨_, .mark m⟩

theorem exists_spells_text (s : String) : ∃ lexeme, Spells (.text s) lexeme := by
  obtain ⟨quoted, h⟩ := exists_quoted s.toList
  have hspells := Spells.text (.inr rfl) h
  rw [String.ofList_toList] at hspells
  exact ⟨_, hspells⟩

theorem exists_spells_token (op : UnaryOp) : ∃ lexeme, Spells op.token lexeme := by
  cases op with
  | typeOf => exact ⟨_, .name (isName_of_mem_knownNames (by decide))⟩
  | _ => exact exists_spells_mark _

theorem exists_spaced {ts : List Token} (h : HaveSpellings ts) : ∃ cs, Spaced ts cs := by
  induction ts with
  | nil => exact ⟨[], .nil⟩
  | cons t ts ih =>
    obtain ⟨⟨lexeme, hspells⟩, hmore⟩ := haveSpellings_cons.1 h
    obtain ⟨cs, hspaced⟩ := ih hmore
    refine ⟨lexeme ++ ' ' :: cs, .token hspells ?_ (.blank rfl hspaced)⟩
    rintro c ⟨⟩
    rfl

namespace Surface

theorem haveSpellings_name {s : String} (h : IsName s) : HaveSpellings (name s).tokens := by
  simpa [tokens] using ⟨_, Spells.name h⟩

theorem haveSpellings_place {t : Surface} (p : Nat) (h : HaveSpellings t.tokens) :
    HaveSpellings (place p t).tokens := by
  unfold place
  split
  · simpa [tokens] using h
  · exact h

theorem haveSpellings_nameTokens : ∀ {params : List String}, (∀ x ∈ params, IsName x) →
    HaveSpellings (nameTokens params)
  | [], _ => haveSpellings_nil
  | [x], h => haveSpellings_name (h x (by simp))
  | x :: y :: rest, h => by
    have hx := haveSpellings_name (h x (by simp))
    have hrest : HaveSpellings (nameTokens (y :: rest)) :=
      haveSpellings_nameTokens fun z hz => h z (List.mem_cons_of_mem x hz)
    simpa [nameTokens, tokens] using ⟨by simpa [tokens] using hx, hrest⟩

end Surface

theorem haveSpellings_known {s : String} (h : s ∈ knownNames) :
    HaveSpellings (Surface.name s).tokens :=
  Surface.haveSpellings_name (isName_of_mem_knownNames h)

theorem haveSpellings_writeValue {v : Value} (h : Writable (.literal v)) :
    HaveSpellings (writeValue v).tokens := by
  cases v with
  | num x =>
    obtain ⟨cs, hdecimal, hx⟩ := h
    simpa [writeValue, Surface.tokens] using ⟨cs, Spells.number hdecimal hx⟩
  | str s => simpa [writeValue, Surface.tokens] using exists_spells_text s
  | bool b => exact haveSpellings_known (by cases b <;> decide)
  | null | undefined => exact haveSpellings_known (by decide)
  | date | arr | obj => exact absurd h id

mutual

theorem haveSpellings_write (scope : Nat) : ∀ {e : Expr} {argument : Bool} (p : Nat),
    e.Scoped Writable scope argument → HaveSpellings (e.write scope p).tokens
  | literal _, _, _, h => haveSpellings_writeValue h
  | field f, _, _, _ => haveSpellings_known (by cases f <;> decide)
  | library l, _, _, _ => haveSpellings_known (by cases l <;> decide)
  | conversion c, _, _, _ => haveSpellings_known (by cases c <;> decide)
  | param slot, _, _, _ => Surface.haveSpellings_name (isName_paramName slot)
  | array _, _, _, h => by
    simpa [write, Surface.tokens, Surface.endTokens] using haveSpellings_writeAll scope 1 h
  | member _ _ optional, _, _, h => by
    have hobject := haveSpellings_write scope 9 h.1
    have hproperty := haveSpellings_write scope 1 h.2
    cases optional <;>
      simpa [write, Surface.tokens, Surface.chainTokens] using ⟨hobject, hproperty⟩
  | call _ _ optional, _, _, h => by
    have hcallee := haveSpellings_write scope 9 h.1
    have hargs := haveSpellings_writeAll scope 0 h.2
    cases optional <;>
      simpa [write, Surface.tokens, Surface.chainTokens] using ⟨hcallee, hargs⟩
  | lambda arity _, _, _, h => by
    have hbody := haveSpellings_write (scope + arity) 1 h.2
    have hparams : HaveSpellings (Surface.nameTokens ((List.range' scope arity).map paramName)) :=
      Surface.haveSpellings_nameTokens fun x hx => by
        obtain ⟨i, -, rfl⟩ := List.mem_map.1 hx
        exact isName_paramName i
    simpa [write, Surface.tokens, Surface.paramTokens] using ⟨hparams, hbody⟩
  | unary op operand, _, p, h => by
    have hoperand := haveSpellings_write (e := operand) scope 8 h
    exact Surface.haveSpellings_place p
      (by simpa [Surface.tokens] using ⟨exists_spells_token op, hoperand⟩)
  | binary op left right, _, p, h => by
    have hleft := haveSpellings_write (e := left) scope op.level.rank h.1
    have hright := haveSpellings_write (e := right) scope (op.level.rank + 1) h.2
    exact Surface.haveSpellings_place p (by simpa [Surface.tokens] using ⟨hleft, hright⟩)
  | logical op left right, _, p, h => by
    have hleft := haveSpellings_write (e := left) scope op.rank h.1
    have hright := haveSpellings_write (e := right) scope (op.rank + 1) h.2
    exact Surface.haveSpellings_place p (by simpa [Surface.tokens] using ⟨hleft, hright⟩)
  | conditional .., _, p, h => by
    have htest := haveSpellings_write scope 2 h.1
    have hyes := haveSpellings_write scope 1 h.2.1
    have hno := haveSpellings_write scope 1 h.2.2
    exact Surface.haveSpellings_place p (by simpa [Surface.tokens] using ⟨htest, hyes, hno⟩)

theorem haveSpellings_writeAll (scope : Nat) : ∀ {es : List Expr} {argument : Bool} (p : Nat),
    ScopedAll Writable scope argument es →
      HaveSpellings (Surface.listTokens (writeAll scope p es))
  | [], _, _, _ => haveSpellings_nil
  | [_], _, p, h => by
    simpa [writeAll, Surface.listTokens, Surface.moreTokens] using haveSpellings_write scope p h.1
  | e :: e' :: es, _, p, h => by
    have hfirst := haveSpellings_write scope p h.1
    have hmore : HaveSpellings (Surface.listTokens (writeAll scope p (e' :: es))) :=
      haveSpellings_writeAll scope p h.2
    simp only [writeAll] at hmore ⊢
    rw [Surface.listTokens_cons_cons]
    simpa using ⟨hfirst, hmore⟩

end

/-! ## Texts -/

theorem exists_writtenAs {e : Expr} (h : e.InLanguage) : ∃ source, e.WrittenAs source := by
  obtain ⟨cs, hspaced⟩ := exists_spaced (haveSpellings_write 0 1 h)
  refine ⟨String.ofList cs, e.write 0 1, fits_write 0 h nofun, writes_write 0 1 h, ?_⟩
  rwa [String.toList_ofList]

/-- **Expressions and their texts**: each expression of the language has a text, and each of its
texts compiles to it or is too deep; with at most 20 nodes, it compiles to it. -/
theorem compile_writtenAs {e : Expr} (h : e.InLanguage) :
    (∃ source, e.WrittenAs source) ∧ ∀ source, e.WrittenAs source →
      ((compile source).program = .ok (some e) ∨ (compile source).program = .error .tooDeep) ∧
        (e.size ≤ 20 → (compile source).program = .ok (some e)) :=
  ⟨exists_writtenAs h, fun _ hsource => program_of_written hsource⟩

/-- `line > 2 && ! id ? [title, line].map(x => x ?? '-') : null`. -/
def titleOrLine : Expr :=
  .conditional
    (.logical .and
      (.binary .gt (.field .line) (.literal (.num (Literal.value ⟨false, ['2'], [], none⟩))))
      (.unary .not (.field .id)))
    (.call (.member (.array [.field .title, .field .line]) (.literal (.str "map")) false)
      [.lambda 1 (.logical .coalesce (.param 0) (.literal (.str "-")))] false)
    (.literal .null)

theorem compile_writtenAs_titleOrLine : titleOrLine.InLanguage ∧
    ∃ source, titleOrLine.WrittenAs source ∧
      (compile source).program = .ok (some titleOrLine) := by
  have hlanguage : titleOrLine.InLanguage := by
    refine ⟨⟨⟨trivial, ['2'], ?_, rfl⟩, trivial⟩, ?_, trivial⟩
    · exact ⟨['2'], [], [], rfl, by simp, .inl rfl, .inl rfl, .inl (by simp)⟩
    · exact ⟨⟨⟨trivial, trivial, trivial⟩, trivial⟩, ⟨rfl, Nat.zero_lt_one, trivial⟩, trivial⟩
  obtain ⟨⟨source, hsource⟩, htexts⟩ := compile_writtenAs hlanguage
  exact ⟨hlanguage, source, hsource, (htexts source hsource).2 (by decide)⟩

end Logbook.Expr
