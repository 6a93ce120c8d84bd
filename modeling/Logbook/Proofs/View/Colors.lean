import Mathlib.Data.Bool.AllAny
import Mathlib.Data.List.Basic
import Mathlib.Data.List.Induction
import Logbook.Proofs.Text.Hexadecimal
import Logbook.View.Annotation

/-!
# Colors are read as they are written

A color is written by its digits and read by positions in bytes, so that another text of six bytes
can be cut within a character. No annotation has such a text for its color.

* `IsColor`, `isColorText_iff`: a number sign and three or six hexadecimal digits;
* `sliceBytes_of_isHex`: in hexadecimal digits, positions in bytes are positions of characters;
* `exists_read_of_isColor`, `read_text`: a color is read, and a written one is read back;
* **`readable_annotate`**: every value chooses a color, and every color of an annotation is read.
-/

namespace Logbook

/-! ## Hexadecimal digits -/

namespace Text

variable {ds : List Char}

theorem readHexDigits_concat (ds : List Char) (c : Char) :
    readHexDigits (ds ++ [c]) = 16 * readHexDigits ds + (hexVal? c).getD 0 := by
  rw [readHexDigits, List.foldl_append]
  rfl

theorem readHexDigits_lt (h : ∀ c ∈ ds, isHex c = true) :
    readHexDigits ds < Nat.pow 16 ds.length := by
  induction ds using List.reverseRecOn with
  | nil => exact Nat.one_pos
  | append_singleton ds c ih =>
    obtain ⟨hds, hc⟩ := List.forall_mem_append.1 h
    have hdigit : ∀ d ∈ hexDigits, (hexVal? d).getD 0 < 16 := List.all_iff_forall_prop.1 rfl
    have hlast := hdigit c (isHex_iff.1 (hc c List.mem_cons_self))
    have hbefore := ih hds
    have hpow : Nat.pow 16 (ds ++ [c]).length = Nat.pow 16 ds.length * 16 := by
      rw [List.length_append]
      rfl
    rw [readHexDigits_concat, hpow]
    omega

theorem utf8Size_of_isHex {c : Char} (h : isHex c = true) : c.utf8Size = 1 := by
  have hall : ∀ d ∈ hexDigits, d.utf8Size = 1 := List.all_iff_forall_prop.1 rfl
  exact hall c (isHex_iff.1 h)

theorem byteSize_of_isHex (h : ∀ c ∈ ds, isHex c = true) : byteSize ds = ds.length := by
  induction ds with
  | nil => rfl
  | cons c ds ih =>
    obtain ⟨hc, hds⟩ := List.forall_mem_cons.1 h
    rw [byteSize, List.foldr_cons, utf8Size_of_isHex hc, List.length_cons, Nat.add_comm]
    exact congrArg (· + 1) (ih hds)

theorem splitAtByte?_of_isHex (h : ∀ c ∈ ds, isHex c = true) {n : Nat} (hn : n ≤ ds.length) :
    splitAtByte? n ds = some (ds.take n, ds.drop n) := by
  induction n generalizing ds with
  | zero => cases ds <;> rfl
  | succ n ih =>
    cases ds with
    | nil => exact absurd hn (Nat.not_succ_le_zero n)
    | cons c ds =>
      obtain ⟨hc, hds⟩ := List.forall_mem_cons.1 h
      have hone : c.utf8Size ≤ n + 1 := by rw [utf8Size_of_isHex hc]; omega
      rw [splitAtByte?, if_pos hone, utf8Size_of_isHex hc, Nat.add_sub_cancel,
        ih hds (Nat.le_of_succ_le_succ hn)]
      rfl

/-- **In hexadecimal digits, positions in bytes are positions of characters.** -/
theorem sliceBytes_of_isHex (h : ∀ c ∈ ds, isHex c = true) {i j : Nat} (hij : i ≤ j)
    (hj : j ≤ ds.length) : sliceBytes i j ds = .ok ((ds.drop i).take (j - i)) := by
  have hrest : ∀ c ∈ ds.drop i, isHex c = true := fun c hc => h c (List.mem_of_mem_drop hc)
  have hlength : j - i ≤ (ds.drop i).length := by rw [List.length_drop]; omega
  simp only [sliceBytes, splitAtByte?_of_isHex h (Nat.le_trans hij hj),
    splitAtByte?_of_isHex hrest hlength]

theorem hexByte_isHex {n : Nat} (h : n < 256) : ∀ c ∈ hexByte n, isHex c = true := by
  have hall : ∀ n < 256, (hexByte n).all isHex = true := by decide +kernel
  exact List.all_eq_true.1 (hall n h)

theorem readHexDigits_hexByte {n : Nat} (h : n < 256) : readHexDigits (hexByte n) = n := by
  have hall : ∀ n < 256, readHexDigits (hexByte n) = n := by decide +kernel
  exact hall n h

end Text

open Text

/-! ## Reading colors -/

/-- **A color**: a number sign and three or six hexadecimal digits. -/
def IsColor (cs : List Char) : Prop :=
  ∃ digits, cs = '#' :: digits ∧ (digits.length = 3 ∨ digits.length = 6) ∧
    ∀ d ∈ digits, d ∈ hexDigits

theorem isColorText_iff {cs : List Char} : isColorText cs = true ↔ IsColor cs := by
  unfold isColorText IsColor
  split
  · next digits =>
    simp only [Bool.and_eq_true, Bool.or_eq_true, beq_iff_eq, List.all_eq_true, isHex_iff,
      List.cons.injEq, true_and, exists_eq_left']
  · next hsign =>
    refine iff_of_false (by simp) ?_
    rintro ⟨digits, rfl, -⟩
    exact hsign digits rfl

variable {ds : List Char}

theorem channel?_of_isHex (h : ∀ c ∈ ds, isHex c = true) (hne : ds ≠ []) (hle : ds.length ≤ 2) :
    channel? ds = some (UInt8.ofNat (readHexDigits ds)) := by
  have hlt : readHexDigits ds < 256 :=
    Nat.lt_of_lt_of_le (readHexDigits_lt h) (Nat.pow_le_pow_right (by decide) hle)
  rw [channel?, readHex?_eq_some_iff.2 ⟨.inl ⟨hne, h, rfl⟩, hlt⟩, Option.map_some]

theorem channelAt_of_isHex (h : ∀ c ∈ ds, isHex c = true) {i : Nat} (hi : i + 2 ≤ ds.length) :
    channelAt ds i = pure (UInt8.ofNat (readHexDigits ((ds.drop i).take 2))) := by
  have hslice : ∀ c ∈ (ds.drop i).take 2, isHex c = true := fun c hc =>
    h c (List.mem_of_mem_drop (List.mem_of_mem_take hc))
  have hlength : ((ds.drop i).take 2).length = 2 := by
    rw [List.length_take, List.length_drop]
    omega
  have hne : (ds.drop i).take 2 ≠ [] := List.ne_nil_of_length_pos (by omega)
  have hchannel := channel?_of_isHex hslice hne (Nat.le_of_eq hlength)
  rw [channelAt, sliceBytes_of_isHex h (Nat.le_add_right i 2) hi, Nat.add_sub_cancel_left]
  exact congrArg (fun o => OptionT.mk (Except.ok o)) hchannel

/-- **Six digits are a color**, two of them for each channel. -/
theorem read_of_length_six (h : ∀ c ∈ ds, isHex c = true) (hlength : ds.length = 6) :
    Rgb.read ('#' :: ds) = .ok (some
      ⟨UInt8.ofNat (readHexDigits ((ds.drop 0).take 2)),
        UInt8.ofNat (readHexDigits ((ds.drop 2).take 2)),
        UInt8.ofNat (readHexDigits ((ds.drop 4).take 2))⟩) := by
  have hsize : byteSize ds = 6 := (byteSize_of_isHex h).trans hlength
  rw [Rgb.read, hsize, Rgb.ofLong, channelAt_of_isHex h (by omega), channelAt_of_isHex h (by omega),
    channelAt_of_isHex h (by omega)]
  rfl

/-- **Three digits are a color**, each of them twice. -/
theorem read_of_length_three {r g b : Char} (h : ∀ c ∈ [r, g, b], isHex c = true) :
    Rgb.read ['#', r, g, b] = .ok (some
      ⟨UInt8.ofNat (readHexDigits [r]) * 17, UInt8.ofNat (readHexDigits [g]) * 17,
        UInt8.ofNat (readHexDigits [b]) * 17⟩) := by
  have hshort : ∀ c ∈ [r, g, b], shortChannel? c = some (UInt8.ofNat (readHexDigits [c]) * 17) := by
    intro c hc
    rw [shortChannel?, channel?_of_isHex (List.forall_mem_singleton.2 (h c hc)) (by simp) (by simp),
      Option.map_some]
  have hsize : byteSize [r, g, b] = 3 := byteSize_of_isHex h
  rw [Rgb.read, hsize, if_pos rfl, Rgb.ofShort?, hshort r (by simp), hshort g (by simp),
    hshort b (by simp)]
  rfl

theorem exists_read_of_isColor {cs : List Char} (h : IsColor cs) :
    ∃ c, Rgb.read cs = .ok (some c) := by
  obtain ⟨digits, rfl, hlength | hlength, hdigits⟩ := h
  · obtain ⟨r, g, b, rfl⟩ := List.length_eq_three.1 hlength
    exact ⟨_, read_of_length_three fun c hc => isHex_iff.2 (hdigits c hc)⟩
  · exact ⟨_, read_of_length_six (fun c hc => isHex_iff.2 (hdigits c hc)) hlength⟩

-- other texts of six bytes: signs are accepted, and a position may lie within a character
example : Rgb.read "#+1+2+3".toList = .ok (some ⟨1, 2, 3⟩) := by decide

example : Rgb.read "#a€aa".toList = .error ⟨2⟩ := by decide

/-! ## Writing colors -/

theorem isHex_of_mem_text (c : Rgb) : ∀ d ∈ hexByte c.red.toNat ++ hexByte c.green.toNat ++
    hexByte c.blue.toNat, isHex d = true := by
  intro d hd
  rw [List.mem_append, List.mem_append] at hd
  obtain (hd | hd) | hd := hd
  · exact hexByte_isHex c.red.toNat_lt d hd
  · exact hexByte_isHex c.green.toNat_lt d hd
  · exact hexByte_isHex c.blue.toNat_lt d hd

theorem isColor_text (c : Rgb) : IsColor c.text :=
  ⟨_, rfl, .inr rfl, fun d hd => isHex_iff.1 (isHex_of_mem_text c d hd)⟩

/-- **A color that was written is read back.** -/
theorem read_text (c : Rgb) : Rgb.read c.text = .ok (some c) := by
  have hchannel (n : UInt8) : UInt8.ofNat (readHexDigits (hexByte n.toNat)) = n := by
    rw [readHexDigits_hexByte n.toNat_lt, UInt8.ofNat_toNat]
  have hcolor : (⟨UInt8.ofNat (readHexDigits (hexByte c.red.toNat)),
      UInt8.ofNat (readHexDigits (hexByte c.green.toNat)),
      UInt8.ofNat (readHexDigits (hexByte c.blue.toNat))⟩ : Rgb) = c := by
    rw [hchannel, hchannel, hchannel]
  exact (read_of_length_six (isHex_of_mem_text c) rfl).trans
    (congrArg (fun x => Except.ok (some x)) hcolor)

theorem isColor_colorFor (v : Value) : IsColor (colorFor v).toList := by
  have hpale : IsColor (String.ofList (paleColor v.displayChars).text).toList := by
    rw [String.toList_ofList]
    exact isColor_text _
  unfold colorFor
  cases v with
  | str s =>
    by_cases hs : isColorText s.toList = true
    · simp only [hs, if_true]
      exact isColorText_iff.1 hs
    · simp only [hs]
      exact hpale
  | _ => exact hpale

theorem isColor_errorColor : IsColor errorColor.toList := isColorText_iff.1 (by decide)

theorem isColor_colorOf (a : Annotators) (r : Record) : IsColor (a.colorOf r).toList := by
  unfold Annotators.colorOf
  split
  · exact isColor_colorFor _
  · exact isColor_errorColor

/-- **Every value chooses a color**, and a text that is one chooses itself. Every color of an
annotation is read, whatever the expressions are: no position lies within a character, and the
digits are accepted. A color that was written is read back. -/
theorem readable_annotate :
    (∀ v : Value, IsColor (colorFor v).toList) ∧
      (∀ s : String, IsColor s.toList → colorFor (.str s) = s) ∧
      (∀ c : Rgb, Rgb.read c.text = .ok (some c)) ∧
      ∀ (rs : List Record) (a : Annotators) (align : String → Align),
        ∀ x ∈ (annotate rs a align).1, ∃ c, Rgb.read x.color.toList = .ok (some c) := by
  refine ⟨isColor_colorFor, fun s hs => colorFor_of_isColorText (isColorText_iff.2 hs), read_text,
    ?_⟩
  intro rs a align x hx
  obtain ⟨r, -, rfl⟩ := List.mem_map.1 hx
  exact exists_read_of_isColor (isColor_colorOf a r)

theorem readable_annotate_short :
    let a : Annotators := ⟨compile "title", compile "'#aBc'", compile "id"⟩
    let r : Record := { log := "c", message := "m", line := "l", body := "" }
    let x := a.annotate (fun _ => .left) r
    IsColor "#aBc".toList ∧ colorFor (.str "#aBc") = "#aBc" ∧
      x ∈ (annotate [r] a fun _ => .left).1 ∧ ∃ c, Rgb.read x.color.toList = .ok (some c) := by
  intro a r x
  have hcolor : IsColor "#aBc".toList := isColorText_iff.1 (by decide)
  have hmem : x ∈ (annotate [r] a fun _ => .left).1 := List.mem_singleton_self x
  exact ⟨hcolor, readable_annotate.2.1 "#aBc" hcolor, hmem, readable_annotate.2.2.2 _ _ _ x hmem⟩

end Logbook
