import Logbook.Proofs.Console.Printing
import Logbook.Proofs.Json.Layout

/-!
# Reading what a console prints

* `isPlain_settledText`: settling a plain text leaves it plain;
* `Tree.bare_settled`: the tokens of a value, when all steps are done, are JSON text;
* `Tree.text_settled_of_bare`: a value without names and texts is JSON text as it is printed;
* **`parseRelaxed?_write`**: what relaxed reading makes of the notation of a value.
-/

namespace Logbook.Console

open Relaxed Json

/-! ## Settled texts -/

/-- A character that stands for itself between double quotes. -/
def IsPlain (c : Char) : Prop := c ≠ '"' ∧ c ≠ '\\' ∧ ¬c.toNat < 0x20

theorem stringText_plain {s : List Char} (h : ∀ c ∈ s, IsPlain c) : StringText (s ++ ['"']) s := by
  induction s with
  | nil => exact .close
  | cons c s ih =>
    obtain ⟨⟨hquote, hescape, hcontrol⟩, hs⟩ := List.forall_mem_cons.1 h
    exact .char hquote hescape hcontrol (ih hs)

theorem mem_masked {s : List Char} {c : Char} (h : c ∈ masked s) : c ∈ s ∨ c ∈ mask := by
  obtain ⟨d, hd, hc⟩ := List.mem_flatMap.1 h
  split at hc
  · exact .inr hc
  · rw [List.mem_singleton.1 hc]
    exact .inl hd

theorem mem_dropTrailingCommas {s : List Char} {c : Char} (h : c ∈ dropTrailingCommas s) :
    c ∈ s := by
  induction s with
  | nil => exact h
  | cons d s ih =>
    unfold dropTrailingCommas at h
    split at h
    · exact List.mem_cons_of_mem d (ih h)
    · rcases List.mem_cons.1 h with rfl | h
      · exact List.mem_cons_self
      · exact List.mem_cons_of_mem d (ih h)

theorem mem_unmaskColons {s : List Char} {c : Char} (h : c ∈ unmaskColons s) : c ∈ s ∨ c = ':' := by
  induction s using mask_induction with
  | nil => exact .inl h
  | masked r ih =>
    rw [unmaskColons_mask] at h
    rcases List.mem_cons.1 h with hc | hc
    · exact .inr hc
    · exact (ih hc).imp_left (List.mem_append_right mask)
  | cons d s hne ih =>
    rw [unmaskColons_cons hne] at h
    rcases List.mem_cons.1 h with rfl | hc
    · exact .inl List.mem_cons_self
    · exact (ih hc).imp_left (List.mem_cons_of_mem d)

theorem isPlain_colon : IsPlain ':' := by
  refine ⟨?_, ?_, ?_⟩ <;> decide

theorem isPlain_of_mem_mask {c : Char} (h : c ∈ mask) : IsPlain c := by
  have hall : ∀ d ∈ mask, d ≠ '"' ∧ d ≠ '\\' ∧ ¬d.toNat < 0x20 :=
    List.all_iff_forall_prop.1 (by decide)
  exact hall c h

theorem isPlain_settledText {s : List Char} (h : PlainText s) (member : Bool) :
    ∀ c ∈ settledText member s, IsPlain c := by
  have hs : ∀ c ∈ s, IsPlain c := fun c hc => ⟨(h c hc).1, (h c hc).2.2⟩
  intro c hc
  rcases mem_unmaskColons hc with hc | rfl
  · have hmem := mem_dropTrailingCommas hc
    split at hmem
    · exact (mem_masked hmem).elim (hs c) isPlain_of_mem_mask
    · exact hs c hmem
  · exact isPlain_colon

theorem isPlain_of_isNameChar {c : Char} (h : isNameChar c = true) : IsPlain c := by
  refine ⟨?_, ?_, fun hc => ?_⟩
  · rintro rfl
    cases h
  · rintro rfl
    cases h
  · have hall : ∀ n, n < 0x20 → isNameChar (Char.ofNat n) = false := by decide
    have hfalse := hall c.toNat hc
    rw [Char.ofNat_toNat, h] at hfalse
    cases hfalse

/-! ## Settled tokens are JSON text -/

theorem name_settled {k : String} (hk : BareName k.toList) :
    Name ('"' :: (k.toList ++ ['"'])) k := by
  have htext : StringText (k.toList ++ ['"']) k.toList :=
    stringText_plain fun c hc => isPlain_of_isNameChar (hk.2 c hc)
  have hname := Name.intro .nil htext .nil
  rwa [List.nil_append, List.append_nil, String.ofList_toList] at hname

theorem settledLook_key_append (k cs : List Char) :
    settledLook.key k ++ cs = '"' :: (k ++ ['"']) ++ ':' :: ([' ', ' '] ++ cs) := by
  simp [settledLook, tidiedLook, definedLook, quotedLook]

section Members

variable {room : Nat} {k : String} {t : List Char} {w : Json}

theorem space_blank : Space [' '] := by
  rintro c hc
  rw [List.mem_singleton.1 hc]
  rfl

theorem space_spaces : Space [' ', ' '] :=
  space_blank.append space_blank

theorem members_last (hk : BareName k.toList) (ht : Bare room t w) {b : List Char} (hb : Space b) :
    Members room (settledLook.key k.toList ++ (t ++ (b ++ ['\x7d']))) [(k, w)] := by
  have hspells : Spells room ([' ', ' '] ++ (t ++ b)) w := .intro space_spaces ht hb
  have h := Members.last (name_settled hk) hspells
  rwa [List.append_assoc, List.append_assoc, ← settledLook_key_append] at h

theorem members_more (hk : BareName k.toList) (ht : Bare room t w) {ds : List Char}
    {ws : List (String × Json)} (hs : Members room ds ws) :
    Members room (settledLook.key k.toList ++ (t ++ ',' :: ds)) ((k, w) :: ws) := by
  have h := Members.more (name_settled hk) (ht.spells space_spaces) hs
  rwa [List.append_assoc, ← settledLook_key_append] at h

end Members

theorem Tree.isUndefined_settle (member : Bool) (v : Tree) :
    (v.settle member).isUndefined = v.isUndefined := by
  cases v <;> (unfold Tree.settle; rfl)

/-- Only for a text it counts whether it is the value of a member. -/
theorem Tree.settle_of_not_str {v : Tree} (h : ∀ s, v ≠ .str s) :
    v.settle true = v.settle false := by
  cases v with
  | str s => exact absurd rfl (h s)
  | undefined | null | bool | int | arr | obj =>
    unfold Tree.settle
    rfl

theorem exists_settled_named {v : Tree} {room : Nat} (hv : v.Fits room)
    (hbare : Bare room (text settledLook v.tokens) (v.settle false).toJson) (k : String)
    (more : Bool) :
    ∃ t, text settledLook (named k more v v.tokens) = settledLook.key k.toList ++ t ∧
      Bare room t (v.settle true).toJson := by
  rcases named_cases hv.isUndefined k more v.tokens with ⟨s, rfl, hnamed⟩ | ⟨hstr, hnamed⟩
  · unfold Tree.Fits at hv
    rw [hnamed, text_cons, text_nil, text_member_append, Tree.settle, Tree.toJson]
    exact ⟨_, rfl, .text (stringText_plain (isPlain_settledText hv true))⟩
  · rw [hnamed, text_cons, Tree.settle_of_not_str hstr]
    exact ⟨_, rfl, hbare⟩

/-- Of members without a value nothing is left but space. -/
theorem space_memberTokens {ms : List (String × Tree)}
    (h : (ms.all fun m => m.2.isUndefined) = true) :
    Space (text settledLook (Tree.memberTokens ms)) ∧
      Tree.membersJson (Tree.settleMembers ms) = [] := by
  induction ms with
  | nil => exact ⟨.nil, rfl⟩
  | cons m ms ih =>
    obtain ⟨k, v⟩ := m
    obtain ⟨hv, hms⟩ := Bool.and_eq_true_iff.1 h
    have hv : v.isUndefined = true := hv
    obtain ⟨hspace, hjson⟩ := ih hms
    rw [Tree.settleMembers, Tree.membersJson, Tree.isUndefined_settle, hv, eq_undefined hv]
    refine ⟨?_, hjson⟩
    cases ms with
    | nil => exact .nil
    | cons m ms => exact space_blank.append hspace

mutual

/-- **When all steps are done, the tokens of a value are JSON text** of the settled value. -/
theorem Tree.bare_settled : ∀ {v : Tree} {room : Nat}, v.Fits room →
    Bare room (text settledLook v.tokens) (v.settle false).toJson
  | .undefined, _, h => by cases h.isUndefined
  | .null, _, _ => .null
  | .bool true, _, _ => .boolTrue
  | .bool false, _, _ => .boolFalse
  | .int n, _, h => by
    unfold Tree.Fits at h
    have htext : text settledLook (Tree.tokens (.int n)) = Text.signed n := List.append_nil _
    rw [htext]
    exact .number (numeral_signed h.1 h.2)
  | .str s, _, h => by
    unfold Tree.Fits at h
    rw [Tree.tokens, text_cons, text_nil, text_item_append, Tree.settle, Tree.toJson]
    exact .text (stringText_plain (isPlain_settledText h false))
  | .arr [], _, h => by
    obtain ⟨n, rfl, -⟩ := h.exists_items
    exact .emptyArray .nil
  | .arr (v :: vs), _, h => by
    obtain ⟨n, rfl, h⟩ := h.exists_items
    rw [Tree.tokens, text_cons, text_append, Tree.settle, Tree.toJson]
    exact .array (items_settled h)
  | .obj members, _, h => by
    obtain ⟨n, rfl, h⟩ := h.exists_members
    rw [Tree.tokens, text_cons, text_append, Tree.settle, Tree.toJson]
    cases hall : members.all fun m => m.2.isUndefined with
    | true =>
      obtain ⟨hspace, hjson⟩ := space_memberTokens hall
      rw [hjson]
      exact .emptyObject hspace
    | false => exact .object (members_settled h hall)

theorem items_settled : ∀ {v : Tree} {vs : List Tree} {room : Nat}, Tree.FitsItems room (v :: vs) →
    Items room (text settledLook (Tree.itemTokens (v :: vs)) ++ [']'])
      (Tree.itemsJson (Tree.settleItems (v :: vs)))
  | v, [], _, h => by
    unfold Tree.FitsItems at h
    exact .last ((Tree.bare_settled h.1).spells .nil)
  | v, w :: vs, _, h => by
    unfold Tree.FitsItems at h
    have hmore := Items.more ((Tree.bare_settled h.1).spells .nil)
      ((items_settled h.2).space space_blank)
    rw [Tree.itemTokens, text_append, List.append_assoc]
    exact hmore

theorem members_settled : ∀ {ms : List (String × Tree)} {room : Nat}, Tree.FitsMembers room ms →
    (ms.all fun m => m.2.isUndefined) = false →
      Members room (text settledLook (Tree.memberTokens ms) ++ ['\x7d'])
        (Tree.membersJson (Tree.settleMembers ms))
  | [], _, _, hall => by cases hall
  | [(k, v)], _, h, hall => by
    unfold Tree.FitsMembers at h
    obtain ⟨hk, hv, -⟩ := h
    have hdefined : v.isUndefined = false := by simpa using hall
    have hv := hv.resolve_left (Bool.eq_false_iff.1 hdefined)
    obtain ⟨t, htext, ht⟩ := exists_settled_named hv (Tree.bare_settled hv) k false
    have hlast := members_last hk ht .nil
    rw [Tree.memberTokens, htext, List.append_assoc, Tree.settleMembers, Tree.membersJson,
      Tree.isUndefined_settle, hdefined]
    exact hlast
  | (k, v) :: m :: ms, _, h, hall => by
    unfold Tree.FitsMembers at h
    obtain ⟨hk, hv, hms⟩ := h
    rw [Tree.memberTokens, text_append, text_append, between, Tree.settleMembers, Tree.membersJson,
      Tree.isUndefined_settle]
    cases hdefined : v.isUndefined with
    | true =>
      have hrest := members_settled hms (by rwa [List.all_cons, hdefined, Bool.true_and] at hall)
      have hspaced := hrest.space space_blank
      rw [eq_undefined hdefined]
      exact hspaced
    | false =>
      have hv := hv.resolve_left (Bool.eq_false_iff.1 hdefined)
      obtain ⟨t, htext, ht⟩ := exists_settled_named hv (Tree.bare_settled hv) k true
      rw [htext]
      cases hrest : (m :: ms).all fun m => m.2.isUndefined with
      | true =>
        obtain ⟨hspace, hjson⟩ := space_memberTokens hrest
        have hlast := members_last hk ht (space_blank.append hspace)
        rw [hjson]
        simpa [Tok.text, settledLook, tidiedLook] using hlast
      | false =>
        have hmore := members_more hk ht ((members_settled hms hrest).space space_blank)
        simpa [Tok.text, settledLook, tidiedLook] using hmore

end

/-! ## Values that are JSON text as they are printed -/

/-- Characters of a text without names and texts. -/
def IsBareChar (c : Char) : Prop := c ≠ '\'' ∧ c ≠ ':'

instance : DecidablePred IsBareChar := fun c => inferInstanceAs (Decidable (c ≠ '\'' ∧ c ≠ ':'))

theorem isBareChar_of_space {a : List Char} (ha : Space a) : ∀ c ∈ a, IsBareChar c := by
  intro c hc
  have hspace := ha c hc
  constructor <;> (rintro rfl; cases hspace)

theorem isBareChar_of_numeral {n : List Char} {w : Json} (h : Numeral n w) :
    ∀ c ∈ n, IsBareChar c := by
  intro c hc
  have hnumeral := h.isNumeralChar c hc
  constructor <;> (rintro rfl; revert hnumeral; decide)

mutual

/-- JSON text without double quotes has no single quotes and no colons either. -/
theorem isBareChar_of_bare : ∀ {room : Nat} {t : List Char} {w : Json}, Bare room t w → '"' ∉ t →
    ∀ c ∈ t, IsBareChar c
  | _, _, _, .null, _ => List.all_iff_forall_prop.1 (by decide)
  | _, _, _, .boolTrue, _ => List.all_iff_forall_prop.1 (by decide)
  | _, _, _, .boolFalse, _ => List.all_iff_forall_prop.1 (by decide)
  | _, _, _, .number h, _ => isBareChar_of_numeral h
  | _, _, _, .text _, hquote => absurd List.mem_cons_self hquote
  | _, _, _, .emptyArray ha, _ =>
    List.forall_mem_cons.2 ⟨by decide,
      List.forall_mem_append.2 ⟨isBareChar_of_space ha, List.all_iff_forall_prop.1 (by decide)⟩⟩
  | _, _, _, .array h, hquote =>
    List.forall_mem_cons.2 ⟨by decide,
      isBareChar_of_items h (List.not_mem_of_not_mem_cons hquote)⟩
  | _, _, _, .emptyObject ha, _ =>
    List.forall_mem_cons.2 ⟨by decide,
      List.forall_mem_append.2 ⟨isBareChar_of_space ha, List.all_iff_forall_prop.1 (by decide)⟩⟩
  | _, _, _, .object (.last (.intro _ _ _) _), hquote => absurd (by simp) hquote
  | _, _, _, .object (.more (.intro _ _ _) _ _), hquote => absurd (by simp) hquote

theorem isBareChar_of_spells : ∀ {room : Nat} {cs : List Char} {w : Json}, Spells room cs w →
    '"' ∉ cs → ∀ c ∈ cs, IsBareChar c
  | _, _, _, .intro ha h hb, hquote =>
    have ht := fun hmem => hquote (List.mem_append_right _ (List.mem_append_left _ hmem))
    List.forall_mem_append.2 ⟨isBareChar_of_space ha,
      List.forall_mem_append.2 ⟨isBareChar_of_bare h ht, isBareChar_of_space hb⟩⟩

theorem isBareChar_of_items : ∀ {room : Nat} {cs : List Char} {ws : List Json}, Items room cs ws →
    '"' ∉ cs → ∀ c ∈ cs, IsBareChar c
  | _, _, _, .last h, hquote =>
    have hcs := fun hmem => hquote (List.mem_append_left _ hmem)
    List.forall_mem_append.2
      ⟨isBareChar_of_spells h hcs, List.all_iff_forall_prop.1 (by decide)⟩
  | _, _, _, .more h hs, hquote =>
    have hcs := fun hmem => hquote (List.mem_append_left _ hmem)
    have hds := fun hmem => hquote (List.mem_append_right _ (List.mem_cons_of_mem _ hmem))
    List.forall_mem_append.2 ⟨isBareChar_of_spells h hcs,
      List.forall_mem_cons.2 ⟨by decide, isBareChar_of_items hs hds⟩⟩

end

mutual

theorem Tree.quote_not_mem_write : ∀ {v : Tree} {room : Nat}, v.Fits room → '"' ∉ v.write
  | .undefined, _, h => by cases h.isUndefined
  | .null, _, _ => isWord_nullWord.not_mem rfl (by decide)
  | .bool b, _, _ => (isWord_boolWord b).not_mem rfl (by decide)
  | .int n, _, _ => (isWord_signed n).not_mem rfl (by decide)
  | .str s, _, h => by
    unfold Tree.Fits at h
    simp [Tree.write, h.not_mem.1]
  | .arr items, _, h => by
    obtain ⟨n, rfl, h⟩ := h.exists_items
    simp [Tree.write, quote_not_mem_writeItems h]
  | .obj members, _, h => by
    obtain ⟨n, rfl, h⟩ := h.exists_members
    simp [Tree.write, quote_not_mem_writeMembers h]

theorem quote_not_mem_writeItems : ∀ {vs : List Tree} {room : Nat}, Tree.FitsItems room vs →
    '"' ∉ Tree.writeItems vs
  | [], _, _ => by simp [Tree.writeItems]
  | [v], _, h => by
    unfold Tree.FitsItems at h
    exact Tree.quote_not_mem_write h.1
  | v :: w :: vs, _, h => by
    unfold Tree.FitsItems at h
    simp [Tree.writeItems, Tree.quote_not_mem_write h.1, quote_not_mem_writeItems h.2]

theorem quote_not_mem_writeMembers : ∀ {ms : List (String × Tree)} {room : Nat},
    Tree.FitsMembers room ms → '"' ∉ Tree.writeMembers ms
  | [], _, _ => by simp [Tree.writeMembers]
  | (k, v) :: ms, room, h => by
    unfold Tree.FitsMembers at h
    obtain ⟨hk, hv, hms⟩ := h
    have hname : '"' ∉ k.toList := hk.not_mem rfl
    have hvalue : '"' ∉ v.write := by
      rcases hv with hv | hv
      · rw [eq_undefined hv]
        simp [Tree.write, undefinedWord]
      · exact Tree.quote_not_mem_write hv
    cases ms with
    | nil => simp [Tree.writeMembers, hname, hvalue]
    | cons m ms =>
      have hrest := quote_not_mem_writeMembers hms
      simp [Tree.writeMembers, hname, hvalue, hrest]

end

mutual

/-- **A value without names and texts is JSON text as it is printed.** -/
theorem Tree.text_settled_of_bare : ∀ {v : Tree} {room : Nat}, v.Fits room →
    (∀ c ∈ v.write, IsBareChar c) → text settledLook v.tokens = v.write
  | .undefined, _, h, _ => by cases h.isUndefined
  | .null, _, _, _ => List.append_nil _
  | .bool _, _, _, _ => List.append_nil _
  | .int _, _, _, _ => List.append_nil _
  | .str s, _, _, hbare => absurd rfl (hbare '\'' List.mem_cons_self).1
  | .arr items, _, h, hbare => by
    obtain ⟨n, rfl, h⟩ := h.exists_items
    have hitems : ∀ c ∈ Tree.writeItems items, IsBareChar c := by
      rw [Tree.write] at hbare
      exact fun c hc => hbare c (List.mem_cons_of_mem _ (List.mem_append_left _ hc))
    rw [Tree.tokens, text_cons, text_append, text_settled_items_of_bare h hitems, Tree.write]
    rfl
  | .obj [], _, _, _ => rfl
  | .obj ((k, v) :: ms), _, _, hbare => by
    refine absurd rfl (hbare ':' ?_).2
    cases ms <;> simp [Tree.write, Tree.writeMembers]

theorem text_settled_items_of_bare : ∀ {vs : List Tree} {room : Nat}, Tree.FitsItems room vs →
    (∀ c ∈ Tree.writeItems vs, IsBareChar c) →
      text settledLook (Tree.itemTokens vs) = Tree.writeItems vs
  | [], _, _, _ => rfl
  | [v], _, h, hbare => by
    unfold Tree.FitsItems at h
    exact Tree.text_settled_of_bare h.1 hbare
  | v :: w :: vs, _, h, hbare => by
    unfold Tree.FitsItems at h
    rw [Tree.writeItems] at hbare
    obtain ⟨hv, hrest⟩ := List.forall_mem_append.1 hbare
    have hvs := (List.forall_mem_cons.1 (List.forall_mem_cons.1 hrest).2).2
    rw [Tree.itemTokens, text_append, Tree.text_settled_of_bare h.1 hv, text_cons, text_cons,
      text_settled_items_of_bare h.2 hvs, Tree.writeItems]
    rfl

end

/-! ## All of a value -/

theorem opensStructure_write {v : Tree} (h : v.IsStructure) : opensStructure v.write = true := by
  cases v with
  | arr items =>
    rw [Tree.write]
    rfl
  | obj members =>
    rw [Tree.write]
    rfl
  | undefined | null | bool | int | str => exact h.elim

theorem tidy_write_of_strict {v : Tree} (hfits : v.Fits maxNesting) {w : Json}
    (hstrict : parse? v.write = some w)
    (htidy : tidy v.write = text settledLook v.tokens) : tidy v.write = v.write := by
  have hquote := Tree.quote_not_mem_write hfits
  have hbare := isBareChar_of_spells (parse?_eq_some_iff.1 hstrict) hquote
  rw [htidy, Tree.text_settled_of_bare hfits hbare]

/-- **The notation of an array or an object is read as the settled value.** -/
theorem parseRelaxed?_write {v : Tree} (hstruct : v.IsStructure) (hfits : v.Fits maxNesting)
    (hcalm : v.Calm false) : parseRelaxed? v.write = some (v.settle false).toJson := by
  have hapart : Apart v.tokens := by
    have hnil : Apart (v.tokens ++ []) :=
      Tree.apart_tokens hfits hcalm (by rintro _ ⟨⟩) trivial
    rwa [List.append_nil] at hnil
  have htidy : tidy v.write = text settledLook v.tokens :=
    tidy_of_printed hapart (Tree.doubleQuotes_write hfits)
  have hread : parse? (tidy v.write) = some (v.settle false).toJson := by
    rw [htidy]
    exact parse?_eq_some_iff.2 ((Tree.bare_settled hfits).spells .nil)
  unfold parseRelaxed?
  rw [if_pos (opensStructure_write hstruct)]
  -- the notation may be JSON text as it stands; then the steps have changed nothing
  cases hstrict : parse? v.write with
  | none => exact hread
  | some w =>
    rw [tidy_write_of_strict hfits hstrict htidy, hstrict] at hread
    exact hread

end Logbook.Console
