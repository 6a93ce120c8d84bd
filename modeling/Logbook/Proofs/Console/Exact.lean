import Logbook.Proofs.Console.Reading
import Logbook.Proofs.Keyed

/-!
# When relaxed reading is exact

* `Tree.Distinct`: the names in each object differ;
* `Tree.settle_eq_of_toJson`: structured data tells a value from the settled one;
* `settledText_eq_self`: texts that settling leaves alone;
* **`parseRelaxed_write`**: relaxed reading gives the value that was printed just if no text of it
  is changed by settling.
-/

namespace Logbook.Console

open Relaxed Json

/-! ## Names that differ -/

namespace Tree

mutual

/-- The names in each object differ. -/
def Distinct : Tree → Prop
  | arr items => DistinctItems items
  | obj members => (members.map Prod.fst).Nodup ∧ DistinctMembers members
  | undefined | null | bool _ | int _ | str _ => True

/-- The names in each object among some items differ. -/
def DistinctItems : List Tree → Prop
  | [] => True
  | v :: vs => v.Distinct ∧ DistinctItems vs

/-- The names in each object among some values differ. -/
def DistinctMembers : List (String × Tree) → Prop
  | [] => True
  | (_, v) :: ms => v.Distinct ∧ DistinctMembers ms

end

theorem keys_settleMembers (ms : List (String × Tree)) :
    (settleMembers ms).map Prod.fst = ms.map Prod.fst := by
  induction ms with
  | nil => rfl
  | cons m ms ih => exact congrArg (m.1 :: ·) ih

theorem keys_membersJson (ms : List (String × Tree)) :
    ((membersJson ms).map Prod.fst).Sublist (ms.map Prod.fst) := by
  induction ms with
  | nil => exact .slnil
  | cons m ms ih =>
    obtain ⟨k, v⟩ := m
    unfold membersJson
    split
    · exact ih.cons k
    · exact ih.cons_cons k

theorem eq_of_ofList_membersJson {ms : List (String × Tree)} (hms : (ms.map Prod.fst).Nodup)
    (h : Keyed.ofList (membersJson (settleMembers ms)) = Keyed.ofList (membersJson ms)) :
    ∀ k x y, (k, x) ∈ membersJson (settleMembers ms) → (k, y) ∈ membersJson ms → x = y := by
  intro k x y hx hy
  -- settling keeps the names, so each is found once on both sides
  have hsettled : ((membersJson (settleMembers ms)).map Prod.fst).Nodup := by
    have hkeys := keys_membersJson (settleMembers ms)
    rw [keys_settleMembers] at hkeys
    exact hms.sublist hkeys
  have hfind := (Keyed.find?_ofList_eq_some_iff hsettled).2 hx
  rw [h, (Keyed.find?_ofList_eq_some_iff (hms.sublist (keys_membersJson ms))).2 hy] at hfind
  exact (Option.some.inj hfind).symm

mutual

/-- **Structured data tells a value from the settled one**, if these differ. -/
theorem settle_eq_of_toJson : ∀ {v : Tree} {member : Bool}, v.Distinct →
    (v.settle member).toJson = v.toJson → v.settle member = v
  | undefined, _, _, _ => rfl
  | null, _, _, _ => rfl
  | bool _, _, _, _ => rfl
  | int _, _, _, _ => rfl
  | str s, member, _, h => by
    unfold settle toJson at h
    rw [settle, Json.str.inj h]
  | arr items, member, hd, h => by
    unfold Distinct at hd
    unfold settle toJson at h
    rw [settle, settleItems_eq_of_itemsJson hd (Json.arr.inj h)]
  | obj members, member, hd, h => by
    unfold Distinct at hd
    unfold settle toJson at h
    rw [settle, settleMembers_eq_of_membersJson hd.2
      (eq_of_ofList_membersJson hd.1 (Json.obj.inj h))]

theorem settleItems_eq_of_itemsJson : ∀ {vs : List Tree}, DistinctItems vs →
    itemsJson (settleItems vs) = itemsJson vs → settleItems vs = vs
  | [], _, _ => rfl
  | v :: vs, hd, h => by
    unfold DistinctItems at hd
    unfold settleItems itemsJson at h
    obtain ⟨hv, hvs⟩ := List.cons.inj h
    rw [settleItems, settle_eq_of_toJson hd.1 hv, settleItems_eq_of_itemsJson hd.2 hvs]

theorem settleMembers_eq_of_membersJson : ∀ {ms : List (String × Tree)}, DistinctMembers ms →
    (∀ k x y, (k, x) ∈ membersJson (settleMembers ms) → (k, y) ∈ membersJson ms → x = y) →
      settleMembers ms = ms
  | [], _, _ => rfl
  | (k, v) :: ms, hd, h => by
    unfold DistinctMembers at hd
    rw [settleMembers, membersJson, membersJson, isUndefined_settle] at h
    cases hv : v.isUndefined with
    | true =>
      rw [hv] at h
      rw [settleMembers, settleMembers_eq_of_membersJson hd.2 h, eq_undefined hv]
      rfl
    | false =>
      rw [hv] at h
      have hvalue : (v.settle true).toJson = v.toJson :=
        h k _ _ List.mem_cons_self List.mem_cons_self
      have hms := settleMembers_eq_of_membersJson hd.2 fun k x y hx hy =>
        h k x y (List.mem_cons_of_mem _ hx) (List.mem_cons_of_mem _ hy)
      rw [settleMembers, hms, settle_eq_of_toJson hd.1 hvalue]

end

end Tree

/-! ## Texts that settling leaves alone -/

theorem closesStructure_masked (s : List Char) :
    closesStructure (masked s) = closesStructure s := by
  induction s with
  | nil => rfl
  | cons c s ih =>
    rw [masked_cons]
    by_cases hc : c = ':'
    · subst hc
      rfl
    · rw [if_neg hc, List.singleton_append]
      unfold closesStructure at ih ⊢
      by_cases hblank : Text.isBlank c = true
      · rw [List.dropWhile_cons_of_pos hblank, List.dropWhile_cons_of_pos hblank]
        exact ih
      · rw [List.dropWhile_cons_of_neg hblank, List.dropWhile_cons_of_neg hblank]

/-- A text with or without masks keeps its commas, if none stands in front of a bracket. -/
theorem dropTrailingCommas_eq_self {s : List Char}
    (h : ∀ x y, s = x ++ ',' :: y → closesStructure y = false) :
    dropTrailingCommas s = s ∧ dropTrailingCommas (masked s) = masked s := by
  induction s with
  | nil => exact ⟨rfl, rfl⟩
  | cons c s ih =>
    obtain ⟨hs, hmasked⟩ := ih fun x y heq => h (c :: x) y (congrArg (c :: ·) heq)
    rw [masked_cons]
    by_cases hcomma : c = ','
    · subst hcomma
      have hcloses : closesStructure s = false := h [] s rfl
      rw [if_neg (by decide), List.singleton_append, dropTrailingCommas_comma,
        dropTrailingCommas_comma, closesStructure_masked, hcloses, hs, hmasked]
      exact ⟨rfl, rfl⟩
    · have hhead : ',' ∉ if c = ':' then mask else [c] := by
        split
        · decide
        · exact fun hmem => hcomma (List.mem_singleton.1 hmem).symm
      rw [dropTrailingCommas_cons_of_ne hcomma, hs, dropTrailingCommas_append hhead, hmasked]
      exact ⟨rfl, rfl⟩

theorem unmaskColons_masked {s : List Char} (h : '@' ∉ s) : unmaskColons (masked s) = s := by
  induction s with
  | nil => rfl
  | cons c s ih =>
    obtain ⟨hc, hs⟩ := List.ne_and_not_mem_of_not_mem_cons h
    rw [masked_cons]
    by_cases hcolon : c = ':'
    · rw [if_pos hcolon, unmaskColons_mask, ih hs, hcolon]
    · rw [if_neg hcolon, List.singleton_append, unmaskColons_cons_of_ne (Ne.symm hc), ih hs]

/-- **A text stays as it is**, if it has no part of a mask and no comma in front of a bracket. -/
theorem settledText_eq_self {s : List Char} (hat : '@' ∉ s)
    (hcomma : ∀ x y, s = x ++ ',' :: y → closesStructure y = false) (member : Bool) :
    settledText member s = s := by
  obtain ⟨hs, hmasked⟩ := dropTrailingCommas_eq_self hcomma
  unfold settledText
  cases member with
  | true => rw [if_pos rfl, hmasked, unmaskColons_masked hat]
  | false =>
    have hunmask := unmaskColons_append hat []
    rw [List.append_nil, unmaskColons_nil, List.append_nil] at hunmask
    rw [if_neg Bool.false_ne_true, hs, hunmask]

/-! ## What is printed and what is read -/

/-- **What a console prints is read back with its texts settled**: names, items and members stay,
and the value is the one that was printed just if no text is changed. -/
theorem parseRelaxed_write {v : Tree} (hstruct : v.IsStructure) (hfits : v.Fits maxNesting)
    (hnames : v.Distinct) (hcalm : v.Calm false) :
    parseRelaxed? v.write = some (v.settle false).toJson ∧
      (parseRelaxed? v.write = some v.toJson ↔ v.settle false = v) := by
  have hread := parseRelaxed?_write hstruct hfits hcalm
  refine ⟨hread, ?_⟩
  rw [hread]
  constructor
  · intro h
    exact Tree.settle_eq_of_toJson hnames (Option.some.inj h)
  · intro h
    rw [h]

/-- An address with colons, a member without a value, and an array with a text. -/
def request : Tree :=
  .obj [("url", .str "http://host:80/x"), ("gone", .undefined),
    ("rows", .arr [.bool true, .str "a, b"])]

theorem parseRelaxed_write_request :
    (request.IsStructure ∧ request.Fits maxNesting ∧ request.Distinct ∧ request.Calm false) ∧
      parseRelaxed? request.write =
        some (.obj
          [("rows", .arr [.bool true, .str "a, b"]), ("url", .str "http://host:80/x")]) := by
  have hurl : BareName "url".toList := ⟨by decide +kernel, List.all_eq_true.1 (by decide +kernel)⟩
  have hgone : BareName "gone".toList :=
    ⟨by decide +kernel, List.all_eq_true.1 (by decide +kernel)⟩
  have hrows : BareName "rows".toList :=
    ⟨by decide +kernel, List.all_eq_true.1 (by decide +kernel)⟩
  have haddress : PlainText "http://host:80/x".toList :=
    List.all_iff_forall_prop.1 (by decide +kernel)
  have hrow : PlainText "a, b".toList := List.all_iff_forall_prop.1 (by decide +kernel)
  have hstruct : request.IsStructure := trivial
  have hfits : request.Fits maxNesting :=
    ⟨hurl, .inr haddress, hgone, .inl rfl, hrows, .inr ⟨trivial, hrow, trivial⟩, trivial⟩
  have hnames : request.Distinct :=
    ⟨by decide +kernel, trivial, trivial, ⟨trivial, trivial, trivial⟩, trivial⟩
  have hcalm : request.Calm false :=
    ⟨.inl rfl, trivial, ⟨trivial, .inr (by decide +kernel), trivial⟩, trivial⟩
  have htext : settledText true "http://host:80/x".toList = "http://host:80/x".toList := by
    refine settledText_eq_self (by decide +kernel) (fun x y heq => ?_) true
    have hcomma : ',' ∉ "http://host:80/x".toList := by decide +kernel
    rw [heq] at hcomma
    simp at hcomma
  have htext' : settledText false "a, b".toList = "a, b".toList := by decide +kernel
  have hsettled : request.settle false = request := by
    simp only [request, Tree.settle, Tree.settleMembers, Tree.settleItems, htext, htext',
      String.ofList_toList]
  have hjson : request.toJson =
      .obj [("rows", .arr [.bool true, .str "a, b"]), ("url", .str "http://host:80/x")] := rfl
  rw [← hjson]
  exact ⟨⟨hstruct, hfits, hnames, hcalm⟩,
    (parseRelaxed_write hstruct hfits hnames hcalm).2.2 hsettled⟩

/-- Not each value is read back: in this one the comma of a text is lost. -/
theorem not_parseRelaxed_write :
    ¬∀ v : Tree, v.IsStructure → v.Fits maxNesting → v.Distinct →
      parseRelaxed? v.write = some v.toJson := by
  intro h
  have hfits : Tree.Fits maxNesting (.obj [("a", .str "x,]")]) := by
    have hname : BareName "a".toList :=
      ⟨by decide +kernel, List.all_eq_true.1 (by decide +kernel)⟩
    have hplain : PlainText "x,]".toList :=
      List.all_iff_forall_prop.1 (by decide +kernel)
    exact ⟨hname, .inr hplain, trivial⟩
  have hnames : Tree.Distinct (.obj [("a", .str "x,]")]) := ⟨by decide +kernel, trivial, trivial⟩
  have hcalm : Tree.Calm false (.obj [("a", .str "x,]")]) := ⟨.inl rfl, trivial⟩
  have hstruct : Tree.IsStructure (.obj [("a", .str "x,]")]) := trivial
  have hread := h _ hstruct hfits hnames
  rw [parseRelaxed?_write hstruct hfits hcalm] at hread
  have hsettled := Tree.settle_eq_of_toJson hnames (Option.some.inj hread)
  simp only [Tree.settle, Tree.settleMembers, Tree.obj.injEq, List.cons.injEq, Prod.mk.injEq,
    Tree.str.injEq, and_true, true_and] at hsettled
  revert hsettled
  decide +kernel

end Logbook.Console
