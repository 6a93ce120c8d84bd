import Mathlib.Data.List.Basic
import Mathlib.Data.List.Induction
import Mathlib.Data.List.TakeWhile
import Logbook.Message.Header
import Logbook.Proofs.Text.Numerals

/-!
# The places of tags

A tag is a time stamp, an id, an id with a key, or none of them, and each kind has a place of its
own. What a place holds in the end depends only on the tags that belong there: the first of the time
stamps, the last of the ids, the last tag of each key, and all others.

* `TakesSeverity`: the severity of some tags, and what stays of them;
* `IsId`, `idKey?_eq_some_iff`: ids and their keys;
* `Place`, `Belongs`, `belongs_iff`: where a tag belongs, and that there is one such place;
* `Sorts`: what tags that are sorted have to be;
* `Sorts.concat`: one more tag, wherever it belongs;
* **`sorts_classify`**: the tags of a message are sorted.
-/

namespace Logbook

/-! ## Severities -/

/-- **The severity of some tags**: it is the first tag, or stands in it in front of a space. -/
inductive TakesSeverity : List (List Char) → Option String → List (List Char) → Prop where
  | whole {s : String} (hs : s ∈ severities) (rest : List (List Char)) :
    TakesSeverity (s.toList :: rest) (some s) rest
  /-- What stands behind the space stays, without the blanks at its start. -/
  | front {s : String} (hs : s ∈ severities) (more : List Char) (rest : List (List Char)) :
    TakesSeverity ((s.toList ++ ' ' :: more) :: rest) (some s) (Text.trimStart more :: rest)
  | none {raw : List (List Char)}
    (h : ∀ first ∈ raw.head?, ∀ s ∈ severities, first ≠ s.toList ∧ ¬ s.toList ++ [' '] <+: first) :
    TakesSeverity raw none raw

theorem contains_severities_iff {cs : List Char} :
    severities.contains (String.ofList cs) = true ↔ ∃ s ∈ severities, cs = s.toList := by
  rw [List.contains_iff_mem]
  refine ⟨fun h => ⟨_, h, String.toList_ofList.symm⟩, ?_⟩
  rintro ⟨s, hs, rfl⟩
  rwa [String.ofList_toList]

theorem space_not_mem_severity {s : String} (hs : s ∈ severities) : ' ' ∉ s.toList := by
  revert s
  decide

/-- A text with a space begins with the severity that stands in front of the first one. -/
theorem eq_of_severity_prefix {s : String} (hs : s ∈ severities) {word more : List Char}
    (hword : ' ' ∉ word) (h : s.toList ++ [' '] <+: word ++ ' ' :: more) : word = s.toList := by
  obtain ⟨t, ht⟩ := h
  rw [List.append_assoc, List.singleton_append] at ht
  have hfront := congrArg (List.takeWhile (· != ' ')) ht
  rw [(Text.takeWhile_dropWhile_ne (space_not_mem_severity hs) t).1,
    (Text.takeWhile_dropWhile_ne hword more).1] at hfront
  exact hfront.symm

theorem takesSeverity_severityOf (raw : List (List Char)) :
    TakesSeverity raw (severityOf raw).1 (severityOf raw).2 := by
  unfold severityOf
  cases raw with
  | nil => exact .none fun _ h => by cases h
  | cons first rest =>
    by_cases hwhole : severities.contains (String.ofList first) = true
    · simp only [if_pos hwhole]
      obtain ⟨s, hs, rfl⟩ := contains_severities_iff.1 hwhole
      rw [String.ofList_toList]
      exact .whole hs rest
    · have hne : ∀ s ∈ severities, first ≠ s.toList := fun s hs heq =>
        hwhole (contains_severities_iff.2 ⟨s, hs, heq⟩)
      simp only [if_neg hwhole]
      -- No severity has a space in it, so one that stands in front of a space ends at the first.
      by_cases hspace : ' ' ∈ first
      · obtain ⟨word, more, rfl, hword⟩ := List.eq_append_cons_of_mem hspace
        simp only [(Text.takeWhile_dropWhile_ne hword more).1,
          (Text.takeWhile_dropWhile_ne hword more).2]
        by_cases hfront : severities.contains (String.ofList word) = true
        · simp only [if_pos hfront]
          obtain ⟨s, hs, rfl⟩ := contains_severities_iff.1 hfront
          rw [String.ofList_toList]
          exact .front hs more rest
        · simp only [if_neg hfront]
          refine .none fun first hfirst s hs => ?_
          obtain rfl := Option.some.inj hfirst
          exact ⟨hne s hs, fun h => hfront
            (contains_severities_iff.2 ⟨s, hs, eq_of_severity_prefix hs hword h⟩)⟩
      · have hnil : first.dropWhile (· != ' ') = [] := by
          refine List.dropWhile_eq_nil_iff.2 fun c hc => ?_
          exact bne_iff_ne.2 fun heq => hspace (heq ▸ hc)
        simp only [hnil]
        refine .none fun first' hfirst s hs => ?_
        obtain rfl := Option.some.inj hfirst
        exact ⟨hne s hs, fun h => hspace (h.subset (by simp))⟩

/-! ## Ids -/

/-- An id: letters, which are its key, a number sign, and anything else on the line. -/
def IsId (key tag : List Char) : Prop :=
  (∀ c ∈ key, c.isAlpha = true) ∧ ∃ rest, tag = key ++ '#' :: rest ∧ '\n' ∉ rest

theorem idKey?_eq_some_iff {key tag : List Char} : idKey? tag = some key ↔ IsId key tag := by
  constructor
  · intro h
    unfold idKey? at h
    split at h
    · next rest hdrop =>
      rw [Option.ite_none_left_eq_some] at h
      obtain ⟨hfeed, hkey⟩ := h
      obtain rfl := Option.some.inj hkey
      refine ⟨fun c hc => List.mem_takeWhile_imp hc, rest, ?_, by simpa using hfeed⟩
      rw [← hdrop, List.takeWhile_append_dropWhile]
    · cases h
  · rintro ⟨hkey, rest, rfl, hfeed⟩
    have htail : ∀ c ∈ ('#' :: rest).head?, c.isAlpha = false := by
      rintro c ⟨⟩
      rfl
    obtain ⟨htake, hdrop⟩ := Text.takeWhile_dropWhile_append hkey htail
    have hcontains : rest.contains '\n' = false := by simpa using hfeed
    simp only [idKey?, htake, hdrop, hcontains, Bool.false_eq_true, if_false]

theorem idKey?_eq_none_iff {tag : List Char} : idKey? tag = none ↔ ∀ key, ¬ IsId key tag := by
  simp only [Option.eq_none_iff_forall_ne_some, ne_eq, idKey?_eq_some_iff]

/-! ## Places -/

/-- A place for a tag. -/
inductive Place where
  | time (t : Instant)
  | id
  | named (key : String)
  | positional
  deriving DecidableEq

/-- The time of a place for time stamps. -/
def Place.time? : Place → Option Instant
  | .time t => some t
  | _ => none

/-- **Where a tag belongs.** A time stamp is nothing else. The members that a tags object has of its
own are no keys. -/
inductive Belongs : List Char → Place → Prop where
  | time {tag : List Char} {t : Instant} (h : readStamp? tag = some t) : Belongs tag (.time t)
  | id {tag : List Char} (h : readStamp? tag = none) (hid : IsId [] tag) : Belongs tag .id
  | named {key tag : List Char} (h : readStamp? tag = none) (hid : IsId key tag) (hne : key ≠ [])
    (hkey : String.ofList key ∉ Tags.reservedKeys) : Belongs tag (.named (String.ofList key))
  | reserved {key tag : List Char} (h : readStamp? tag = none) (hid : IsId key tag)
    (hkey : String.ofList key ∈ Tags.reservedKeys) : Belongs tag .positional
  | other {tag : List Char} (h : readStamp? tag = none) (hid : ∀ key, ¬ IsId key tag) :
    Belongs tag .positional

/-- The place of a tag. -/
def place (tag : List Char) : Place :=
  match readStamp? tag, idKey? tag with
  | some t, _ => .time t
  | none, none => .positional
  | none, some [] => .id
  | none, some key =>
    if Tags.reservedKeys.contains (String.ofList key) then .positional
    else .named (String.ofList key)

theorem IsId.unique {key key' tag : List Char} (h : IsId key tag) (h' : IsId key' tag) :
    key = key' :=
  Option.some.inj ((idKey?_eq_some_iff.2 h).symm.trans (idKey?_eq_some_iff.2 h'))

theorem ne_nil_of_mem_reservedKeys {key : List Char} (h : String.ofList key ∈ Tags.reservedKeys) :
    key ≠ [] := by
  rintro rfl
  revert h
  decide

theorem belongs_place (tag : List Char) : Belongs tag (place tag) := by
  unfold place
  cases ht : readStamp? tag with
  | some t => exact .time ht
  | none =>
    cases hid : idKey? tag with
    | none => exact .other ht (idKey?_eq_none_iff.1 hid)
    | some key =>
      rw [idKey?_eq_some_iff] at hid
      cases key with
      | nil => exact .id ht hid
      | cons c cs =>
        dsimp only
        split
        · next hkey => exact .reserved ht hid (List.contains_iff_mem.1 hkey)
        · next hkey =>
          exact .named ht hid (List.cons_ne_nil c cs) fun h => hkey (List.contains_iff_mem.2 h)

theorem Belongs.place_eq {tag : List Char} {p : Place} (h : Belongs tag p) : place tag = p := by
  unfold place
  cases h with
  | time ht => rw [ht]
  | id ht hid => rw [ht, idKey?_eq_some_iff.2 hid]
  | @named key _ ht hid hne hkey =>
    rw [ht, idKey?_eq_some_iff.2 hid]
    cases key with
    | nil => exact absurd rfl hne
    | cons c cs => exact if_neg fun h => hkey (List.contains_iff_mem.1 h)
  | @reserved key _ ht hid hkey =>
    rw [ht, idKey?_eq_some_iff.2 hid]
    cases key with
    | nil => exact absurd rfl (ne_nil_of_mem_reservedKeys hkey)
    | cons c cs => exact if_pos (List.contains_iff_mem.2 hkey)
  | other ht hid => rw [ht, idKey?_eq_none_iff.2 hid]

theorem Belongs.time?_eq {tag : List Char} {p : Place} (h : Belongs tag p) :
    p.time? = readStamp? tag := by
  cases h with
  | time ht | id ht _ | named ht _ _ _ | reserved ht _ _ | other ht _ => exact ht.symm

theorem belongs_iff {tag : List Char} {p : Place} : Belongs tag p ↔ place tag = p :=
  ⟨Belongs.place_eq, fun h => h ▸ belongs_place tag⟩

instance (tag : List Char) (p : Place) : Decidable (Belongs tag p) :=
  decidable_of_iff _ belongs_iff.symm

/-- An id with a key, which need not be a place. -/
def IsKeyedId (tag : List Char) : Prop := readStamp? tag = none ∧ ∃ key, key ≠ [] ∧ IsId key tag

theorem isKeyedId_iff {tag : List Char} : IsKeyedId tag ↔
    readStamp? tag = none ∧ ∃ key ∈ idKey? tag, key ≠ [] := by
  simp only [IsKeyedId, Option.mem_def, idKey?_eq_some_iff, and_comm]

instance (tag : List Char) : Decidable (IsKeyedId tag) := decidable_of_iff _ isKeyedId_iff.symm

/-! ## Sorted tags -/

/-- **What sorted tags have to be.** -/
structure Sorts (tags : List (List Char)) (c : Classified) : Prop where
  /-- The time is that of the first time stamp. -/
  time : c.time = tags.findSome? readStamp?
  /-- The id is the last one without a key, or else the first one with a key. -/
  id : c.id =
    ((tags.filter (Belongs · .id)).getLast?.or (tags.find? (IsKeyedId ·))).map String.ofList
  sorted : Keyed.Sorted c.tags.named
  /-- A key has the last tag with that key. -/
  named : ∀ key, Keyed.find? key c.tags.named =
    (tags.filter (Belongs · (.named key))).getLast?.map String.ofList
  /-- All other tags stay in order. -/
  positional : c.tags.positional = (tags.filter (Belongs · .positional)).map String.ofList

/-! ## One more tag -/

namespace Classified

variable (c : Classified) (tag : List Char)

/-- One more tag changes what its place holds. An id with a key can be the id beside that. -/
theorem add_eq : c.add tag = match place tag with
    | .time t => { c with time := c.time.or (some t) }
    | .id => { c with id := some (String.ofList tag) }
    | .named key =>
      { c with
        id := c.id.or (some (String.ofList tag))
        tags := { c.tags with named := Keyed.insert key (String.ofList tag) c.tags.named } }
    | .positional =>
      { c with
        id := if IsKeyedId tag then c.id.or (some (String.ofList tag)) else c.id
        tags := { c.tags with positional := c.tags.positional ++ [String.ofList tag] } } := by
  unfold add place
  cases ht : readStamp? tag with
  | some t => rfl
  | none =>
    cases hid : idKey? tag with
    | none =>
      have hnot : ¬ IsKeyedId tag := by simp [isKeyedId_iff, hid]
      simp only [if_neg hnot]
    | some key =>
      cases key with
      | nil => rfl
      | cons l ls =>
        have hkeyed : IsKeyedId tag := isKeyedId_iff.2 ⟨ht, _, hid, List.cons_ne_nil l ls⟩
        by_cases hkey : Tags.reservedKeys.contains (String.ofList (l :: ls)) = true
        · simp only [if_pos hkey, if_pos hkeyed]
        · simp only [if_neg hkey]

theorem kind_add : (c.add tag).tags.kind = c.tags.kind := by
  rw [add_eq]
  cases place tag <;> rfl

theorem time_add : (c.add tag).time = c.time.or (readStamp? tag) := by
  rw [add_eq, ← (belongs_place tag).time?_eq]
  cases place tag with
  | time t => rfl
  | _ => exact (Option.or_none).symm

theorem id_add : (c.add tag).id =
    if Belongs tag .id then some (String.ofList tag)
    else if IsKeyedId tag then c.id.or (some (String.ofList tag)) else c.id := by
  rw [add_eq]
  simp only [belongs_iff]
  have hplace := belongs_place tag
  cases hp : place tag with
  | time t =>
    have hnot : ¬ IsKeyedId tag := by
      rintro ⟨hnone, -⟩
      rw [hp] at hplace
      cases hplace with
      | time ht =>
        rw [ht] at hnone
        cases hnone
    simp [hnot]
  | id => simp
  | named key =>
    have hkeyed : IsKeyedId tag := by
      rw [hp] at hplace
      cases hplace with
      | named ht hid hne _ => exact ⟨ht, _, hne, hid⟩
    simp [hkeyed]
  | positional => simp

theorem sorted_add (h : Keyed.Sorted c.tags.named) : Keyed.Sorted (c.add tag).tags.named := by
  rw [add_eq]
  cases place tag with
  | named key => exact Keyed.sorted_insert key _ h
  | _ => exact h

theorem find?_named_add (key : String) : Keyed.find? key (c.add tag).tags.named =
    if Belongs tag (.named key) then some (String.ofList tag)
    else Keyed.find? key c.tags.named := by
  rw [add_eq]
  simp only [belongs_iff]
  cases place tag with
  | named key' => simp [Keyed.find?_insert, eq_comm]
  | _ => simp

theorem positional_add : (c.add tag).tags.positional =
    c.tags.positional ++ if Belongs tag .positional then [String.ofList tag] else [] := by
  rw [add_eq]
  simp only [belongs_iff]
  cases place tag <;> simp

end Classified

namespace Sorts

variable {tags : List (List Char)} {c : Classified}

theorem empty (kind : Option String) : Sorts [] { tags := { kind } } where
  time := rfl
  id := rfl
  sorted := List.Pairwise.nil
  named _ := rfl
  positional := rfl

theorem filter_concat (tags : List (List Char)) (tag : List Char) (p : Place) :
    (tags ++ [tag]).filter (Belongs · p) =
      tags.filter (Belongs · p) ++ if Belongs tag p then [tag] else [] := by
  rw [List.filter_append]
  by_cases hp : Belongs tag p <;> simp [hp]

/-- **One more tag is put into its place.** -/
theorem concat (h : Sorts tags c) (tag : List Char) : Sorts (tags ++ [tag]) (c.add tag) where
  time := by
    rw [Classified.time_add, h.time, List.findSome?_append]
    simp
  id := by
    rw [Classified.id_add, filter_concat, List.find?_append]
    -- An id replaces the one before, also where that has a key; an id with a key replaces none.
    by_cases hid : Belongs tag .id
    · rw [if_pos hid, if_pos hid, List.getLast?_concat, Option.some_or, Option.map_some]
    · rw [if_neg hid, if_neg hid, List.append_nil, h.id]
      by_cases hkeyed : IsKeyedId tag <;> simp [hkeyed]
  sorted := c.sorted_add tag h.sorted
  named key := by
    rw [Classified.find?_named_add, filter_concat, h.named key]
    by_cases hkey : Belongs tag (.named key)
    · rw [if_pos hkey, if_pos hkey, List.getLast?_concat, Option.map_some]
    · rw [if_neg hkey, if_neg hkey, List.append_nil]
  positional := by
    rw [Classified.positional_add, filter_concat, h.positional, List.map_append]
    by_cases hrest : Belongs tag .positional
    · rw [if_pos hrest, if_pos hrest, List.map_singleton]
    · rw [if_neg hrest, if_neg hrest, List.map_nil]

theorem foldl (kind : Option String) (tags : List (List Char)) :
    Sorts tags (tags.foldl Classified.add { tags := { kind } }) := by
  induction tags using List.reverseRecOn with
  | nil => exact empty kind
  | append_singleton tags tag ih =>
    rw [List.foldl_append]
    exact ih.concat tag

theorem injective_ofList : Function.Injective String.ofList := fun _ _ => String.ofList_injective

/-- What a place holds belongs there. -/
theorem belongs_of_positional (h : Sorts tags c) {tag : List Char}
    (hmem : String.ofList tag ∈ c.tags.positional) : Belongs tag .positional := by
  rw [h.positional, List.mem_map_of_injective injective_ofList] at hmem
  exact of_decide_eq_true (List.mem_filter.1 hmem).2

theorem belongs_of_find? (h : Sorts tags c) {tag : List Char} {key : String}
    (hfind : Keyed.find? key c.tags.named = some (String.ofList tag)) :
    Belongs tag (.named key) := by
  rw [h.named, ← Option.map_some, (Option.map_injective injective_ofList).eq_iff] at hfind
  exact of_decide_eq_true (List.mem_filter.1 (List.mem_of_getLast? hfind)).2

theorem readStamp?_of_id (h : Sorts tags c) {tag : List Char}
    (hid : c.id = some (String.ofList tag)) : readStamp? tag = none := by
  rw [h.id, ← Option.map_some, (Option.map_injective injective_ofList).eq_iff,
    Option.or_eq_some_iff] at hid
  rcases hid with hlast | ⟨-, hfirst⟩
  · have hbelongs : Belongs tag .id :=
      of_decide_eq_true (List.mem_filter.1 (List.mem_of_getLast? hlast)).2
    exact hbelongs.time?_eq.symm
  · have hkeyed := List.find?_some hfirst
    exact (of_decide_eq_true hkeyed).1

end Sorts

/-! ## The tags of a message -/

theorem kind_foldl_add (tags : List (List Char)) (c : Classified) :
    (tags.foldl Classified.add c).tags.kind = c.tags.kind := by
  induction tags generalizing c with
  | nil => rfl
  | cons tag tags ih => rw [List.foldl_cons, ih, Classified.kind_add]

/-- **The tags of a message are sorted.** Behind the severity each tag has one place; a time stamp
is found in no other one, and an id stands with the tags of no kind only for a key that is a member
of every tags object. -/
theorem sorts_classify (raw : List (List Char)) :
    ∃ tags, TakesSeverity raw (classify raw).tags.kind tags ∧
      (∀ tag ∈ tags, ∃! p, Belongs tag p) ∧ Sorts tags (classify raw) ∧
      (∀ tag, (readStamp? tag).isSome = true → (classify raw).id ≠ some (String.ofList tag) ∧
        (∀ key, Keyed.find? key (classify raw).tags.named ≠ some (String.ofList tag)) ∧
        String.ofList tag ∉ (classify raw).tags.positional) ∧
      ∀ tag key, String.ofList tag ∈ (classify raw).tags.positional → IsId key tag →
        String.ofList key ∈ Tags.reservedKeys := by
  have hsorts : Sorts (severityOf raw).2 (classify raw) := Sorts.foldl _ _
  have hkind : (classify raw).tags.kind = (severityOf raw).1 := kind_foldl_add _ _
  refine ⟨(severityOf raw).2, hkind ▸ takesSeverity_severityOf raw, fun tag _ =>
    ⟨place tag, belongs_place tag, fun p hp => hp.place_eq.symm⟩, hsorts, fun tag ht => ?_,
    fun tag key hmem hid => ?_⟩
  · refine ⟨fun hid => ?_, fun key hkey => ?_, fun hmem => ?_⟩
    · rw [hsorts.readStamp?_of_id hid] at ht
      cases ht
    · rw [← (hsorts.belongs_of_find? hkey).time?_eq] at ht
      cases ht
    · rw [← (hsorts.belongs_of_positional hmem).time?_eq] at ht
      cases ht
  · cases hsorts.belongs_of_positional hmem with
    | reserved _ hid' hkey => exact hid.unique hid' ▸ hkey
    | other _ hnone => exact absurd hid (hnone key)

example :
    let c := classify (["INFO a", "10:00:00", "req#1", "kind#2", "#3", "req#4"].map String.toList)
    c.tags = ⟨some "INFO", [("req", "req#4")], ["a", "kind#2"]⟩ ∧ c.id = some "#3" := by
  decide +kernel

end Logbook
