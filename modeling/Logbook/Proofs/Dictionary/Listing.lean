import Logbook.Proofs.Dictionary.Description
import Logbook.Proofs.Keyed

/-!
# Listing a dictionary

The rows of a dictionary are its entries by their paths. Every level of a dictionary is in ascending
order of name, so that the paths are in ascending order as lists of names.

* `Dictionary.listed`: the entries of a dictionary with their paths, and `Dictionary.flatten_eq`:
  the rows are these;
* `Dictionary.Ordered`: every level is in ascending order, and `ordered_dictionary`;
* `Dictionary.mem_listed`: what is listed is what the dictionary has at a path;
* **`Dictionary.pairwise_listed`**: the paths are in ascending order.
-/

namespace Logbook

mutual

/-- The entries below an entry, each with its path from there. -/
def Entry.inner : Entry → List (List String × Entry)
  | ⟨_, _, some nested⟩ => Dictionary.listed nested
  | ⟨_, _, none⟩ => []

/-- **The entries of a dictionary**, each with its path, an entry ahead of those below it. -/
def Dictionary.listed : Dictionary → List (List String × Entry)
  | [] => []
  | (k, e) :: rest => ([k], e) :: (e.inner.map (fun x => (k :: x.1, x.2)) ++ Dictionary.listed rest)

end

/-- How a path is written that goes on from a written one. -/
def writtenFrom (path : String) (names : List String) : String := names.foldl memberPath path

theorem Entry.inner_eq (e : Entry) : e.inner = Dictionary.listed (e.nested.getD []) := by
  obtain ⟨kinds, note, nested⟩ := e
  cases nested with
  | none => rfl
  | some nested => rw [Entry.inner]; rfl

theorem Entry.rows_eq (e : Entry) (path : String) :
    e.rows path = entryRows path (e.nested.getD []) := by
  obtain ⟨kinds, note, nested⟩ := e
  cases nested with
  | none => rfl
  | some nested => rw [Entry.rows]; rfl

namespace Dictionary

theorem listed_cons (k : String) (e : Entry) (rest : Dictionary) :
    listed ((k, e) :: rest) = ([k], e) ::
      ((listed (e.nested.getD [])).map (fun x => (k :: x.1, x.2)) ++ listed rest) := by
  rw [listed, Entry.inner_eq]

/-! ## Induction on dictionaries -/

mutual

theorem induct_nested {motive : Dictionary → Prop} (nil : motive [])
    (cons : ∀ k e rest, motive (e.nested.getD []) → motive rest → motive ((k, e) :: rest)) :
    ∀ e : Entry, motive (e.nested.getD [])
  | ⟨_, _, some nested⟩ => induct nil cons nested
  | ⟨_, _, none⟩ => nil

/-- **Induction on a dictionary**: on the entries below its first entry, and on the other ones. -/
theorem induct {motive : Dictionary → Prop} (nil : motive [])
    (cons : ∀ k e rest, motive (e.nested.getD []) → motive rest → motive ((k, e) :: rest)) :
    ∀ d : Dictionary, motive d
  | [] => nil
  | (k, e) :: rest => cons k e rest (induct_nested nil cons e) (induct nil cons rest)

end

theorem entryRows_eq (d : Dictionary) (path : String) :
    entryRows path d = (listed d).map fun x => (writtenFrom path x.1, x.2.hint) := by
  induction d using induct generalizing path with
  | nil => rfl
  | cons k e rest nested ih =>
    rw [entryRows, Entry.rows_eq, nested, ih, listed_cons, List.map_cons, List.map_append,
      List.map_map]
    rfl

/-! ## Order -/

/-- **Every level of a dictionary is in ascending order** of name. -/
def Ordered (d : Dictionary) : Prop :=
  Keyed.Sorted d ∧ ∀ path e, d.at? path = some e → Keyed.Sorted (e.nested.getD [])

variable {d others : Dictionary} {k : String} {e : Entry}

theorem at?_cons_self (k : String) (e : Entry) (others : Dictionary) (path : List String) :
    at? ((k, e) :: others) (k :: path) = e.at? path := by
  rw [at?, Keyed.find?, if_pos rfl, Option.bind_some]

theorem at?_cons_ne {name : String} (h : name ≠ k) (path : List String) :
    at? ((k, e) :: others) (name :: path) = at? others (name :: path) := by
  rw [at?, at?, Keyed.find?, if_neg h]

/-- A path begins with a name of the dictionary. -/
theorem exists_cons_of_at? {path : List String} (h : d.at? path = some e) :
    ∃ name below, path = name :: below ∧ name ∈ d.map Prod.fst := by
  cases path with
  | nil => cases h
  | cons name below =>
    refine ⟨name, below, rfl, by_contra fun hname => ?_⟩
    rw [at?, Keyed.find?_eq_none_iff.2 hname] at h
    cases h

theorem lt_of_mem_others (h : Keyed.Sorted ((k, e) :: others)) {name : String}
    (hname : name ∈ others.map Prod.fst) : k < name := by
  obtain ⟨m, hm, rfl⟩ := List.mem_map.1 hname
  exact (List.pairwise_cons.1 h).1 m hm

theorem Ordered.head (h : Ordered ((k, e) :: others)) : Ordered (e.nested.getD []) := by
  refine ⟨h.2 [k] e (at?_cons_self k e others []), fun path x hx => h.2 (k :: path) x ?_⟩
  obtain ⟨name, below, rfl, -⟩ := exists_cons_of_at? hx
  rw [at?_cons_self]
  exact hx

theorem Ordered.tail (h : Ordered ((k, e) :: others)) : Ordered others := by
  refine ⟨(List.pairwise_cons.1 h.1).2, fun path x hx => h.2 path x ?_⟩
  obtain ⟨name, below, rfl, hname⟩ := exists_cons_of_at? hx
  rw [at?_cons_ne (String.ne_of_lt (lt_of_mem_others h.1 hname)).symm]
  exact hx

/-- **What is listed** is what the dictionary has at a path. -/
theorem mem_listed (h : Ordered d) {path : List String} :
    (path, e) ∈ listed d ↔ d.at? path = some e := by
  induction d using induct generalizing path e with
  | nil => cases path <;> simp [listed, at?]
  | cons k first others nested ih =>
    rw [listed_cons, List.mem_cons, List.mem_append, ih h.tail]
    constructor
    · rintro (heq | hnested | hothers)
      · obtain ⟨rfl, rfl⟩ := Prod.mk.inj heq
        exact at?_cons_self k e others []
      · obtain ⟨⟨below, x⟩, hx, heq⟩ := List.mem_map.1 hnested
        obtain ⟨rfl, rfl⟩ := Prod.mk.inj heq
        have hat := (nested h.head).1 hx
        obtain ⟨name, below, rfl, -⟩ := exists_cons_of_at? hat
        rw [at?_cons_self]
        exact hat
      · obtain ⟨name, below, rfl, hname⟩ := exists_cons_of_at? hothers
        rw [at?_cons_ne (String.ne_of_lt (lt_of_mem_others h.1 hname)).symm]
        exact hothers
    · intro hat
      obtain ⟨name, below, rfl, hname⟩ := exists_cons_of_at? hat
      by_cases hk : name = k
      · subst hk
        rw [at?_cons_self] at hat
        cases below with
        | nil =>
          obtain rfl := Option.some.inj hat
          exact .inl rfl
        | cons name' below =>
          exact .inr (.inl (List.mem_map.2 ⟨(name' :: below, e), (nested h.head).2 hat, rfl⟩))
      · rw [at?_cons_ne hk] at hat
        exact .inr (.inr hat)

/-- **The paths are in ascending order.** -/
theorem pairwise_listed (h : Ordered d) : (listed d).Pairwise fun a b => a.1 < b.1 := by
  induction d using induct with
  | nil => exact List.Pairwise.nil
  | cons k first others nested ih =>
    have hothers : ∀ b ∈ listed others, ∀ below, k :: below < b.1 := by
      intro b hb below
      obtain ⟨name, path, hpath, hname⟩ := exists_cons_of_at? ((mem_listed h.tail).1 hb)
      rw [hpath, List.cons_lt_cons_iff]
      exact .inl (lt_of_mem_others h.1 hname)
    rw [listed_cons, List.pairwise_cons, List.pairwise_append, List.pairwise_map]
    refine ⟨?_, ?_, ih h.tail, ?_⟩
    · intro b hb
      rcases List.mem_append.1 hb with hb | hb
      · obtain ⟨x, hx, rfl⟩ := List.mem_map.1 hb
        obtain ⟨name, path, hpath, -⟩ := exists_cons_of_at? ((mem_listed h.head).1 hx)
        rw [List.cons_lt_cons_iff, hpath]
        exact .inr ⟨rfl, List.nil_lt_cons name path⟩
      · exact hothers b hb []
    · exact (nested h.head).imp fun hlt => List.cons_lt_cons_iff.2 (.inr ⟨rfl, hlt⟩)
    · intro a ha b hb
      obtain ⟨x, -, rfl⟩ := List.mem_map.1 ha
      exact hothers b hb x.1

end Dictionary

/-! ## The order of a dictionary of records -/

namespace Shape

theorem sorted_seeItems (items : List Value) {shapes : List (String × Shape)}
    (h : Keyed.Sorted shapes) : Keyed.Sorted (seeItems items shapes) := by
  induction items generalizing shapes with
  | nil => rwa [seeItems]
  | cons v vs ih =>
    rw [seeItems]
    exact ih (Keyed.sorted_insert _ _ h)

theorem sorted_seeMembers (ms : List (String × Value)) {shapes : List (String × Shape)}
    (h : Keyed.Sorted shapes) : Keyed.Sorted (seeMembers ms shapes) := by
  induction ms generalizing shapes with
  | nil => rwa [seeMembers]
  | cons m ms ih =>
    rw [seeMembers]
    exact ih (Keyed.sorted_insert _ _ h)

theorem sorted_see (v : Value) {s : Shape} (h : Keyed.Sorted s.members) :
    Keyed.Sorted (see v s).members := by
  cases v with
  | arr items => exact sorted_seeItems items h
  | obj ms => exact sorted_seeMembers ms h
  | _ => exact (members_addKind _ s).symm ▸ h

theorem sorted_ofValues (vs : List Value) : Keyed.Sorted (ofValues vs).members := by
  induction vs using List.reverseRecOn with
  | nil => exact List.Pairwise.nil
  | append_singleton vs v ih =>
    rw [ofValues_concat]
    exact sorted_see v ih

theorem keys_markMembers (vs : List Value) (ms : List (String × Shape)) :
    (markMembers vs ms).map Prod.fst = ms.map Prod.fst := by
  induction ms with
  | nil => rfl
  | cons m ms ih => rw [markMembers, List.map_cons, List.map_cons, ih]

theorem keys_toEntries (ms : List (String × Shape)) :
    (toEntries ms).map Prod.fst = ms.map Prod.fst := by
  induction ms with
  | nil => rw [toEntries]; rfl
  | cons m ms ih => rw [toEntries, List.map_cons, List.map_cons, ih]

/-- The entries of shapes with marks are in the order of the shapes. -/
theorem sorted_toEntries_markMembers (vs : List Value) {ms : List (String × Shape)}
    (h : Keyed.Sorted ms) : Keyed.Sorted (toEntries (markMembers vs ms)) :=
  h.of_keys ((keys_toEntries _).trans (keys_markMembers vs ms))

end Shape

/-- **Every level of the dictionary of some records is in ascending order.** -/
theorem ordered_dictionary (rs : List Record) : (dictionary rs).Ordered := by
  constructor
  · have hkeys :
        (dictionary rs).map Prod.fst = (Shape.toEntries (fieldShapes rs)).map Prod.fst := by
      rw [dictionary, List.map_map]
      exact List.map_congr_left fun p _ => fst_withNote p
    exact (Shape.sorted_toEntries_markMembers _ (Shape.sorted_ofValues _)).of_keys hkeys
  · intro path e he
    obtain ⟨above, name, rfl⟩ := eq_concat_of_at? he
    rw [at?_dictionary, Option.map_eq_some_iff] at he
    obtain ⟨s, hs, rfl⟩ := he
    obtain ⟨-, rfl⟩ := Shape.ofValues?_eq_some hs
    have hnested (path : List String) (s : Shape) : (s.entryAt path).nested = s.toEntry.nested :=
      rfl
    rw [hnested, Shape.nested_toEntry, Shape.members_markAbsent]
    split
    · exact Shape.sorted_toEntries_markMembers _ (Shape.sorted_ofValues _)
    · exact List.Pairwise.nil

end Logbook
