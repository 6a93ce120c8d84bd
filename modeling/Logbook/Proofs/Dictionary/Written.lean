import Logbook.Proofs.Dictionary.Listing
import Logbook.Proofs.Dictionary.Missing
import Logbook.Proofs.Text.Pieces

/-!
# Written paths

In a written path a dot stands ahead of a name and brackets stand for an item. A name may have a dot
in it and brackets at its end, and then reads as several steps.

* `Undivided`: a name that is read as a single step;
* `Step.text`, `Step.Whole`: a step as it is written, and one that is a single step when read;
* `steps`, `flatMap_text_steps`: the steps that a path is read as, which write it;
* `append_text_inj`, **`flatMap_text_inj`**: whole steps are told from what they write;
* `written_eq_iff`: two paths are written the same just if they are read as the same steps;
* **`lists_flatten`**: the rows list every entry once, and their paths differ unless two of them are
  read as the same steps;
* **`not_nodup_flatten`**: a name with a dot has the path of another member.
-/

namespace Logbook

/-! ## Steps as they are written -/

/-- A name without a dot in it, and without brackets at the end of it. -/
def Undivided (name : String) : Prop := '.' ∉ name.toList ∧ ¬ ['[', ']'] <:+ name.toList

instance (name : String) : Decidable (Undivided name) := inferInstanceAs (Decidable (_ ∧ _))

namespace Step

/-- A step as it is written behind a path. -/
def text : Step → List Char
  | .member name => '.' :: name.toList
  | .item => ['[', ']']

/-- A step that is read as a single one when it is written. -/
def Whole : Step → Prop
  | .member name => Undivided name
  | .item => True

theorem text_ne_nil (s : Step) : s.text ≠ [] := by
  cases s <;> simp [text]

theorem not_brackets_suffix {name : String} (h : (member name).Whole) (X : List Char) :
    ¬ ['[', ']'] <:+ X ++ (member name).text := by
  have hname : ¬ [']', '['] <+: name.toList.reverse := fun hprefix =>
    h.2 (List.reverse_prefix.1 hprefix)
  have hdot : ('.' :: name.toList).reverse = name.toList.reverse ++ ['.'] := List.reverse_cons
  rw [← List.reverse_prefix, text, List.reverse_append, hdot, List.append_assoc]
  cases hreverse : name.toList.reverse with
  | nil => simp
  | cons c cs =>
    cases cs with
    | nil => simp
    | cons d cs =>
      rw [hreverse] at hname
      simpa [List.cons_prefix_cons] using hname

variable {s t : Step} {X Y : List Char}

/-- **A whole step at the end of a text** is told from what it writes. -/
theorem append_text_inj (hs : s.Whole) (ht : t.Whole) (h : X ++ s.text = Y ++ t.text) :
    X = Y ∧ s = t := by
  cases s with
  | item =>
    cases t with
    | item => exact ⟨List.append_cancel_right h, rfl⟩
    | member name => exact absurd ⟨X, h⟩ (not_brackets_suffix ht Y)
  | member name =>
    cases t with
    | item => exact absurd ⟨Y, h.symm⟩ (not_brackets_suffix hs X)
    | member name' =>
      have hpieces := congrArg (Text.pieces '.') h
      simp only [text, Text.pieces_append_sep, Text.pieces_of_not_mem hs.1,
        Text.pieces_of_not_mem ht.1] at hpieces
      have hname := List.singleton_inj.1 (List.append_inj' hpieces rfl).2
      obtain rfl := String.toList_inj.1 hname
      exact ⟨List.append_cancel_right h, rfl⟩

/-- **Whole steps are told from what they write.** -/
theorem flatMap_text_inj {p q : List Step} (hp : ∀ s ∈ p, s.Whole) (hq : ∀ s ∈ q, s.Whole)
    (h : p.flatMap text = q.flatMap text) : p = q := by
  induction p using List.reverseRecOn generalizing q with
  | nil =>
    cases q with
    | nil => rfl
    | cons t q =>
      rw [List.flatMap_nil, List.flatMap_cons] at h
      exact absurd (List.append_eq_nil_iff.1 h.symm).1 t.text_ne_nil
  | append_singleton p s ih =>
    rcases List.eq_nil_or_concat q with rfl | ⟨q, t, rfl⟩
    · rw [List.flatMap_append, List.flatMap_singleton, List.flatMap_nil] at h
      exact absurd (List.append_eq_nil_iff.1 h).2 s.text_ne_nil
    · rw [List.concat_eq_append] at hq h ⊢
      rw [List.flatMap_append, List.flatMap_append, List.flatMap_singleton,
        List.flatMap_singleton] at h
      rw [List.forall_mem_append] at hp hq
      obtain ⟨hbefore, rfl⟩ :=
        append_text_inj (hp.2 s List.mem_cons_self) (hq.2 t List.mem_cons_self) h
      rw [ih hp.1 hq.1 hbefore]

end Step

/-! ## Reading a path -/

/-- A piece of a name, from its end: brackets are steps to items. -/
def bracketSteps : List Char → List Step
  | ']' :: '[' :: cs => bracketSteps cs ++ [.item]
  | cs => [.member (String.ofList cs.reverse)]

/-- The steps that a name is read as: it is cut at its dots, and each piece at its brackets. -/
def nameSteps (name : String) : List Step :=
  if name = elementName then [.item]
  else (Text.pieces '.' name.toList).flatMap fun piece => bracketSteps piece.reverse

/-- **The steps that a path is read as** when it is written. -/
def steps (path : List String) : List Step := path.flatMap nameSteps

theorem flatMap_text_bracketSteps (cs : List Char) :
    (bracketSteps cs).flatMap Step.text = '.' :: cs.reverse := by
  fun_induction bracketSteps cs with
  | case1 cs ih =>
    rw [List.flatMap_append, ih, List.flatMap_singleton]
    simp [Step.text]
  | case2 cs => simp [Step.text]

theorem flatMap_dot_pieces (cs : List Char) :
    (Text.pieces '.' cs).flatMap (fun piece => '.' :: piece) = '.' :: cs := by
  induction cs with
  | nil => rfl
  | cons c cs ih =>
    by_cases hc : c = '.'
    · subst hc
      rw [Text.pieces_cons_sep, List.flatMap_cons, ih]
      rfl
    · obtain ⟨p, ps, hp⟩ := Text.exists_pieces_eq_cons '.' cs
      rw [hp, List.flatMap_cons, List.cons_append, List.cons.injEq] at ih
      rw [Text.pieces_cons_ne hc hp, List.flatMap_cons, List.cons_append, List.cons_append, ih.2]

theorem flatMap_text_nameSteps (name : String) :
    (nameSteps name).flatMap Step.text = (Step.ofWritten name).text := by
  unfold nameSteps Step.ofWritten
  split
  · rfl
  · rw [List.flatMap_assoc]
    simp only [flatMap_text_bracketSteps, List.reverse_reverse]
    exact flatMap_dot_pieces name.toList

theorem flatMap_text_steps (path : List String) :
    (steps path).flatMap Step.text = path.flatMap fun name => (Step.ofWritten name).text := by
  rw [steps, List.flatMap_assoc]
  simp only [flatMap_text_nameSteps]

example : steps ["payload", "a.b[]"] = [.member "payload", .member "a", .member "b", .item] := by
  decide

theorem whole_of_mem_bracketSteps {cs : List Char} (h : '.' ∉ cs) :
    ∀ s ∈ bracketSteps cs, s.Whole := by
  fun_induction bracketSteps cs with
  | case1 cs ih =>
    rw [List.forall_mem_append]
    refine ⟨ih fun hdot => h (by simp [hdot]), ?_⟩
    rw [List.forall_mem_singleton]
    trivial
  | case2 cs hbrackets =>
    rw [List.forall_mem_singleton, Step.Whole, Undivided, String.toList_ofList]
    refine ⟨by simpa using h, ?_⟩
    rintro ⟨before, heq⟩
    refine hbrackets before.reverse ?_
    rw [← List.reverse_reverse cs, ← heq]
    simp

theorem whole_of_mem_nameSteps (name : String) : ∀ s ∈ nameSteps name, s.Whole := by
  unfold nameSteps
  split
  · rw [List.forall_mem_singleton]
    trivial
  · intro s hs
    obtain ⟨piece, hpiece, hs⟩ := List.mem_flatMap.1 hs
    refine whole_of_mem_bracketSteps ?_ s hs
    rw [List.mem_reverse]
    exact Text.not_mem_of_mem_pieces hpiece

theorem whole_of_mem_steps (path : List String) : ∀ s ∈ steps path, s.Whole := by
  intro s hs
  obtain ⟨name, -, hs⟩ := List.mem_flatMap.1 hs
  exact whole_of_mem_nameSteps name s hs

theorem bracketSteps_of_not_suffix {cs : List Char} (h : ¬ ['[', ']'] <:+ cs) :
    bracketSteps cs.reverse = [.member (String.ofList cs)] := by
  unfold bracketSteps
  split
  · next before hbrackets =>
    refine absurd ⟨before.reverse, ?_⟩ h
    rw [← List.reverse_reverse cs, hbrackets]
    simp
  · rw [List.reverse_reverse]

/-- A name that is not divided is read as a single step. -/
theorem nameSteps_of_undivided {name : String} (h : Undivided name) :
    nameSteps name = [Step.ofWritten name] := by
  unfold nameSteps Step.ofWritten
  split
  · rfl
  · rw [Text.pieces_of_not_mem h.1, List.flatMap_singleton, bracketSteps_of_not_suffix h.2,
      String.ofList_toList]

theorem map_written_steps {path : List String} (h : ∀ name ∈ path, Undivided name) :
    (steps path).map Step.written = path := by
  induction path with
  | nil => rfl
  | cons name path ih =>
    rw [List.forall_mem_cons] at h
    rw [steps, List.flatMap_cons, ← steps, nameSteps_of_undivided h.1, List.map_append,
      List.map_singleton, Step.written_ofWritten, ih h.2]
    rfl

/-! ## Paths of fields -/

/-- How a path is written. -/
def written (path : List String) : String := writtenFrom "" path

theorem toList_memberPath {path : String} (h : path ≠ "") (name : String) :
    (memberPath path name).toList = path.toList ++ (Step.ofWritten name).text := by
  unfold memberPath Step.ofWritten
  split
  · rw [String.toList_append]
    rfl
  · rw [if_neg (by simpa using h), String.toList_append, String.toList_append, List.append_assoc]
    rfl

theorem toList_writtenFrom {path : String} (h : path ≠ "") (names : List String) :
    (writtenFrom path names).toList =
      path.toList ++ names.flatMap fun name => (Step.ofWritten name).text := by
  induction names generalizing path with
  | nil => simp [writtenFrom]
  | cons name names ih =>
    have hne : memberPath path name ≠ "" := by
      intro hempty
      have htext := toList_memberPath h name
      rw [hempty] at htext
      exact (Step.ofWritten name).text_ne_nil (List.append_eq_nil_iff.1 htext.symm).2
    rw [writtenFrom, List.foldl_cons, ← writtenFrom, ih hne, toList_memberPath h, List.flatMap_cons,
      List.append_assoc]

theorem nameSteps_field (f : Field) : nameSteps f.name = [.member f.name] := by
  cases f <;> decide +kernel

/-- **A path that begins with a field** writes its steps, but for the first dot. -/
theorem dot_cons_written (f : Field) (names : List String) :
    '.' :: (written (f.name :: names)).toList = (steps (f.name :: names)).flatMap Step.text := by
  have hfirst : memberPath "" f.name = f.name := by cases f <;> decide +kernel
  have hne : f.name ≠ "" := by cases f <;> decide +kernel
  rw [written, writtenFrom, List.foldl_cons, hfirst, ← writtenFrom, toList_writtenFrom hne,
    flatMap_text_steps, List.flatMap_cons, ← flatMap_text_nameSteps f.name, nameSteps_field,
    List.flatMap_singleton]
  rfl

theorem exists_field_of_at? {rs : List Record} {path : List String} {e : Entry}
    (h : (dictionary rs).at? path = some e) : ∃ (f : Field) (names : List String),
      path = f.name :: names := by
  obtain ⟨hne, w, r, -, p, rfl, hleads⟩ :=
    (isSome_at?_dictionary rs path).1 (Option.isSome_of_eq_some h)
  generalize hv : r.toValue = v at hleads
  cases hleads with
  | here => exact absurd rfl hne
  | member hmem _ =>
    rw [← Value.obj.inj hv] at hmem
    obtain ⟨f, -, hf⟩ := List.mem_map.1 (Keyed.mem_of_mem_ofList hmem)
    obtain ⟨rfl, -⟩ := Prod.mk.inj hf
    exact ⟨f, _, rfl⟩
  | item => exact nomatch hv

/-- **Two paths of a dictionary are written the same** just if they are read as the same steps. -/
theorem written_eq_iff {rs : List Record} {p q : List String} {a b : Entry}
    (hp : (dictionary rs).at? p = some a) (hq : (dictionary rs).at? q = some b) :
    written p = written q ↔ steps p = steps q := by
  obtain ⟨f, names, rfl⟩ := exists_field_of_at? hp
  obtain ⟨g, names', rfl⟩ := exists_field_of_at? hq
  rw [← String.toList_inj, ← List.cons_inj_right '.', dot_cons_written, dot_cons_written]
  exact ⟨Step.flatMap_text_inj (whole_of_mem_steps _) (whole_of_mem_steps _), congrArg _⟩

/-! ## The rows of a dictionary -/

theorem flatten_eq (d : Dictionary) :
    flatten d = d.listed.map fun x => (written x.1, x.2.hint) :=
  d.entryRows_eq ""

theorem map_fst_flatten (d : Dictionary) :
    (flatten d).map Prod.fst = (d.listed.map Prod.fst).map written := by
  rw [flatten_eq, List.map_map, List.map_map]
  rfl

/-- The paths of a dictionary differ, and none stands behind a path that goes on from it. -/
theorem pairwise_paths (rs : List Record) :
    ((dictionary rs).listed.map Prod.fst).Pairwise fun p q => p < q ∧ ¬ q <+: p := by
  rw [List.pairwise_map]
  exact (Dictionary.pairwise_listed (ordered_dictionary rs)).imp fun hlt =>
    ⟨hlt, fun hprefix => List.not_le.2 hlt hprefix.le⟩

/-- **The rows of the dictionary of some records** list each of its entries once, an entry ahead of
those below it. Their paths differ unless two entries are read as the same steps, and so they do
when no name is divided. -/
theorem lists_flatten (rs : List Record) :
    let d := dictionary rs
    let paths := d.listed.map Prod.fst
    flatten d = d.listed.map (fun x => (written x.1, x.2.hint)) ∧
      (∀ path e, (path, e) ∈ d.listed ↔ d.at? path = some e) ∧
      paths.Pairwise (fun p q => p < q ∧ ¬ q <+: p) ∧
      (((flatten d).map Prod.fst).Nodup ↔
        ∀ p ∈ paths, ∀ q ∈ paths, steps p = steps q → p = q) ∧
      ((∀ p ∈ paths, ∀ name ∈ p, Undivided name) → ((flatten d).map Prod.fst).Nodup) := by
  intro d paths
  have hmem (path : List String) (e : Entry) : (path, e) ∈ d.listed ↔ d.at? path = some e :=
    Dictionary.mem_listed (ordered_dictionary rs)
  have hat : ∀ p ∈ paths, ∃ e, d.at? p = some e := by
    intro p hp
    obtain ⟨⟨_, e⟩, he, rfl⟩ := List.mem_map.1 hp
    exact ⟨e, (hmem _ e).1 he⟩
  have hnodup : paths.Nodup := (pairwise_paths rs).imp fun {p q} h (heq : p = q) =>
    List.lt_irrefl q (heq ▸ h.1)
  have hdistinct : ((flatten d).map Prod.fst).Nodup ↔
      ∀ p ∈ paths, ∀ q ∈ paths, steps p = steps q → p = q := by
    rw [map_fst_flatten, List.nodup_map_iff_inj_on hnodup]
    refine forall₂_congr fun p hp => forall₂_congr fun q hq => ?_
    obtain ⟨a, ha⟩ := hat p hp
    obtain ⟨b, hb⟩ := hat q hq
    rw [written_eq_iff ha hb]
  refine ⟨flatten_eq d, hmem, pairwise_paths rs, hdistinct, fun hnames => hdistinct.2 ?_⟩
  intro p hp q hq hsteps
  rw [← map_written_steps (hnames p hp), hsteps, map_written_steps (hnames q hq)]

theorem lists_flatten_items :
    ((flatten (dictionary [payloadRecord (some (.obj [("a", .obj [("b", .int 1)]),
      ("c", .arr [.int 2])]))])).map Prod.fst).Nodup :=
  (lists_flatten _).2.2.2.2 (by decide +kernel)

/-- A name with a dot has the path of another member. -/
theorem not_nodup_flatten :
    ¬ ((flatten (dictionary [payloadRecord (some (.obj [("a", .obj [("b", .int 1)]),
      ("a.b", .str "x")]))])).map Prod.fst).Nodup := by
  decide +kernel

end Logbook
