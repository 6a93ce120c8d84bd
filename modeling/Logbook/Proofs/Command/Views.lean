import Logbook.Command.Run
import Logbook.Proofs.Session.Answer
import Logbook.Proofs.Text.Numerals

/-!
# How the options of a query show the logs

The options are folded into one map of views, in which a log stands from the first option that names
it on. What is looked up there, with the default for a log that no option names, is changed by each
option in its own part.

* `Session.RunsWith`: what it means that a query runs with views;
* `viewIn`, `viewIn_changeLogView`: the view of a log after some options, and what one option does;
* `QueryOptions.viewOf`, `viewIn_logViewsOf`: the view of a log after all options;
* `QueryOptions.Sees`: what the view of a log has to be;
* `ViewOption`, `parse_viewLine`: the options on a command line, in any order;
* **`views_queryOf`**: the views that a query runs with.
-/

namespace Logbook

/-! ## Views of a query -/

/-- **A query runs with views**: these are the views of the logs of the session, the records shown
are of visible logs, and each is aligned as its log is. -/
structure Session.RunsWith (s : Session) (q : Query) (view : String → LogView) : Prop where
  views : s.logViews q = s.logs.map fun log => (log, view log)
  visible : ∀ r ∈ (s.query q).records, (view r.log).visible = true
  align : (s.query q).annotations.map Annotation.align =
    (s.query q).records.map fun r => (view r.log).align

theorem Session.runsWith_of_logViews {s : Session} {q : Query} {view : String → LogView}
    (h : s.logViews q = s.logs.map fun log => (log, view log)) : s.RunsWith q view := by
  have hlookup : ∀ r ∈ s.records, (s.logViews q).lookup r.log = some (view r.log) := by
    intro r hr
    rw [h, lookup_map_of_mem view (mem_logs hr)]
  have hrecords : ∀ r ∈ (s.query q).records, r ∈ s.records ∧ s.Shows q r := by
    intro r hr
    obtain ⟨hmem, -, hkeeps⟩ := mem_select.mp hr
    exact ⟨hmem, ((keeps_testOf hmem).mp hkeeps).1⟩
  refine ⟨h, fun r hr => ?_, ?_⟩
  · obtain ⟨hmem, hshows⟩ := hrecords r hr
    have hvisible := (visible_iff_shows hmem).mpr hshows
    rwa [hlookup r hmem, Option.map_some, Option.getD_some] at hvisible
  · have halign : (s.query q).annotations.map Annotation.align = (s.query q).records.map fun r =>
        (((s.logViews q).lookup r.log).map LogView.align).getD s.view.alignForOtherLogs := by
      simp only [Session.query, annotate, List.map_map]
      rfl
    rw [halign]
    refine List.map_congr_left fun r hr => ?_
    rw [hlookup r (hrecords r hr).1, Option.map_some, Option.getD_some]

namespace Command

/-! ## Options in turn -/

variable {s : Session} {o : QueryOptions} {log : String}

/-- The view of a log in a map of views, where it has one, or else its default. -/
def viewIn (s : Session) (views : Keyed LogView) (log : String) : LogView :=
  (Keyed.find? log views).getD (s.defaultLogView log)

theorem viewIn_changeLogView (change : LogView → LogView) (views : Keyed LogView)
    (log log' : String) : viewIn s (changeLogView s change views log) log' =
      if log' = log then change (viewIn s views log') else viewIn s views log' := by
  rw [viewIn, changeLogView, Keyed.alter, Keyed.find?_insert]
  split
  · next heq => rw [heq, Option.getD_some, viewIn]
  · rfl

/-- Options in turn: the view of a log is changed by those that name it. -/
theorem viewIn_foldl {α : Type} (change : α → LogView → LogView) (name : α → String)
    (options : List α) (views : Keyed LogView) (log : String) :
    viewIn s (options.foldl (fun views x => changeLogView s (change x) views (name x)) views) log =
      (options.filter (name · == log)).foldl (fun v x => change x v) (viewIn s views log) := by
  induction options generalizing views with
  | nil => rfl
  | cons x rest ih =>
    rw [List.foldl_cons, ih, viewIn_changeLogView]
    by_cases heq : log = name x
    · rw [if_pos heq, List.filter_cons_of_pos (by simp [heq]), List.foldl_cons]
    · rw [if_neg heq, List.filter_cons_of_neg (by simpa using Ne.symm heq)]

theorem foldl_visible (b : Bool) (logs : List String) (v : LogView) :
    logs.foldl (fun v _ => { v with visible := b }) v =
      if logs = [] then v else { v with visible := b } := by
  induction logs generalizing v with
  | nil => rfl
  | cons log rest ih =>
    rw [List.foldl_cons, ih]
    split <;> rfl

theorem foldl_align (options : List (String × Align)) (v : LogView) :
    options.foldl (fun v p => { v with align := p.2 }) v =
      { v with align := (options.getLast?.map Prod.snd).getD v.align } := by
  induction options generalizing v with
  | nil => rfl
  | cons p rest ih =>
    rw [List.foldl_cons, ih]
    cases rest with
    | nil => rfl
    | cons q rest =>
      rw [List.getLast?_cons_cons]
      cases h : (q :: rest).getLast? with
      | none => simp at h
      | some r => rfl

/-- A log that some options name is shown by them, or hidden. -/
theorem viewIn_foldl_visible (b : Bool) (logs : List String) (views : Keyed LogView)
    (log : String) :
    viewIn s (logs.foldl (changeLogView s fun v => { v with visible := b }) views) log =
      if log ∈ logs then { viewIn s views log with visible := b } else viewIn s views log := by
  have hfold := viewIn_foldl (s := s) (fun _ v => { v with visible := b }) id logs views log
  have hempty : logs.filter (id · == log) = [] ↔ log ∉ logs := by
    simp only [List.filter_eq_nil_iff, id, beq_iff_eq, ← List.forall_mem_ne']
  rw [foldl_visible] at hfold
  simp only [hempty, ite_not] at hfold
  exact hfold

/-! ## All options -/

/-- The last alignment that options give a log. -/
def lastAlign? (log : String) (options : List (String × Align)) : Option Align :=
  (options.filter (·.1 == log)).getLast?.map Prod.snd

/-- **The view of a log** with the options of a query. -/
def QueryOptions.viewOf (o : QueryOptions) (s : Session) (log : String) : LogView :=
  { visible := !o.hidden.contains log && (o.shown.contains log || (s.defaultLogView log).visible)
    align := (lastAlign? log o.align).getD (s.defaultLogView log).align }

theorem viewIn_logViewsOf (s : Session) (o : QueryOptions) (log : String) :
    viewIn s (logViewsOf s o) log = o.viewOf s log := by
  rw [logViewsOf, viewIn_foldl (fun p v => { v with align := p.2 }) Prod.fst, foldl_align,
    viewIn_foldl_visible, viewIn_foldl_visible]
  have hdefault : viewIn s [] log = s.defaultLogView log := rfl
  by_cases hhidden : log ∈ o.hidden <;> by_cases hshown : log ∈ o.shown <;>
    simp [QueryOptions.viewOf, lastAlign?, hdefault, hhidden, hshown]

theorem logViews_queryOf (s : Session) (o : QueryOptions) :
    s.logViews (queryOf s o) = s.logs.map fun log => (log, o.viewOf s log) := by
  simp only [← viewIn_logViewsOf]
  rfl

/-- **What the view of a log has to be**: visible if no option hides it, and one shows it or it is
small; aligned by its last alignment, or if it has none, by the side of a server log or of another
log. -/
structure QueryOptions.Sees (o : QueryOptions) (s : Session) (log : String) (v : LogView) :
    Prop where
  visible_iff : v.visible = true ↔ log ∉ o.hidden ∧
    (log ∈ o.shown ∨ (s.recordsOf log).length < s.view.thresholdForVisible)
  align_last : ∀ before a after, o.align = before ++ (log, a) :: after →
    log ∉ after.map Prod.fst → v.align = a
  align_default : log ∉ o.align.map Prod.fst →
    v.align = if isServerLog log then s.view.alignForServerLog else s.view.alignForOtherLogs

theorem lastAlign?_of_last {before after : List (String × Align)} {a : Align}
    (h : log ∉ after.map Prod.fst) : lastAlign? log (before ++ (log, a) :: after) = some a := by
  have hafter : after.filter (·.1 == log) = [] := by
    refine List.filter_eq_nil_iff.mpr fun p hp heq => h ?_
    exact List.mem_map.mpr ⟨p, hp, beq_iff_eq.mp heq⟩
  have hfilter : ((log, a) :: after).filter (·.1 == log) = [(log, a)] := by
    rw [List.filter_cons_of_pos (by simp), hafter]
  rw [lastAlign?, List.filter_append, hfilter, List.getLast?_concat, Option.map_some]

theorem lastAlign?_of_not_mem {options : List (String × Align)} (h : log ∉ options.map Prod.fst) :
    lastAlign? log options = none := by
  have hnone : options.filter (·.1 == log) = [] := by
    refine List.filter_eq_nil_iff.mpr fun p hp heq => h ?_
    exact List.mem_map.mpr ⟨p, hp, beq_iff_eq.mp heq⟩
  rw [lastAlign?, hnone, List.getLast?_nil, Option.map_none]

theorem sees_viewOf (s : Session) (o : QueryOptions) (log : String) :
    o.Sees s log (o.viewOf s log) where
  visible_iff := by
    simp [QueryOptions.viewOf, Session.defaultLogView, ViewDefaults.logView]
  align_last before a after h hlast := by
    rw [QueryOptions.viewOf, h, lastAlign?_of_last hlast, Option.getD_some]
  align_default h := by
    rw [QueryOptions.viewOf, lastAlign?_of_not_mem h, Option.getD_none]
    rfl

/-! ## Options on a command line -/

/-- An option that says how a log is shown. -/
inductive ViewOption where
  | shown (log : String)
  | hidden (log : String)
  | aligned (log : String) (a : Align)

namespace ViewOption

/-- Which option it is. -/
def opt : ViewOption → Opt
  | shown _ => .shown
  | hidden _ => .hidden
  | aligned _ _ => .align

/-- The value of the option. -/
def value : ViewOption → String
  | shown log | hidden log => log
  | aligned log a => log ++ "=" ++ a.name

/-- How the option is written. -/
def argument (x : ViewOption) : String := "--" ++ x.opt.long ++ "=" ++ x.value

/-- What is shown by the option. -/
def shown? : ViewOption → Option String
  | shown log => some log
  | _ => none

/-- What is hidden by the option. -/
def hidden? : ViewOption → Option String
  | hidden log => some log
  | _ => none

/-- What is aligned by the option. -/
def aligned? : ViewOption → Option (String × Align)
  | aligned log a => some (log, a)
  | _ => none

/-- What the option adds to those that were given. -/
def given (x : ViewOption) : Opt × Option String := (x.opt, some x.value)

end ViewOption

/-- The options of a query with nothing but options about logs. -/
def QueryOptions.ofViews (xs : List ViewOption) : QueryOptions :=
  { shown := xs.filterMap ViewOption.shown?
    hidden := xs.filterMap ViewOption.hidden?
    align := xs.filterMap ViewOption.aligned? }

/-- The arguments of a query with options about logs ahead of its files. -/
def viewLine (xs : List ViewOption) (files : List String) : List String :=
  "query" :: (xs.map ViewOption.argument ++ files)

theorem logAlign?_append (log : String) (a : Align) :
    logAlign? (log ++ "=" ++ a.name) = some (log, a) := by
  have hname : '=' ∉ a.name.toList.reverse := by cases a <;> decide
  have hread : Align.ofText? a.name = some a := by cases a <;> decide
  have hreverse : (log ++ "=" ++ a.name).toList.reverse =
      a.name.toList.reverse ++ '=' :: log.toList.reverse := by simp
  obtain ⟨htake, hdrop⟩ := Text.takeWhile_dropWhile_ne hname log.toList.reverse
  simp only [logAlign?, hreverse, htake, hdrop, List.reverse_reverse, String.ofList_toList, hread,
    Option.map_some]

theorem accepts_value (x : ViewOption) : x.opt.accepts x.value = true := by
  cases x with
  | shown | hidden => rfl
  | aligned log a =>
    have hread := congrArg Option.isSome (logAlign?_append log a)
    exact hread

theorem give_given (g : Given) (x : ViewOption) :
    g.give x.opt (some x.value) = .ok { g with options := g.options ++ [x.given] } := by
  have haccepts : (some x.value).all x.opt.accepts = true := accepts_value x
  have hrepeats : x.opt.repeats = true := by cases x <;> rfl
  cases x <;> simp_all [Given.give, ViewOption.opt, ViewOption.given]

theorem toList_argument (x : ViewOption) :
    x.argument.toList = '-' :: '-' :: (x.opt.long.toList ++ '=' :: x.value.toList) := by
  simp [ViewOption.argument]

theorem opt_mem (x : ViewOption) : x.opt ∈ [Opt.shown, .hidden, .align] := by
  cases x <;> simp [ViewOption.opt]

/-- The names of the options about logs, which take one value each. -/
theorem longOption?_of_mem : ∀ k ∈ [Opt.shown, .hidden, .align], '=' ∉ k.long.toList ∧
    longOption? (optionsOf (some .query)) k.long = some k ∧ k.arity = .one := by
  decide

theorem scanArgument_argument (g : Given) (x : ViewOption) :
    scanArgument (optionsOf (some .query)) true { given := g } x.argument =
      .ok { given := { g with options := g.options ++ [x.given] } } := by
  obtain ⟨hlong, hopt, harity⟩ := longOption?_of_mem x.opt (opt_mem x)
  obtain ⟨htake, hdrop⟩ := Text.takeWhile_dropWhile_ne hlong x.value.toList
  have hscan : scanLong (optionsOf (some .query)) g
      (x.opt.long.toList ++ '=' :: x.value.toList) =
        .ok { given := { g with options := g.options ++ [x.given] } } := by
    simp only [scanLong, htake, hdrop, String.ofList_toList, hopt, harity, give_given]
    rfl
  simp only [scanArgument, Scan.takesAny, toList_argument]
  exact hscan

theorem scan_arguments (xs : List ViewOption) (g : Given) (rest : List String) :
    scan (optionsOf (some .query)) { given := g } (xs.map ViewOption.argument ++ rest) =
      scan (optionsOf (some .query))
        { given := { g with options := g.options ++ xs.map ViewOption.given } } rest := by
  induction xs generalizing g with
  | nil => simp
  | cons x xs ih =>
    have hne : x.argument ≠ "--" := by
      intro heq
      have hlist := congrArg String.toList heq
      rw [toList_argument] at hlist
      simp at hlist
    rw [List.map_cons, List.cons_append, scan, if_neg fun h => hne h.1, scanArgument_argument]
    refine (ih _).trans ?_
    rw [List.map_cons, List.append_assoc, List.singleton_append]

/-- Names of files that are not taken for options. -/
def AreFiles (files : List String) : Prop :=
  files ≠ [] ∧ ∀ f ∈ files, f ≠ "" ∧ f.toList.head? ≠ some '-'

instance (files : List String) : Decidable (AreFiles files) := by
  unfold AreFiles
  infer_instance

theorem scanArgument_file (known : List Opt) (g : Given) {f : String} (hne : f ≠ "")
    (hhead : f.toList.head? ≠ some '-') : scanArgument known true { given := g } f =
      .ok { given := { g with files := g.files ++ [f] } } := by
  have hempty : f.isEmpty = false := by simpa using hne
  have hfile : g.giveFile f = .ok { g with files := g.files ++ [f] } := by
    simp [Given.giveFile, hempty]
  unfold scanArgument
  simp only [Scan.takesAny, hfile]
  split
  · rfl
  · split
    · next h => simp [h] at hhead
    · next h => simp [h] at hhead
    · rfl

theorem scan_files (known : List Opt) (files : List String)
    (h : ∀ f ∈ files, f ≠ "" ∧ f.toList.head? ≠ some '-') (g : Given) :
    scan known { given := g } files = .ok { g with files := g.files ++ files } := by
  induction files generalizing g with
  | nil => simp [scan, Given.settle]
  | cons f files ih =>
    obtain ⟨⟨hne, hhead⟩, hfiles⟩ := List.forall_mem_cons.mp h
    have hdashes : f ≠ "--" := by
      rintro rfl
      simp at hhead
    rw [scan, if_neg fun h => hdashes h.1, scanArgument_file known g hne hhead]
    refine (ih hfiles _).trans ?_
    rw [List.append_assoc, List.singleton_append]

section Given

variable {xs : List ViewOption} {files : List String} {k : Opt}

theorem lookup_given (hk : k ∉ [Opt.shown, .hidden, .align]) :
    (xs.map ViewOption.given).lookup k = none := by
  rw [List.lookup_eq_none_iff]
  intro p hp
  obtain ⟨x, -, rfl⟩ := List.mem_map.mp hp
  have hne : k ≠ x.opt := fun heq => hk (heq ▸ opt_mem x)
  simpa [ViewOption.given] using hne

theorem value?_given (hk : k ∉ [Opt.shown, .hidden, .align]) :
    Given.value? { options := xs.map ViewOption.given, files } k = none := by
  rw [Given.value?, lookup_given hk, Option.join_none]

theorem has_given (hk : k ∉ [Opt.shown, .hidden, .align]) :
    Given.has { options := xs.map ViewOption.given, files } k = false := by
  simp only [Given.has, List.any_eq_false]
  intro p hp
  obtain ⟨x, -, rfl⟩ := List.mem_map.mp hp
  have hne : x.opt ≠ k := fun heq => hk (heq ▸ opt_mem x)
  simpa [ViewOption.given] using hne

theorem ofGiven_given :
    Task.ofGiven { options := xs.map ViewOption.given, files } .query = .query (.ofViews xs) := by
  have hshown : Given.values { options := xs.map ViewOption.given, files } .shown =
      xs.filterMap ViewOption.shown? := by
    rw [Given.values, List.filterMap_map]
    exact List.filterMap_congr fun x _ => by cases x <;> rfl
  have hhidden : Given.values { options := xs.map ViewOption.given, files } .hidden =
      xs.filterMap ViewOption.hidden? := by
    rw [Given.values, List.filterMap_map]
    exact List.filterMap_congr fun x _ => by cases x <;> rfl
  have halign : (Given.values { options := xs.map ViewOption.given, files } .align).filterMap
      logAlign? = xs.filterMap ViewOption.aligned? := by
    rw [Given.values, List.filterMap_map, List.filterMap_filterMap]
    refine List.filterMap_congr fun x _ => ?_
    cases x with
    | shown | hidden => rfl
    | aligned log a => exact logAlign?_append log a
  simp only [Task.ofGiven, Controls.ofGiven, hshown, hhidden, halign, value?_given (k := .filter)
    (by decide), value?_given (k := .start) (by decide), value?_given (k := .finish) (by decide),
    value?_given (k := .text) (by decide), value?_given (k := .id) (by decide),
    value?_given (k := .colorBy) (by decide), lookup_given (k := .details) (by decide)]
  rfl

end Given

/-- **A command line with options about logs** asks for a query with these options. -/
theorem parse_viewLine (xs : List ViewOption) {files : List String} (h : AreFiles files) :
    Request.parse (viewLine xs files) none = .ok { task := .query (.ofViews xs), files } := by
  have hscan : scan (optionsOf (some .query)) {} (xs.map ViewOption.argument ++ files) =
      .ok { options := xs.map ViewOption.given, files } :=
    (scan_arguments xs {} files).trans (scan_files _ files h.2 _)
  have htask : scanToTask {} (viewLine xs files) =
      .ok ({}, .query, xs.map ViewOption.argument ++ files) := rfl
  have hempty : files.isEmpty = false := by simpa using h.1
  simp only [Request.parse, htask, hscan, bind, Except.bind, hempty, Bool.false_eq_true, if_false,
    configPath, ofGiven_given, value?_given (k := .config) (by decide),
    value?_given (k := .color) (by decide), value?_given (k := .format) (by decide),
    value?_given (k := .output) (by decide), has_given (k := .quiet) (by decide)]
  rfl

theorem ofViews_swap {a b : ViewOption} (h : a.opt ≠ b.opt) (front back : List ViewOption) :
    QueryOptions.ofViews (front ++ a :: b :: back) =
      QueryOptions.ofViews (front ++ b :: a :: back) := by
  have hswap {β : Type} {f : ViewOption → Option β} (hf : f a = none ∨ f b = none) :
      (front ++ a :: b :: back).filterMap f = (front ++ b :: a :: back).filterMap f := by
    rw [List.filterMap_append, List.filterMap_append]
    refine congrArg _ ?_
    rcases hf with hf | hf <;> simp [List.filterMap_cons, hf]
  have hkinds : (a.shown? = none ∨ b.shown? = none) ∧ (a.hidden? = none ∨ b.hidden? = none) ∧
      (a.aligned? = none ∨ b.aligned? = none) := by
    cases a <;> cases b <;> simp_all [ViewOption.opt, ViewOption.shown?, ViewOption.hidden?,
      ViewOption.aligned?]
  rw [QueryOptions.ofViews, QueryOptions.ofViews, hswap hkinds.1, hswap hkinds.2.1,
    hswap hkinds.2.2]

/-! ## The views of a query -/

/-- **The views that a query runs with.** With any options a log is visible if none of them hides
it, and one shows it or it is visible by default; its alignment is the last one that it is given, or
else its default. So an alignment does not change what is visible, and showing and hiding change no
alignment. A command line asks for its options whatever their order, and which of two options of
different kinds comes first does not matter. -/
theorem views_queryOf (s : Session) :
    (∀ o : QueryOptions, s.RunsWith (queryOf s o) (o.viewOf s) ∧
      ∀ log, o.Sees s log (o.viewOf s log)) ∧
    (∀ (o : QueryOptions) align log,
      (QueryOptions.viewOf { o with align } s log).visible = (o.viewOf s log).visible) ∧
    (∀ (o : QueryOptions) shown hidden log,
      (QueryOptions.viewOf { o with shown, hidden } s log).align = (o.viewOf s log).align) ∧
    ∀ files, AreFiles files →
      (∀ xs, Request.parse (viewLine xs files) none =
        .ok { task := .query (.ofViews xs), files }) ∧
      ∀ front a b back, a.opt ≠ b.opt →
        Request.parse (viewLine (front ++ a :: b :: back) files) none =
          Request.parse (viewLine (front ++ b :: a :: back) files) none := by
  refine ⟨fun o => ⟨?_, sees_viewOf s o⟩, fun _ _ _ => rfl, fun _ _ _ _ => rfl,
    fun files hfiles => ⟨fun xs => parse_viewLine xs hfiles, fun front a b back hne => ?_⟩⟩
  · exact Session.runsWith_of_logViews (logViews_queryOf s o)
  · rw [parse_viewLine _ hfiles, parse_viewLine _ hfiles, ofViews_swap hne]

/-- A log that is hidden by default, shown between two alignments. -/
theorem views_queryOf_shown :
    let s : Session :=
      { records := [{ log := "a", message := "one", line := "one", body := "one", index := 0 }]
        view := { thresholdForVisible := 1 } }
    let line (xs : List ViewOption) := Request.parse (viewLine xs ["a.log"]) none
    let o : QueryOptions := { shown := ["a"], align := [("a", .center), ("a", .right)] }
    AreFiles ["a.log"] ∧
      line [.aligned "a" .center, .shown "a", .aligned "a" .right] =
        .ok { task := .query o, files := ["a.log"] } ∧
      line [.aligned "a" .center, .shown "a", .aligned "a" .right] =
        line [.shown "a", .aligned "a" .center, .aligned "a" .right] ∧
      s.logViews (queryOf s o) = [("a", { visible := true, align := .right })] := by
  intro s line o
  have hfiles : AreFiles ["a.log"] := by decide
  obtain ⟨hviews, -, -, hline⟩ := views_queryOf s
  obtain ⟨hparse, hswap⟩ := hline ["a.log"] hfiles
  refine ⟨hfiles, hparse _, hswap [] _ _ _ (by decide), (hviews o).1.views.trans ?_⟩
  have hlogs : s.logs = ["a"] := by decide
  rw [hlogs]
  rfl

end Command

end Logbook
