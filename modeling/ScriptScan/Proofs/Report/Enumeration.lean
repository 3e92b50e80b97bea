import Mathlib.Data.List.Forall2
import Mathlib.Data.List.Nodup
import Mathlib.Order.Defs.LinearOrder
import ScriptScan.Proofs.Catalog.Read
import ScriptScan.Proofs.Outline.Each
import ScriptScan.Proofs.Path.Order
import ScriptScan.Report

/-!
# Reports and the order of tables

The functions of a script and the labels of a function are kept in tables, and nothing says in which
order a table is enumerated. A report sorts what it is given: labels by their spans, functions by
their names in upper case. That makes one report of all enumerations only if no two entries are
equal in the order they are sorted by.

* `mergeSort_eq_of_perm` — sorting forgets the order, if it tells all elements apart.
* `Script.Reorders` relates a script to the same script with its tables enumerated otherwise.
* `ScriptReport.ofScript_eq_of_reorders` — scripts that are related have one report, if labels and
  names are told apart.
* `Catalog.reportDetermined_serve` — they are, for every script that a scan answers with: labels,
  because no block form holds two of them and block forms do not overlap; names, because no two
  functions of a script have one key.
-/

namespace ScriptScan

/-! ## Sorting -/

/-- Sorting in an order that tells all elements apart gives one list for all orders of these. -/
theorem mergeSort_eq_of_perm {α : Type} {le : α → α → Bool}
    (htrans : ∀ a b c, le a b = true → le b c = true → le a c = true)
    (htotal : ∀ a b, (le a b || le b a) = true) {as bs : List α} (hperm : as.Perm bs)
    (hanti : ∀ a ∈ as, ∀ b ∈ as, le a b = true → le b a = true → a = b) :
    as.mergeSort le = bs.mergeSort le := by
  have has := List.mergeSort_perm as le
  have hbs := (List.mergeSort_perm bs le).trans hperm.symm
  refine List.Perm.eq_of_pairwise ?_ (List.pairwise_mergeSort htrans htotal as)
    (List.pairwise_mergeSort htrans htotal bs) (has.trans hbs.symm)
  intro a b ha hb
  exact hanti a (has.subset ha) b (hbs.subset hb)

namespace Span

variable {s t : Span}

instance : Std.TransOrd Span :=
  inferInstanceAs (Std.TransCmp
    (compareLex (compareOn Span.file) (compareLex (compareOn Span.first) (compareOn Span.last))))

theorem eq_of_compare (h : Ord.compare s t = .eq) : s = t := by
  obtain ⟨hfile, hlines⟩ := Ordering.then_eq_eq.1 h
  obtain ⟨hfirst, hlast⟩ := Ordering.then_eq_eq.1 hlines
  rcases s with ⟨file, first, last⟩
  rcases t with ⟨file', first', last'⟩
  rw [Span.mk.injEq]
  exact ⟨Std.LawfulEqCmp.eq_of_compare hfile, Std.LawfulEqCmp.eq_of_compare hfirst,
    Std.LawfulEqCmp.eq_of_compare hlast⟩

end Span

namespace FuncReport

variable {f g : FuncReport}

theorem before_total (f g : FuncReport) : (f.before g || g.before f) = true := by
  unfold before
  by_cases heq : isMainName f.name = isMainName g.name
  · rw [if_pos heq, if_pos heq.symm]
    exact isLE_total f.name.upper g.name.upper
  · rw [if_neg heq, if_neg (Ne.symm heq)]
    revert heq
    cases isMainName f.name <;> cases isMainName g.name <;> simp

theorem before_trans (f g h : FuncReport) (hfg : f.before g = true) (hgh : g.before h = true) :
    f.before h = true := by
  unfold before at *
  by_cases hfg' : isMainName f.name = isMainName g.name
  · rw [if_pos hfg'] at hfg
    rw [hfg']
    by_cases hgh' : isMainName g.name = isMainName h.name
    · rw [if_pos hgh'] at hgh ⊢
      exact Std.TransCmp.isLE_trans hfg hgh
    · rw [if_neg hgh'] at hgh ⊢
      exact hgh
  · -- the first is the main function, and the second is not
    rw [if_neg hfg'] at hfg
    rw [hfg] at hfg' ⊢
    have hg : isMainName g.name = false := by simpa using Ne.symm hfg'
    rw [hg] at hgh
    by_cases hh : isMainName h.name = false
    · rw [hh, if_neg (by simp)]
    · rw [Bool.not_eq_false] at hh
      rw [hh, if_neg (by simp)] at hgh
      cases hgh

/-- Only functions with one name in upper case stand before each other. -/
theorem upper_eq_of_before (hfg : f.before g = true) (hgf : g.before f = true) :
    f.name.upper = g.name.upper := by
  unfold before at hfg hgf
  by_cases heq : isMainName f.name = isMainName g.name
  · rw [if_pos heq] at hfg
    rw [if_pos heq.symm] at hgf
    exact Std.LawfulEqCmp.eq_of_compare (Std.OrientedCmp.isLE_antisymm hfg hgf)
  · rw [if_neg heq] at hfg
    rw [if_neg (Ne.symm heq)] at hgf
    exact absurd (hfg.trans hgf.symm) heq

end FuncReport

/-! ## The same script, enumerated otherwise -/

/-- Whether two functions are the same, but for the order in which their labels are enumerated. -/
structure FuncDecl.Reorders (f g : FuncDecl) : Prop where
  rest_eq : { f with labels := g.labels } = g
  labels_perm : f.labels.Perm g.labels

/-- Whether two functions are the same, but for the order in which labels are enumerated. -/
inductive Func.Reorders : Func → Func → Prop where
  | declared {f g : FuncDecl} (h : f.Reorders g) : Reorders (.declared f) (.declared g)
  | host (f : HostFunc) : Reorders (.host f) (.host f)

/-- Whether two tables hold the same functions under the same keys, but for the order in which the
functions, and the labels of each of them, are enumerated. -/
def FuncTable.Reorders (t u : FuncTable) : Prop :=
  ∃ v : FuncTable, List.Forall₂ (fun e e' => e.1 = e'.1 ∧ e.2.Reorders e'.2) t v ∧ v.Perm u

/-- Whether two scripts are the same, but for the order in which their functions, and the labels of
each of them, are enumerated. -/
structure Script.Reorders (s t : Script) : Prop where
  rest_eq : { s with functions := t.functions } = t
  functions : s.functions.Reorders t.functions

/-! ## Reports of tables -/

/-- What is told about a function does not depend on how its labels are enumerated. -/
theorem FuncReport.ofDecl_eq_of_reorders {f g : FuncDecl} (h : f.Reorders g)
    (hlabels : f.labels.Pairwise fun a b => a.span ≠ b.span) : ofDecl g = ofDecl f := by
  have hspans : (f.labels.map (·.span)).Nodup := List.pairwise_map.2 hlabels
  have hsorted : f.labels.mergeSort (fun a b => (compare a.span b.span).isLE) =
      g.labels.mergeSort fun a b => (compare a.span b.span).isLE := by
    refine mergeSort_eq_of_perm ?_ ?_ h.labels_perm ?_
    · exact fun _ _ _ => Std.TransCmp.isLE_trans
    · exact fun a b => isLE_total a.span b.span
    · -- labels in one place are one label
      intro a ha b hb hab hba
      have hspan := Span.eq_of_compare (Std.OrientedCmp.isLE_antisymm hab hba)
      exact List.inj_on_of_nodup_map hspans ha hb hspan
  rw [← h.rest_eq]
  simp only [ofDecl, hsorted]
  rfl

namespace FuncTable

variable {t u : FuncTable}

/-- What is told about the functions of a table, in the order in which it is enumerated. -/
def reports (t : FuncTable) : List FuncReport :=
  (t.funcs.filterMap Func.decl?).map FuncReport.ofDecl

theorem reports_cons (key : Text) (f : Func) (t : FuncTable) :
    reports ((key, f) :: t) = (f.decl?.map FuncReport.ofDecl).toList ++ t.reports := by
  cases f with
  | declared f => rfl
  | host f => rfl

theorem reports_eq_of_forall₂
    (hlabels : ∀ f, .declared f ∈ t.funcs → f.labels.Pairwise fun a b => a.span ≠ b.span)
    (h : List.Forall₂ (fun e e' => e.1 = e'.1 ∧ e.2.Reorders e'.2) t u) : u.reports = t.reports := by
  induction h with
  | nil => rfl
  | @cons e e' t u hentry _ ih =>
    rcases e with ⟨key, f⟩
    rcases e' with ⟨key', f'⟩
    have hrest := ih fun f hf => hlabels f (List.mem_cons_of_mem _ hf)
    rw [reports_cons, reports_cons, hrest]
    obtain ⟨-, hfunc⟩ := hentry
    cases hfunc with
    | host f => rfl
    | @declared f g hfg =>
      have hreport := FuncReport.ofDecl_eq_of_reorders hfg (hlabels f List.mem_cons_self)
      rw [Func.decl?, Func.decl?, Option.map_some, Option.map_some, hreport]

theorem reports_perm (h : t.Perm u) : t.reports.Perm u.reports :=
  ((h.map _).filterMap _).map _

/-- Sorting tells one list of all enumerations of a table. -/
theorem mergeSort_reports_eq (h : t.Reorders u)
    (hlabels : ∀ f, .declared f ∈ t.funcs → f.labels.Pairwise fun a b => a.span ≠ b.span)
    (hnames : (t.reports.map (·.name.upper)).Nodup) :
    u.reports.mergeSort FuncReport.before = t.reports.mergeSort FuncReport.before := by
  -- `v` has the labels in their new order, and the functions still in the old one
  obtain ⟨v, hentries, hperm⟩ := h
  have hreports := reports_eq_of_forall₂ hlabels hentries
  have hsort : v.reports.mergeSort FuncReport.before = u.reports.mergeSort FuncReport.before := by
    refine mergeSort_eq_of_perm FuncReport.before_trans FuncReport.before_total
      (reports_perm hperm) ?_
    intro f hf g hg hfg hgf
    rw [hreports] at hf hg
    exact List.inj_on_of_nodup_map hnames hf hg (FuncReport.upper_eq_of_before hfg hgf)
  rw [← hsort, hreports]

end FuncTable

theorem ScriptReport.functions_ofScript (s : Script) :
    (ofScript s).functions = s.functions.reports.mergeSort FuncReport.before := rfl

/-- Scripts that only differ in how their tables are enumerated have one report. -/
theorem ScriptReport.ofScript_eq_of_reorders {s t : Script} (h : s.Reorders t)
    (hlabels : ∀ f, .declared f ∈ s.functions.funcs → f.labels.Pairwise fun a b => a.span ≠ b.span)
    (hnames : (s.functions.reports.map (·.name.upper)).Nodup) : ofScript t = ofScript s := by
  have hfunctions := FuncTable.mergeSort_reports_eq h.functions hlabels hnames
  rw [← functions_ofScript, ← functions_ofScript] at hfunctions
  rw [← h.rest_eq] at hfunctions ⊢
  rw [ScriptReport.mk.injEq]
  exact ⟨rfl, rfl, hfunctions, rfl, rfl⟩

/-! ## Scripts that are read -/

/-- What is told about a script does not depend on how its tables are enumerated: in each function
all labels stand in different places, all functions have different names in upper case, and every
enumeration gives the one report, which begins with the main function and has no other. -/
structure Script.ReportDetermined (s : Script) : Prop where
  labels_apart : ∀ f, .declared f ∈ s.functions.funcs →
    f.labels.Pairwise fun a b => a.span ≠ b.span
  names_apart : s.functions.funcs.Pairwise fun f g => f.name.upper ≠ g.name.upper
  report_eq : ∀ t, s.Reorders t → ScriptReport.ofScript t = ScriptReport.ofScript s
  main_first : ∃ main others, (ScriptReport.ofScript s).functions = main :: others ∧
    main.name = mainName ∧ ∀ f ∈ others, isMainName f.name = false

namespace Script

variable {s : Script} {path : Path} {decls : List FuncDecl} {main : FuncDecl}

/-- Two labels of a function that is read would be two labels of the source in one place. -/
theorem IsRead.labels_apart (h : s.IsRead) :
    ∀ f, .declared f ∈ s.functions.funcs → f.labels.Pairwise fun a b => a.span ≠ b.span := by
  obtain ⟨c, setup, key, content, hread⟩ := h
  rcases Catalog.exists_source_of_read hread with ⟨source, hsource, hscript⟩
  intro f hf
  have hsublist := labelSpans_sublist hscript f hf
  exact List.pairwise_map.1 (hsublist.nodup (LogicalSource.labelSpans_nodup hsource))

theorem IsRead.holds (h : s.IsRead) : ∃ path decls main, s.Holds path decls main := by
  obtain ⟨c, setup, key, content, hread⟩ := h
  obtain ⟨decls, main, hholds, -⟩ := Catalog.holds_of_read hread
  exact ⟨key, decls, main, hholds⟩

namespace Holds

/-- The keys of the functions of a script are their names in upper case. -/
theorem key_eq_upper (h : s.Holds path decls main) :
    ∀ f ∈ s.functions.funcs, f.key = f.name.upper := by
  intro f hf
  rw [h.funcs_eq] at hf
  obtain ⟨d, hd, rfl⟩ := List.mem_map.1 hf
  rcases List.mem_append.1 hd with hd | hd
  · exact (h.named d hd).key_eq_upper
  · rw [List.mem_singleton.1 hd, Func.key, Func.name, h.main_name]
    decide

theorem uppers_nodup (h : s.Holds path decls main) :
    (s.functions.funcs.map (·.name.upper)).Nodup := by
  have hkeys : s.functions.map (·.1) = s.functions.funcs.map Func.key := by
    rw [h.funcs_eq, h.functions_eq, List.map_map, List.map_map]
    rfl
  have hnodup := h.keys_nodup
  rw [hkeys, List.map_congr_left h.key_eq_upper] at hnodup
  exact hnodup

theorem reports_eq (h : s.Holds path decls main) :
    s.functions.reports = (decls ++ [main]).map FuncReport.ofDecl := by
  have hdecl : Func.decl? ∘ Func.declared = some := rfl
  rw [FuncTable.reports, h.funcs_eq, List.filterMap_map, hdecl, List.filterMap_some]

theorem reports_nodup (h : s.Holds path decls main) :
    (s.functions.reports.map (·.name.upper)).Nodup := by
  have hnodup := h.uppers_nodup
  rw [h.funcs_eq, List.map_map] at hnodup
  rw [h.reports_eq, List.map_map]
  exact hnodup

/-- Of all functions that are told, only the main function has its name. -/
theorem eq_main_of_isMainName (h : s.Holds path decls main) {f : FuncReport}
    (hf : f ∈ s.functions.reports) (hname : isMainName f.name = true) :
    f = FuncReport.ofDecl main := by
  rw [h.reports_eq] at hf
  obtain ⟨d, hd, rfl⟩ := List.mem_map.1 hf
  rcases List.mem_append.1 hd with hd | hd
  · have hno := (h.named d hd).isMainName_eq_false
    exact absurd (hname.symm.trans hno) (by simp)
  · rw [List.mem_singleton.1 hd]

/-- The main function is told first, and no other function has its name. -/
theorem main_first (h : s.Holds path decls main) :
    ∃ others, (ScriptReport.ofScript s).functions = FuncReport.ofDecl main :: others ∧
      ∀ f ∈ others, isMainName f.name = false := by
  have hperm := List.mergeSort_perm s.functions.reports FuncReport.before
  have hsorted := List.pairwise_mergeSort FuncReport.before_trans FuncReport.before_total
    s.functions.reports
  have hmain : isMainName (FuncReport.ofDecl main).name = true := by
    show isMainName main.name = true
    rw [h.main_name]
    rfl
  have hmem : FuncReport.ofDecl main ∈ s.functions.reports := by
    rw [h.reports_eq]
    simp
  rw [ScriptReport.functions_ofScript]
  rcases hlist : s.functions.reports.mergeSort FuncReport.before with _ | ⟨first, others⟩
  · rw [hlist] at hperm
    rw [List.nil_perm.1 hperm] at hmem
    cases hmem
  · rw [hlist] at hperm hsorted
    -- what stands before the main function has its name
    have hfirst : isMainName first.name = true := by
      rcases List.mem_cons.1 (hperm.symm.subset hmem) with heq | hbehind
      · rw [← heq]
        exact hmain
      · have hbefore := (List.pairwise_cons.1 hsorted).1 _ hbehind
        unfold FuncReport.before at hbefore
        rw [hmain] at hbefore
        by_contra hno
        rw [if_neg hno] at hbefore
        exact hno hbefore
    have heq := h.eq_main_of_isMainName (hperm.subset List.mem_cons_self) hfirst
    refine ⟨others, by rw [heq], ?_⟩
    intro f hf
    rw [Bool.eq_false_iff]
    intro hname
    -- a second one would make the names equal
    have hf' := h.eq_main_of_isMainName (hperm.subset (List.mem_cons_of_mem _ hf)) hname
    have hnodup := (hperm.map (·.name.upper)).nodup_iff.2 h.reports_nodup
    rw [List.map_cons, List.nodup_cons, heq, ← hf'] at hnodup
    exact hnodup.1 (List.mem_map_of_mem hf)

end Holds

theorem IsRead.reportDetermined (h : s.IsRead) : s.ReportDetermined := by
  obtain ⟨path, decls, main, hholds⟩ := h.holds
  constructor
  case labels_apart => exact h.labels_apart
  case names_apart => exact List.pairwise_map.1 hholds.uppers_nodup
  case report_eq =>
    intro t ht
    exact ScriptReport.ofScript_eq_of_reorders ht h.labels_apart hholds.reports_nodup
  case main_first =>
    obtain ⟨others, heq, hothers⟩ := hholds.main_first
    exact ⟨_, others, heq, hholds.main_name, hothers⟩

end Script

/-! ## Scripts that a catalog answers with -/

namespace Catalog

variable {c : Catalog} {call : Call} {s : Script}

/-- What is told about a script that a scan answers with does not depend on how tables are
enumerated, whatever was scanned before. -/
theorem reportDetermined_serve {hostFuncs : List HostFunc} {calls : List Call}
    (h : (((initial hostFuncs).run calls).serve call).2 = .ok (.script s)) :
    s.ReportDetermined :=
  (isRead_of_serve (isRead_run hostFuncs calls) h).reportDetermined

/-- A script with labels in a function and outside, one of them in a one-line if, that is known
already when it is scanned again. -/
theorem reportDetermined_serve_sample :
    ∃ s, (((initial []).run [⟨{ options := { includeDir := ⟨['/']⟩ } }, .empty [],
        .process ⟨⟨"http://a/b.au3".toList⟩,
          "if 1 then here:\nfunc g()\none:\ntwo:\nendfunc\nfunc F()\nendfunc".toList⟩⟩]).serve
        ⟨{ options := { includeDir := ⟨['/']⟩ } }, .empty [],
          .process ⟨⟨"http://a/b.au3".toList⟩, []⟩⟩).2 = .ok (.script s) ∧
      s.functions.map (·.1) = ["G".toList, "F".toList, "$GLOBAL".toList] ∧
      s.ReportDetermined := by
  exact exists_script (by decide +kernel) fun s hs => reportDetermined_serve hs

end Catalog

end ScriptScan
