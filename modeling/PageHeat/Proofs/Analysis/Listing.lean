import PageHeat.Proofs.Analysis.Rerun
import PageHeat.Proofs.Disk.Reordering
import PageHeat.Proofs.Text.Octets

/-
  What is found in a folder, in whatever order it is listed.

  The benchmarks of a root are its entries that are shown,
  lead to folders, are not the folder for the results and
  are selected, in the order of the octets of their names.
  Names that are no text may be shown alike; their order is
  that of the listing. Apart from this, neither the order in
  which the root is listed nor the path that is given for
  the results makes a difference.

  Key lemmas include:
    * `standing_iff`
    * `discover_of_sameEntries`
    * `discover_in_any_order`
    * `discover_repeats_name_blurredDisk`
-/

------------------------------------------------------------
-- What Is Found
------------------------------------------------------------

namespace PageHeat

variable {α : Type} {engine : PatternEngine α}
variable {selection : Selection α}
variable {root : Path} {output output' : Option Path}
variable {d d' : Disk} {names order : List Name}

/- What makes a name a benchmark, by the path of results. -/
theorem standing_iff
    {n : Name} :
    standing engine selection root (output.bind d.locate?) d
          n =
        .benchmark ↔
      (Path.shown n).head? ≠ some '.' ∧
        d.IsFolder (root.join n) ∧
        selection.Selects engine (Path.shown n) ∧
        ∀ p l,
          output = some p →
            d.locate? p = some l →
              d.locate? (root.join n) ≠ some l := by
  have hOther :
      ¬ (output.bind d.locate? ≠ none ∧
          d.locate? (root.join n) =
            output.bind d.locate?) ↔
        ∀ p l,
          output = some p →
            d.locate? p = some l →
              d.locate? (root.join n) ≠ some l := by
    constructor
    · rintro hNot p l rfl hLocate hEq
      rw [Option.bind_some, hLocate] at hNot
      exact hNot ⟨Option.some_ne_none l, hEq⟩
    · rintro hOther ⟨hSome, hEq⟩
      rcases Option.ne_none_iff_exists'.mp hSome with
        ⟨l, hBind⟩
      rcases Option.bind_eq_some_iff.mp hBind with
        ⟨p, hOutput, hLocate⟩
      exact hOther p l hOutput hLocate (hEq.trans hBind)
  rw [standing_eq_benchmark_iff, hOther]
  tauto

------------------------------------------------------------
-- In Whatever Order
------------------------------------------------------------

/-
  Another listing of the same entries, and another path to
  the folder for the results, give the same benchmarks.
-/
theorem discover_of_sameEntries
    (engine : PatternEngine α)
    (selection : Selection α)
    (hSame : d.SameEntries d')
    (hList' : d'.list root = .ok order)
    (hOutput :
      output'.bind d.locate? = output.bind d.locate?) :
    ∃ found',
      discover engine selection root output' d' =
        .ok
          (benchmarksOf root
            (standing engine selection root
              (output.bind d.locate?) d)
            order,
          found') := by
  have hJudge :
      standing engine selection root (output'.bind d'.locate?)
          d' =
        standing engine selection root (output.bind d.locate?)
          d := by
    funext name
    rw [hSame.locate?_eq, hOutput]
    exact standing_congr _ (hSame.resolve_eq _)
  have hListed :=
    discover_of_list engine selection output' hList'
  simp only [hJudge] at hListed
  exact ⟨_, hListed⟩

/-
  Where a root can be listed and has no name twice, some of
  the names are chosen: the shown ones that lead to selected
  folders other than the one for the results. Each of them
  gives one benchmark, with the shown name and the path of
  the entry. Benchmarks are ordered by the octets of their
  names, and those of one name are in the order in which the
  root was listed; the order is strict if no two chosen
  names are shown alike. Names that are texts never are, and
  then the path is that of the root with the name. Every
  order of the names is the listing of a disk with the same
  entries. On every such disk the same benchmarks are found,
  by whatever path to the folder for the results, and in the
  same order unless two names are shown alike.
-/
theorem discover_in_any_order
    (engine : PatternEngine α)
    (selection : Selection α)
    (output : Option Path)
    (hList : d.list root = .ok names)
    (hNodup : names.Nodup) :
    ∃ (benchmarks : List Benchmark) (found : List Event)
      (chosen : List Name),
      discover engine selection root output d =
          .ok (benchmarks, found) ∧
        chosen.Sublist names ∧
        (∀ n,
          n ∈ chosen ↔
            n ∈ names ∧
              (Path.shown n).head? ≠ some '.' ∧
              d.IsFolder (root.join n) ∧
              selection.Selects engine (Path.shown n) ∧
              ∀ p l,
                output = some p →
                  d.locate? p = some l →
                    d.locate? (root.join n) ≠ some l) ∧
        benchmarks.Perm
          (chosen.map fun n =>
            ⟨Path.shown n, root.join n⟩) ∧
        (benchmarks.Pairwise fun b c =>
          Utf8.encode b.name ≤ Utf8.encode c.name) ∧
        (∀ t : Text,
          (benchmarks.filter fun b => b.name = t) =
            ((chosen.map fun n =>
                (⟨Path.shown n, root.join n⟩ :
                  Benchmark)).filter
              fun b => b.name = t)) ∧
        ((chosen.map Path.shown).Nodup →
          benchmarks.Pairwise fun b c =>
            Utf8.encode b.name < Utf8.encode c.name) ∧
        ((∀ n ∈ chosen, Utf8.encode (Path.shown n) = n) →
          (chosen.map Path.shown).Nodup ∧
            ∀ b ∈ benchmarks,
              b.dir = root.join (Utf8.encode b.name)) ∧
        (∀ order : List Name,
          order.Perm names →
            ∃ d', d.SameEntries d' ∧
              d'.list root = .ok order) ∧
        ∀ d' order output',
          d.SameEntries d' →
            d'.list root = .ok order →
              order.Nodup →
                output'.bind d.locate? =
                    output.bind d.locate? →
                  ∃ benchmarks' found',
                    discover engine selection root output' d' =
                        .ok (benchmarks', found') ∧
                      benchmarks'.Perm benchmarks ∧
                      ((chosen.map Path.shown).Nodup →
                        benchmarks' = benchmarks) := by
  let judge : Name → Standing :=
    standing engine selection root (output.bind d.locate?) d
  have hChosen := benchmarksOf_perm_map root judge names
  have hOrder := pairwise_atMost_benchmarksOf root judge names
  have hNames
      (hShown :
        ((names.filter fun n =>
          judge n = .benchmark).map Path.shown).Nodup) :
      ((benchmarksOf root judge names).map
        Benchmark.name).Nodup :=
    (perm_names hChosen).nodup_iff.mpr hShown
  refine
    ⟨benchmarksOf root judge names, _,
      names.filter fun n => judge n = .benchmark,
      discover_of_list engine selection output hList,
      List.filter_sublist, ?_, hChosen,
      hOrder.imp Utf8.encode_le_of_atMost,
      filter_name_benchmarksOf root judge names, ?_, ?_,
      fun order => Disk.exists_list_of_perm hList hNodup, ?_⟩
  · intro n
    rw [List.mem_filter, decide_eq_true_iff, standing_iff]
  · intro hShown
    have hBefore :=
      Text.pairwise_before (List.pairwise_map.mpr hOrder)
        (hNames hShown)
    rw [List.pairwise_map] at hBefore
    exact hBefore.imp Utf8.encode_lt_of_before
  · intro hText
    refine ⟨Path.nodup_shown (hNodup.filter _) hText, ?_⟩
    intro b hMem
    rcases List.mem_map.mp (hChosen.mem_iff.mp hMem) with
      ⟨n, hIn, rfl⟩
    rw [benchmarkOf, hText n hIn]
  · intro d' order output' hSame hList' hNodup' hOutput
    rcases discover_of_sameEntries engine selection hSame
        hList' hOutput with
      ⟨found', hDiscover'⟩
    have hPerm :=
      benchmarksOf_perm root judge
        (hSame.perm_of_list hList hNodup hList' hNodup')
    refine ⟨_, found', hDiscover', hPerm, ?_⟩
    intro hShown
    exact eq_of_perm_of_nodup hPerm
      (List.pairwise_map.mpr
        (pairwise_atMost_benchmarksOf root judge order))
      (List.pairwise_map.mpr hOrder) (hNames hShown)

/-
  A root with two benchmarks, a hidden folder, a file, and
  the folder for the results, to which a link leads.
-/
def mixedRootDisk : Disk :=
  { entries :=
      [ (["in"], .folder),
        (["b", "in"], .folder),
        (["page", "in"], .folder),
        ([".git", "in"], .folder),
        (["log", "in"], Disk.emptyFile),
        (["a", "in"], .folder),
        (["results"], .link "in/page") ] }

/-
  Listed from behind, and with the folder for the results
  itself in place of the link, the root has the same
  benchmarks.
-/
theorem discover_mixedRootDisk :
    let names : List Name :=
      ["b", "page", ".git", "log", "a"]
    mixedRootDisk.list "in" = .ok names ∧
      names.Nodup ∧
      mixedRootDisk.locate? "in/page" =
        mixedRootDisk.locate? "results" ∧
      ∃ (benchmarks : List Benchmark) (found : List Event)
        (chosen : List Name) (d' : Disk) (found' : List Event),
        discover Pattern.engine Selection.all "in"
            (some "results") mixedRootDisk =
          .ok (benchmarks, found) ∧
        benchmarks.Perm (chosen.map (benchmarkOf "in")) ∧
        ("a" : Name) ∈ chosen ∧
        ("page" : Name) ∉ chosen ∧
        d'.list "in" = .ok names.reverse ∧
        discover Pattern.engine Selection.all "in"
            (some "in/page") d' =
          .ok (benchmarks, found') := by
  intro names
  have hList : mixedRootDisk.list "in" = .ok names := rfl
  have hNodup : names.Nodup := by decide
  let page : Location := ["page", "in"]
  have hResults :
      mixedRootDisk.locate? "results" =
        some page := by
    decide
  have hOutput :
      mixedRootDisk.locate? "in/page" =
        some page := by
    decide
  have hText :
      ∀ n ∈ names, Utf8.encode (Path.shown n) = n := by
    decide
  rcases
    discover_in_any_order Pattern.engine Selection.all
      (some "results") hList hNodup with
    ⟨benchmarks, found, chosen, hDiscover, hSub, hMem, hPerm,
      -, -, -, hShown, hOrders, hSame⟩
  rcases hOrders names.reverse (List.reverse_perm names) with
    ⟨d', hEntries, hList'⟩
  rcases hSame d' names.reverse (some "in/page") hEntries
    hList' (by decide) (hOutput.trans hResults.symm) with
    ⟨benchmarks', found', hDiscover', -, hEq⟩
  have hTold := hShown fun n hIn => hText n (hSub.subset hIn)
  rw [hEq hTold.1] at hDiscover'
  refine
    ⟨hList, hNodup, hOutput.trans hResults.symm, benchmarks,
      found, chosen, d', found', hDiscover, hPerm, ?_, ?_,
      hList', hDiscover'⟩
  · refine
      (hMem _).mpr ⟨by decide, by decide, by decide, by decide,
        ?_⟩
    intro p l hEq hLocate
    cases hEq
    rw [hResults] at hLocate
    cases hLocate
    decide
  · intro hPage
    rcases (hMem _).mp hPage with ⟨-, -, -, -, hOther⟩
    exact hOther "results" _ rfl hResults hOutput

/-
  Two names that are no text are shown alike, so the order
  of the benchmarks is not strict, and neither stands at the
  path of the root with its name.
-/
theorem discover_repeats_name_blurredDisk :
    blurredDisk.list "in" = .ok [[0xFE], [0xFF]] ∧
      discover Pattern.engine Selection.all "in"
          (some smallSettings.outputDir) blurredDisk =
        .ok (blurredBenchmarks, []) ∧
      (¬ blurredBenchmarks.Pairwise fun b c =>
        Utf8.encode b.name < Utf8.encode c.name) ∧
      ∀ b ∈ blurredBenchmarks,
        b.dir ≠ Path.join "in" (Utf8.encode b.name) := by
  refine ⟨rfl, discover_blurredDisk, ?_, by decide⟩
  intro hOrdered
  have hLt :
      Utf8.encode blurredName < Utf8.encode blurredName :=
    List.rel_of_pairwise_cons hOrdered
      (List.mem_singleton_self _)
  exact List.lt_irrefl _ hLt

end PageHeat
