import Mathlib.Data.List.Basic
import PageHeat.Proofs.Disk.Entries

/-
  Disks that hold the same, listed in another order.

  Looking something up depends on what stands at each
  location, but the names in a folder come in the order in
  which the disk lists its entries. Every order of the names
  in a folder is the one of a disk that holds the same.

  Key definitions include:
    * `Disk.SameEntries`
    * `Disk.Lists`
    * `Disk.listedAs`

  Key lemmas include:
    * `Disk.SameEntries.resolve_eq`
    * `Disk.Lists.perm`
    * `Disk.exists_list_of_perm`
-/

------------------------------------------------------------
-- The Same Entries
------------------------------------------------------------

namespace PageHeat

namespace Disk

/- A disk with the same entries and current folder. -/
structure SameEntries (d d' : Disk) : Prop where
  here_eq : d'.here = d.here
  entry?_eq : d'.entry? = d.entry?

namespace SameEntries

variable {d d' : Disk}

/- A walk on both disks takes the same steps. -/
theorem descend_eq
    (hSame : d.SameEntries d')
    (atLink : AtLink)
    (follow : Location → List Name → Except DeviceFault Spot)
    (l : Location)
    (names : List Name) :
    d'.descend atLink follow l names =
      d.descend atLink follow l names := by
  induction names generalizing l with
  | nil => rw [descend, descend, hSame.entry?_eq]
  | cons name rest ih =>
      simp only [descend, atTwin, hSame.entry?_eq, ih]

/- So it follows the same links. -/
theorem walk_eq
    (hSame : d.SameEntries d')
    (atLink : AtLink)
    (links : Nat) :
    d'.walk atLink links = d.walk atLink links := by
  induction links with
  | zero =>
      funext l names
      exact hSame.descend_eq atLink _ l names
  | succ links ih =>
      funext l names
      rw [walk, walk, ih]
      exact hSame.descend_eq atLink _ l names

theorem resolve_eq
    (hSame : d.SameEntries d')
    (p : Path) :
    d'.resolve p = d.resolve p := by
  rw [resolve, resolve, resolveTo, resolveTo,
    hSame.walk_eq, hSame.here_eq]

theorem locate?_eq
    (hSame : d.SameEntries d') :
    d'.locate? = d.locate? := by
  funext p
  rw [locate?, locate?, hSame.resolve_eq]

end SameEntries

------------------------------------------------------------
-- Listings
------------------------------------------------------------

/- Names that list a folder: each of its entries once. -/
structure Lists
    (d : Disk)
    (l : Location)
    (names : List Name) : Prop where
  nodup : names.Nodup
  mem_iff :
    ∀ name, name ∈ names ↔ ∃ e, d.entry? (name :: l) = some e

/- Names that are listed without repetition list a folder. -/
theorem lists_children
    {d : Disk}
    {l : Location}
    (hNodup : (d.children l).Nodup) :
    d.Lists l (d.children l) :=
  ⟨hNodup, mem_children_iff d l⟩

namespace Lists

variable {d d' : Disk} {l : Location}
variable {names order : List Name}

/- The same folder is listed on a disk with its entries. -/
theorem of_sameEntries
    (hLists : d'.Lists l names)
    (hSame : d.SameEntries d') :
    d.Lists l names := by
  refine ⟨hLists.nodup, ?_⟩
  intro name
  rw [hLists.mem_iff, hSame.entry?_eq]

/- Two listings of a folder differ in their order only. -/
theorem perm
    (hLists : d.Lists l names)
    (hOrder : d.Lists l order) :
    order.Perm names := by
  rw [List.perm_ext_iff_of_nodup hOrder.nodup hLists.nodup]
  intro name
  rw [hOrder.mem_iff, hLists.mem_iff]

/- A listing can be brought into any order. -/
theorem of_perm
    (hLists : d.Lists l names)
    (hPerm : order.Perm names) :
    d.Lists l order :=
  ⟨hPerm.nodup_iff.mpr hLists.nodup,
    fun name => hPerm.mem_iff.trans (hLists.mem_iff name)⟩

end Lists

------------------------------------------------------------
-- Reordering
------------------------------------------------------------

/- The name of an entry, if it stands in a folder. -/
def nameIn?
    (l : Location)
    (entry : Location × Entry) : Option Name :=
  match entry.1 with
  | [] => none
  | name :: around => if around = l then some name else none

/- The names in a folder are those of its entries. -/
theorem children_eq_filterMap
    (d : Disk)
    (l : Location) :
    d.children l = d.entries.filterMap (nameIn? l) := by
  unfold children
  refine congrArg (d.entries.filterMap ·) ?_
  funext entry
  rcases entry with ⟨_ | ⟨name, around⟩, e⟩
  · rfl
  · rfl

/-
  A disk that lists a folder in a given order: its entries
  in this order, and all others behind them.
-/
def listedAs
    (d : Disk)
    (l : Location)
    (names : List Name) : Disk :=
  { d with
    entries :=
      (names.filterMap fun name =>
        (d.entry? (name :: l)).map fun e => (name :: l, e)) ++
      d.entries.filter fun entry => (nameIn? l entry).isNone }

/- Nothing else is found among entries of names. -/
theorem lookup_filterMap_names
    (l m : Location)
    (find : Location → Option Entry)
    (names : List Name) :
    (names.filterMap fun name =>
        (find (name :: l)).map fun e =>
          (name :: l, e)).lookup m =
      if m ∈ names.map (· :: l) then find m else none := by
  induction names with
  | nil => rfl
  | cons name names ih =>
      rw [List.filterMap_cons]
      by_cases hEq : m = name :: l
      · subst hEq
        simp only [List.map_cons, List.mem_cons_self, if_true]
        cases hFind : find (name :: l) with
        | none =>
            simp only [Option.map_none, ih, hFind, ite_self]
        | some e =>
            simp only [Option.map_some, List.lookup_cons_self]
      · simp only [List.map_cons, List.mem_cons, hEq, false_or]
        cases find (name :: l) with
        | none => exact ih
        | some e =>
            simp only [Option.map_some]
            rw [lookup_cons_of_ne hEq, ih]

/- Entries that do not stand in a folder are kept. -/
theorem lookup_filter_isNone
    {l : Location}
    {name : Name}
    {around : Location}
    (entries : List (Location × Entry)) :
    (entries.filter fun entry =>
        (nameIn? l entry).isNone).lookup
        (name :: around) =
      if around = l then none
      else entries.lookup (name :: around) := by
  induction entries with
  | nil => exact (ite_self _).symm
  | cons first entries ih =>
      rcases first with ⟨m, e⟩
      by_cases hEq : name :: around = m
      · subst hEq
        by_cases hIn : around = l
        · simp only [List.filter_cons, nameIn?, hIn, if_true,
            Option.isNone_some, Bool.false_eq_true,
            if_false] at ih ⊢
          exact ih
        · simp only [List.filter_cons, nameIn?, hIn, if_false,
            Option.isNone_none, if_true,
            List.lookup_cons_self]
      · rw [lookup_cons_of_ne hEq, ← ih, List.filter_cons]
        split
        · rw [lookup_cons_of_ne hEq]
        · rfl

/- Listed in another order, a disk holds the same. -/
theorem Lists.sameEntries_listedAs
    {d : Disk}
    {l : Location}
    {names : List Name}
    (hLists : d.Lists l names) :
    d.SameEntries (d.listedAs l names) := by
  refine ⟨rfl, ?_⟩
  funext m
  cases m with
  | nil => rfl
  | cons name around =>
      change List.lookup _ (_ ++ _) = d.entries.lookup _
      rw [List.lookup_append, lookup_filterMap_names,
        lookup_filter_isNone]
      by_cases hIn : around = l
      · subst hIn
        rw [if_pos rfl, Option.or_none]
        by_cases hMem : name ∈ names
        · rw [if_pos (List.mem_map_of_mem hMem)]
          rfl
        · -- what is not listed is not there
          have hNone : d.entry? (name :: around) = none := by
            rw [hLists.mem_iff, not_exists] at hMem
            exact Option.eq_none_iff_forall_ne_some.mpr hMem
          rw [hNone, ite_self]
          exact hNone.symm
      · rw [if_neg hIn, if_neg]
        · rfl
        · intro hMem
          rcases List.mem_map.mp hMem with ⟨other, -, hEq⟩
          exact hIn (List.cons.inj hEq).2.symm

/- And the folder has the names in this order. -/
theorem Lists.children_listedAs
    {d : Disk}
    {l : Location}
    {names : List Name}
    (hLists : d.Lists l names) :
    children (d.listedAs l names) l = names := by
  have hOthers :
      (d.entries.filter fun entry =>
          (nameIn? l entry).isNone).filterMap (nameIn? l) =
        [] := by
    rw [List.filterMap_eq_nil_iff]
    intro entry hMem
    exact Option.isNone_iff_eq_none.mp
      (List.mem_filter.mp hMem).2
  rw [children_eq_filterMap, listedAs,
    List.filterMap_append, hOthers, List.append_nil,
    List.filterMap_filterMap]
  refine Eq.trans ?_ List.filterMap_some
  refine List.filterMap_congr ?_
  intro name hMem
  rcases (hLists.mem_iff name).mp hMem with ⟨e, hEntry⟩
  rw [hEntry]
  exact if_pos rfl

/-
  Every order of the names in a folder is the one of some
  disk that holds the same.
-/
theorem exists_list_of_perm
    {d : Disk}
    {p : Path}
    {names order : List Name}
    (hList : d.list p = .ok names)
    (hNodup : names.Nodup)
    (hPerm : order.Perm names) :
    ∃ d', d.SameEntries d' ∧ d'.list p = .ok order := by
  rcases list_eq_ok_iff.mp hList with ⟨l, hResolve, rfl⟩
  have hOrder := (lists_children hNodup).of_perm hPerm
  have hSame := hOrder.sameEntries_listedAs
  refine
    ⟨d.listedAs l order, hSame, list_eq_ok_iff.mpr
      ⟨l, ?_, hOrder.children_listedAs.symm⟩⟩
  rw [hSame.resolve_eq, hResolve]

/- Two listings of a path differ in their order only. -/
theorem SameEntries.perm_of_list
    {d d' : Disk}
    {p : Path}
    {names order : List Name}
    (hSame : d.SameEntries d')
    (hList : d.list p = .ok names)
    (hNodup : names.Nodup)
    (hList' : d'.list p = .ok order)
    (hNodup' : order.Nodup) :
    order.Perm names := by
  rcases list_eq_ok_iff.mp hList with ⟨l, hResolve, rfl⟩
  rcases list_eq_ok_iff.mp hList' with ⟨l', hResolve', rfl⟩
  rw [hSame.resolve_eq, hResolve] at hResolve'
  cases hResolve'
  exact
    (lists_children hNodup).perm
      ((lists_children hNodup').of_sameEntries hSame)

end Disk

end PageHeat
