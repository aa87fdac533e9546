import PageHeat.Proofs.Disk.Folders

/-
  Where paths lead by their names alone.

  On a plain disk a path can lead to one location only, and
  its names tell which. Without the name for the outer
  folder, every location on the way is around the last one,
  and the folders around a path are around its location.

  Key definitions include:
    * `Path.along`
    * `Path.placeFrom`

  Key lemmas include:
    * `Path.suffix_along`
    * `Path.suffix_placeFrom_of_mem_around`
    * `Disk.IsPlain.place_of_go`
    * `Disk.IsPlain.place_of_resolve`
    * `Disk.IsPlain.go_of_folder`
    * `Disk.IsPlain.entry?_makeFolders`
-/

------------------------------------------------------------
-- Locations By Names
------------------------------------------------------------

namespace PageHeat

namespace Path

/-
  The location that names lead to from another one, if each
  of them leads into a folder.
-/
def along (l : Location) : List Name → Location
  | [] => l
  | name :: rest =>
      if name = here then
        along l rest
      else if name = outward then
        along l.tail rest
      else
        along (name :: l) rest

/- The location that a path leads to from a folder. -/
def placeFrom (p : Path) (folder : Location) : Location :=
  along (Disk.origin p folder) p.names

theorem along_here (l : Location) (rest : List Name) :
    along l (here :: rest) = along l rest := by
  rw [along, if_pos rfl]

theorem along_cons
    (l : Location)
    {name : Name}
    (hHere : name ≠ here)
    (hOut : name ≠ outward)
    (rest : List Name) :
    along l (name :: rest) = along (name :: l) rest := by
  rw [along, if_neg hHere, if_neg hOut]

/- Names lead on from where the names before them lead. -/
theorem along_append
    (l : Location)
    (names more : List Name) :
    along l (names ++ more) = along (along l names) more := by
  induction names generalizing l with
  | nil => rfl
  | cons name rest ih =>
      rw [List.cons_append, along, along]
      split
      · exact ih l
      · split
        · exact ih l.tail
        · exact ih (name :: l)

theorem along_append_here
    (l : Location)
    (names : List Name) :
    along l (names ++ [here]) = along l names := by
  rw [along_append, along_here]
  rfl

/- Dots may be left out. -/
theorem along_filter
    (l : Location)
    (names : List Name) :
    along l (names.filter (· != here)) = along l names := by
  induction names generalizing l with
  | nil => rfl
  | cons name rest ih =>
      by_cases hHere : name = here
      · subst hHere
        rw [List.filter_cons, if_neg (by simp), along_here]
        exact ih l
      · rw [List.filter_cons,
          if_pos (bne_iff_ne.mpr hHere), along, along,
          if_neg hHere, if_neg hHere]
        split
        · exact ih l.tail
        · exact ih (name :: l)

/- Without the outer folder, names lead inward only. -/
theorem suffix_along
    (l : Location)
    {names : List Name}
    (hInward : outward ∉ names) :
    l <:+ along l names := by
  induction names generalizing l with
  | nil => exact List.suffix_rfl
  | cons name rest ih =>
      rw [List.mem_cons, not_or] at hInward
      have hRest := hInward.2
      rw [along, if_neg (Ne.symm hInward.1)]
      split
      · exact ih l hRest
      · exact (List.suffix_cons name l).trans
          (ih (name :: l) hRest)

/- The first of some names lead to a place around. -/
theorem along_suffix_of_prefix
    (l : Location)
    {names first : List Name}
    (hPrefix : first <+: names)
    (hInward : outward ∉ names) :
    along l first <:+ along l names := by
  rcases hPrefix with ⟨rest, rfl⟩
  rw [along_append]
  exact suffix_along _ fun hMem =>
    hInward (List.mem_append_right first hMem)

/- A path leads to the same place with a dot at its end. -/
theorem along_steps (l : Location) (p : Path) :
    along l p.steps = along l p.names := by
  unfold steps
  split
  · exact along_append_here l p.names
  · rfl

/- The outer folder is not looked up if it is not named. -/
theorem outward_notMem_steps
    {p : Path}
    (hInward : outward ∉ p.names) :
    outward ∉ p.steps := by
  unfold steps
  split
  · rw [List.mem_append, not_or, List.mem_singleton]
    exact ⟨hInward, by decide⟩
  · exact hInward

------------------------------------------------------------
-- Folders Around A Path
------------------------------------------------------------

/- The names that matter for the folders around a path. -/
theorem plainNames_subset (p : Path) :
    p.plainNames ⊆ p.names := by
  unfold plainNames
  split
  · rename_i hNil
    rw [hNil]
    exact List.nil_subset _
  · rename_i first rest hNames
    rw [hNames]
    have hRest :
        rest.filter (· != here) ⊆ first :: rest := by
      intro name hMem
      exact List.mem_cons_of_mem _
        (List.mem_filter.mp hMem).1
    simp only
    split
    · exact hRest
    · exact List.cons_subset.mpr
        ⟨List.mem_cons_self, hRest⟩

/- They lead where all names lead. -/
theorem along_plainNames (l : Location) (p : Path) :
    along l p.plainNames = along l p.names := by
  unfold plainNames
  split
  · rename_i hNil
    rw [hNil]
  · rename_i first rest hNames
    rw [hNames]
    simp only
    split
    · rename_i hFirst
      rw [along_filter, hFirst.1, along_here]
    · rw [along, along]
      simp only [along_filter]

/- Joined names are read back from their path. -/
theorem names_joinWith
    {names : List Name}
    (hNames : ∀ name ∈ names, IsName name) :
    Path.names (Text.joinWith [slash] names) = names := by
  induction names with
  | nil => rfl
  | cons name rest ih =>
      rw [List.forall_mem_cons] at hNames
      cases rest with
      | nil => exact names_of_isName hNames.1
      | cons next rest =>
          rw [Text.joinWith, List.append_assoc,
            List.singleton_append, names_append_slash,
            names_of_isName hNames.1, ih hNames.2]
          rfl

/- Joined names do not start with a slash. -/
theorem isAbsolute_joinWith
    {names : List Name}
    (hNames : ∀ name ∈ names, IsName name) :
    isAbsolute (Text.joinWith [slash] names) = false := by
  cases names with
  | nil => rfl
  | cons name rest =>
      have hFirst := hNames name List.mem_cons_self
      cases name with
      | nil => exact absurd rfl hFirst.1
      | cons c name =>
          have hNe : c ≠ slash := fun hEq =>
            hFirst.2 (hEq ▸ List.mem_cons_self)
          cases rest with
          | nil => simpa [isAbsolute, Text.joinWith] using hNe
          | cons next rest =>
              simpa [isAbsolute, Text.joinWith] using hNe

/-
  A folder around a path is absolute if the path is, and its
  names are the first ones that matter for the path.
-/
theorem names_of_mem_around
    {p q : Path}
    (hMem : q ∈ p.around) :
    q.isAbsolute = p.isAbsolute ∧ q.names <+: p.plainNames := by
  have hFirst (i : Nat) :
      ∀ name ∈ p.plainNames.dropLast.take i, IsName name := by
    intro name hTake
    exact isName_of_mem_names (plainNames_subset p
      (List.dropLast_subset _ (List.mem_of_mem_take hTake)))
  have hPrefix (i : Nat) :
      p.plainNames.dropLast.take i <+: p.plainNames :=
    (List.take_prefix _ _).trans (List.dropLast_prefix _)
  cases hTop : isAbsolute p with
  | true =>
      simp only [around, hTop, if_true, List.mem_append,
        List.mem_map, List.mem_singleton] at hMem
      rcases hMem with ⟨i, -, rfl⟩ | rfl
      · rw [← List.nil_append
            ([slash] ++ Text.joinWith [slash] _),
          List.singleton_append, names_append_slash,
          names_joinWith (hFirst _)]
        exact ⟨rfl, hPrefix _⟩
      · exact ⟨rfl, List.nil_prefix⟩
  | false =>
      simp only [around, hTop, Bool.false_eq_true, if_false,
        List.append_nil, List.nil_append, List.mem_map] at hMem
      rcases hMem with ⟨i, -, rfl⟩
      rw [names_joinWith (hFirst _)]
      exact ⟨isAbsolute_joinWith (hFirst _), hPrefix _⟩

/- The folders around a path are around its location. -/
theorem suffix_placeFrom_of_mem_around
    {p q : Path}
    (hInward : outward ∉ p.names)
    (hMem : q ∈ p.around)
    (folder : Location) :
    q.placeFrom folder <:+ p.placeFrom folder := by
  rcases names_of_mem_around hMem with ⟨hTop, hPrefix⟩
  have hInward' : outward ∉ p.plainNames := fun hOut =>
    hInward (plainNames_subset p hOut)
  rw [placeFrom, placeFrom, Disk.origin, hTop, ← Disk.origin,
    ← along_plainNames _ p]
  exact along_suffix_of_prefix _ hPrefix hInward'

end Path

------------------------------------------------------------
-- Locations On Disks
------------------------------------------------------------

namespace Disk

/-
  On a plain disk, names that lead somewhere lead to their
  location.
-/
theorem IsPlain.place_of_go
    {d : Disk}
    (hPlain : d.IsPlain)
    {l : Location}
    {names : List Name}
    {spot : Spot}
    (hGo : d.go l names = .ok spot) :
    spot.place = Path.along l names := by
  rw [go] at hGo
  induction names generalizing l with
  | nil =>
      cases hEntry : d.entry? l with
      | none =>
          rw [descend_of_none hEntry] at hGo
          cases hGo
      | some e =>
          rw [descend_nil hEntry] at hGo
          cases hGo
          rfl
  | cons name rest ih =>
      cases (descend_cons_iff.mp hGo).2 with
      | here hName hRest =>
          rw [hName, Path.along_here]
          exact ih hRest
      | outward hHere hName hRest =>
          rw [Path.along, if_neg hHere, if_pos hName]
          exact ih hRest
      | vacant hHere hOut _ _ hLast hSpot =>
          rw [Path.along_cons l hHere hOut, hLast, hSpot]
          rfl
      | stay _ _ _ _ _ _ hStay _ => cases hStay.2
      | follow _ _ _ _ _ _ _ hOnward => cases hOnward
      | twin _ _ _ _ hTwin _ _ =>
          exact absurd trivial (hPlain.no_link hTwin)
      | into hHere hOut _ _ _ _ hRest =>
          rw [Path.along_cons l hHere hOut]
          exact ih hRest

/- What a path leads to stands where its names lead. -/
theorem IsPlain.place_of_resolve
    {d : Disk}
    (hPlain : d.IsPlain)
    {p : Path}
    {spot : Spot}
    (hResolve : d.resolve p = .ok spot) :
    spot.place = p.placeFrom d.here := by
  have hCheck := checkPath_of_resolveTo hResolve
  rw [resolve, hPlain.resolveTo_eq_go _ hCheck] at hResolve
  rw [hPlain.place_of_go hResolve, Path.along_steps]
  rfl

/- A folder lies in folders only. -/
theorem IsPlain.folder_of_suffix
    {d : Disk}
    (hPlain : d.IsPlain)
    {l m : Location}
    (hFolder : d.entry? l = some .folder)
    (hSuffix : m <:+ l) :
    d.entry? m = some .folder := by
  rcases hSuffix with ⟨inner, rfl⟩
  induction inner with
  | nil => exact hFolder
  | cons name inner ih =>
      rw [List.cons_append] at hFolder
      exact ih (hPlain.folder_around hFolder)

/-
  Names that lead inward to a place on one plain disk lead
  there on another one that has a folder at this place.
-/
theorem IsPlain.go_of_folder
    {d d' : Disk}
    (hPlain : d.IsPlain)
    (hPlain' : d'.IsPlain)
    {l m : Location}
    {names : List Name}
    {e : Entry}
    (hInward : Path.outward ∉ names)
    (hGo : d'.go l names = .ok (.present m e))
    (hFolder : d.entry? m = some .folder) :
    d.go l names = .ok (.present m .folder) := by
  have hPlace : m = Path.along l names :=
    hPlain'.place_of_go hGo
  rw [go] at hGo ⊢
  induction names generalizing l with
  | nil =>
      rw [show l = m from hPlace.symm]
      exact descend_nil hFolder
  | cons name rest ih =>
      have hAround : d.entry? l = some .folder := by
        refine hPlain.folder_of_suffix hFolder ?_
        rw [hPlace]
        exact Path.suffix_along l hInward
      rw [List.mem_cons, not_or] at hInward
      cases (descend_cons_iff.mp hGo).2 with
      | here hName hRest =>
          rw [hName, Path.along_here] at hPlace
          rw [hName, descend_here hAround]
          exact ih hInward.2 hRest hPlace
      | outward _ hName _ =>
          exact absurd hName.symm hInward.1
      | vacant _ _ _ _ _ hSpot => cases hSpot
      | stay _ _ _ _ _ _ hStay _ => cases hStay.2
      | follow _ _ _ _ _ _ _ hOnward => cases hOnward
      | twin _ _ _ _ hTwin _ _ =>
          exact absurd trivial (hPlain'.no_link hTwin)
      | into hHere hOut hShort _ _ _ hRest =>
          rw [Path.along_cons l hHere hOut] at hPlace
          have hInner : d.entry? (name :: l) = some .folder := by
            refine hPlain.folder_of_suffix hFolder ?_
            rw [hPlace]
            exact Path.suffix_along _ hInward.2
          refine descend_cons_iff.mpr
            ⟨hAround, .into hHere hOut hShort .folder hInner id
              (ih hInward.2 hRest hPlace)⟩

/- So does a path without the name for the outer folder. -/
theorem IsPlain.resolve_of_folder
    {d d' : Disk}
    (hPlain : d.IsPlain)
    (hPlain' : d'.IsPlain)
    (hHere : d'.here = d.here)
    {p : Path}
    {m : Location}
    {e : Entry}
    (hInward : Path.outward ∉ p.names)
    (hResolve : d'.resolve p = .ok (.present m e))
    (hFolder : d.entry? m = some .folder) :
    d.resolve p = .ok (.present m .folder) := by
  have hCheck := checkPath_of_resolveTo hResolve
  rw [resolve, hPlain'.resolveTo_eq_go _ hCheck, hHere]
    at hResolve
  rw [resolve, hPlain.resolveTo_eq_go _ hCheck]
  exact hPlain.go_of_folder hPlain'
    (Path.outward_notMem_steps hInward)
    hResolve hFolder

------------------------------------------------------------
-- New Folders By Their Names
------------------------------------------------------------

section NewFolders

variable {d : Disk} {p : Path}

/-
  Creating a folder along a path that leads inward changes
  nothing but its location and those around it.
-/
theorem IsPlain.entry?_makeFolders_or
    (hPlain : d.IsPlain)
    (hInward : Path.outward ∉ p.names)
    (m : Location) :
    entry? (d.makeFolders p).1 m = d.entry? m ∨
      m <:+ p.placeFrom d.here := by
  have hGrows := hPlain.makeFolders_grows p
  rcases hGrows.entry_or m with
    hSame | ⟨-, -, q, hMem, hLocate⟩
  · exact .inl hSame
  · rcases (locate?_eq_some_iff _ q m).mp hLocate with
      ⟨e, hResolve⟩
    have hPlace : m = q.placeFrom d.here := by
      rw [← hGrows.keeps.here_eq]
      exact hGrows.plain.place_of_resolve hResolve
    rw [hPlace]
    rcases List.mem_cons.mp hMem with rfl | hAround
    · exact .inr List.suffix_rfl
    · exact .inr
        (Path.suffix_placeFrom_of_mem_around hInward hAround
          d.here)

/-
  If no step failed, there are folders at its location and
  around, and the rest of the disk is as it was.
-/
theorem IsPlain.entry?_makeFolders
    (hPlain : d.IsPlain)
    (hSome : p ≠ [])
    (hInward : Path.outward ∉ p.names)
    (hMade : (d.makeFolders p).2 = none)
    (m : Location) :
    entry? (d.makeFolders p).1 m =
      if m <:+ p.placeFrom d.here then some .folder
      else d.entry? m := by
  split
  · rename_i hSuffix
    have hGrows := hPlain.makeFolders_grows p
    rcases (isFolder_iff _ p).mp
        (hPlain.isFolder_makeFolders hSome hMade) with
      ⟨l, hResolve⟩
    have hPlace : l = p.placeFrom d.here := by
      rw [← hGrows.keeps.here_eq]
      exact hGrows.plain.place_of_resolve hResolve
    rw [← hPlace] at hSuffix
    exact hGrows.plain.folder_of_suffix
      (resolveTo_isOn hResolve) hSuffix
  · rename_i hOutside
    rcases hPlain.entry?_makeFolders_or hInward m with
      hSame | hSuffix
    · exact hSame
    · exact absurd hSuffix hOutside

end NewFolders

end Disk

end PageHeat
