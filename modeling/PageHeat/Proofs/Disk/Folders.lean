import PageHeat.Proofs.Disk.Inside

/-
  What creating a folder with those around it comes to.

  On a plain disk only folders are new, each of them at the
  folder that was asked for or at one around it, and the
  disk is plain again. If nothing failed, the folder that
  was asked for is there.

  Key definitions include:
    * `Disk.Grows`
    * `Disk.IsFree`

  Key lemmas include:
    * `Disk.IsPlain.placeAt_eq_ok`
    * `Disk.IsFree.folderAt_put`
    * `Disk.IsPlain.makeFolder_grows`
    * `Disk.IsPlain.makeNested_grows`
    * `Disk.isFolder_makeFolders`
-/

------------------------------------------------------------
-- Growing Disks
------------------------------------------------------------

namespace PageHeat

namespace Disk

/-
  A plain disk that has more folders than another one, each
  of them at one of some paths.
-/
structure Grows (d : Disk) (paths : List Path) (d' : Disk) :
    Prop where
  plain : d'.IsPlain
  keeps : d.Keeps d'
  entry_or :
    ∀ l, d'.entry? l = d.entry? l ∨
      d.entry? l = none ∧ d'.entry? l = some .folder ∧
        ∃ p ∈ paths, d'.locate? p = some l

/- A path is located by what it leads to. -/
theorem locate?_eq_some_iff
    (d : Disk)
    (p : Path)
    (l : Location) :
    d.locate? p = some l ↔
      ∃ e, d.resolve p = .ok (.present l e) := by
  unfold locate?
  split
  · rename_i m e hResolve
    rw [hResolve]
    constructor
    · intro hEq
      cases hEq
      exact ⟨e, rfl⟩
    · rintro ⟨f, hEq⟩
      cases hEq
      rfl
  · rename_i hOther
    constructor
    · intro hEq
      cases hEq
    · rintro ⟨e, hResolve⟩
      exact absurd hResolve (hOther l e)

/- A path is located as long as the disk keeps its place. -/
theorem Keeps.locate?_eq
    {d d' : Disk}
    (hKeeps : d.Keeps d')
    {p : Path}
    {l : Location}
    (hLocate : d.locate? p = some l) :
    d'.locate? p = some l := by
  rcases (locate?_eq_some_iff d p l).mp hLocate with
    ⟨e, hResolve⟩
  have hOn : (Spot.present l e).IsOn d :=
    resolveTo_isOn hResolve
  rcases hKeeps.kept l e hOn with ⟨e', hEntry', -⟩
  exact (locate?_eq_some_iff d' p l).mpr
    ⟨e', hKeeps.resolve_eq hResolve hEntry'⟩

namespace Grows

variable {d d' d'' : Disk} {paths more : List Path}

theorem refl
    (hPlain : d.IsPlain)
    (paths : List Path) :
    d.Grows paths d :=
  ⟨hPlain, Keeps.refl d, fun _ => .inl rfl⟩

/- A disk may grow twice. -/
theorem trans
    (hFirst : d.Grows paths d')
    (hSecond : d'.Grows paths d'') :
    d.Grows paths d'' := by
  refine ⟨hSecond.plain, hFirst.keeps.trans hSecond.keeps, ?_⟩
  intro l
  rcases hSecond.entry_or l with
    hSame | ⟨hNone, hFolder, hPath⟩
  · rcases hFirst.entry_or l with
      hSame' | ⟨hNone, hFolder, p, hMem, hLocate⟩
    · exact .inl (hSame.trans hSame')
    · exact .inr ⟨hNone, hSame.trans hFolder, p, hMem,
        hSecond.keeps.locate?_eq hLocate⟩
  · rcases hFirst.entry_or l with hSame' | ⟨-, hFolder', -⟩
    · exact .inr ⟨hSame'.symm.trans hNone, hFolder, hPath⟩
    · cases hNone.symm.trans hFolder'

/- More paths may be given than needed. -/
theorem mono
    (hGrows : d.Grows paths d')
    (hSubset : paths ⊆ more) :
    d.Grows more d' := by
  refine ⟨hGrows.plain, hGrows.keeps, ?_⟩
  intro l
  rcases hGrows.entry_or l with
    hSame | ⟨hNone, hFolder, p, hMem, hLocate⟩
  · exact .inl hSame
  · exact .inr
      ⟨hNone, hFolder, p, hSubset hMem, hLocate⟩

end Grows

------------------------------------------------------------
-- Free Places
------------------------------------------------------------

/-
  A place for what a path should lead to: a proper name that
  is free in the folder around the path.
-/
structure IsFree
    (d : Disk)
    (p : Path)
    (name : Name)
    (m : Location) : Prop where
  checked : checkPath p = .ok ()
  names : p.names = p.names.dropLast ++ [name]
  around :
    d.go (origin p d.here) p.names.dropLast =
      .ok (.present m .folder)
  proper : Path.IsProper name
  short : ¬ nameLimit < name.length
  free : d.entry? (name :: m) = none

/- The last name of a path stands behind the others. -/
theorem names_eq_of_getLast?
    {p : Path}
    {name : Name}
    (hLast : p.names.getLast? = some name) :
    p.names = p.names.dropLast ++ [name] := by
  rcases List.getLast?_eq_some_iff.mp hLast with ⟨names, hEq⟩
  rw [hEq, List.dropLast_concat]

/-
  A free place that is found for a path has a proper name,
  the last one on the path, in the folder around it.
-/
theorem exists_of_placeAt
    {d : Disk}
    {p : Path}
    {l : Location}
    (hPlace : d.placeAt p = .ok l) :
    ∃ name m,
      l = name :: m ∧
      checkPath p = .ok () ∧
      p.names.getLast? = some name ∧
      d.folderAround p = .ok m ∧
      Path.IsProper name ∧
      ¬ nameLimit < name.length ∧
      d.entry? l = none := by
  unfold placeAt at hPlace
  split at hPlace
  · cases hPlace
  rename_i hCheck
  split at hPlace
  · cases hPlace
  rename_i name hLast
  split at hPlace
  · cases hPlace
  rename_i m hAround
  split at hPlace
  · cases hPlace
  rename_i hDots
  split at hPlace
  · cases hPlace
  rename_i hShort
  split at hPlace
  · cases hPlace
  rename_i hNone
  cases hPlace
  have hName : Path.IsName name :=
    Path.isName_of_mem_names (List.mem_of_getLast? hLast)
  exact
    ⟨name, m, rfl, hCheck, hLast, hAround,
      ⟨hName, not_or.mp hDots⟩, hShort, hNone⟩

namespace IsPlain

variable {d : Disk} {p : Path} {l m : Location}

/- The folder around a path is where its first names lead. -/
theorem folderAround_eq_ok_iff
    (hPlain : d.IsPlain) :
    d.folderAround p = .ok m ↔
      d.go (origin p d.here) p.names.dropLast =
        .ok (.present m .folder) := by
  rw [folderAround, hPlain.walk_eq_go, Path.stepsAround]
  constructor
  · intro hAround
    split at hAround
    · cases hAround
    · rename_i k e hGo
      rcases hPlain.go_append_here_iff.mp hGo with
        ⟨n, hNames, hEq⟩
      cases hEq
      cases hAround
      exact hNames
    · cases hAround
  · intro hNames
    rw [hPlain.go_append_here_iff.mpr ⟨m, hNames, rfl⟩]

/- What is found as a free place is one. -/
theorem placeAt_eq_ok
    (hPlain : d.IsPlain)
    (hPlace : d.placeAt p = .ok l) :
    ∃ name m, l = name :: m ∧ d.IsFree p name m := by
  rcases exists_of_placeAt hPlace with
    ⟨name, m, rfl, hCheck, hLast, hAround, hProper, hShort,
      hNone⟩
  exact
    ⟨name, m, rfl,
      { checked := hCheck
        names := names_eq_of_getLast? hLast
        around := hPlain.folderAround_eq_ok_iff.mp hAround
        proper := hProper
        short := hShort
        free := hNone }⟩

end IsPlain

namespace IsFree

variable {d : Disk} {p : Path} {name : Name} {m : Location}

theorem folder
    (hFree : d.IsFree p name m) :
    d.entry? m = some .folder := by
  have hOn : (Spot.present m .folder).IsOn d :=
    go_isOn hFree.around
  exact hOn

theorem keeps_put
    (hFree : d.IsFree p name m) :
    d.Keeps (d.put (name :: m) .folder) :=
  Keeps.put_of_none hFree.free (.inl rfl)

theorem plain_put
    (hFree : d.IsFree p name m)
    (hPlain : d.IsPlain) :
    (d.put (name :: m) .folder).IsPlain :=
  hPlain.put ⟨hFree.proper, hFree.folder, .inl rfl⟩
    hFree.keeps_put

/- The path leads to the folder that was put there. -/
theorem folderAt_put
    (hFree : d.IsFree p name m)
    (hPlain : d.IsPlain) :
    (d.put (name :: m) .folder).FolderAt p (name :: m) := by
  have hPlain' := hFree.plain_put hPlain
  have hFolder' := hFree.keeps_put.folder hFree.folder
  have hNew :
      entry? (d.put (name :: m) .folder) (name :: m) =
        some .folder :=
    entry?_put_self d (List.cons_ne_nil _ _) _
  have hTaken :
      ¬ (some Entry.folder = none ∧
        ([] : List Name) = []) := by
    rintro ⟨hNone, -⟩
    cases hNone
  rw [FolderAt, hFree.names, hPlain'.go_append_cons_iff,
    put_here]
  refine ⟨m, go_of_keeps hFree.keeps_put hFree.around, ?_⟩
  rw [go,
    hPlain'.descend_name hFolder' hFree.proper.2.1
      hFree.proper.2.2,
    if_neg hFree.short, hNew, if_neg hTaken,
    descend_nil hNew]

/- No folder is where a place is free. -/
theorem not_folderAt
    (hFree : d.IsFree p name m)
    (hPlain : d.IsPlain)
    {l : Location} :
    ¬ d.FolderAt p l := by
  intro hAt
  rw [FolderAt, hFree.names, hPlain.go_append_cons_iff] at hAt
  rcases hAt with ⟨k, hAround, hGo⟩
  cases hAround.symm.trans hFree.around
  rw [go,
    hPlain.descend_name hFree.folder hFree.proper.2.1
      hFree.proper.2.2,
    if_neg hFree.short, if_pos ⟨hFree.free, rfl⟩] at hGo
  cases hGo

end IsFree

------------------------------------------------------------
-- Creating Folders One By One
------------------------------------------------------------

/-
  What every creation of one folder preserves is preserved
  by creating nested folders, whether or not a step fails.
-/
theorem makeNested_preserves
    {P : Disk → Prop}
    {d : Disk}
    (paths : List Path)
    (hStart : P d)
    (hStep :
      ∀ e e' p,
        p ∈ paths → P e → e.makeFolder p = .ok e' → P e') :
    P (d.makeNested paths).1 := by
  have hPardon
      {e : Disk}
      (hHolds : P e)
      (p : Path)
      (fault : DeviceFault) :
      P (e.pardon p fault).1 := by
    unfold pardon
    split
    · exact hHolds
    · exact hHolds
  induction paths with
  | nil => exact hStart
  | cons p around ih =>
      have hAround := ih fun e e' q hMem =>
        hStep e e' q (List.mem_cons_of_mem _ hMem)
      unfold makeNested
      split
      · rename_i d' hMake
        exact hStep _ _ p List.mem_cons_self hStart hMake
      · split
        · rename_i d' fault hNested
          rw [hNested] at hAround
          exact hAround
        · rename_i d' hNested
          rw [hNested] at hAround
          split
          · rename_i d'' hMake
            exact hStep _ _ p List.mem_cons_self hAround hMake
          · exact hPardon hAround p _
      · exact hPardon hStart p _

/- So it is by creating a folder with those around it. -/
theorem makeFolders_preserves
    {P : Disk → Prop}
    {d : Disk}
    (p : Path)
    (hStart : P d)
    (hStep :
      ∀ e e' q,
        q ∈ p :: p.around → P e →
          e.makeFolder q = .ok e' → P e') :
    P (d.makeFolders p).1 := by
  unfold makeFolders
  split
  · exact hStart
  · exact makeNested_preserves _ hStart hStep

------------------------------------------------------------
-- Creating One Folder
------------------------------------------------------------

namespace IsPlain

variable {d d' : Disk}

/- Creating one folder puts it at its path. -/
theorem makeFolder_grows
    (hPlain : d.IsPlain)
    {p : Path}
    (hMake : d.makeFolder p = .ok d') :
    d.Grows [p] d' ∧ d'.IsFolder p := by
  cases hPlace : d.placeAt p with
  | error fault =>
      rw [makeFolder, hPlace] at hMake
      cases hMake
  | ok l =>
      rw [makeFolder, hPlace] at hMake
      cases hMake
      rcases hPlain.placeAt_eq_ok hPlace with
        ⟨name, m, rfl, hFree⟩
      have hPlain' := hFree.plain_put hPlain
      have hResolve :=
        hPlain'.resolve_of_folderAt (hFree.folderAt_put hPlain)
          hFree.checked
      refine ⟨⟨hPlain', hFree.keeps_put, ?_⟩,
        (isFolder_iff _ p).mpr ⟨_, hResolve⟩⟩
      intro l
      by_cases hEq : l = name :: m
      · subst hEq
        exact .inr ⟨hFree.free,
          entry?_put_self d (List.cons_ne_nil _ _) _, p,
          List.mem_cons_self,
          (locate?_eq_some_iff _ p _).mpr ⟨_, hResolve⟩⟩
      · exact .inl
          (entry?_put_of_ne d (List.cons_ne_nil _ _) hEq _)

------------------------------------------------------------
-- Creating Folders Around
------------------------------------------------------------

/- Creating nested folders puts each of them at its path. -/
theorem makeNested_grows
    (hPlain : d.IsPlain)
    (paths : List Path) :
    d.Grows paths (d.makeNested paths).1 := by
  refine makeNested_preserves paths (Grows.refl hPlain paths)
    ?_
  intro e e' p hMem hGrows hMake
  have hOne := (hGrows.plain.makeFolder_grows hMake).1
  refine hGrows.trans (hOne.mono ?_)
  intro q hHead
  rw [List.mem_singleton.mp hHead]
  exact hMem

/- Creating folders puts them at the path or around it. -/
theorem makeFolders_grows
    (hPlain : d.IsPlain)
    (p : Path) :
    d.Grows (p :: p.around) (d.makeFolders p).1 := by
  unfold makeFolders
  split
  · exact Grows.refl hPlain _
  · exact hPlain.makeNested_grows _

/- If no step failed, the folder is there. -/
theorem isFolder_makeFolders
    (hPlain : d.IsPlain)
    {p : Path}
    (hSome : p ≠ [])
    (hMade : (d.makeFolders p).2 = none) :
    (d.makeFolders p).1.IsFolder p := by
  have hPardon
      {e : Disk}
      {fault : DeviceFault}
      (hNone : (e.pardon p fault).2 = none) :
      (e.pardon p fault).1.IsFolder p := by
    unfold pardon at hNone ⊢
    split at hNone
    · rename_i hFolder
      rw [if_pos hFolder]
      exact hFolder
    · cases hNone
  rw [makeFolders, if_neg hSome] at hMade ⊢
  have hGrows := hPlain.makeNested_grows p.around
  unfold makeNested at hMade ⊢
  split
  · rename_i d' hMake
    exact (hPlain.makeFolder_grows hMake).2
  · rename_i hMissing
    rw [hMissing] at hMade
    simp only at hMade
    split
    · rename_i d' fault hNested
      rw [hNested] at hMade
      cases hMade
    · rename_i d' hNested
      rw [hNested] at hMade hGrows
      simp only at hMade
      split
      · rename_i d'' hMake
        exact (hGrows.plain.makeFolder_grows hMake).2
      · rename_i fault hMake
        rw [hMake] at hMade
        exact hPardon hMade
  · rename_i fault hOther hMake
    split at hMade
    · rename_i hOk
      cases hMake.symm.trans hOk
    · rename_i hMissing
      cases hMake.symm.trans hMissing
      exact absurd rfl hOther
    · rename_i fault' _ hMake'
      cases hMake.symm.trans hMake'
      exact hPardon hMade

------------------------------------------------------------
-- Folders That Are There
------------------------------------------------------------

/- Around a folder that is there, there is a folder. -/
theorem folderAround_of_folderAt
    (hPlain : d.IsPlain)
    {p : Path}
    {l : Location}
    (hAt : d.FolderAt p l)
    {name : Name}
    (hLast : p.names.getLast? = some name) :
    ∃ m, d.folderAround p = .ok m := by
  rw [FolderAt, names_eq_of_getLast? hLast,
    hPlain.go_append_cons_iff] at hAt
  rcases hAt with ⟨m, hAround, -⟩
  exact ⟨m, hPlain.folderAround_eq_ok_iff.mpr hAround⟩

/-
  A path that leads to a folder has no free place, and
  nothing around it is missing.
-/
theorem placeAt_of_folderAt
    (hPlain : d.IsPlain)
    {p : Path}
    {l : Location}
    (hAt : d.FolderAt p l)
    (hCheck : checkPath p = .ok ()) :
    ∃ fault, d.placeAt p = .error fault ∧
      fault ≠ .noSuchFile := by
  cases hPlace : d.placeAt p with
  | ok m =>
      rcases hPlain.placeAt_eq_ok hPlace with
        ⟨name, k, -, hFree⟩
      exact absurd hAt (hFree.not_folderAt hPlain)
  | error fault =>
      refine ⟨fault, rfl, ?_⟩
      rintro rfl
      unfold placeAt at hPlace
      rw [hCheck] at hPlace
      simp only at hPlace
      split at hPlace
      · cases hPlace
      rename_i name hLast
      rcases hPlain.folderAround_of_folderAt hAt hLast with
        ⟨m, hAround⟩
      rw [hAround] at hPlace
      simp only at hPlace
      split at hPlace
      · cases hPlace
      split at hPlace
      · cases hPlace
      split at hPlace
      · cases hPlace
      · cases hPlace

/- Creating a folder that is there changes nothing. -/
theorem makeFolders_of_isFolder
    (hPlain : d.IsPlain)
    {p : Path}
    (hSome : p ≠ [])
    (hFolder : d.IsFolder p) :
    d.makeFolders p = (d, none) := by
  rcases (isFolder_iff d p).mp hFolder with ⟨l, hResolve⟩
  rcases hPlain.placeAt_of_folderAt
      (hPlain.folderAt_of_resolve hResolve)
      (checkPath_of_resolveTo hResolve) with
    ⟨fault, hPlace, hOther⟩
  have hMake : d.makeFolder p = .error fault := by
    rw [makeFolder, hPlace]
    rfl
  rw [makeFolders, if_neg hSome]
  unfold makeNested
  rw [hMake]
  split
  · rename_i hEq
    cases hEq
  · rename_i hEq
    cases hEq
    exact absurd rfl hOther
  · rw [pardon, if_pos hFolder]

end IsPlain

end Disk

end PageHeat
