import PageHeat.Proofs.Disk.Plain

/-
  What paths into a folder lead to on a plain disk.

  A path that was joined from the path of a folder and a
  name leads to the entry of this name in the folder. Only
  the two names of dots lead somewhere else, and never to a
  file. So two disks that agree on the folder and on this
  one entry agree on what is read there.

  Key definitions include:
    * `Disk.FolderAt`

  Key lemmas include:
    * `Disk.go_of_keeps`
    * `Disk.IsPlain.resolve_join`
    * `Disk.IsPlain.resolve_join_file`
    * `Disk.IsPlain.create_join`
    * `Disk.IsPlain.read_join_congr`
    * `Disk.IsPlain.create_eq_put`
-/

------------------------------------------------------------
-- Paths Of Folders
------------------------------------------------------------

namespace PageHeat

namespace Disk

/-
  A path whose names lead to a folder. Other than a path
  that can be looked up, it may be empty.
-/
def FolderAt (d : Disk) (p : Path) (l : Location) : Prop :=
  d.go (origin p d.here) p.names = .ok (.present l .folder)

/- A path that leads somewhere can be looked up. -/
theorem checkPath_of_resolveTo
    {d : Disk}
    {atLink : AtLink}
    {p : Path}
    {spot : Spot}
    (hResolve : d.resolveTo atLink p = .ok spot) :
    checkPath p = .ok () := by
  unfold resolveTo at hResolve
  split at hResolve
  · cases hResolve
  · assumption

/- A path leads to a folder that a disk has. -/
theorem isFolder_iff
    (d : Disk)
    (p : Path) :
    d.IsFolder p ↔
      ∃ l, d.resolve p = .ok (.present l .folder) := by
  unfold IsFolder
  split
  · rename_i l hResolve
    exact ⟨fun _ => ⟨l, hResolve⟩, fun _ => trivial⟩
  · rename_i hOther
    constructor
    · intro hFalse
      exact hFalse.elim
    · rintro ⟨l, hResolve⟩
      exact hOther l hResolve

/- A walk comes to a folder as long as the disk keeps it. -/
theorem go_of_keeps
    {d d' : Disk}
    (hKeeps : d.Keeps d')
    {l m : Location}
    {names : List Name}
    (hGo : d.go l names = .ok (.present m .folder)) :
    d'.go l names = .ok (.present m .folder) := by
  have hGoOn : AtLink.follow ≠ AtLink.stay := by decide
  have hNever :
      ∀ (k : Location) (names : List Name) (spot : Spot),
        (Except.error DeviceFault.tooManyLinks :
            Except DeviceFault Spot) = .ok spot →
          ∃ spot' : Spot,
            (Except.error DeviceFault.tooManyLinks :
                Except DeviceFault Spot) = .ok spot' ∧
              spot'.place = spot.place := by
    intro k names spot hFollow
    cases hFollow
  rcases descend_of_keeps hKeeps hGoOn hNever hGo with
    ⟨spot, hGo', hPlace⟩
  have hOn : (Spot.present m .folder).IsOn d := go_isOn hGo
  have hFolder : d'.entry? spot.place = some .folder := by
    rw [hPlace]
    exact hKeeps.folder hOn
  rw [go, hGo', (go_isOn hGo').eq_present hFolder, hPlace]
  rfl

namespace FolderAt

variable {d d' : Disk} {p : Path} {l : Location}

theorem entry?_eq
    (hAt : d.FolderAt p l) :
    d.entry? l = some .folder := by
  have hOn : (Spot.present l .folder).IsOn d := go_isOn hAt
  exact hOn

/- A path leads to one folder. -/
theorem unique
    {m : Location}
    (hAt : d.FolderAt p l)
    (hOther : d.FolderAt p m) :
    l = m := by
  cases hAt.symm.trans hOther
  rfl

/- A path leads to its folder as long as the disk keeps. -/
theorem of_keeps
    (hAt : d.FolderAt p l)
    (hKeeps : d.Keeps d') :
    d'.FolderAt p l := by
  rw [FolderAt, hKeeps.here_eq]
  exact go_of_keeps hKeeps hAt

end FolderAt

------------------------------------------------------------
-- Paths Into Folders
------------------------------------------------------------

namespace IsPlain

variable {d : Disk} {l : Location}

/- A path that leads to a folder has names that do. -/
theorem folderAt_of_resolve
    (hPlain : d.IsPlain)
    {p : Path}
    (hResolve : d.resolve p = .ok (.present l .folder)) :
    d.FolderAt p l := by
  have hCheck := checkPath_of_resolveTo hResolve
  rw [resolve, hPlain.resolveTo_eq_go _ hCheck, Path.steps]
    at hResolve
  split at hResolve
  · rcases hPlain.go_append_here_iff.mp hResolve with
      ⟨m, hNames, hEq⟩
    cases hEq
    exact hNames
  · exact hResolve

/- Names that lead to a folder make a path that does. -/
theorem resolve_of_folderAt
    (hPlain : d.IsPlain)
    {p : Path}
    (hAt : d.FolderAt p l)
    (hCheck : checkPath p = .ok ()) :
    d.resolve p = .ok (.present l .folder) := by
  rw [resolve, hPlain.resolveTo_eq_go _ hCheck, Path.steps]
  split
  · exact hPlain.go_append_here_iff.mpr ⟨l, hAt, rfl⟩
  · exact hAt

/- A joined path leads where its name leads in the folder. -/
theorem resolve_join
    (hPlain : d.IsPlain)
    {dir : Path}
    (hAt : d.FolderAt dir l)
    {name : Name}
    (hName : Path.IsName name)
    (atLink : AtLink)
    (hCheck : checkPath (dir.join name) = .ok ()) :
    d.resolveTo atLink (dir.join name) = d.go l [name] := by
  have hOrigin :
      origin (dir.join name) d.here = origin dir d.here := by
    rw [origin, origin, Path.isAbsolute_join dir hName]
  rw [hPlain.resolveTo_eq_go _ hCheck,
    Path.steps_join dir hName, hOrigin,
    hPlain.go_append _ _ (List.cons_ne_nil _ _), hAt]

/- One name leads to its entry in a folder. -/
theorem go_one
    (hPlain : d.IsPlain)
    (hFolder : d.entry? l = some .folder)
    {name : Name}
    (hHere : name ≠ Path.here)
    (hOut : name ≠ Path.outward)
    {spot : Spot}
    (hGo : d.go l [name] = .ok spot) :
    spot.place = name :: l := by
  rw [go, hPlain.descend_name hFolder hHere hOut] at hGo
  split at hGo
  · cases hGo
  · split at hGo
    · cases hGo
      rfl
    · rename_i hSome
      cases hEntry : d.entry? (name :: l) with
      | none => exact absurd ⟨hEntry, rfl⟩ hSome
      | some e =>
          rw [descend_nil hEntry] at hGo
          cases hGo
          rfl

/- A dot leads to the folder, and two dots lead outward. -/
theorem go_dots
    (hPlain : d.IsPlain)
    (hFolder : d.entry? l = some .folder)
    {name : Name}
    (hDots : name = Path.here ∨ name = Path.outward) :
    ∃ m, d.go l [name] = .ok (.present m .folder) ∧
      (m = l ∨ m = l.tail) := by
  rcases hDots with rfl | rfl
  · refine ⟨l, ?_, .inl rfl⟩
    rw [go, descend_here hFolder, descend_nil hFolder]
  · have hOuter := hPlain.folder_outward hFolder
    refine ⟨l.tail, ?_, .inr rfl⟩
    rw [go, descend_outward hFolder, descend_nil hOuter]

/- A proper name in a folder is found at the joined path. -/
theorem place_of_resolve_join
    (hPlain : d.IsPlain)
    {dir : Path}
    (hAt : d.FolderAt dir l)
    {name : Name}
    (hProper : Path.IsProper name)
    {atLink : AtLink}
    {spot : Spot}
    (hResolve :
      d.resolveTo atLink (dir.join name) = .ok spot) :
    spot.place = name :: l := by
  have hCheck := checkPath_of_resolveTo hResolve
  rw [hPlain.resolve_join hAt hProper.1 _ hCheck]
    at hResolve
  exact hPlain.go_one hAt.entry?_eq hProper.2.1
    hProper.2.2 hResolve

/- A file at a joined path is the one in the folder. -/
theorem resolve_join_file
    (hPlain : d.IsPlain)
    {dir : Path}
    (hAt : d.FolderAt dir l)
    {name : Name}
    (hName : Path.IsName name)
    {m : Location}
    {content : Stream}
    (hResolve :
      d.resolve (dir.join name) =
        .ok (.present m (.file content))) :
    m = name :: l := by
  by_cases hDots : name = Path.here ∨ name = Path.outward
  · have hCheck := checkPath_of_resolveTo hResolve
    rcases hPlain.go_dots hAt.entry?_eq hDots with
      ⟨k, hGo, -⟩
    rw [resolve, hPlain.resolve_join hAt hName _ hCheck, hGo]
      at hResolve
    cases hResolve
  · rw [not_or] at hDots
    exact hPlain.place_of_resolve_join hAt ⟨hName, hDots⟩
      hResolve

/- A file at a joined path is created in the folder. -/
theorem create_join
    (hPlain : d.IsPlain)
    {dir : Path}
    (hAt : d.FolderAt dir l)
    {name : Name}
    (hProper : Path.IsProper name)
    {target : Location}
    {d' : Disk}
    (hCreate : d.create (dir.join name) = .ok (target, d')) :
    target = name :: l := by
  rcases create_resolves hCreate with
    ⟨spot, hResolve, hPlace⟩
  rw [← hPlace]
  exact hPlain.place_of_resolve_join hAt hProper hResolve

/-
  A file can be created in a folder, if its path can be
  looked up and its name is not too long, unless a folder
  has its place.
-/
theorem create_join_eq
    (hPlain : d.IsPlain)
    {dir : Path}
    (hAt : d.FolderAt dir l)
    {name : Name}
    (hProper : Path.IsProper name) :
    d.create (dir.join name) =
      match checkPath (dir.join name) with
      | .error fault => .error fault
      | .ok () =>
          if nameLimit < name.length then
            .error .nameTooLong
          else if d.entry? (name :: l) = some .folder then
            .error .isFolder
          else
            .ok (name :: l, d.put (name :: l) emptyFile) := by
  rw [create, Path.endsInSlash_join dir hProper.1]
  simp only [Bool.false_eq_true, if_false]
  cases hCheck : checkPath (dir.join name) with
  | error fault => rw [resolveTo, hCheck]
  | ok _ =>
      rw [hPlain.resolve_join hAt hProper.1 _ hCheck, go,
        hPlain.descend_name hAt.entry?_eq hProper.2.1
          hProper.2.2]
      by_cases hLong : nameLimit < name.length
      · simp only [if_pos hLong]
      simp only [if_neg hLong]
      cases hEntry : d.entry? (name :: l) with
      | none => simp
      | some e =>
          rw [descend_nil hEntry]
          rcases hPlain.kinds hEntry with rfl | ⟨content, rfl⟩
          · simp
          · simp

/-
  Two plain disks that have the folder of a path at the
  same location, and a folder of some name in both of them
  or in none, create the same file at the joined path.
-/
theorem create_join_congr
    {d' : Disk}
    (hPlain : d.IsPlain)
    (hPlain' : d'.IsPlain)
    {dir : Path}
    (hAt : d.FolderAt dir l)
    (hAt' : d'.FolderAt dir l)
    {name : Name}
    (hProper : Path.IsProper name)
    (hFolder :
      d'.entry? (name :: l) = some .folder ↔
        d.entry? (name :: l) = some .folder) :
    d'.create (dir.join name) =
      (d.create (dir.join name)).map
        fun created =>
          (created.1, d'.put created.1 emptyFile) := by
  rw [hPlain.create_join_eq hAt hProper,
    hPlain'.create_join_eq hAt' hProper]
  simp only [hFolder]
  cases checkPath (dir.join name) with
  | error fault => rfl
  | ok _ =>
      simp only
      split
      · rfl
      · split
        · rfl
        · rfl

/-
  Two plain disks that have the folder of a path at the
  same location, and the same entry of a name in it, lead
  to the same place and entry at the joined path.
-/
theorem resolve_join_congr
    {d' : Disk}
    (hPlain : d.IsPlain)
    (hPlain' : d'.IsPlain)
    {dir : Path}
    (hAt : d.FolderAt dir l)
    (hAt' : d'.FolderAt dir l)
    {name : Name}
    (hName : Path.IsName name)
    (hSame : d'.entry? (name :: l) = d.entry? (name :: l)) :
    d'.resolve (dir.join name) = d.resolve (dir.join name) := by
  cases hCheck : checkPath (dir.join name) with
  | error fault =>
      rw [resolve, resolve, resolveTo, resolveTo, hCheck]
  | ok _ =>
      rw [resolve, resolve,
        hPlain.resolve_join hAt hName _ hCheck,
        hPlain'.resolve_join hAt' hName _ hCheck]
      by_cases hHere : name = Path.here
      · rw [hHere, go, go, descend_here hAt.entry?_eq,
          descend_here hAt'.entry?_eq,
          descend_nil hAt.entry?_eq,
          descend_nil hAt'.entry?_eq]
      by_cases hOut : name = Path.outward
      · have hOuter := hPlain.folder_outward hAt.entry?_eq
        have hOuter' := hPlain'.folder_outward hAt'.entry?_eq
        rw [hOut, go, go, descend_outward hAt.entry?_eq,
          descend_outward hAt'.entry?_eq,
          descend_nil hOuter, descend_nil hOuter']
      rw [go, go,
        hPlain.descend_name hAt.entry?_eq hHere hOut,
        hPlain'.descend_name hAt'.entry?_eq hHere hOut, hSame]
      split
      · rfl
      · split
        · rfl
        · cases hEntry : d.entry? (name :: l) with
          | none =>
              rw [descend_of_none hEntry,
                descend_of_none (hSame.trans hEntry)]
          | some e =>
              rw [descend_nil hEntry,
                descend_nil (hSame.trans hEntry)]

/- Such disks have the same to read there. -/
theorem read_join_congr
    {d' : Disk}
    (hPlain : d.IsPlain)
    (hPlain' : d'.IsPlain)
    {dir : Path}
    (hAt : d.FolderAt dir l)
    (hAt' : d'.FolderAt dir l)
    {name : Name}
    (hName : Path.IsName name)
    (hSame : d'.entry? (name :: l) = d.entry? (name :: l)) :
    d'.read (dir.join name) = d.read (dir.join name) := by
  rw [read, read,
    hPlain.resolve_join_congr hPlain' hAt hAt' hName hSame]

------------------------------------------------------------
-- Writing On Plain Disks
------------------------------------------------------------

/- A step along a path is a name or a dot. -/
theorem isName_of_mem_steps
    {p : Path}
    {name : Name}
    (hMem : name ∈ p.steps)
    (hHere : name ≠ Path.here) :
    Path.IsName name := by
  unfold Path.steps at hMem
  split at hMem
  · rcases List.mem_append.mp hMem with hNames | hDot
    · exact Path.isName_of_mem_names hNames
    · exact absurd (List.mem_singleton.mp hDot) hHere
  · exact Path.isName_of_mem_names hMem

/- A file that can be created fits at its place. -/
theorem create_fits
    (hPlain : d.IsPlain)
    {p : Path}
    {target : Location}
    {d' : Disk}
    (hCreate : d.create p = .ok (target, d'))
    (content : Stream) :
    d.Fits (.file content) target := by
  rcases create_resolves hCreate with
    ⟨spot, hResolve, hPlace⟩
  have hKind : (Entry.file content).IsFile := ⟨content, rfl⟩
  cases spot with
  | vacant folder name =>
      have hCheck := checkPath_of_resolveTo hResolve
      rw [hPlain.resolveTo_eq_go _ hCheck] at hResolve
      rcases go_eq_vacant hResolve with
        ⟨hFolder, hMem, hHere, hOut⟩
      rw [← hPlace]
      exact
        ⟨⟨isName_of_mem_steps hMem hHere, hHere, hOut⟩,
          hFolder, .inr hKind⟩
  | present l e =>
      have hOn : (Spot.present l e).IsOn d :=
        resolveTo_isOn hResolve
      have hEntry : d.entry? l = some e := hOn
      have hNe := (create_creates hCreate).ne_top
      rw [← hPlace] at hNe ⊢
      cases l with
      | nil => exact absurd rfl hNe
      | cons name around =>
          have hFits := hPlain.fits_of_entry hEntry
          exact ⟨hFits.1, hFits.2.1, .inr hKind⟩

/- On a plain disk, creating a file comes to an empty file. -/
theorem create_eq_put
    (hPlain : d.IsPlain)
    {p : Path}
    {target : Location}
    {d' : Disk}
    (hCreate : d.create p = .ok (target, d')) :
    d' = d.put target emptyFile ∧ d'.IsPlain := by
  have hFits := hPlain.create_fits hCreate
    (Stream.ofBytes [])
  have hCreates := create_creates hCreate
  have hKeeps := hCreates.keeps
  have hNoDevice
      {e : Entry}
      (hEntry : d.entry? target = some e)
      (hFolder : e ≠ .folder)
      (hFile : ¬ e.IsFile) :
      False := by
    rcases hPlain.kinds hEntry with hEq | hIs
    · exact hFolder hEq
    · exact hFile hIs
  cases hCreates with
  | new hEntry => exact ⟨rfl, hPlain.put hFits hKeeps⟩
  | emptied content hEntry =>
      exact ⟨rfl, hPlain.put hFits hKeeps⟩
  | nullDevice hEntry =>
      exact (hNoDevice hEntry (by decide) (by decide)).elim
  | fullDevice hEntry =>
      exact (hNoDevice hEntry (by decide) (by decide)).elim

end IsPlain

end Disk

end PageHeat
