import PageHeat.Proofs.Disk.Path
import PageHeat.Proofs.Disk.Writing

/-
  Disks of folders and files only.

  On a plain disk there are no links and no devices, every
  entry lies in a folder, and walking is a matter of names
  alone: walking along the names of two paths is walking
  along the first and from there along the second.

  Key definitions include:
    * `Disk.IsPlain`
    * `Disk.go`

  Key lemmas include:
    * `Disk.IsPlain.put`
    * `Disk.IsPlain.go_append`
    * `Disk.IsPlain.go_append_cons_iff`
    * `Disk.go_eq_vacant`
-/

------------------------------------------------------------
-- Plain Disks
------------------------------------------------------------

namespace PageHeat

namespace Disk

/- An entry that a plain disk may have at a location. -/
def Fits (d : Disk) (e : Entry) : Location → Prop
  | [] => False
  | name :: around =>
      Path.IsProper name ∧ d.entry? around = some .folder ∧
        (e = .folder ∨ e.IsFile)

instance (d : Disk) (e : Entry) (l : Location) :
    Decidable (d.Fits e l) := by
  unfold Fits
  split <;> infer_instance

/-
  A disk with folders and files only, each with a name of
  its own in a folder.
-/
structure IsPlain (d : Disk) : Prop where
  fits : ∀ entry ∈ d.entries, d.Fits entry.2 entry.1
  distinct : (d.entries.map Prod.fst).Nodup

instance (d : Disk) : Decidable d.IsPlain :=
  decidable_of_iff
    ((∀ entry ∈ d.entries, d.Fits entry.2 entry.1) ∧
      (d.entries.map Prod.fst).Nodup)
    ⟨fun h => ⟨h.1, h.2⟩, fun h => ⟨h.1, h.2⟩⟩

/- What is found in a list is in it. -/
theorem mem_of_lookup
    {l : Location}
    {e : Entry}
    {entries : List (Location × Entry)}
    (hFound : entries.lookup l = some e) :
    (l, e) ∈ entries := by
  induction entries with
  | nil => cases hFound
  | cons first entries ih =>
      rcases first with ⟨m, f⟩
      by_cases hEq : l = m
      · subst hEq
        rw [List.lookup_cons_self, Option.some.injEq]
          at hFound
        rw [hFound]
        exact List.mem_cons_self
      · rw [lookup_cons_of_ne hEq] at hFound
        exact List.mem_cons_of_mem _ (ih hFound)

/- Setting an entry adds no other one. -/
theorem mem_setEntry
    {l : Location}
    {e : Entry}
    {entries : List (Location × Entry)}
    {entry : Location × Entry}
    (hMem : entry ∈ setEntry l e entries) :
    entry = (l, e) ∨ entry ∈ entries := by
  induction entries with
  | nil => exact .inl (List.mem_singleton.mp hMem)
  | cons first entries ih =>
      rcases first with ⟨m, f⟩
      by_cases hEq : m = l
      · rw [setEntry, if_pos hEq, List.mem_cons] at hMem
        rcases hMem with hNew | hOld
        · exact .inl hNew
        · exact .inr (List.mem_cons_of_mem _ hOld)
      · rw [setEntry, if_neg hEq, List.mem_cons] at hMem
        rcases hMem with rfl | hRest
        · exact .inr List.mem_cons_self
        · rcases ih hRest with hNew | hOld
          · exact .inl hNew
          · exact .inr (List.mem_cons_of_mem _ hOld)

namespace IsPlain

variable {d : Disk}

theorem fits_of_entry
    (hPlain : d.IsPlain)
    {name : Name}
    {l : Location}
    {e : Entry}
    (hEntry : d.entry? (name :: l) = some e) :
    d.Fits e (name :: l) :=
  hPlain.fits (name :: l, e) (mem_of_lookup hEntry)

theorem kinds
    (hPlain : d.IsPlain)
    {l : Location}
    {e : Entry}
    (hEntry : d.entry? l = some e) :
    e = .folder ∨ e.IsFile := by
  cases l with
  | nil => exact .inl (Option.some.inj hEntry).symm
  | cons name l => exact (hPlain.fits_of_entry hEntry).2.2

theorem no_link
    (hPlain : d.IsPlain)
    {l : Location}
    {e : Entry}
    (hEntry : d.entry? l = some e) :
    ¬ e.IsLink := by
  rcases hPlain.kinds hEntry with rfl | hFile
  · exact id
  · exact hFile.not_isLink

theorem folder_around
    (hPlain : d.IsPlain)
    {name : Name}
    {l : Location}
    {e : Entry}
    (hEntry : d.entry? (name :: l) = some e) :
    d.entry? l = some .folder :=
  (hPlain.fits_of_entry hEntry).2.1

theorem folder_outward
    (hPlain : d.IsPlain)
    {l : Location}
    (hFolder : d.entry? l = some .folder) :
    d.entry? l.tail = some .folder := by
  cases l with
  | nil => rfl
  | cons name l => exact hPlain.folder_around hFolder

theorem isProper
    (hPlain : d.IsPlain)
    {name : Name}
    {l : Location}
    {e : Entry}
    (hEntry : d.entry? (name :: l) = some e) :
    Path.IsProper name :=
  (hPlain.fits_of_entry hEntry).1

/- A folder or a file can be put where it fits. -/
theorem put
    (hPlain : d.IsPlain)
    {l : Location}
    {e : Entry}
    (hFits : d.Fits e l)
    (hKeeps : d.Keeps (d.put l e)) :
    (d.put l e).IsPlain := by
  have hStill (f : Entry) (m : Location) :
      d.Fits f m → (d.put l e).Fits f m := by
    intro hOld
    cases m with
    | nil => exact hOld
    | cons name around =>
        exact ⟨hOld.1, hKeeps.folder hOld.2.1, hOld.2.2⟩
  refine ⟨?_, nodup_put hPlain.distinct l e⟩
  intro entry hMem
  rcases mem_setEntry hMem with rfl | hOld
  · exact hStill e l hFits
  · exact hStill entry.2 entry.1 (hPlain.fits entry hOld)

end IsPlain

------------------------------------------------------------
-- Walking Along Names
------------------------------------------------------------

/- Walk along names where there are no links. -/
def go
    (d : Disk)
    (l : Location)
    (names : List Name) : Except DeviceFault Spot :=
  d.descend .follow (fun _ _ => .error .tooManyLinks) l names

/- Walks along names come to spots that are on the disk. -/
theorem go_isOn
    {d : Disk}
    {l : Location}
    {names : List Name}
    {spot : Spot}
    (hGo : d.go l names = .ok spot) :
    spot.IsOn d := by
  refine descend_isOn ?_ hGo
  intro m names spot hFollow
  cases hFollow

section Walks

variable {d : Disk} {atLink : AtLink}
variable {follow : Location → List Name → Except DeviceFault Spot}
variable {l : Location}

/- A walk from a file ends at once. -/
theorem descend_of_not_folder
    {e : Entry}
    (hEntry : d.entry? l = some e)
    (hNot : e ≠ .folder)
    (name : Name)
    (rest : List Name) :
    d.descend atLink follow l (name :: rest) =
      .error .notFolder := by
  rw [descend, hEntry]
  cases e with
  | folder => exact absurd rfl hNot
  | _ => rfl

theorem descend_of_none
    (hNone : d.entry? l = none)
    (names : List Name) :
    d.descend atLink follow l names = .error .noSuchFile := by
  cases names with
  | nil => rw [descend, hNone]
  | cons name rest => rw [descend, hNone]

theorem descend_here
    (hFolder : d.entry? l = some .folder)
    (rest : List Name) :
    d.descend atLink follow l (Path.here :: rest) =
      d.descend atLink follow l rest := by
  rw [descend, hFolder]
  simp only
  rw [if_pos trivial]

theorem descend_outward
    (hFolder : d.entry? l = some .folder)
    (rest : List Name) :
    d.descend atLink follow l (Path.outward :: rest) =
      d.descend atLink follow l.tail rest := by
  have hNe : Path.outward ≠ Path.here := by decide
  rw [descend, hFolder]
  simp only
  rw [if_neg hNe, if_pos trivial]

/- Any other name leads into a folder, if it is not long. -/
theorem IsPlain.descend_name
    (hPlain : d.IsPlain)
    (hFolder : d.entry? l = some .folder)
    {name : Name}
    (hHere : name ≠ Path.here)
    (hOut : name ≠ Path.outward)
    (rest : List Name) :
    d.descend atLink follow l (name :: rest) =
      if nameLimit < name.length then
        .error .nameTooLong
      else if d.entry? (name :: l) = none ∧ rest = [] then
        .ok (.vacant l name)
      else
        d.descend atLink follow (name :: l) rest := by
  rw [descend, hFolder]
  simp only
  rw [if_neg hHere, if_neg hOut]
  split
  · rfl
  · split
    · rename_i hNone
      rw [hNone, descend_of_none hNone]
      by_cases hRest : rest = []
      · rw [if_pos hRest, if_pos ⟨rfl, hRest⟩]
      · rw [if_neg hRest, if_neg (fun h => hRest h.2)]
    · rename_i target hLink
      exact absurd trivial (hPlain.no_link hLink)
    · rename_i first hTwin
      exact absurd trivial (hPlain.no_link hTwin)
    · rename_i e _ _ hEntry
      have hTaken : ¬ (some e = none ∧ rest = []) := by
        rintro ⟨hNone, -⟩
        cases hNone
      rw [hEntry, if_neg hTaken]

/- Every walk on a plain disk is a walk along names. -/
theorem IsPlain.descend_eq_go
    (hPlain : d.IsPlain)
    (names : List Name) :
    d.descend atLink follow l names = d.go l names := by
  rw [go]
  induction names generalizing l with
  | nil => rw [descend, descend]
  | cons name rest ih =>
      cases hEntry : d.entry? l with
      | none =>
          rw [descend_of_none hEntry, descend_of_none hEntry]
      | some e =>
          by_cases hFolder : e = .folder
          · subst hFolder
            by_cases hHere : name = Path.here
            · rw [hHere, descend_here hEntry,
                descend_here hEntry, ih]
            by_cases hOut : name = Path.outward
            · rw [hOut, descend_outward hEntry,
                descend_outward hEntry, ih]
            rw [hPlain.descend_name hEntry hHere hOut,
              hPlain.descend_name hEntry hHere hOut, ih]
          · rw [descend_of_not_folder hEntry hFolder,
              descend_of_not_folder hEntry hFolder]

end Walks

/- A walk to a free name comes by its folder. -/
theorem go_eq_vacant
    {d : Disk}
    {l folder : Location}
    {names : List Name}
    {name : Name}
    (hGo : d.go l names = .ok (.vacant folder name)) :
    d.entry? folder = some .folder ∧ name ∈ names ∧
      name ≠ Path.here ∧ name ≠ Path.outward := by
  rw [go] at hGo
  induction names generalizing l with
  | nil =>
      cases hEntry : d.entry? l with
      | none =>
          rw [descend_of_none hEntry] at hGo
          cases hGo
      | some e =>
          rw [descend_nil hEntry] at hGo
          cases hGo
  | cons first rest ih =>
      have hTail
          (hRest :
            d.entry? folder = some .folder ∧ name ∈ rest ∧
              name ≠ Path.here ∧ name ≠ Path.outward) :
          d.entry? folder = some .folder ∧
            name ∈ first :: rest ∧
            name ≠ Path.here ∧ name ≠ Path.outward :=
        ⟨hRest.1, List.mem_cons_of_mem _ hRest.2.1,
          hRest.2.2⟩
      rcases descend_cons_iff.mp hGo with
        ⟨hFolder, hAdvances⟩
      cases hAdvances with
      | here _ hRest => exact hTail (ih hRest)
      | outward _ _ hRest => exact hTail (ih hRest)
      | vacant hHere hOut _ _ _ hSpot =>
          cases hSpot
          exact ⟨hFolder, List.mem_cons_self, hHere, hOut⟩
      | stay _ _ _ _ _ _ hStay _ => cases hStay.2
      | follow _ _ _ _ _ _ _ hOnward => cases hOnward
      | twin _ _ _ _ _ _ hSpot =>
          rcases atTwin_eq_ok_iff.mp hSpot with ⟨_, -, -, hEq⟩
          cases hEq
      | into _ _ _ _ _ _ hRest => exact hTail (ih hRest)

namespace IsPlain

variable {d : Disk}

/- Walks over links are walks along names. -/
theorem walk_eq_go
    (hPlain : d.IsPlain)
    (atLink : AtLink)
    (links : Nat)
    (l : Location)
    (names : List Name) :
    d.walk atLink links l names = d.go l names := by
  cases links with
  | zero => exact hPlain.descend_eq_go names
  | succ links => exact hPlain.descend_eq_go names

/- Paths lead where their names lead. -/
theorem resolveTo_eq_go
    (hPlain : d.IsPlain)
    (atLink : AtLink)
    {p : Path}
    (hCheck : checkPath p = .ok ()) :
    d.resolveTo atLink p =
      d.go (origin p d.here) p.steps := by
  rw [resolveTo, hCheck]
  exact hPlain.walk_eq_go atLink _ _ _

/-
  Walking along names and then along some more is walking
  on from where the first ones lead.
-/
theorem go_append
    (hPlain : d.IsPlain)
    (l : Location)
    (names : List Name)
    {more : List Name}
    (hMore : more ≠ []) :
    d.go l (names ++ more) =
      match d.go l names with
      | .error fault => .error fault
      | .ok (.present m _) => d.go m more
      | .ok (.vacant _ _) => .error .noSuchFile := by
  simp only [go]
  induction names generalizing l with
  | nil =>
      cases hEntry : d.entry? l with
      | none =>
          rw [descend_of_none hEntry, descend_of_none hEntry]
      | some e => rw [descend_nil hEntry, List.nil_append]
  | cons name rest ih =>
      rw [List.cons_append]
      cases hEntry : d.entry? l with
      | none =>
          rw [descend_of_none hEntry, descend_of_none hEntry]
      | some e =>
          by_cases hFolder : e = .folder
          · subst hFolder
            by_cases hHere : name = Path.here
            · rw [hHere, descend_here hEntry,
                descend_here hEntry, ih]
            by_cases hOut : name = Path.outward
            · rw [hOut, descend_outward hEntry,
                descend_outward hEntry, ih]
            rw [hPlain.descend_name hEntry hHere hOut,
              hPlain.descend_name hEntry hHere hOut]
            have hSome : ¬ rest ++ more = [] := fun hNil =>
              hMore (List.append_eq_nil_iff.mp hNil).2
            by_cases hLong :
                nameLimit < name.length
            · rw [if_pos hLong, if_pos hLong]
            rw [if_neg hLong, if_neg hLong,
              if_neg (fun h => hSome h.2), ih]
            by_cases hEnd :
                d.entry? (name :: l) = none ∧ rest = []
            · rw [if_pos hEnd, descend_of_none hEnd.1]
            · rw [if_neg hEnd]
          · rw [descend_of_not_folder hEntry hFolder,
              descend_of_not_folder hEntry hFolder]

/- Walking on along some more names starts in a folder. -/
theorem go_append_cons_iff
    (hPlain : d.IsPlain)
    {l : Location}
    {names more : List Name}
    {name : Name}
    {spot : Spot} :
    d.go l (names ++ name :: more) = .ok spot ↔
      ∃ m, d.go l names = .ok (.present m .folder) ∧
        d.go m (name :: more) = .ok spot := by
  rw [hPlain.go_append l names (List.cons_ne_nil _ _)]
  constructor
  · intro hGo
    split at hGo
    · cases hGo
    · rename_i m e hNames
      have hOn : (Spot.present m e).IsOn d := go_isOn hNames
      have hFolder := (descend_cons_iff.mp hGo).1
      cases hOn.symm.trans hFolder
      exact ⟨m, hNames, hGo⟩
    · cases hGo
  · rintro ⟨m, hNames, hGo⟩
    rw [hNames]
    exact hGo

/- A dot behind some names asks for a folder. -/
theorem go_append_here_iff
    (hPlain : d.IsPlain)
    {l : Location}
    {names : List Name}
    {spot : Spot} :
    d.go l (names ++ [Path.here]) = .ok spot ↔
      ∃ m, d.go l names = .ok (.present m .folder) ∧
        spot = .present m .folder := by
  have hHere
      {m : Location}
      (hNames : d.go l names = .ok (.present m .folder)) :
      d.go m [Path.here] = .ok (.present m .folder) := by
    have hOn : (Spot.present m .folder).IsOn d :=
      go_isOn hNames
    have hFolder : d.entry? m = some .folder := hOn
    rw [go, descend_here hFolder, descend_nil hFolder]
  rw [hPlain.go_append_cons_iff]
  constructor
  · rintro ⟨m, hNames, hGo⟩
    cases hGo.symm.trans (hHere hNames)
    exact ⟨m, hNames, rfl⟩
  · rintro ⟨m, hNames, rfl⟩
    exact ⟨m, hNames, hHere hNames⟩

end IsPlain

end Disk

end PageHeat
