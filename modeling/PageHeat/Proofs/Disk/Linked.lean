import PageHeat.Proofs.Disk.Folders

/-
  Creating folders and joining paths on any disk, also one
  with links and devices.

  Creating folders adds folders with proper names and leaves
  everything else as it was. A path that was joined from the
  path of a folder and a name is walked on from the folder,
  with the links that are left; it leads to the place of the
  name in the folder unless a link stands there.

  Key definitions include:
    * `Disk.GainsFolders`

  Key lemmas include:
    * `Disk.makeFolders_gains`
    * `Disk.walk_append`
    * `Disk.place_of_resolve_join`
-/

------------------------------------------------------------
-- New Folders
------------------------------------------------------------

namespace PageHeat

namespace Disk

/-
  A disk that has new folders with proper names, and
  otherwise holds what another one holds.
-/
structure GainsFolders (d d' : Disk) : Prop where
  keeps : d.Keeps d'
  entry_or :
    ∀ l, d'.entry? l = d.entry? l ∨
      d.entry? l = none ∧ d'.entry? l = some .folder ∧
        ∃ name around, l = name :: around ∧
          Path.IsProper name

namespace GainsFolders

variable {d d' d'' : Disk}

theorem refl (d : Disk) : d.GainsFolders d :=
  ⟨Keeps.refl d, fun _ => .inl rfl⟩

/- Folders may be gained twice. -/
theorem trans
    (hFirst : d.GainsFolders d')
    (hSecond : d'.GainsFolders d'') :
    d.GainsFolders d'' := by
  refine ⟨hFirst.keeps.trans hSecond.keeps, ?_⟩
  intro l
  rcases hSecond.entry_or l with
    hSame | ⟨hNone, hFolder, hProper⟩
  · rcases hFirst.entry_or l with
      hSame' | ⟨hNone, hFolder, hProper⟩
    · exact .inl (hSame.trans hSame')
    · exact .inr ⟨hNone, hSame.trans hFolder, hProper⟩
  · rcases hFirst.entry_or l with hSame' | ⟨-, hFolder', -⟩
    · exact .inr ⟨hSame'.symm.trans hNone, hFolder, hProper⟩
    · cases hNone.symm.trans hFolder'

/- A file that is there has been there. -/
theorem file
    (hGains : d.GainsFolders d')
    {l : Location}
    {content : Stream}
    (hFile : d'.entry? l = some (.file content)) :
    d.entry? l = some (.file content) := by
  rcases hGains.entry_or l with hSame | ⟨-, hFolder, -⟩
  · exact hSame.symm.trans hFile
  · cases hFile.symm.trans hFolder

end GainsFolders

/- Creating one folder adds it. -/
theorem makeFolder_gains
    {d d' : Disk}
    {p : Path}
    (hMake : d.makeFolder p = .ok d') :
    d.GainsFolders d' := by
  cases hPlace : d.placeAt p with
  | error fault =>
      rw [makeFolder, hPlace] at hMake
      cases hMake
  | ok l =>
      rw [makeFolder, hPlace] at hMake
      cases hMake
      rcases exists_of_placeAt hPlace with
        ⟨name, m, rfl, -, -, -, hProper, -, hNone⟩
      have hNe := List.cons_ne_nil name m
      refine ⟨Keeps.put_of_none hNone (.inl rfl), ?_⟩
      intro l
      by_cases hEq : l = name :: m
      · subst hEq
        exact .inr
          ⟨hNone, entry?_put_self d hNe _, name, m, rfl,
            hProper⟩
      · exact .inl (entry?_put_of_ne d hNe hEq _)

/- Creating a folder and those around it adds folders. -/
theorem makeFolders_gains (d : Disk) (p : Path) :
    d.GainsFolders (d.makeFolders p).1 := by
  refine makeFolders_preserves p (GainsFolders.refl d) ?_
  intro e e' q _ hGains hMake
  exact hGains.trans (makeFolder_gains hMake)

------------------------------------------------------------
-- Steps Of A Walk
------------------------------------------------------------

section Steps

variable {d : Disk}
variable {follow : Location → List Name → Except DeviceFault Spot}
variable {l : Location} {name : Name}

/- A link is replaced by the names of its path. -/
theorem descend_link
    (hFolder : d.entry? l = some .folder)
    (hHere : name ≠ Path.here)
    (hOut : name ≠ Path.outward)
    (hShort : ¬ nameLimit < name.length)
    {target : Path}
    (hLink : d.entry? (name :: l) = some (.link target))
    (rest : List Name) :
    d.descend .follow follow l (name :: rest) =
      follow (origin target l) (target.steps ++ rest) := by
  rw [descend, hFolder]
  simp only
  rw [if_neg hHere, if_neg hOut, if_neg hShort, hLink]
  simp

/- Anything else that is there is walked into. -/
theorem descend_into
    {atLink : AtLink}
    (hFolder : d.entry? l = some .folder)
    (hHere : name ≠ Path.here)
    (hOut : name ≠ Path.outward)
    (hShort : ¬ nameLimit < name.length)
    {e : Entry}
    (hEntry : d.entry? (name :: l) = some e)
    (hNoLink : ¬ e.IsLink)
    (rest : List Name) :
    d.descend atLink follow l (name :: rest) =
      d.descend atLink follow (name :: l) rest := by
  rw [descend, hFolder]
  simp only
  rw [if_neg hHere, if_neg hOut, if_neg hShort, hEntry]
  cases e with
  | link target => exact absurd trivial hNoLink
  | twin first => exact absurd trivial hNoLink
  | _ => rfl

end Steps

------------------------------------------------------------
-- Walking On From A Folder
------------------------------------------------------------

/-
  A walk along names that comes to a folder, perhaps with a
  dot behind them, goes on from there along any other names.
  The walks over links have to do so as well.
-/
theorem descend_append
    {d : Disk}
    {follow : Location → List Name → Except DeviceFault Spot}
    {m : Location}
    {tail : List Name}
    (hTail : tail = [] ∨ tail = [Path.here])
    (hFollow :
      ∀ k names,
        follow k (names ++ tail) = .ok (.present m .folder) →
          ∃ left, ∀ more, more ≠ [] →
            follow k (names ++ more) =
              d.walk .follow left m more)
    (hSelf :
      ∃ left, ∀ more,
        d.descend .follow follow m more =
          d.walk .follow left m more)
    {l : Location}
    {names : List Name}
    (hWalk :
      d.descend .follow follow l (names ++ tail) =
        .ok (.present m .folder)) :
    ∃ left, ∀ more, more ≠ [] →
      d.descend .follow follow l (names ++ more) =
        d.walk .follow left m more := by
  induction names generalizing l with
  | nil =>
      have hEq : m = l := by
        cases hEntry : d.entry? l with
        | none =>
            rw [descend_of_none hEntry] at hWalk
            cases hWalk
        | some e =>
            rcases hTail with rfl | rfl
            · rw [List.append_nil, descend_nil hEntry] at hWalk
              cases hWalk
              rfl
            · have hFolder := (descend_cons_iff.mp hWalk).1
              rw [List.nil_append, descend_here hFolder,
                descend_nil hFolder] at hWalk
              cases hWalk
              rfl
      subst hEq
      rcases hSelf with ⟨left, hLeft⟩
      exact ⟨left, fun more _ => hLeft more⟩
  | cons name rest ih =>
      rw [List.cons_append] at hWalk
      rcases descend_cons_iff.mp hWalk with
        ⟨hFolder, hAdvances⟩
      cases hAdvances with
      | here hName hRest =>
          rcases ih hRest with ⟨left, hLeft⟩
          refine ⟨left, ?_⟩
          intro more hMore
          rw [List.cons_append, hName, descend_here hFolder]
          exact hLeft more hMore
      | outward _ hName hRest =>
          rcases ih hRest with ⟨left, hLeft⟩
          refine ⟨left, ?_⟩
          intro more hMore
          rw [List.cons_append, hName, descend_outward hFolder]
          exact hLeft more hMore
      | vacant _ _ _ _ _ hSpot => cases hSpot
      | stay _ _ _ _ _ _ hStay _ => cases hStay.2
      | twin _ _ _ _ _ _ hSpot =>
          rcases atTwin_eq_ok_iff.mp hSpot with ⟨_, -, -, hEq⟩
          cases hEq
      | follow hHere hOut hShort target hLink _ _ hOnward =>
          rw [← List.append_assoc] at hOnward
          rcases hFollow _ _ hOnward with ⟨left, hLeft⟩
          refine ⟨left, ?_⟩
          intro more hMore
          rw [List.cons_append,
            descend_link hFolder hHere hOut hShort hLink,
            ← List.append_assoc]
          exact hLeft more hMore
      | into hHere hOut hShort e hEntry hNoLink hRest =>
          rcases ih hRest with ⟨left, hLeft⟩
          refine ⟨left, ?_⟩
          intro more hMore
          rw [List.cons_append,
            descend_into hFolder hHere hOut hShort hEntry
              hNoLink]
          exact hLeft more hMore

/- So does a walk over links, with the links that are left. -/
theorem walk_append
    {d : Disk}
    {m : Location}
    {tail : List Name}
    (hTail : tail = [] ∨ tail = [Path.here])
    {links : Nat}
    {l : Location}
    {names : List Name}
    (hWalk :
      d.walk .follow links l (names ++ tail) =
        .ok (.present m .folder)) :
    ∃ left, ∀ more, more ≠ [] →
      d.walk .follow links l (names ++ more) =
        d.walk .follow left m more := by
  induction links generalizing l names with
  | zero =>
      refine descend_append hTail ?_ ⟨0, fun _ => rfl⟩ hWalk
      intro k names hFollow
      cases hFollow
  | succ links ih =>
      exact descend_append hTail (fun _ _ hOnward => ih hOnward)
        ⟨links + 1, fun _ => rfl⟩ hWalk

------------------------------------------------------------
-- Joined Paths
------------------------------------------------------------

section Joined

variable {d : Disk} {dir : Path} {l : Location} {name : Name}

/- A joined path is walked on from its folder. -/
theorem exists_resolve_join
    (hDir : d.resolve dir = .ok (.present l .folder))
    (hName : Path.IsName name)
    (hCheck : checkPath (dir.join name) = .ok ()) :
    ∃ left,
      d.resolve (dir.join name) =
        d.walk .follow left l [name] := by
  have hCheck' := checkPath_of_resolveTo hDir
  have hOrigin :
      origin (dir.join name) d.here = origin dir d.here := by
    rw [origin, origin, Path.isAbsolute_join dir hName]
  rw [resolve, resolveTo, hCheck'] at hDir
  rw [resolve, resolveTo, hCheck]
  simp only [hOrigin, Path.steps_join dir hName] at hDir ⊢
  have hOnward :
      ∃ left, ∀ more, more ≠ [] →
        d.walk .follow linkLimit (origin dir d.here)
            (dir.names ++ more) =
          d.walk .follow left l more := by
    rw [Path.steps] at hDir
    split at hDir
    · exact walk_append (.inr rfl) hDir
    · rw [← List.append_nil dir.names] at hDir
      exact walk_append (.inl rfl) hDir
  rcases hOnward with ⟨left, hLeft⟩
  exact ⟨left, hLeft _ (List.cons_ne_nil _ _)⟩

/-
  A proper name in a folder is found at the joined path, if
  no link stands there.
-/
theorem place_of_resolve_join
    (hDir : d.resolve dir = .ok (.present l .folder))
    (hProper : Path.IsProper name)
    (hNoLink :
      ∀ e, d.entry? (name :: l) = some e → ¬ e.IsLink)
    {spot : Spot}
    (hResolve : d.resolve (dir.join name) = .ok spot) :
    spot.place = name :: l := by
  rcases exists_resolve_join hDir hProper.1
      (checkPath_of_resolveTo hResolve) with ⟨left, hWalk⟩
  have hOne :
      ∃ follow,
        d.descend .follow follow l [name] = .ok spot := by
    rw [hWalk] at hResolve
    cases left with
    | zero => exact ⟨_, hResolve⟩
    | succ left => exact ⟨_, hResolve⟩
  rcases hOne with ⟨follow, hDescend⟩
  cases (descend_cons_iff.mp hDescend).2 with
  | here hName _ => exact absurd hName hProper.2.1
  | outward _ hName _ => exact absurd hName hProper.2.2
  | vacant _ _ _ _ _ hSpot =>
      rw [hSpot]
      rfl
  | stay _ _ _ e hEntry hLink _ _ =>
      exact absurd hLink (hNoLink e hEntry)
  | follow _ _ _ target hLink _ _ _ =>
      exact absurd trivial (hNoLink _ hLink)
  | twin _ _ _ first hTwin _ _ =>
      exact absurd trivial (hNoLink _ hTwin)
  | into _ _ _ e hEntry _ hRest =>
      rw [descend_nil hEntry] at hRest
      cases hRest
      rfl

end Joined

end Disk

end PageHeat
