import PageHeat.Proofs.Disk.Entries

/-
  Walking along paths on a disk that grows.

  A walk that comes to a place says what the disk holds
  there. A disk keeps another one if everything is still
  there, files perhaps with another content, and only files
  and folders are new. A walk then comes to the same place
  on both, unless it led nowhere before.

  Key definitions include:
    * `Disk.Spot.place`
    * `Disk.Spot.IsOn`
    * `Disk.Advances`
    * `Disk.Keeps`

  Key lemmas include:
    * `Disk.descend_cons_iff`
    * `Disk.Advances.of_keeps`
    * `Disk.resolveTo_isOn`
    * `Disk.resolve_of_keeps`
    * `Disk.resolve_eq_present`
-/

------------------------------------------------------------
-- Spots
------------------------------------------------------------

namespace PageHeat

/- An entry that is a file. -/
def Entry.IsFile (e : Entry) : Prop :=
  ∃ content, e = .file content

instance : (e : Entry) → Decidable e.IsFile
  | .file content => .isTrue ⟨content, rfl⟩
  | .folder => .isFalse fun ⟨_, hFile⟩ => nomatch hFile
  | .link _ => .isFalse fun ⟨_, hFile⟩ => nomatch hFile
  | .twin _ => .isFalse fun ⟨_, hFile⟩ => nomatch hFile
  | .nullDevice => .isFalse fun ⟨_, hFile⟩ => nomatch hFile
  | .fullDevice => .isFalse fun ⟨_, hFile⟩ => nomatch hFile

/- An entry that only stands for another one. -/
def Entry.IsLink : Entry → Prop
  | .link _ => True
  | .twin _ => True
  | .file _ => False
  | .folder => False
  | .nullDevice => False
  | .fullDevice => False

instance : (e : Entry) → Decidable e.IsLink
  | .link _ => .isTrue trivial
  | .twin _ => .isTrue trivial
  | .file _ => .isFalse id
  | .folder => .isFalse id
  | .nullDevice => .isFalse id
  | .fullDevice => .isFalse id

theorem Entry.IsFile.not_isLink
    {e : Entry}
    (hFile : e.IsFile) :
    ¬ e.IsLink := by
  rcases hFile with ⟨content, rfl⟩
  exact id

namespace Disk

/- The location that a spot is about. -/
def Spot.place : Spot → Location
  | .present l _ => l
  | .vacant folder name => name :: folder

/- A spot that says what a disk holds at its place. -/
def Spot.IsOn (d : Disk) : Spot → Prop
  | .present l e => d.entry? l = some e
  | .vacant folder name => d.entry? (name :: folder) = none

/- A spot with an entry at its place is present. -/
theorem Spot.IsOn.eq_present
    {d : Disk}
    {spot : Spot}
    {e : Entry}
    (hOn : spot.IsOn d)
    (hEntry : d.entry? spot.place = some e) :
    spot = .present spot.place e := by
  cases spot with
  | present l f =>
      have hSome : some f = some e := hOn.symm.trans hEntry
      cases hSome
      rfl
  | vacant folder name =>
      have hNone : none = some e := hOn.symm.trans hEntry
      cases hNone

theorem descend_nil
    {d : Disk}
    {atLink : AtLink}
    {follow : Location → List Name → Except DeviceFault Spot}
    {l : Location}
    {e : Entry}
    (hEntry : d.entry? l = some e) :
    d.descend atLink follow l [] = .ok (.present l e) := by
  rw [descend, hEntry]

/- Only the file itself can be come to by another name. -/
theorem atTwin_eq_ok_iff
    {d : Disk}
    {first : Location}
    {rest : List Name}
    {spot : Spot} :
    d.atTwin first rest = .ok spot ↔
      ∃ content,
        d.entry? first = some (.file content) ∧
          rest = [] ∧ spot = .present first (.file content) := by
  unfold atTwin
  constructor
  · intro hSpot
    split at hSpot
    · rename_i content hFile
      split at hSpot
      · rename_i hLast
        cases hSpot
        exact ⟨content, hFile, hLast, rfl⟩
      · cases hSpot
    · cases hSpot
  · rintro ⟨content, hFile, hLast, rfl⟩
    rw [hFile]
    exact if_pos hLast

/-
  How a walk goes on from a location with its next name, if
  it comes to a spot in the end.
-/
inductive Advances
    (d : Disk)
    (atLink : AtLink)
    (follow : Location → List Name → Except DeviceFault Spot)
    (l : Location)
    (name : Name)
    (rest : List Name)
    (spot : Spot) : Prop
  | here
      (hName : name = Path.here)
      (hRest : d.descend atLink follow l rest = .ok spot)
  | outward
      (hHere : name ≠ Path.here)
      (hName : name = Path.outward)
      (hRest : d.descend atLink follow l.tail rest = .ok spot)
  | vacant
      (hHere : name ≠ Path.here)
      (hOut : name ≠ Path.outward)
      (hShort : ¬ nameLimit < name.length)
      (hNone : d.entry? (name :: l) = none)
      (hLast : rest = [])
      (hSpot : spot = .vacant l name)
  | stay
      (hHere : name ≠ Path.here)
      (hOut : name ≠ Path.outward)
      (hShort : ¬ nameLimit < name.length)
      (e : Entry)
      (hEntry : d.entry? (name :: l) = some e)
      (hLink : e.IsLink)
      (hStay : rest = [] ∧ atLink = .stay)
      (hSpot : spot = .present (name :: l) e)
  | follow
      (hHere : name ≠ Path.here)
      (hOut : name ≠ Path.outward)
      (hShort : ¬ nameLimit < name.length)
      (target : Path)
      (hLink : d.entry? (name :: l) = some (.link target))
      (hStay : ¬ (rest = [] ∧ atLink = .stay))
      (hCreate :
        ¬ (rest = [] ∧ atLink = .create ∧ target.endsInSlash))
      (hFollow :
        follow (origin target l) (target.steps ++ rest) =
          .ok spot)
  | twin
      (hHere : name ≠ Path.here)
      (hOut : name ≠ Path.outward)
      (hShort : ¬ nameLimit < name.length)
      (first : Location)
      (hTwin : d.entry? (name :: l) = some (.twin first))
      (hStay : ¬ (rest = [] ∧ atLink = .stay))
      (hSpot : d.atTwin first rest = .ok spot)
  | into
      (hHere : name ≠ Path.here)
      (hOut : name ≠ Path.outward)
      (hShort : ¬ nameLimit < name.length)
      (e : Entry)
      (hEntry : d.entry? (name :: l) = some e)
      (hNoLink : ¬ e.IsLink)
      (hRest :
        d.descend atLink follow (name :: l) rest = .ok spot)

/- A walk over a name goes on from a folder. -/
theorem advances_of_descend
    {d : Disk}
    {atLink : AtLink}
    {follow : Location → List Name → Except DeviceFault Spot}
    {l : Location}
    {name : Name}
    {rest : List Name}
    {spot : Spot}
    (hWalk :
      d.descend atLink follow l (name :: rest) = .ok spot) :
    d.entry? l = some .folder ∧
      d.Advances atLink follow l name rest spot := by
  rw [descend] at hWalk
  split at hWalk
  · cases hWalk
  · rename_i hFolder
    refine ⟨hFolder, ?_⟩
    split at hWalk
    · rename_i hHere
      exact .here hHere hWalk
    rename_i hHere
    split at hWalk
    · rename_i hOut
      exact .outward hHere hOut hWalk
    rename_i hOut
    split at hWalk
    · cases hWalk
    rename_i hShort
    split at hWalk
    · rename_i hNone
      split at hWalk
      · rename_i hLast
        cases hWalk
        exact .vacant hHere hOut hShort hNone hLast rfl
      · cases hWalk
    · rename_i target hLink
      split at hWalk
      · rename_i hStay
        cases hWalk
        exact .stay hHere hOut hShort _ hLink trivial hStay
          rfl
      · rename_i hStay
        split at hWalk
        · split at hWalk
          · cases hWalk
          · cases hWalk
        · rename_i hCreate
          exact .follow hHere hOut hShort target hLink hStay
            hCreate hWalk
    · rename_i first hTwin
      split at hWalk
      · rename_i hStay
        cases hWalk
        exact .stay hHere hOut hShort _ hTwin trivial hStay
          rfl
      · rename_i hStay
        exact .twin hHere hOut hShort first hTwin hStay hWalk
    · rename_i e hNoLink hNoTwin hEntry
      refine .into hHere hOut hShort e hEntry ?_ hWalk
      cases e with
      | link target => exact absurd rfl (hNoLink target)
      | twin first => exact absurd rfl (hNoTwin first)
      | _ => exact id
  · cases hWalk

/- In each of these ways a walk comes to its spot. -/
theorem Advances.descend_eq
    {d : Disk}
    {atLink : AtLink}
    {follow : Location → List Name → Except DeviceFault Spot}
    {l : Location}
    {name : Name}
    {rest : List Name}
    {spot : Spot}
    (hFolder : d.entry? l = some .folder)
    (hAdvances : d.Advances atLink follow l name rest spot) :
    d.descend atLink follow l (name :: rest) = .ok spot := by
  rw [descend, hFolder]
  simp only
  cases hAdvances with
  | here hName hRest => rw [if_pos hName, hRest]
  | outward hHere hName hRest =>
      rw [if_neg hHere, if_pos hName, hRest]
  | vacant hHere hOut hShort hNone hLast hSpot =>
      rw [if_neg hHere, if_neg hOut, if_neg hShort, hNone,
        hSpot]
      exact if_pos hLast
  | stay hHere hOut hShort e hEntry hLink hStay hSpot =>
      rw [if_neg hHere, if_neg hOut, if_neg hShort, hEntry,
        hSpot]
      cases e with
      | link target => exact if_pos hStay
      | twin first => exact if_pos hStay
      | _ => cases hLink
  | follow hHere hOut hShort target hLink hStay hCreate
      hFollow =>
      rw [if_neg hHere, if_neg hOut, if_neg hShort, hLink]
      simp only [if_neg hStay, if_neg hCreate, hFollow]
  | twin hHere hOut hShort first hTwin hStay hSpot =>
      rw [if_neg hHere, if_neg hOut, if_neg hShort, hTwin]
      simp only [if_neg hStay, hSpot]
  | into hHere hOut hShort e hEntry hNoLink hRest =>
      rw [if_neg hHere, if_neg hOut, if_neg hShort, hEntry]
      cases e with
      | link target => exact absurd trivial hNoLink
      | twin first => exact absurd trivial hNoLink
      | _ => exact hRest

/- A walk goes on from a folder, in one of these ways. -/
theorem descend_cons_iff
    {d : Disk}
    {atLink : AtLink}
    {follow : Location → List Name → Except DeviceFault Spot}
    {l : Location}
    {name : Name}
    {rest : List Name}
    {spot : Spot} :
    d.descend atLink follow l (name :: rest) = .ok spot ↔
      d.entry? l = some .folder ∧
        d.Advances atLink follow l name rest spot :=
  ⟨advances_of_descend, fun hBoth =>
    hBoth.2.descend_eq hBoth.1⟩

/- Walks come to spots that are on the disk. -/
theorem descend_isOn
    {d : Disk}
    {atLink : AtLink}
    {follow : Location → List Name → Except DeviceFault Spot}
    (hFollow :
      ∀ l names spot,
        follow l names = .ok spot → spot.IsOn d)
    {l : Location}
    {names : List Name}
    {spot : Spot}
    (hWalk : d.descend atLink follow l names = .ok spot) :
    spot.IsOn d := by
  induction names generalizing l with
  | nil =>
      cases hEntry : d.entry? l with
      | none => simp [descend, hEntry] at hWalk
      | some e =>
          simp only [descend, hEntry, Except.ok.injEq]
            at hWalk
          rw [← hWalk]
          exact hEntry
  | cons name rest ih =>
      cases (descend_cons_iff.mp hWalk).2 with
      | here _ hRest => exact ih hRest
      | outward _ _ hRest => exact ih hRest
      | vacant _ _ _ hNone _ hSpot =>
          rw [hSpot]
          exact hNone
      | stay _ _ _ e hEntry _ _ hSpot =>
          rw [hSpot]
          exact hEntry
      | follow _ _ _ _ _ _ _ hOnward =>
          exact hFollow _ _ _ hOnward
      | twin _ _ _ first _ _ hSpot =>
          rcases atTwin_eq_ok_iff.mp hSpot with
            ⟨content, hFile, -, rfl⟩
          exact hFile
      | into _ _ _ _ _ _ hRest => exact ih hRest

/- Walks over links come to spots that are on the disk. -/
theorem walk_isOn
    {d : Disk}
    {atLink : AtLink}
    {links : Nat}
    {l : Location}
    {names : List Name}
    {spot : Spot}
    (hWalk : d.walk atLink links l names = .ok spot) :
    spot.IsOn d := by
  induction links generalizing l names spot with
  | zero =>
      refine descend_isOn ?_ hWalk
      intro l names spot hFollow
      cases hFollow
  | succ links ih =>
      exact descend_isOn (fun _ _ _ hFollow => ih hFollow)
        hWalk

/- Paths lead to spots that are on the disk. -/
theorem resolveTo_isOn
    {d : Disk}
    {atLink : AtLink}
    {p : Path}
    {spot : Spot}
    (hResolve : d.resolveTo atLink p = .ok spot) :
    spot.IsOn d := by
  unfold resolveTo at hResolve
  split at hResolve
  · cases hResolve
  · exact walk_isOn hResolve

------------------------------------------------------------
-- Disks That Keep Everything
------------------------------------------------------------

/-
  A disk that keeps what another one holds, files perhaps
  with another content. What is new on it is a folder or a
  file.
-/
structure Keeps (d d' : Disk) : Prop where
  here_eq : d'.here = d.here
  limits_eq : d'.limits = d.limits
  kept :
    ∀ l e, d.entry? l = some e →
      ∃ e', d'.entry? l = some e' ∧
        (e' = e ∨ e.IsFile ∧ e'.IsFile)
  new :
    ∀ l e', d.entry? l = none → d'.entry? l = some e' →
      e' = .folder ∨ e'.IsFile

namespace Keeps

theorem refl (d : Disk) : d.Keeps d := by
  refine
    ⟨rfl, rfl, fun _ e hEntry => ⟨e, hEntry, .inl rfl⟩, ?_⟩
  intro l e' hNone hEntry
  cases hNone.symm.trans hEntry

/- What is kept twice is kept. -/
theorem trans
    {d d' d'' : Disk}
    (hFirst : d.Keeps d')
    (hSecond : d'.Keeps d'') :
    d.Keeps d'' := by
  refine
    ⟨hSecond.here_eq.trans hFirst.here_eq,
      hSecond.limits_eq.trans hFirst.limits_eq, ?_, ?_⟩
  · intro l e hEntry
    rcases hFirst.kept l e hEntry with ⟨e', hEntry', hEq'⟩
    rcases hSecond.kept l e' hEntry' with
      ⟨e'', hEntry'', hEq''⟩
    refine ⟨e'', hEntry'', ?_⟩
    rcases hEq' with rfl | ⟨hFile, hFile'⟩
    · exact hEq''
    · rcases hEq'' with rfl | ⟨-, hFile''⟩
      · exact .inr ⟨hFile, hFile'⟩
      · exact .inr ⟨hFile, hFile''⟩
  · intro l e'' hNone hEntry''
    cases hEntry' : d'.entry? l with
    | none => exact hSecond.new l e'' hEntry' hEntry''
    | some e' =>
        rcases hSecond.kept l e' hEntry' with ⟨e, hEntry, hEq⟩
        cases hEntry''.symm.trans hEntry
        rcases hEq with rfl | ⟨-, hFile⟩
        · exact hFirst.new l _ hNone hEntry'
        · exact .inr hFile

section

variable {d d' : Disk} (hKeeps : d.Keeps d')
variable {l : Location}

include hKeeps

theorem entry_eq
    {e : Entry}
    (hEntry : d.entry? l = some e)
    (hNoFile : ¬ e.IsFile) :
    d'.entry? l = some e := by
  rcases hKeeps.kept l e hEntry with
    ⟨e', hEntry', rfl | ⟨hFile, -⟩⟩
  · exact hEntry'
  · exact absurd hFile hNoFile

theorem folder
    (hFolder : d.entry? l = some .folder) :
    d'.entry? l = some .folder :=
  hKeeps.entry_eq hFolder (by decide)

theorem file
    {content : Stream}
    (hFile : d.entry? l = some (.file content)) :
    ∃ content', d'.entry? l = some (.file content') := by
  rcases hKeeps.kept l _ hFile with
    ⟨e', hEntry', rfl | ⟨-, content', rfl⟩⟩
  · exact ⟨content, hEntry'⟩
  · exact ⟨content', hEntry'⟩

/- What was no link has not become one. -/
theorem not_isLink
    (hNoLink : ∀ e, d.entry? l = some e → ¬ e.IsLink)
    {e' : Entry}
    (hEntry' : d'.entry? l = some e') :
    ¬ e'.IsLink := by
  cases hEntry : d.entry? l with
  | none =>
      rcases hKeeps.new l e' hEntry hEntry' with rfl | hFile
      · exact id
      · exact hFile.not_isLink
  | some e =>
      rcases hKeeps.kept l e hEntry with ⟨e'', hKept, hEq⟩
      cases hEntry'.symm.trans hKept
      rcases hEq with rfl | ⟨-, hFile⟩
      · exact hNoLink _ hEntry
      · exact hFile.not_isLink

end

/- A folder or a file, put at a free place. -/
theorem put_of_none
    {d : Disk}
    {l : Location}
    (hNone : d.entry? l = none)
    {e : Entry}
    (hNew : e = .folder ∨ e.IsFile) :
    d.Keeps (d.put l e) := by
  have hNe : l ≠ [] := by
    rintro rfl
    cases hNone
  refine ⟨rfl, rfl, ?_, ?_⟩
  · intro m f hEntry
    have hOther : m ≠ l := by
      rintro rfl
      cases hNone.symm.trans hEntry
    exact ⟨f, by rw [entry?_put_of_ne d hNe hOther, hEntry],
      .inl rfl⟩
  · intro m f hFree hEntry
    rw [entry?_put d hNe] at hEntry
    split at hEntry
    · cases hEntry
      exact hNew
    · cases hFree.symm.trans hEntry

/- A file, put in place of a file. -/
theorem put_of_isFile
    {d : Disk}
    {l : Location}
    {e e' : Entry}
    (hEntry : d.entry? l = some e)
    (hFile : e.IsFile)
    (hFile' : e'.IsFile) :
    d.Keeps (d.put l e') := by
  have hNe : l ≠ [] := by
    rintro rfl
    rcases hFile with ⟨content, rfl⟩
    cases hEntry
  refine ⟨rfl, rfl, ?_, ?_⟩
  · intro m f hHeld
    rw [entry?_put d hNe]
    by_cases hEq : m = l
    · subst hEq
      cases hEntry.symm.trans hHeld
      exact ⟨e', if_pos rfl, .inr ⟨hFile, hFile'⟩⟩
    · exact ⟨f, by rw [if_neg hEq, hHeld], .inl rfl⟩
  · intro m f hFree hHeld
    rw [entry?_put d hNe] at hHeld
    split at hHeld
    · cases hHeld
      exact .inr hFile'
    · cases hFree.symm.trans hHeld

end Keeps

------------------------------------------------------------
-- Walking On Both
------------------------------------------------------------

section Both

variable {d d' : Disk} {atLink : AtLink}
variable {follow follow' :
  Location → List Name → Except DeviceFault Spot}

/-
  A walk goes on in the same way on a disk that keeps
  everything, if what is left of it does.
-/
theorem Advances.of_keeps
    (hKeeps : d.Keeps d')
    (hGoOn : atLink ≠ .stay)
    (hFollow :
      ∀ l names spot,
        follow l names = .ok spot →
          ∃ spot', follow' l names = .ok spot' ∧
            spot'.place = spot.place)
    {l : Location}
    {name : Name}
    {rest : List Name}
    {spot : Spot}
    (hDescend :
      ∀ l,
        d.descend atLink follow l rest = .ok spot →
          ∃ spot',
            d'.descend .follow follow' l rest = .ok spot' ∧
              spot'.place = spot.place)
    (hAdvances : d.Advances atLink follow l name rest spot) :
    ∃ spot',
      d'.Advances .follow follow' l name rest spot' ∧
        spot'.place = spot.place := by
  cases hAdvances with
  | here hName hRest =>
      rcases hDescend _ hRest with ⟨spot', hRest', hPlace⟩
      exact ⟨spot', .here hName hRest', hPlace⟩
  | outward hHere hName hRest =>
      rcases hDescend _ hRest with ⟨spot', hRest', hPlace⟩
      exact ⟨spot', .outward hHere hName hRest', hPlace⟩
  | vacant hHere hOut hShort hNone hLast hSpot =>
      subst hSpot
      cases hEntry' : d'.entry? (name :: l) with
      | none =>
          exact ⟨_,
            .vacant hHere hOut hShort hEntry' hLast rfl, rfl⟩
      | some e' =>
          -- the place was taken, but not by a link
          have hNoLink' :=
            hKeeps.not_isLink (by simp [hNone]) hEntry'
          have hRest' :
              d'.descend .follow follow' (name :: l) rest =
                .ok (.present (name :: l) e') := by
            rw [hLast]
            exact descend_nil hEntry'
          exact ⟨_,
            .into hHere hOut hShort e' hEntry' hNoLink' hRest',
            rfl⟩
  | stay _ _ _ _ _ _ hStay _ => exact absurd hStay.2 hGoOn
  | follow hHere hOut hShort target hLink _ _ hOnward =>
      rcases hFollow _ _ _ hOnward with
        ⟨spot', hOnward', hPlace⟩
      exact ⟨spot',
        .follow hHere hOut hShort target
          (hKeeps.entry_eq hLink (by simp [Entry.IsFile]))
          (by simp) (by simp) hOnward',
        hPlace⟩
  | twin hHere hOut hShort first hTwin _ hSpot =>
      rcases atTwin_eq_ok_iff.mp hSpot with
        ⟨content, hFile, hLast, rfl⟩
      rcases hKeeps.file hFile with ⟨content', hFile'⟩
      exact
        ⟨.present first (.file content'),
          .twin hHere hOut hShort first
            (hKeeps.entry_eq hTwin (by simp [Entry.IsFile]))
            (by simp)
            (atTwin_eq_ok_iff.mpr
              ⟨content', hFile', hLast, rfl⟩),
          rfl⟩
  | into hHere hOut hShort e hEntry hNoLink hRest =>
      rcases hDescend _ hRest with ⟨spot', hRest', hPlace⟩
      rcases hKeeps.kept _ e hEntry with ⟨e', hEntry', -⟩
      have hNoLink' :=
        hKeeps.not_isLink (by simp [hEntry, hNoLink]) hEntry'
      exact ⟨spot',
        .into hHere hOut hShort e' hEntry' hNoLink' hRest',
        hPlace⟩

/-
  A walk that does not stay at links comes to the same
  place on a disk that keeps everything, whether or not it
  looks for a file to create.
-/
theorem descend_of_keeps
    (hKeeps : d.Keeps d')
    (hGoOn : atLink ≠ .stay)
    (hFollow :
      ∀ l names spot,
        follow l names = .ok spot →
          ∃ spot', follow' l names = .ok spot' ∧
            spot'.place = spot.place)
    {l : Location}
    {names : List Name}
    {spot : Spot}
    (hWalk : d.descend atLink follow l names = .ok spot) :
    ∃ spot',
      d'.descend .follow follow' l names = .ok spot' ∧
        spot'.place = spot.place := by
  induction names generalizing l with
  | nil =>
      cases hEntry : d.entry? l with
      | none => simp [descend, hEntry] at hWalk
      | some e =>
          rw [descend_nil hEntry] at hWalk
          cases hWalk
          rcases hKeeps.kept l e hEntry with ⟨e', hEntry', -⟩
          exact ⟨_, descend_nil hEntry', rfl⟩
  | cons name rest ih =>
      rcases descend_cons_iff.mp hWalk with
        ⟨hFolder, hAdvances⟩
      rcases hAdvances.of_keeps hKeeps hGoOn hFollow
          (fun _ hRest => ih hRest) with
        ⟨spot', hAdvances', hPlace⟩
      exact ⟨spot',
        descend_cons_iff.mpr
          ⟨hKeeps.folder hFolder, hAdvances'⟩,
        hPlace⟩

end Both

/- A walk over links comes to the same place on both. -/
theorem walk_of_keeps
    {d d' : Disk}
    (hKeeps : d.Keeps d')
    {atLink : AtLink}
    (hGoOn : atLink ≠ .stay)
    {links : Nat}
    {l : Location}
    {names : List Name}
    {spot : Spot}
    (hWalk : d.walk atLink links l names = .ok spot) :
    ∃ spot',
      d'.walk .follow links l names = .ok spot' ∧
        spot'.place = spot.place := by
  induction links generalizing l names spot with
  | zero =>
      refine descend_of_keeps hKeeps hGoOn ?_ hWalk
      intro l names spot hFollow
      cases hFollow
  | succ links ih =>
      exact descend_of_keeps hKeeps hGoOn
        (fun _ _ _ hFollow => ih hFollow) hWalk

/-
  A path that leads to a place, or to a file to create,
  leads there on a disk that keeps everything.
-/
theorem resolve_of_keeps
    {d d' : Disk}
    (hKeeps : d.Keeps d')
    {atLink : AtLink}
    (hGoOn : atLink ≠ .stay)
    {p : Path}
    {spot : Spot}
    (hResolve : d.resolveTo atLink p = .ok spot) :
    ∃ spot', d'.resolve p = .ok spot' ∧
      spot'.place = spot.place := by
  unfold resolveTo at hResolve
  unfold resolve resolveTo
  split at hResolve
  · cases hResolve
  · rw [hKeeps.here_eq]
    exact walk_of_keeps hKeeps hGoOn hResolve

/- What such a path leads to when something is there. -/
theorem resolve_eq_present
    {d d' : Disk}
    (hKeeps : d.Keeps d')
    {atLink : AtLink}
    (hGoOn : atLink ≠ .stay)
    {p : Path}
    {spot : Spot}
    (hResolve : d.resolveTo atLink p = .ok spot)
    {e : Entry}
    (hEntry : d'.entry? spot.place = some e) :
    d'.resolve p = .ok (.present spot.place e) := by
  rcases resolve_of_keeps hKeeps hGoOn hResolve with
    ⟨spot', hResolve', hPlace⟩
  rw [← hPlace] at hEntry ⊢
  have hPresent :=
    (resolveTo_isOn hResolve').eq_present hEntry
  exact hResolve'.trans (congrArg Except.ok hPresent)

/- What a path leads to when it led to this place before. -/
theorem Keeps.resolve_eq
    {d d' : Disk}
    (hKeeps : d.Keeps d')
    {p : Path}
    {l : Location}
    {e e' : Entry}
    (hResolve : d.resolve p = .ok (.present l e))
    (hEntry : d'.entry? l = some e') :
    d'.resolve p = .ok (.present l e') := by
  have hGoOn : AtLink.follow ≠ AtLink.stay := by decide
  exact resolve_eq_present hKeeps hGoOn hResolve hEntry

end Disk

end PageHeat
