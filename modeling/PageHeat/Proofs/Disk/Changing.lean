import PageHeat.Proofs.Disk.Linked

/-
  Disks that have changed at some paths only.

  Creating and storing a file changes the place that its
  path leads to. Links may lead other paths to the same
  place; every other path still has the same file.

  Key definitions include:
    * `Disk.ChangesAt`
    * `Disk.SharePlace`
    * `Disk.SameFile`

  Key lemmas include:
    * `Disk.changesAt_of_create`
    * `Disk.sameFile_or_sharePlace`
    * `Disk.SharePlace.name_eq`
-/

------------------------------------------------------------
-- Changes At Paths
------------------------------------------------------------

namespace PageHeat

namespace Disk

/-
  A disk that keeps another one and differs from it at most
  where some paths lead.
-/
structure ChangesAt
    (d : Disk)
    (paths : List Path)
    (d' : Disk) : Prop where
  keeps : d.Keeps d'
  entry_or :
    ∀ m, d'.entry? m = d.entry? m ∨
      ∃ p ∈ paths, d'.locate? p = some m

namespace ChangesAt

variable {d d' d'' : Disk} {paths more : List Path}

theorem refl (d : Disk) (paths : List Path) :
    d.ChangesAt paths d :=
  ⟨Keeps.refl d, fun _ => .inl rfl⟩

/- Changes may follow each other. -/
theorem trans
    (hFirst : d.ChangesAt paths d')
    (hSecond : d'.ChangesAt more d'') :
    d.ChangesAt (paths ++ more) d'' := by
  refine ⟨hFirst.keeps.trans hSecond.keeps, ?_⟩
  intro m
  rcases hSecond.entry_or m with
    hSame | ⟨p, hMem, hLocate⟩
  · rcases hFirst.entry_or m with
      hSame' | ⟨p, hMem, hLocate⟩
    · exact .inl (hSame.trans hSame')
    · exact .inr
        ⟨p, List.mem_append_left more hMem,
          hSecond.keeps.locate?_eq hLocate⟩
  · exact .inr ⟨p, List.mem_append_right paths hMem, hLocate⟩

end ChangesAt

/-
  Creating a file and storing its content changes the place
  of its path only, and the path leads there afterwards.
-/
theorem changesAt_of_create
    {d d' : Disk}
    {p : Path}
    {target : Location}
    (hCreate : d.create p = .ok (target, d'))
    (sink : Sink) :
    d.ChangesAt [p] (d'.store target sink) ∧
      ∃ e,
        (d'.store target sink).resolve p =
          .ok (.present target e) := by
  have hCreates := create_creates hCreate
  have hNe := hCreates.ne_top
  have hKeeps : d.Keeps (d'.store target sink) :=
    hCreates.keeps.trans (keeps_store d' target sink)
  have hThere :
      ∃ e, entry? (d'.store target sink) target = some e := by
    rcases hCreates.entry?_target with hFile | hNull | hFull
    · exact ⟨_, entry?_store_of_file hFile sink⟩
    · rw [store, hNull]
      exact ⟨_, hNull⟩
    · rw [store, hFull]
      exact ⟨_, hFull⟩
  have hLeads :
      ∃ e,
        (d'.store target sink).resolve p =
          .ok (.present target e) := by
    rcases create_resolves hCreate with
      ⟨spot, hResolve, rfl⟩
    rcases hThere with ⟨e, hEntry⟩
    have hGoOn : AtLink.create ≠ AtLink.stay := by decide
    exact ⟨e, resolve_eq_present hKeeps hGoOn hResolve hEntry⟩
  refine ⟨⟨hKeeps, ?_⟩, hLeads⟩
  intro m
  by_cases hEq : m = target
  · subst hEq
    exact .inr
      ⟨p, List.mem_singleton_self p,
        (locate?_eq_some_iff _ p m).mpr hLeads⟩
  · refine .inl ?_
    rw [entry?_store_of_ne d' hNe hEq]
    cases hCreates with
    | new hEntry => exact entry?_put_of_ne d hNe hEq _
    | emptied content hEntry =>
        exact entry?_put_of_ne d hNe hEq _
    | nullDevice hEntry => rfl
    | fullDevice hEntry => rfl

------------------------------------------------------------
-- The Same File
------------------------------------------------------------

section Files

variable {d d₁ d' : Disk} {paths : List Path}

/- Two paths that lead to the same place. -/
def SharePlace (d : Disk) (p q : Path) : Prop :=
  ∃ m, d.locate? p = some m ∧ d.locate? q = some m

/-
  A path whose file stands where it stood, with the same
  content, and that does not lead to a new file.
-/
def SameFile (d : Disk) (p : Path) (d' : Disk) : Prop :=
  ∀ m content,
    (d.resolve p = .ok (.present m (.file content)) →
      d'.resolve p = .ok (.present m (.file content))) ∧
    (d'.resolve p = .ok (.present m (.file content)) →
      d.entry? m = some (.file content))

/-
  On a disk that has gained folders and then changed at some
  paths, any path has the same file unless it leads to the
  place of one of these paths.
-/
theorem sameFile_or_sharePlace
    (hGains : d.GainsFolders d₁)
    (hChanges : d₁.ChangesAt paths d')
    (p : Path) :
    d.SameFile p d' ∨ ∃ q ∈ paths, d'.SharePlace q p := by
  by_cases hShare : ∃ q ∈ paths, d'.SharePlace q p
  · exact .inr hShare
  have hSame
      {m : Location}
      (hLocate : d'.locate? p = some m) :
      d'.entry? m = d₁.entry? m := by
    rcases hChanges.entry_or m with
      hSame | ⟨q, hMem, hLocate'⟩
    · exact hSame
    · exact absurd ⟨q, hMem, m, hLocate', hLocate⟩ hShare
  refine .inl ?_
  intro m content
  constructor
  · intro hResolve
    have hOn : (Spot.present m (.file content)).IsOn d :=
      resolveTo_isOn hResolve
    have hKeeps := hGains.keeps.trans hChanges.keeps
    have hLocate : d'.locate? p = some m :=
      hKeeps.locate?_eq
        ((locate?_eq_some_iff d p m).mpr ⟨_, hResolve⟩)
    have hEntry : d'.entry? m = some (.file content) := by
      rcases hGains.entry_or m with hEq | ⟨hNone, -⟩
      · rw [hSame hLocate, hEq]
        exact hOn
      · cases hNone.symm.trans hOn
    exact hKeeps.resolve_eq hResolve hEntry
  · intro hResolve
    have hOn : (Spot.present m (.file content)).IsOn d' :=
      resolveTo_isOn hResolve
    have hLocate : d'.locate? p = some m :=
      (locate?_eq_some_iff d' p m).mpr ⟨_, hResolve⟩
    exact hGains.file ((hSame hLocate).symm.trans hOn)

/-
  In one folder, different names do not lead to the same
  place, unless one of them is a link or a further name of
  a file.
-/
theorem SharePlace.name_eq
    {dir : Path}
    {l : Location}
    {x y : Name}
    (hShare : d.SharePlace (dir.join x) (dir.join y))
    (hDir : d.resolve dir = .ok (.present l .folder))
    (hProper : Path.IsProper x ∧ Path.IsProper y)
    (hNoLink :
      ∀ e,
        d.entry? (x :: l) = some e ∨
            d.entry? (y :: l) = some e →
          ¬ e.IsLink) :
    x = y := by
  rcases hShare with ⟨m, hX, hY⟩
  rcases (locate?_eq_some_iff d _ m).mp hX with
    ⟨e, hResolveX⟩
  rcases (locate?_eq_some_iff d _ m).mp hY with
    ⟨f, hResolveY⟩
  have hPlaceX : m = x :: l :=
    place_of_resolve_join hDir hProper.1
      (fun e hEntry => hNoLink e (.inl hEntry)) hResolveX
  have hPlaceY : m = y :: l :=
    place_of_resolve_join hDir hProper.2
      (fun e hEntry => hNoLink e (.inr hEntry)) hResolveY
  exact List.head_eq_of_cons_eq (hPlaceX.symm.trans hPlaceY)

end Files

end Disk

end PageHeat
