import PageHeat.Disk.Access

/-
  What a disk holds after an entry was put somewhere.

  Putting an entry changes its own location and no other.
  The top of the disk is no entry of the list, so nothing
  can be put there.

  Key lemmas include:
    * `Disk.entry?_put`
    * `Disk.mem_children_iff`
    * `Disk.list_eq_ok_iff`
    * `Disk.nodup_put`
-/

------------------------------------------------------------
-- Looking Up
------------------------------------------------------------

namespace PageHeat

namespace Disk

theorem entry?_of_ne_nil
    (d : Disk)
    {l : Location}
    (hNe : l ≠ []) :
    d.entry? l = d.entries.lookup l := by
  cases l with
  | nil => exact absurd rfl hNe
  | cons name around => rfl

theorem lookup_cons_of_ne
    {l m : Location}
    (hNe : l ≠ m)
    (e : Entry)
    (entries : List (Location × Entry)) :
    ((m, e) :: entries).lookup l = entries.lookup l := by
  rw [List.lookup_cons, beq_eq_false_iff_ne.mpr hNe]

/- What was set last is found. -/
theorem lookup_setEntry_self
    (l : Location)
    (e : Entry)
    (entries : List (Location × Entry)) :
    (setEntry l e entries).lookup l = some e := by
  induction entries with
  | nil => simp [setEntry]
  | cons first entries ih =>
      rcases first with ⟨m, f⟩
      by_cases hEq : m = l
      · simp [setEntry, hEq]
      · have hNe : l ≠ m := fun h => hEq h.symm
        rw [setEntry, if_neg hEq, lookup_cons_of_ne hNe, ih]

/- What was not set is found as before. -/
theorem lookup_setEntry_of_ne
    {l m : Location}
    (hNe : m ≠ l)
    (e : Entry)
    (entries : List (Location × Entry)) :
    (setEntry l e entries).lookup m = entries.lookup m := by
  induction entries with
  | nil => exact lookup_cons_of_ne hNe e []
  | cons first entries ih =>
      rcases first with ⟨k, f⟩
      by_cases hEq : k = l
      · subst hEq
        rw [setEntry, if_pos rfl, lookup_cons_of_ne hNe,
          lookup_cons_of_ne hNe]
      · rw [setEntry, if_neg hEq, List.lookup_cons,
          List.lookup_cons, ih]

@[simp] theorem put_here
    (d : Disk)
    (l : Location)
    (e : Entry) :
    (d.put l e).here = d.here := rfl

/- Putting an entry changes its own location only. -/
theorem entry?_put
    (d : Disk)
    {l : Location}
    (hNe : l ≠ [])
    (e : Entry)
    (m : Location) :
    entry? (d.put l e) m =
      if m = l then some e else d.entry? m := by
  cases m with
  | nil =>
      have hNil : ([] : Location) ≠ l := fun h => hNe h.symm
      rw [if_neg hNil]
      rfl
  | cons name around =>
      by_cases hEq : name :: around = l
      · rw [if_pos hEq, hEq, entry?_of_ne_nil _ hNe]
        exact lookup_setEntry_self l e d.entries
      · rw [if_neg hEq]
        exact lookup_setEntry_of_ne hEq e d.entries

theorem entry?_put_self
    (d : Disk)
    {l : Location}
    (hNe : l ≠ [])
    (e : Entry) :
    entry? (d.put l e) l = some e := by
  rw [entry?_put d hNe, if_pos rfl]

theorem entry?_put_of_ne
    (d : Disk)
    {l m : Location}
    (hNe : l ≠ [])
    (hOther : m ≠ l)
    (e : Entry) :
    entry? (d.put l e) m = d.entry? m := by
  rw [entry?_put d hNe, if_neg hOther]

------------------------------------------------------------
-- Putting Again
------------------------------------------------------------

/- Of two entries at a location, the last one counts. -/
theorem setEntry_setEntry
    (l : Location)
    (e f : Entry)
    (entries : List (Location × Entry)) :
    setEntry l e (setEntry l f entries) =
      setEntry l e entries := by
  induction entries with
  | nil => rw [setEntry, setEntry, setEntry, if_pos rfl]
  | cons first entries ih =>
      rcases first with ⟨m, g⟩
      by_cases hEq : m = l
      · simp [setEntry, hEq]
      · simp only [setEntry, if_neg hEq, ih]

/- Of two entries that are put, the last one counts. -/
theorem put_put
    (d : Disk)
    (l : Location)
    (e f : Entry) :
    (d.put l f).put l e = d.put l e := by
  rw [put, put, put, setEntry_setEntry]

------------------------------------------------------------
-- Children And Keys
------------------------------------------------------------

/- Some entry is found where the list has one. -/
theorem isSome_lookup_iff
    (l : Location)
    (entries : List (Location × Entry)) :
    (entries.lookup l).isSome ↔
      l ∈ entries.map Prod.fst := by
  induction entries with
  | nil => simp
  | cons first entries ih =>
      rcases first with ⟨m, e⟩
      by_cases hEq : l = m
      · simp [hEq]
      · rw [lookup_cons_of_ne hEq, ih, List.map_cons,
          List.mem_cons]
        simp only [hEq, false_or]

/- The children of a folder are the names with an entry. -/
theorem mem_children_iff
    (d : Disk)
    (l : Location)
    (name : Name) :
    name ∈ d.children l ↔
      ∃ e, d.entry? (name :: l) = some e := by
  change _ ↔ ∃ e, d.entries.lookup (name :: l) = some e
  rw [← Option.isSome_iff_exists, isSome_lookup_iff]
  simp only [children, List.mem_filterMap, List.mem_map]
  constructor
  · rintro ⟨⟨m, e⟩, hMem, hName⟩
    cases m with
    | nil => simp at hName
    | cons first around =>
        simp only [Option.ite_none_right_eq_some,
          Option.some.injEq] at hName
        rcases hName with ⟨rfl, rfl⟩
        exact ⟨_, hMem, rfl⟩
  · rintro ⟨⟨m, e⟩, hMem, hEq⟩
    simp only at hEq
    subst hEq
    exact ⟨_, hMem, by simp⟩

/- A path can be listed exactly if it leads to a folder. -/
theorem list_eq_ok_iff
    {d : Disk}
    {p : Path}
    {names : List Name} :
    d.list p = .ok names ↔
      ∃ l, d.resolve p = .ok (.present l .folder) ∧
        names = d.children l := by
  unfold list
  constructor
  · intro hList
    split at hList
    · cases hList
    · cases hList
    · rename_i l hResolve
      cases hList
      exact ⟨l, hResolve, rfl⟩
    · cases hList
  · rintro ⟨l, hResolve, rfl⟩
    rw [hResolve]

/- The locations of a list after one was set. -/
theorem map_fst_setEntry
    (l : Location)
    (e : Entry)
    (entries : List (Location × Entry)) :
    (setEntry l e entries).map Prod.fst =
      if l ∈ entries.map Prod.fst then
        entries.map Prod.fst
      else
        entries.map Prod.fst ++ [l] := by
  induction entries with
  | nil => rfl
  | cons first entries ih =>
      rcases first with ⟨m, f⟩
      by_cases hEq : m = l
      · subst hEq
        simp [setEntry]
      · have hNe : ¬ l = m := fun h => hEq h.symm
        simp only [setEntry, if_neg hEq, List.map_cons, ih,
          List.mem_cons, hNe, false_or]
        split
        · rfl
        · rfl

/- The children of a folder are told by the locations. -/
theorem children_eq
    (d : Disk)
    (l : Location) :
    d.children l =
      (d.entries.map Prod.fst).filterMap fun m =>
        match m with
        | [] => none
        | name :: around =>
            if around = l then some name else none := by
  rw [List.filterMap_map]
  rfl

/- An entry that is new in a folder comes behind the others. -/
theorem children_put
    (d : Disk)
    (name : Name)
    (around l : Location)
    (e : Entry) :
    ∃ more,
      children (d.put (name :: around) e) l =
        d.children l ++ more ∧
      ∀ n ∈ more, d.entry? (n :: l) = none := by
  rw [children_eq, children_eq, put]
  simp only [map_fst_setEntry]
  split
  · exact ⟨[], (List.append_nil _).symm, by simp⟩
  · rename_i hNew
    rw [List.filterMap_append]
    refine ⟨_, rfl, ?_⟩
    intro n hMem
    by_cases hHere : around = l
    · subst hHere
      simp only [List.filterMap_cons, if_true,
        List.filterMap_nil, List.mem_singleton] at hMem
      subst hMem
      rw [← isSome_lookup_iff, Option.not_isSome_iff_eq_none]
        at hNew
      exact hNew
    · simp [hHere] at hMem

/-
  Two lists that name the same locations in the same order
  are told by what is found at these locations.
-/
theorem eq_of_lookup
    {entries entries' : List (Location × Entry)}
    (hKeys : entries'.map Prod.fst = entries.map Prod.fst)
    (hNodup : (entries.map Prod.fst).Nodup)
    (hSame :
      ∀ l ∈ entries.map Prod.fst,
        entries'.lookup l = entries.lookup l) :
    entries' = entries := by
  induction entries generalizing entries' with
  | nil => exact List.map_eq_nil_iff.mp hKeys
  | cons first rest ih =>
      cases entries' with
      | nil => cases hKeys
      | cons first' rest' =>
          rcases first with ⟨m, e⟩
          rcases first' with ⟨m', e'⟩
          rw [List.map_cons, List.map_cons, List.cons.injEq]
            at hKeys
          rcases hKeys with ⟨rfl, hKeys⟩
          rw [List.map_cons, List.nodup_cons] at hNodup
          have hFirst := hSame m' List.mem_cons_self
          rw [List.lookup_cons_self, List.lookup_cons_self,
            Option.some.injEq] at hFirst
          subst hFirst
          rw [ih hKeys hNodup.2 ?_]
          intro l hMem
          have hNe : l ≠ m' := by
            rintro rfl
            exact hNodup.1 hMem
          have hLater := hSame l (List.mem_cons_of_mem _ hMem)
          rwa [lookup_cons_of_ne hNe, lookup_cons_of_ne hNe]
            at hLater

theorem eq_of_parts
    {d d' : Disk}
    (hEntries : d'.entries = d.entries)
    (hHere : d'.here = d.here)
    (hLimits : d'.limits = d.limits) :
    d' = d := by
  cases d
  cases d'
  cases hEntries
  cases hHere
  cases hLimits
  rfl

/- Putting an entry names no location twice. -/
theorem nodup_put
    {d : Disk}
    (hNodup : (d.entries.map Prod.fst).Nodup)
    (l : Location)
    (e : Entry) :
    ((d.put l e).entries.map Prod.fst).Nodup := by
  change ((setEntry l e d.entries).map Prod.fst).Nodup
  rw [map_fst_setEntry]
  split
  · exact hNodup
  · rename_i hNew
    rw [List.nodup_append]
    refine ⟨hNodup, by simp, ?_⟩
    intro m hMem k hK
    rw [List.mem_singleton.mp hK]
    rintro rfl
    exact hNew hMem

/- A folder has no child twice. -/
theorem nodup_children
    {d : Disk}
    (hNodup : (d.entries.map Prod.fst).Nodup)
    (l : Location) :
    (d.children l).Nodup := by
  rw [children, List.Nodup, List.pairwise_filterMap]
  rw [List.Nodup, List.pairwise_map] at hNodup
  refine hNodup.imp ?_
  rintro ⟨m, e⟩ ⟨k, f⟩ hNe name hName other hOther
  rintro rfl
  apply hNe
  cases m with
  | nil => simp at hName
  | cons first around =>
      cases k with
      | nil => simp at hOther
      | cons second outer =>
          simp only [Option.ite_none_right_eq_some,
            Option.some.injEq] at hName hOther
          rcases hName with ⟨rfl, rfl⟩
          rcases hOther with ⟨rfl, rfl⟩
          rfl

end Disk

end PageHeat
