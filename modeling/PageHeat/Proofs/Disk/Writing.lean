import PageHeat.Proofs.Disk.Walking
import PageHeat.Proofs.Tally.Sink

/-
  What creating and storing a file does to a disk.

  Creating comes to an empty file, new or in place of an
  older one, or to a device, which stays as it is. The rest
  of the disk is kept, so a path that was created can be
  read, and what was stored is found there. What is stored
  are the bytes that were written, as far as there is room.

  Key definitions include:
    * `Disk.Creates`
    * `Disk.limitAt?`
    * `Disk.HasRoom`

  Key lemmas include:
    * `Disk.create_resolves`
    * `Disk.create_creates`
    * `Disk.Creates.keeps`
    * `Disk.keeps_store`
    * `Disk.read_store`
    * `Disk.write_of_hasRoom`
    * `Disk.write_of_short`
    * `Disk.read_of_writeFile`
-/

------------------------------------------------------------
-- Creating
------------------------------------------------------------

namespace PageHeat

namespace Disk

/-
  What creating a file at a location makes of a disk, if
  nothing, a file or a device is there.
-/
inductive Creates (d : Disk) (l : Location) : Disk → Prop
  | new (hEntry : d.entry? l = none) :
      Creates d l (d.put l emptyFile)
  | emptied
      (content : Stream)
      (hEntry : d.entry? l = some (.file content)) :
      Creates d l (d.put l emptyFile)
  | nullDevice (hEntry : d.entry? l = some .nullDevice) :
      Creates d l d
  | fullDevice (hEntry : d.entry? l = some .fullDevice) :
      Creates d l d

/- A path that can be created leads to its place. -/
theorem create_resolves
    {d d' : Disk}
    {p : Path}
    {target : Location}
    (hCreate : d.create p = .ok (target, d')) :
    ∃ spot, d.resolveTo .create p = .ok spot ∧
      spot.place = target := by
  unfold create at hCreate
  split at hCreate
  · split at hCreate
    · cases hCreate
    · split at hCreate
      · cases hCreate
      · cases hCreate
  · split at hCreate
    · cases hCreate
    · rename_i folder name hResolve
      cases hCreate
      exact ⟨_, hResolve, rfl⟩
    · rename_i l e hResolve
      cases e with
      | folder => cases hCreate
      | link target => cases hCreate
      | twin first => cases hCreate
      | _ =>
          cases hCreate
          exact ⟨_, hResolve, rfl⟩

/- A path that can be created is created at its place. -/
theorem create_creates
    {d d' : Disk}
    {p : Path}
    {target : Location}
    (hCreate : d.create p = .ok (target, d')) :
    d.Creates target d' := by
  rcases create_resolves hCreate with
    ⟨spot, hResolve, hPlace⟩
  have hOn := resolveTo_isOn hResolve
  unfold create at hCreate
  split at hCreate
  · split at hCreate
    · cases hCreate
    · split at hCreate
      · cases hCreate
      · cases hCreate
  · rw [hResolve] at hCreate
    cases spot with
    | vacant folder name =>
        cases hCreate
        exact .new hOn
    | present l e =>
        cases e with
        | folder => cases hCreate
        | link target => cases hCreate
        | twin first => cases hCreate
        | file content =>
            cases hCreate
            exact .emptied content hOn
        | nullDevice =>
            cases hCreate
            exact .nullDevice hOn
        | fullDevice =>
            cases hCreate
            exact .fullDevice hOn

namespace Creates

variable {d d' : Disk} {target : Location}

theorem ne_top
    (hCreates : d.Creates target d') :
    target ≠ [] := by
  rintro rfl
  cases hCreates with
  | new hEntry => cases hEntry
  | emptied content hEntry => cases hEntry
  | nullDevice hEntry => cases hEntry
  | fullDevice hEntry => cases hEntry

theorem not_folder
    (hCreates : d.Creates target d') :
    d.entry? target ≠ some .folder := by
  intro hFolder
  cases hCreates with
  | new hEntry => cases hEntry.symm.trans hFolder
  | emptied content hEntry => cases hEntry.symm.trans hFolder
  | nullDevice hEntry => cases hEntry.symm.trans hFolder
  | fullDevice hEntry => cases hEntry.symm.trans hFolder

/- Creating a file keeps the rest of the disk. -/
theorem keeps
    (hCreates : d.Creates target d') :
    d.Keeps d' := by
  cases hCreates with
  | new hEntry =>
      exact Keeps.put_of_none hEntry (.inr ⟨_, rfl⟩)
  | emptied content hEntry =>
      exact Keeps.put_of_isFile hEntry ⟨content, rfl⟩
        ⟨_, rfl⟩
  | nullDevice hEntry => exact Keeps.refl d
  | fullDevice hEntry => exact Keeps.refl d

/- An empty file is there afterwards, or still a device. -/
theorem entry?_target
    (hCreates : d.Creates target d') :
    d'.entry? target = some emptyFile ∨
      d'.entry? target = some .nullDevice ∨
      d'.entry? target = some .fullDevice := by
  have hNe := hCreates.ne_top
  cases hCreates with
  | new hEntry => exact .inl (entry?_put_self d hNe _)
  | emptied content hEntry =>
      exact .inl (entry?_put_self d hNe _)
  | nullDevice hEntry => exact .inr (.inl hEntry)
  | fullDevice hEntry => exact .inr (.inr hEntry)

end Creates

------------------------------------------------------------
-- Storing
------------------------------------------------------------

/- What is stored in a file is there afterwards. -/
theorem entry?_store_of_file
    {d : Disk}
    {l : Location}
    {content : Stream}
    (hFile : d.entry? l = some (.file content))
    (sink : Sink) :
    entry? (d.store l sink) l =
      some (.file (Stream.ofBytes sink.received)) := by
  have hNe : l ≠ [] := by
    rintro rfl
    cases hFile
  rw [store, hFile]
  exact entry?_put_self d hNe _

/- Storing changes no other location. -/
theorem entry?_store_of_ne
    (d : Disk)
    {l m : Location}
    (hNe : l ≠ [])
    (hOther : m ≠ l)
    (sink : Sink) :
    entry? (d.store l sink) m = d.entry? m := by
  unfold store
  split
  · exact entry?_put_of_ne d hNe hOther _
  · rfl

/- Storing keeps the rest of the disk. -/
theorem keeps_store
    (d : Disk)
    (l : Location)
    (sink : Sink) :
    d.Keeps (d.store l sink) := by
  unfold store
  split
  · rename_i content hFile
    exact Keeps.put_of_isFile hFile ⟨content, rfl⟩ ⟨_, rfl⟩
  · exact Keeps.refl d

/- A full device is there before its file is opened. -/
theorem eq_of_create_full
    {d d' : Disk}
    {p : Path}
    {target : Location}
    (hCreate : d.create p = .ok (target, d'))
    (hFull : d'.entry? target = some .fullDevice) :
    d' = d := by
  have hCreates := create_creates hCreate
  have hNe := hCreates.ne_top
  cases hCreates with
  | new hEntry =>
      rw [entry?_put_self d hNe] at hFull
      cases hFull
  | emptied content hEntry =>
      rw [entry?_put_self d hNe] at hFull
      cases hFull
  | nullDevice hEntry => rfl
  | fullDevice hEntry => rfl

theorem read_of_resolve
    {d : Disk}
    {p : Path}
    {l : Location}
    {content : Stream}
    (hResolve : d.resolve p = .ok (.present l (.file content))) :
    d.read p = .ok content := by
  rw [read, hResolve]

/-
  A path that could be created leads to what was stored
  there, unless a device took it.
-/
theorem resolve_store
    {d d' : Disk}
    {p : Path}
    {target : Location}
    (hCreate : d.create p = .ok (target, d'))
    (hFile : d'.entry? target = some emptyFile)
    (sink : Sink) :
    (d'.store target sink).resolve p =
      .ok
        (.present target
          (.file (Stream.ofBytes sink.received))) := by
  rcases create_resolves hCreate with
    ⟨spot, hResolve, rfl⟩
  have hKeeps : d.Keeps (d'.store spot.place sink) :=
    (create_creates hCreate).keeps.trans
      (keeps_store d' spot.place sink)
  have hStored := entry?_store_of_file hFile sink
  have hGoOn : AtLink.create ≠ AtLink.stay :=
    fun h => by cases h
  exact resolve_eq_present hKeeps hGoOn hResolve hStored

/- It is read there. -/
theorem read_store
    {d d' : Disk}
    {p : Path}
    {target : Location}
    (hCreate : d.create p = .ok (target, d'))
    (hFile : d'.entry? target = some emptyFile)
    (sink : Sink) :
    (d'.store target sink).read p =
      .ok (Stream.ofBytes sink.received) :=
  read_of_resolve (resolve_store hCreate hFile sink)

------------------------------------------------------------
-- Room
------------------------------------------------------------

/- The limit on what a location takes, if it has one. -/
def limitAt? (d : Disk) (l : Location) : Option Limit :=
  match d.entry? l with
  | some .fullDevice => some ⟨0, .noSpace⟩
  | some (.file _) => d.limits.lookup l
  | _ => none

/- Bytes that a location has room for. -/
def HasRoom (d : Disk) (l : Location) (bytes : Bytes) : Prop :=
  ∀ limit, d.limitAt? l = some limit →
    bytes.length ≤ limit.room

section Room

variable {d : Disk} {l : Location} {bytes : Bytes}

theorem limitAt?_of_file
    {content : Stream}
    (hFile : d.entry? l = some (.file content)) :
    d.limitAt? l = d.limits.lookup l := by
  rw [limitAt?, hFile]

theorem limitAt?_of_full
    (hFull : d.entry? l = some .fullDevice) :
    d.limitAt? l = some ⟨0, .noSpace⟩ := by
  rw [limitAt?, hFull]

theorem limitAt?_of_nullDevice
    (hNull : d.entry? l = some .nullDevice) :
    d.limitAt? l = none := by
  rw [limitAt?, hNull]

theorem hasRoom_of_none
    (hNone : d.limitAt? l = none)
    (bytes : Bytes) :
    d.HasRoom l bytes := by
  intro limit hLimit
  cases hNone.symm.trans hLimit

/- There is room for all bytes, or the limit is in the way. -/
theorem hasRoom_or_short
    (d : Disk)
    (l : Location)
    (bytes : Bytes) :
    d.HasRoom l bytes ∨
      ∃ limit, d.limitAt? l = some limit ∧
        limit.room < bytes.length := by
  cases hLimit : d.limitAt? l with
  | none => exact .inl (hasRoom_of_none hLimit bytes)
  | some limit =>
      by_cases hShort : limit.room < bytes.length
      · exact .inr ⟨limit, rfl, hShort⟩
      · refine .inl ?_
        intro other hOther
        cases hLimit.symm.trans hOther
        exact Nat.le_of_not_lt hShort

/- Bytes are taken by a sink as far as the limit allows. -/
theorem sinkAt_eq (d : Disk) (l : Location) :
    d.sinkAt l =
      match d.limitAt? l with
      | some limit => Sink.ofCapacity limit.room limit.fault
      | none => Sink.unlimited := by
  unfold sinkAt limitAt?
  cases d.entry? l with
  | none => rfl
  | some e =>
      cases e with
      | fullDevice => rfl
      | file content => rfl
      | _ => rfl

/- Where there is room, all bytes are taken. -/
theorem write_of_hasRoom
    (hRoom : d.HasRoom l bytes) :
    ((d.sinkAt l).write bytes).1.received = bytes ∧
      ((d.sinkAt l).write bytes).2 = none := by
  rw [sinkAt_eq]
  cases hLimit : d.limitAt? l with
  | none =>
      rw [Sink.write_unlimited]
      exact ⟨rfl, rfl⟩
  | some limit =>
      have hFits := hRoom limit hLimit
      have hTaken :=
        Sink.write_ofCapacity limit.room limit.fault bytes
      rwa [List.take_of_length_le hFits, if_pos hFits]
        at hTaken

/- Where the limit is in the way, the first bytes are. -/
theorem write_of_short
    {limit : Limit}
    (hLimit : d.limitAt? l = some limit)
    (hShort : limit.room < bytes.length) :
    ((d.sinkAt l).write bytes).1.received =
        bytes.take limit.room ∧
      ((d.sinkAt l).write bytes).2 = some limit.fault := by
  have hTaken :=
    Sink.write_ofCapacity limit.room limit.fault bytes
  rw [if_neg (Nat.not_le_of_lt hShort)] at hTaken
  rw [sinkAt_eq, hLimit]
  exact hTaken

/- So writing fails exactly if the limit is in the way. -/
theorem write_eq_some_iff
    {fault : DeviceFault} :
    ((d.sinkAt l).write bytes).2 = some fault ↔
      ∃ limit, d.limitAt? l = some limit ∧
        limit.room < bytes.length ∧ limit.fault = fault := by
  constructor
  · intro hFault
    rcases d.hasRoom_or_short l bytes with
      hRoom | ⟨limit, hLimit, hShort⟩
    · rw [(write_of_hasRoom hRoom).2] at hFault
      cases hFault
    · rw [(write_of_short hLimit hShort).2] at hFault
      cases hFault
      exact ⟨limit, hLimit, hShort, rfl⟩
  · rintro ⟨limit, hLimit, hShort, rfl⟩
    exact (write_of_short hLimit hShort).2

end Room

/- Only what a sink has taken is stored. -/
theorem store_congr
    (d : Disk)
    (l : Location)
    {sink sink' : Sink}
    (hTaken : sink'.received = sink.received) :
    d.store l sink' = d.store l sink := by
  rw [store, store, hTaken]

/-
  What could be written to a path is read there, unless the
  null device took it. The full device takes nothing, so
  writing to it fails.
-/
theorem read_of_writeFile
    {d d' : Disk}
    {p : Path}
    {bytes : Bytes}
    (hSome : bytes ≠ [])
    (hWrite : d.writeFile p bytes = (d', none)) :
    d'.read p = .ok (Stream.ofBytes bytes) ∨
      ∃ l, d'.resolve p = .ok (.present l .nullDevice) := by
  unfold writeFile at hWrite
  split at hWrite
  · cases hWrite
  · rename_i target created hCreate
    have hCreates := create_creates hCreate
    rcases created.hasRoom_or_short target bytes with
      hRoom | ⟨limit, hLimit, hShort⟩
    · have hTaken := (write_of_hasRoom hRoom).1
      have hStored :
          created.store target
              ((created.sinkAt target).write bytes).1 =
            d' :=
        congrArg Prod.fst hWrite
      subst hStored
      rcases hCreates.entry?_target with hFile | hNull | hFull
      · have hRead := read_store hCreate hFile
          ((created.sinkAt target).write bytes).1
        rw [hTaken] at hRead
        exact .inl hRead
      · rcases create_resolves hCreate with
          ⟨spot, hResolve, rfl⟩
        have hGoOn : AtLink.create ≠ AtLink.stay :=
          fun h => by cases h
        rw [store, hNull]
        exact
          .inr
            ⟨spot.place,
              resolve_eq_present hCreates.keeps hGoOn hResolve
                hNull⟩
      · have hNone := hRoom _ (limitAt?_of_full hFull)
        rw [Nat.le_zero, List.length_eq_zero_iff] at hNone
        exact absurd hNone hSome
    · have hNone :
          ((created.sinkAt target).write bytes).2 = none :=
        congrArg Prod.snd hWrite
      rw [(write_of_short hLimit hShort).2] at hNone
      cases hNone

end Disk

end PageHeat
