import BuildSync.Loading
import BuildSync.Proofs.Disk.Walk

/-!
# What saving does to a disk

Directories are made where there is nothing, and at parents of the saved path only. A file is
written once all of them are there, and no other file is touched.
-/

set_option autoImplicit false

namespace BuildSync

namespace Path

/-- The path leads through `dir`, and further. -/
def IsParent (dir path : Path) : Prop := ∃ rest, rest ≠ [] ∧ path = dir.append rest

/-- The path leads to or through `dir`, which is not where it starts. -/
def IsStop (dir path : Path) : Prop := dir.segments ≠ [] ∧ ∃ rest, path = dir.append rest

variable {dir path : Path}

theorem IsStop.append (h : dir.IsStop path) (more : List (List Char)) :
    dir.IsStop (path.append more) := by
  obtain ⟨hDir, rest, rfl⟩ := h
  exact ⟨hDir, rest ++ more, by simp [Path.append]⟩

theorem IsStop.isParent (h : dir.IsStop path.parent) : dir.IsParent path := by
  obtain ⟨hDir, rest, hRest⟩ := h
  have hSegments : path.segments.dropLast = dir.segments ++ rest := congrArg segments hRest
  have hSome : path.segments ≠ [] := by
    intro hNil
    rw [hNil] at hSegments
    exact hDir (List.append_eq_nil_iff.mp hSegments.symm).1
  refine ⟨rest ++ [path.segments.getLast hSome], by simp, ?_⟩
  have hRoot : path.parent.root = dir.root := by rw [hRest, Path.append]
  rw [Path.append, ← List.append_assoc, ← hSegments, List.dropLast_concat_getLast, ← hRoot]
  rfl

end Path

namespace Disk

/-- Outside of `written`, the later disk differs from the earlier one in new directories only, each
at a path that is `made`. -/
structure Grows (system : System) (made : Path → Prop) (written : Location → Prop)
    (before after : Disk) : Prop extends before.Keeps after where
  item : ∀ location, ¬written location →
    after.item? location = before.item? location ∨
      before.item? location = none ∧ after.item? location = some .directory ∧
        ∃ dir, made dir ∧ after.locate dir system = .ok (location, some .directory)

variable {system : System}

namespace Grows

variable {made more : Path → Prop} {written : Location → Prop} {before middle after : Disk}

theorem refl (disk : Disk) : Grows system made written disk disk :=
  ⟨.refl disk, fun _ _ => .inl rfl⟩

theorem trans (first : Grows system made written before middle)
    (last : Grows system made written middle after) : Grows system made written before after := by
  refine ⟨first.toKeeps.trans last.toKeeps, fun location hWritten => ?_⟩
  rcases last.item location hWritten with hLast | ⟨hNone, hLast⟩
  · rw [hLast]
    refine (first.item location hWritten).imp_right fun ⟨hNone, hMade, dir, hDir, hLocated⟩ => ?_
    exact ⟨hNone, hMade, dir, hDir, last.toKeeps.locate hLocated⟩
  · rcases first.item location hWritten with hFirst | ⟨_, hMade, _⟩
    · exact .inr ⟨hFirst ▸ hNone, hLast⟩
    -- what the first step has made is not missing before the last one
    · cases hMade.symm.trans hNone

theorem mono (h : Grows system made written before after) (hMore : ∀ dir, made dir → more dir)
    {others : Location → Prop} (hOthers : ∀ location, written location → others location) :
    Grows system more others before after := by
  refine ⟨h.toKeeps, fun location hOther => ?_⟩
  refine (h.item location (mt (hOthers location) hOther)).imp_right ?_
  rintro ⟨hNone, hMade, dir, hDir, hLocated⟩
  exact ⟨hNone, hMade, dir, hMore dir hDir, hLocated⟩

theorem weaken (h : Grows system made (fun _ => False) before after) :
    Grows system made written before after :=
  h.mono (fun _ => id) nofun

/-- A file that is not written stays as it is. -/
theorem read (h : Grows system made written before after) {path : Path} {bytes : ByteArray}
    (hRead : before.read path system = .ok bytes)
    (hOther : ∀ location found, after.locate path system = .ok (location, found) →
      ¬written location) : after.read path system = .ok bytes := by
  obtain ⟨location, hBefore, hAllowed⟩ := read_eq_ok_iff.mp hRead
  have hItem : before.item? location = some (.file bytes) := item?_of_locate hBefore nofun
  have hAfter := h.toKeeps.locate hBefore
  rw [if_neg nofun] at hAfter
  rcases h.item location (hOther location _ hAfter) with hSame | ⟨hNone, _⟩
  · rw [hSame, hItem] at hAfter
    exact read_eq_ok_iff.mpr ⟨location, hAfter, hAllowed⟩
  · cases hItem.symm.trans hNone

end Grows

/-! ### Making directories -/

variable {disk : Disk} {path : Path}

/-- An item is put where there is no directory, at the end of a path. -/
theorem put_grows {location : Location} {found : Option Item} (made : Path → Prop)
    (hLocated : disk.locate path system = .ok (location, found))
    (hFound : found ≠ some .directory) (item : Item) :
    (disk.put location item).locate path system = .ok (location, some item) ∧
      Grows system made (· = location) disk (disk.put location item) := by
  have hNew : disk.item? location ≠ some .directory := item?_of_locate hLocated hFound ▸ hFound
  have hKeeps := keeps_put hNew item
  have hThere := hKeeps.locate hLocated
  rw [if_neg hFound, item?_put hNew] at hThere
  exact ⟨hThere, hKeeps, fun _ hOther => .inl (item?_put_of_ne disk item hOther)⟩

theorem makeDirectory_grows (disk : Disk) (path : Path) (system : System) :
    Grows system (· = path) (fun _ => False) disk (disk.makeDirectory path system).disk := by
  unfold makeDirectory
  split
  · exact .refl disk
  split
  · rename_i location hLocated
    split
    · exact .refl disk
    · obtain ⟨hThere, hGrows⟩ := put_grows (· = path) hLocated nofun .directory
      refine ⟨hGrows.toKeeps, fun other _ => ?_⟩
      by_cases hOther : other = location
      · subst hOther
        have hItem : disk.item? other = none := item?_of_locate hLocated nofun
        exact .inr ⟨hItem, item?_put (by rw [hItem]; exact nofun) .directory, path, rfl, hThere⟩
      · exact hGrows.item other hOther
  · exact .refl disk
  · exact .refl disk

theorem makeDirectory_root (disk : Disk) (root : Root) (system : System) :
    disk.makeDirectory ⟨root, []⟩ system = ⟨disk, some ⟨.alreadyThere, some ⟨root, []⟩⟩⟩ := by
  have hLocated : disk.locate ⟨root, []⟩ system = .ok (origin disk.home root, some .directory) := by
    refine locate_eq_ok_iff.mpr ⟨?_, .stop _ _⟩
    cases root <;> exact ⟨by decide, by decide⟩
  have hLink : disk.isLink ⟨root, []⟩ system = false := rfl
  simp only [makeDirectory, hLink, hLocated, Bool.false_eq_true, if_false]

@[simp]
theorem disk_forgive (attempt : Attempt) (path : Path) (system : System) :
    (attempt.forgive path system).disk = attempt.disk := by
  unfold Attempt.forgive
  split <;> rfl

theorem error_forgive {attempt : Attempt} (h : attempt.disk.isDirectory path system = true) :
    (attempt.forgive path system).error = none := by
  rw [Attempt.forgive, if_pos h]

theorem makeDirectoriesUp_grows (system : System) (root : Root) (disk : Disk)
    (up : List (List Char)) :
    Grows system (·.IsStop ⟨root, up.reverse⟩) (fun _ => False) disk
      (makeDirectoriesUp system root disk up).disk := by
  induction up generalizing disk with
  | nil =>
    rw [makeDirectoriesUp, disk_forgive, makeDirectory_root]
    exact .refl disk
  | cons segment above ih =>
    have hStep : ∀ disk : Disk, Grows system (·.IsStop ⟨root, (segment :: above).reverse⟩)
        (fun _ => False) disk
        (disk.makeDirectory ⟨root, (segment :: above).reverse⟩ system).disk := by
      intro disk
      refine (makeDirectory_grows disk _ system).mono ?_ fun _ => id
      rintro _ rfl
      exact ⟨by simp, [], by simp [Path.append]⟩
    have hOuter : Grows system (·.IsStop ⟨root, (segment :: above).reverse⟩) (fun _ => False) disk
        (makeDirectoriesUp system root disk above).disk := by
      refine (ih disk).mono (fun dir hDir => ?_) fun _ => id
      rw [List.reverse_cons]
      exact hDir.append [segment]
    -- the directory is made at once, or again once those around it are there
    rw [makeDirectoriesUp]
    dsimp only
    split
    · split
      · exact hOuter
      · rw [disk_forgive]
        exact hOuter.trans (hStep _)
    · rw [disk_forgive]
      exact hStep disk

theorem makeDirectories_grows (disk : Disk) (path : Path) (system : System) :
    Grows system (·.IsParent path) (fun _ => False) disk
      (disk.makeDirectories path.parent system).disk := by
  have hUp := makeDirectoriesUp_grows system path.root disk path.parent.segments.reverse
  rw [List.reverse_reverse] at hUp
  exact hUp.mono (fun _ hDir => Path.IsStop.isParent hDir) fun _ => id

/-- Where the directory is there in the end, nothing has failed. -/
theorem makeDirectoriesUp_error {root : Root} {disk : Disk} {up : List (List Char)}
    (h : (makeDirectoriesUp system root disk up).disk.isDirectory ⟨root, up.reverse⟩ system =
      true) : (makeDirectoriesUp system root disk up).error = none := by
  induction up generalizing disk with
  | nil =>
    rw [makeDirectoriesUp, disk_forgive] at h
    exact error_forgive h
  | cons segment above ih =>
    rw [makeDirectoriesUp] at h ⊢
    dsimp only at h ⊢
    split at h
    · rename_i hMissing
      rw [if_pos hMissing]
      split at h
      · rename_i hOuter
        -- the directory lies in one that is there as well, so making that one has not failed
        obtain ⟨location, hLocated⟩ := isDirectory_iff.mp h
        have hThere : (makeDirectoriesUp system root disk above).error = none := by
          rw [List.reverse_cons] at hLocated
          exact ih (isDirectory_of_locate_append (List.cons_ne_nil segment []) hLocated)
        rw [hThere] at hOuter
        cases hOuter
      · rename_i hOuter
        rw [if_neg hOuter]
        rw [disk_forgive] at h
        exact error_forgive h
    · rename_i hOther
      rw [if_neg hOther]
      rw [disk_forgive] at h
      exact error_forgive h

/-- Where a path leads to anything but a directory, the directories it lies in are there. -/
theorem error_makeDirectories_of_locate {location : Location} {found : Option Item}
    (h : (disk.makeDirectories path.parent system).disk.locate path system = .ok (location, found))
    (hFound : found ≠ some .directory) :
    (disk.makeDirectories path.parent system).error = none := by
  have hSome : path.segments ≠ [] := by
    intro hNil
    have hLeads := (locate_eq_ok_iff.mp h).2
    rw [hNil] at hLeads
    cases hLeads
    exact hFound rfl
  have hPath : path = path.parent.append [path.segments.getLast hSome] := by
    rw [Path.append, Path.parent, List.dropLast_concat_getLast]
  have hThere : (disk.makeDirectories path.parent system).disk.locate
      (path.parent.append [path.segments.getLast hSome]) system = .ok (location, found) := by
    rw [← hPath, h]
  apply makeDirectoriesUp_error
  rw [List.reverse_reverse]
  exact isDirectory_of_locate_append (List.cons_ne_nil _ []) hThere

/-! ### Writing a file -/

/-- The places that writing at a location changes: there are none if a device stands there. -/
def Writes (system : System) (location place : Location) : Prop :=
  place = location ∧ system.device place = false

/-- A path leads to a file that holds the bytes, or to a device. -/
def Holds (disk : Disk) (path : Path) (bytes : ByteArray) (system : System)
    (location : Location) : Prop :=
  ∃ found, disk.locate path system = .ok (location, found) ∧ found ≠ some .directory ∧
    (system.device location = false → found = some (.file bytes))

/-- What is written to a path has arrived: nothing has stopped it, and it is held. -/
structure Arrived (disk : Disk) (path : Path) (bytes : ByteArray) (system : System)
    (location : Location) : Prop where
  holds : disk.Holds path bytes system location
  allowed : system.refusal .write location = none
  sink : system.sink location bytes = .whole

/-- What saving to a path does, by how far it gets. -/
inductive Saves (disk : Disk) (path : Path) (bytes : ByteArray) (system : System) : Attempt → Prop
  | refused {attempt : Attempt} (hError : attempt.error ≠ none)
    (hGrows : disk.Grows system (·.IsParent path) (fun _ => False) attempt.disk)
    (hMissed : ∀ location, ¬attempt.disk.Arrived path bytes system location) :
    Saves disk path bytes system attempt
  | cut {after : Disk} {location : Location} {taken : Nat} {fault : FileFault}
    (hGrows : disk.Grows system (·.IsParent path) (Writes system location) after)
    (hHolds : after.Holds path (bytes.extract 0 taken) system location)
    (hSink : system.sink location bytes = .cut taken fault) :
    Saves disk path bytes system ⟨after, some ⟨fault, none⟩⟩
  | written {after : Disk} {location : Location}
    (hGrows : disk.Grows system (·.IsParent path) (Writes system location) after)
    (hArrived : after.Arrived path bytes system location) :
    Saves disk path bytes system ⟨after, none⟩

variable {bytes : ByteArray} {location : Location} {found : Option Item}

theorem Arrived.of_locate {place : Location} (h : disk.Arrived path bytes system place)
    (hLocated : disk.locate path system = .ok (location, found)) :
    found ≠ some .directory ∧ system.refusal .write location = none ∧
      system.sink location bytes = .whole := by
  obtain ⟨⟨other, hOther, hFile, _⟩, hAllowed, hSink⟩ := h
  cases hLocated.symm.trans hOther
  exact ⟨hFile, hAllowed, hSink⟩

theorem leave_grows (made : Path → Prop) (bytes : ByteArray)
    (hLocated : disk.locate path system = .ok (location, found))
    (hFile : found ≠ some .directory) :
    (disk.leave location bytes system).Holds path bytes system location ∧
      Grows system made (Writes system location) disk (disk.leave location bytes system) := by
  unfold leave
  split
  · rename_i hDevice
    have hOther : ¬system.device location = false := by simp [hDevice]
    exact ⟨⟨found, hLocated, hFile, fun h => absurd h hOther⟩, .refl disk⟩
  · rename_i hDevice
    obtain ⟨hThere, hGrows⟩ := put_grows made hLocated hFile (.file bytes)
    refine ⟨⟨_, hThere, nofun, fun _ => rfl⟩, hGrows.mono (fun _ => id) ?_⟩
    rintro _ rfl
    exact ⟨rfl, by simpa using hDevice⟩

theorem saves_write {before : Disk}
    (hMade : before.Grows system (·.IsParent path) (fun _ => False) disk) :
    Saves before path bytes system (disk.write path bytes system) := by
  unfold write
  split
  · rename_i hLocated
    exact .refused nofun hMade fun _ hArrived => (hArrived.of_locate hLocated).1 rfl
  · rename_i location found hFile hLocated
    split
    · rename_i fault hRefused
      refine .refused nofun hMade fun _ hArrived => ?_
      cases hRefused.symm.trans (hArrived.of_locate hLocated).2.1
    · rename_i hAllowed
      split
      · rename_i hSink
        obtain ⟨hHolds, hGrows⟩ := leave_grows (·.IsParent path) bytes hLocated hFile
        exact .written (hMade.weaken.trans hGrows) ⟨hHolds, hAllowed, hSink⟩
      · rename_i taken fault hSink
        obtain ⟨hHolds, hGrows⟩ :=
          leave_grows (·.IsParent path) (bytes.extract 0 taken) hLocated hFile
        exact .cut (hMade.weaken.trans hGrows) hHolds hSink
  · rename_i fault hFault
    refine .refused nofun hMade fun _ hArrived => ?_
    obtain ⟨_, hLocated, _⟩ := hArrived.holds
    cases hFault.symm.trans hLocated

theorem saves_save (disk : Disk) (path : Path) (bytes : ByteArray) (system : System) :
    Saves disk path bytes system (disk.save path bytes system) := by
  have hMade := makeDirectories_grows disk path system
  unfold save
  dsimp only
  split
  · rename_i hError
    refine .refused (Option.isSome_iff_ne_none.mp hError) hMade fun _ hArrived => ?_
    obtain ⟨found, hLocated, hFile, _⟩ := hArrived.holds
    rw [error_makeDirectories_of_locate hLocated hFile] at hError
    cases hError
  · exact saves_write hMade

end Disk

/-! ### Saving a manifest -/

namespace BuildConfig

variable {disk : Disk} {path : Path} {bc : BuildConfig} {system : System}

/-- The bytes that are saved. -/
def manifestBytes (bc : BuildConfig) : ByteArray := (writeBuildConfig bc).toUTF8

/-- The manifest of a BuildConfig can be dumped, and what is written of it has arrived. -/
structure Saved (bc : BuildConfig) (disk : Disk) (path : Path) (system : System) : Prop where
  dumped : bc.dumpFault? = none
  arrived : ∃ location, disk.Arrived path bc.manifestBytes system location

theorem Saved.read (h : bc.Saved disk path .plain) : disk.read path = .ok bc.manifestBytes := by
  obtain ⟨location, ⟨found, hLocated, _, hBytes⟩, _⟩ := h.arrived
  rw [hBytes rfl] at hLocated
  exact Disk.read_eq_ok_iff.mpr ⟨location, hLocated, rfl⟩

/-- A manifest is saved as its bytes are, or nothing is written as it cannot be dumped. -/
theorem save_cases (disk : Disk) (path : Path) (bc : BuildConfig) (system : System) :
    bc.dumpFault? = none ∧ (∃ attempt, disk.Saves path bc.manifestBytes system attempt ∧
        bc.save disk path system = ⟨attempt.disk, attempt.error.map .file⟩) ∨
      bc.dumpFault? ≠ none ∧ (bc.save disk path system).error ≠ none ∧
        disk.Grows system (·.IsParent path) (fun _ => False) (bc.save disk path system).disk := by
  unfold save
  split
  · rename_i hDump
    exact .inl ⟨hDump, _, disk.saves_save path bc.manifestBytes system, rfl⟩
  · rename_i hDump
    refine .inr ⟨by rw [hDump]; exact nofun, nofun, disk.makeDirectories_grows path system⟩

theorem error_save_eq_none_iff :
    (bc.save disk path system).error = none ↔
      bc.Saved (bc.save disk path system).disk path system := by
  rcases save_cases disk path bc system with ⟨hDump, attempt, hSaves, hSave⟩ | ⟨hFault, hError, _⟩
  · rw [hSave]
    cases hSaves with
    | refused hError _ hMissed =>
      refine iff_of_false (mt Option.map_eq_none_iff.mp hError) fun h => ?_
      obtain ⟨location, hArrived⟩ := h.arrived
      exact hMissed location hArrived
    | cut hGrows hHolds hSink =>
      refine iff_of_false nofun fun h => ?_
      obtain ⟨_, hArrived⟩ := h.arrived
      obtain ⟨_, hLocated, _⟩ := hHolds
      cases hSink.symm.trans (hArrived.of_locate hLocated).2.2
    | written _ hArrived => exact iff_of_true rfl ⟨hDump, _, hArrived⟩
  · exact iff_of_false hError fun h => hFault h.dumped

theorem grows_of_saved (h : (bc.save disk path system).error = none) :
    ∃ location, (bc.save disk path system).disk.Holds path bc.manifestBytes system location ∧
      disk.Grows system (·.IsParent path) (Disk.Writes system location)
        (bc.save disk path system).disk := by
  rcases save_cases disk path bc system with ⟨_, attempt, hSaves, hSave⟩ | ⟨_, hError, _⟩
  · rw [hSave] at h ⊢
    cases hSaves with
    | refused hError => exact absurd (Option.map_eq_none_iff.mp h) hError
    | cut => cases h
    | written hGrows hArrived => exact ⟨_, hArrived.holds, hGrows⟩
  · exact absurd h hError

end BuildConfig

end BuildSync
