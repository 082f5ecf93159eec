import BuildSync.Disk
import BuildSync.Proofs.Path.Context

/-!
# Walking a disk

A walk that succeeds goes through directories only, so it leads to the same location as long as no
directory is lost, whatever else happens to the disk.
-/

set_option autoImplicit false

namespace BuildSync

namespace Path

theorem toList_isPrefix_append (path : Path) (rest : List (List Char)) :
    path.toList = ['.'] ∨ ∃ tail, (path.append rest).toList = path.toList ++ tail := by
  by_cases hRest : rest = []
  · exact .inr ⟨[], by simp [hRest, append]⟩
  · by_cases hSegments : path.segments = []
    · obtain ⟨root, segments⟩ := path
      cases hSegments
      cases root with
      | relative => exact .inl rfl
      | slash => exact .inr ⟨slashed rest, toList_eq (by simp [append])⟩
      | doubleSlash => exact .inr ⟨slashed rest, toList_eq (by simp [append])⟩
    · exact .inr ⟨_, toList_append hSegments hRest⟩

end Path

namespace Disk

variable {disk before middle after : Disk} {system : System} {here location target : Location}
  {rest segments : List (List Char)} {found : Option Item} {links : Nat}

/-! ### What lies at a location -/

theorem lookup_filter_ne (items : List (Location × Item)) (h : location ≠ target) :
    (items.filter fun e => e.1 != target).lookup location = items.lookup location := by
  induction items with
  | nil => rfl
  | cons e items ih =>
    obtain ⟨place, item⟩ := e
    rw [List.filter_cons, List.lookup_cons]
    by_cases hSame : location = place
    · subst hSame
      simp [h]
    · rw [beq_false_of_ne hSame]
      split
      · rw [List.lookup_cons, beq_false_of_ne hSame, ih]
      · exact ih

theorem item?_put_of_ne (disk : Disk) (item : Item) (h : location ≠ target) :
    (disk.put target item).item? location = disk.item? location := by
  simp only [item?, put, List.lookup_cons, beq_false_of_ne h, lookup_filter_ne disk.items h]

theorem item?_put (h : disk.item? location ≠ some .directory) (item : Item) :
    (disk.put location item).item? location = some item := by
  unfold item? at h ⊢
  split at h
  · exact absurd rfl h
  · rename_i hHome
    rw [put, if_neg hHome]
    simp

/-- The later disk has every directory of the earlier one. -/
structure Keeps (before after : Disk) : Prop where
  home : after.home = before.home
  directory : ∀ location, before.item? location = some .directory →
    after.item? location = some .directory

theorem Keeps.refl (disk : Disk) : disk.Keeps disk := ⟨rfl, fun _ h => h⟩

theorem Keeps.trans (first : before.Keeps middle) (last : middle.Keeps after) :
    before.Keeps after :=
  ⟨last.home.trans first.home,
    fun location h => last.directory location (first.directory location h)⟩

theorem keeps_put (h : disk.item? location ≠ some .directory) (item : Item) :
    disk.Keeps (disk.put location item) := by
  refine ⟨rfl, fun other hOther => ?_⟩
  have hNe : other ≠ location := by
    rintro rfl
    exact h hOther
  rw [disk.item?_put_of_ne item hNe, hOther]

/-! ### Walks -/

/-- A segment that is looked up: it does not lead up, and it is not too long. -/
def IsName (segment : List Char) : Prop :=
  segment ≠ ['.', '.'] ∧ (String.ofList segment).utf8ByteSize ≤ maxNameBytes

/-- The walks that succeed. A segment leads up, through a link, down to a directory, or at the end
of a walk to anything else. -/
inductive Leads (disk : Disk) (system : System) :
    Nat → Location → List (List Char) → Location → Option Item → Prop
  | stop (links : Nat) (here : Location) : Leads disk system links here [] here (some .directory)
  | up {links : Nat} {here location : Location} {rest : List (List Char)} {found : Option Item}
    (h : Leads disk system links here.dropLast rest location found) :
    Leads disk system links here (['.', '.'] :: rest) location found
  | link {links : Nat} {here location : Location} {segment : List Char}
    {rest : List (List Char)} {found : Option Item} {target : Path} (hName : IsName segment)
    (hLink : system.link (here ++ [segment]) = some target)
    (h : Leads disk system links (origin here target.root) (target.segments ++ rest) location
      found) :
    Leads disk system (links + 1) here (segment :: rest) location found
  | down {links : Nat} {here location : Location} {segment : List Char}
    {rest : List (List Char)} {found : Option Item} (hName : IsName segment)
    (hLink : system.link (here ++ [segment]) = none)
    (hItem : disk.item? (here ++ [segment]) = some .directory)
    (h : Leads disk system links (here ++ [segment]) rest location found) :
    Leads disk system links here (segment :: rest) location found
  | last {links : Nat} {here : Location} {segment : List Char} (hName : IsName segment)
    (hLink : system.link (here ++ [segment]) = none)
    (hItem : disk.item? (here ++ [segment]) ≠ some .directory) :
    Leads disk system links here [segment] (here ++ [segment]) (disk.item? (here ++ [segment]))

/-- How a walk goes on from a link. -/
def follow (disk : Disk) (system : System) :
    Nat → Location → List (List Char) → Except FileFault (Location × Option Item)
  | 0 => fun _ _ => .error .tooManyLinks
  | links + 1 => disk.walk system links

theorem walk_eq_walkWith (disk : Disk) (system : System) (links : Nat) :
    disk.walk system links = walkWith (disk.follow system links) disk system := by
  cases links <;> rfl

theorem leads_of_walkWith
    (hFollow : ∀ here segments location found,
      disk.follow system links here segments = .ok (location, found) →
        ∃ fewer, links = fewer + 1 ∧ Leads disk system fewer here segments location found)
    (h : walkWith (disk.follow system links) disk system here segments = .ok (location, found)) :
    Leads disk system links here segments location found := by
  induction segments generalizing here with
  | nil =>
    cases h
    exact .stop links _
  | cons segment rest ih =>
    rw [walkWith] at h
    split at h
    · rename_i hUp
      subst hUp
      exact .up (ih h)
    rename_i hUp
    split at h
    · cases h
    rename_i hShort
    have hName : IsName segment := ⟨hUp, Nat.not_lt.mp hShort⟩
    cases hLink : system.link (here ++ [segment]) with
    | some target =>
      simp only [hLink] at h
      obtain ⟨fewer, rfl, hTarget⟩ := hFollow _ _ _ _ h
      exact .link hName hLink hTarget
    | none =>
      simp only [hLink] at h
      split at h
      · rename_i hItem
        exact .down hName hLink hItem (ih h)
      all_goals
        rename_i hItem
        split at h
        · rename_i hRest
          subst hRest
          cases h
          rw [← hItem]
          exact .last hName hLink (by rw [hItem]; exact nofun)
        · cases h

theorem Leads.walk (h : Leads disk system links here segments location found) :
    disk.walk system links here segments = .ok (location, found) := by
  induction h with
  | stop links here => rw [walk_eq_walkWith, walkWith]
  | up _ ih => rw [walk_eq_walkWith, walkWith, if_pos rfl, ← walk_eq_walkWith, ih]
  | link hName hLink _ ih =>
    rw [walk_eq_walkWith, walkWith, if_neg hName.1, if_neg (Nat.not_lt.mpr hName.2)]
    simp only [hLink]
    exact ih
  | down hName hLink hItem _ ih =>
    rw [walk_eq_walkWith, walkWith, if_neg hName.1, if_neg (Nat.not_lt.mpr hName.2)]
    simp only [hLink, hItem]
    rw [← walk_eq_walkWith, ih]
  | last hName hLink hItem =>
    rw [walk_eq_walkWith, walkWith, if_neg hName.1, if_neg (Nat.not_lt.mpr hName.2)]
    simp only [hLink, if_true]
    split
    · rename_i hDirectory
      exact absurd hDirectory hItem
    · rename_i hFile
      rw [hFile]
    · rename_i hNone
      rw [hNone]

theorem walk_eq_ok_iff :
    disk.walk system links here segments = .ok (location, found) ↔
      Leads disk system links here segments location found := by
  refine ⟨fun h => ?_, Leads.walk⟩
  induction links generalizing here segments location found with
  | zero => exact leads_of_walkWith nofun h
  | succ links ih =>
    exact leads_of_walkWith (fun _ _ _ _ hNext => ⟨links, rfl, ih hNext⟩) h

namespace Leads

theorem item? (h : Leads disk system links here segments location found)
    (hFound : found ≠ some .directory) : disk.item? location = found := by
  induction h with
  | stop => exact absurd rfl hFound
  | up _ ih | link _ _ _ ih | down _ _ _ _ ih => exact ih hFound
  | last => rfl

theorem keeps (h : Leads before system links here segments location found)
    (hKeeps : before.Keeps after) :
    Leads after system links here segments location
      (if found = some .directory then found else after.item? location) := by
  induction h with
  | stop links here => exact .stop links here
  | up _ ih => exact .up ih
  | link hName hLink _ ih => exact .link hName hLink ih
  | down hName hLink hItem _ ih => exact .down hName hLink (hKeeps.directory _ hItem) ih
  | @last links here segment hName hLink hItem =>
    rw [if_neg hItem]
    -- the later disk may have a directory where the walk has ended before
    by_cases hMade : after.item? (here ++ [segment]) = some .directory
    · rw [hMade]
      exact .down hName hLink hMade (.stop _ _)
    · exact .last hName hLink hMade

/-- A walk that goes on has come to a directory. -/
theorem of_append {front : List (List Char)}
    (h : Leads disk system links here (front ++ rest) location found) (hRest : rest ≠ []) :
    ∃ dir, Leads disk system links here front dir (some .directory) := by
  generalize hSegments : front ++ rest = segments at h
  induction h generalizing front with
  | stop => exact absurd (List.append_eq_nil_iff.mp hSegments).2 hRest
  | @up links here location tail found h ih =>
    cases front with
    | nil => exact ⟨here, .stop _ _⟩
    | cons segment front =>
      obtain ⟨rfl, hTail⟩ := List.cons.inj hSegments
      obtain ⟨dir, hFront⟩ := ih hTail
      exact ⟨dir, .up hFront⟩
  | @link links here location segment tail found target hName hLink h ih =>
    cases front with
    | nil => exact ⟨here, .stop _ _⟩
    | cons segment front =>
      obtain ⟨rfl, hTail⟩ := List.cons.inj hSegments
      have hTarget : target.segments ++ front ++ rest = target.segments ++ tail :=
        (List.append_assoc _ _ _).trans (congrArg (target.segments ++ ·) hTail)
      obtain ⟨dir, hFront⟩ := ih hTarget
      exact ⟨dir, .link hName hLink hFront⟩
  | @down links here location segment tail found hName hLink hItem h ih =>
    cases front with
    | nil => exact ⟨here, .stop _ _⟩
    | cons segment front =>
      obtain ⟨rfl, hTail⟩ := List.cons.inj hSegments
      obtain ⟨dir, hFront⟩ := ih hTail
      exact ⟨dir, .down hName hLink hItem hFront⟩
  | @last links here segment hName hLink hItem =>
    cases front with
    | nil => exact ⟨here, .stop _ _⟩
    | cons segment front =>
      obtain ⟨rfl, hTail⟩ := List.cons.inj hSegments
      exact absurd (List.append_eq_nil_iff.mp hTail).2 hRest

end Leads

/-! ### Paths -/

/-- A path that is looked up at all: it is not too long, and there is no NUL in it. -/
def IsUsable (path : Path) : Prop :=
  '\x00' ∉ path.toList ∧ path.toString.utf8ByteSize < maxPathBytes

/-- The directories that a path leads through can be looked up where the path can. -/
theorem IsUsable.of_append {path : Path} {rest : List (List Char)}
    (h : IsUsable (path.append rest)) : IsUsable path := by
  obtain ⟨hNul, hShort⟩ := h
  rcases path.toList_isPrefix_append rest with hHere | ⟨tail, hTail⟩
  · rw [IsUsable, Path.toString, hHere]
    decide
  · rw [hTail, List.mem_append, not_or] at hNul
    rw [Path.toString, hTail, String.ofList_append, String.utf8ByteSize_append] at hShort
    exact ⟨hNul.1, Nat.lt_of_le_of_lt (Nat.le_add_right _ _) hShort⟩

theorem locate_eq_ok_iff {path : Path} :
    disk.locate path system = .ok (location, found) ↔
      IsUsable path ∧
        Leads disk system maxLinks (origin disk.home path.root) path.segments location found := by
  rw [← walk_eq_ok_iff]
  unfold locate IsUsable
  split
  · rename_i hNul
    exact iff_of_false nofun fun h => h.1.1 (List.contains_iff_mem.mp hNul)
  · rename_i hNul
    split
    · rename_i hLong
      exact iff_of_false nofun fun h => Nat.not_lt.mpr hLong h.1.2
    · rename_i hShort
      have hUsable : '\x00' ∉ path.toList ∧ path.toString.utf8ByteSize < maxPathBytes :=
        ⟨fun h => hNul (List.contains_iff_mem.mpr h), Nat.not_le.mp hShort⟩
      exact ⟨fun h => ⟨hUsable, h⟩, And.right⟩

theorem item?_of_locate {path : Path} (h : disk.locate path system = .ok (location, found))
    (hFound : found ≠ some .directory) : disk.item? location = found :=
  (locate_eq_ok_iff.mp h).2.item? hFound

theorem Keeps.locate {path : Path} (hKeeps : before.Keeps after)
    (h : before.locate path system = .ok (location, found)) :
    after.locate path system =
      .ok (location, if found = some .directory then found else after.item? location) := by
  obtain ⟨hUsable, hLeads⟩ := locate_eq_ok_iff.mp h
  refine locate_eq_ok_iff.mpr ⟨hUsable, ?_⟩
  rw [hKeeps.home]
  exact hLeads.keeps hKeeps

theorem read_eq_ok_iff {path : Path} {bytes : ByteArray} :
    disk.read path system = .ok bytes ↔
      ∃ location, disk.locate path system = .ok (location, some (.file bytes)) ∧
        system.refusal .read location = none := by
  unfold read
  split
  · rename_i location other hLocated
    rw [hLocated]
    constructor
    · intro h
      split at h
      · cases h
      · rename_i hAllowed
        cases h
        exact ⟨location, rfl, hAllowed⟩
    · rintro ⟨_, ⟨⟩, hAllowed⟩
      rw [hAllowed]
  all_goals simp_all

theorem isDirectory_iff {path : Path} :
    disk.isDirectory path system = true ↔
      ∃ location, disk.locate path system = .ok (location, some .directory) := by
  unfold isDirectory
  split <;> simp_all

/-- A path that leads to something, along more than `dir`, leads through the directory `dir`. -/
theorem isDirectory_of_locate_append {dir : Path} (hRest : rest ≠ [])
    (h : disk.locate (dir.append rest) system = .ok (location, found)) :
    disk.isDirectory dir system = true := by
  obtain ⟨hUsable, hLeads⟩ := locate_eq_ok_iff.mp h
  obtain ⟨place, hFront⟩ := hLeads.of_append hRest
  exact isDirectory_iff.mpr ⟨place, locate_eq_ok_iff.mpr ⟨hUsable.of_append, hFront⟩⟩

end Disk

end BuildSync
