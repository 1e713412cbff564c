import Excision.Proofs.Disk.Canonical
import Excision.Proofs.Storage.Temporary

/-!
# What a replacement does

What replacing a file comes to on a well-formed disk on which nothing stands in the way of
the temporary file.  A replacement that succeeds has changed the entry of one location to a
file with the new bytes (`Writes.replaced`), which for a path that resolves to a file is that
file with its permission bits.  A replacement that fails has made directories at most
(`Writes.kept`), unless the lock of the temporary file failed, in which case that file is left
as well (`Writes.left`).
-/

namespace Excision

namespace Disk

variable {disk : Disk} {path : Text} {location : Location}

/-! ### The file to be replaced -/

theorem target_of_resolves (h : disk.Resolves path location) :
  disk.target path = location.path
  := by simp [target, h.canonicalize]

theorem target_of_unresolved {cause : Cause} (h : disk.canonicalize path = .error cause) :
  disk.target path = path ∧ disk.targetMode path = .ok none
  := by simp [target, targetMode, h]

/-- The permission bits of the file to be replaced are found at its canonical path. -/
theorem mode_of_targetMode (h : disk.Resolves path location) {mode : Option Nat}
    (hmode : disk.targetMode path = .ok mode) :
  ∃ bits, mode = some bits ∧ disk.mode location.path = .ok bits
  := by
  simp only [targetMode, h.canonicalize, Except.map] at hmode
  split at hmode
  · contradiction
  next bits hbits =>
    cases hmode
    exact ⟨bits, rfl, hbits⟩

theorem exists_locate_of_mode {bits : Nat} (h : disk.mode path = .ok bits) :
  ∃ location, disk.locate path = .ok location
  := by
  unfold mode at h
  cases hlocate : disk.locate path with
  | error cause =>
    rw [hlocate] at h
    contradiction
  | ok location => exact ⟨location, rfl⟩

theorem checkPath_of_mode {bits : Nat} (h : disk.mode path = .ok bits) :
  checkPath path = .ok ()
  := by
  obtain ⟨location, hlocate⟩ := exists_locate_of_mode h
  exact (place_eq_ok_iff.mp (locate_eq_ok_iff.mp hlocate)).1

/-- The permission bits of a file are found at its canonical path. -/
theorem WellFormed.mode_path (hdisk : disk.WellFormed) {content : ByteArray} {bits : Nat}
    (hfile : disk.entry? location = some (.file content bits))
    (hcheck : checkPath location.path = .ok ()) :
  disk.mode location.path = .ok bits
  := by
  have hplace := hdisk.place_path hfile (by simp) hcheck
  simp only [mode, locate_eq_ok_iff.mpr hplace, bind, Except.bind, hfile]

/-- Nothing has to be made above what a path leads to, whether it resolves or not. -/
theorem withParents_target (hlocate : disk.locate path = .ok location) {mode : Option Nat}
    (hmode : disk.targetMode path = .ok mode) :
  disk.withParents (disk.target path) = (.ok (), disk)
  := by
  cases hcanonical : disk.canonicalize path with
  | error cause =>
    rw [(target_of_unresolved hcanonical).1]
    exact withParents_of_locate hlocate
  | ok resolved =>
    obtain ⟨other, hresolves, -⟩ := resolves_of_canonicalize hcanonical
    obtain ⟨bits, -, hbits⟩ := mode_of_targetMode hresolves hmode
    obtain ⟨last, hlast⟩ := exists_locate_of_mode hbits
    rw [target_of_resolves hresolves]
    exact withParents_of_locate hlast

/-- The file to be replaced has the permission bits that were found, unless it is a
directory. -/
theorem WellFormed.exists_file_of_targetMode (hdisk : disk.WellFormed)
    (hresolves : disk.Resolves path location) {mode : Option Nat}
    (hmode : disk.targetMode path = .ok mode) (hdirectory : disk.isDirectory location = false) :
  ∃ content bits, mode = some bits ∧ disk.entry? location = some (.file content bits)
  := by
  obtain ⟨bits, rfl, hbits⟩ := mode_of_targetMode hresolves hmode
  obtain ⟨entry, hentry, hlink⟩ := hdisk.exists_entry_of_locate hresolves.locate
  cases entry with
  | file content other =>
    rw [hdisk.mode_path hentry (checkPath_of_mode hbits)] at hbits
    cases hbits
    exact ⟨content, bits, rfl, hentry⟩
  | directory other => simp [isDirectory, hentry] at hdirectory
  | link target => exact absurd rfl (hlink target)

/-- The canonical path of an entry names its location. -/
theorem WellFormed.slot_path (hdisk : disk.WellFormed) (hne : location ≠ [])
    (hentry : disk.entry? location ≠ none) (hcheck : checkPath location.path = .ok ()) :
  disk.slot location.path = .ok (.named location false)
  := by
  cases location using List.reverseRecOn with
  | nil => contradiction
  | append_singleton directory name =>
    obtain ⟨hname, hslash⟩ := hdisk.isName directory name hentry
    apply slot_eq_named_iff.mpr
    use directory, name, rfl
    apply hdisk.names_path (hdisk.parent directory name hentry) hname hslash hcheck

/-- The path of the file to be replaced names the place of that file. -/
theorem WellFormed.slot_target (hdisk : disk.WellFormed) (hne : location ≠ [])
    (hresolves : disk.Resolves path location) {mode : Option Nat}
    (hmode : disk.targetMode path = .ok mode) :
  disk.slot (disk.target path) = .ok (.named location false)
  := by
  obtain ⟨bits, -, hbits⟩ := mode_of_targetMode hresolves hmode
  obtain ⟨entry, hexists, -⟩ := hdisk.exists_entry_of_locate hresolves.locate
  rw [target_of_resolves hresolves]
  apply hdisk.slot_path hne (by simp [hexists]) (checkPath_of_mode hbits)

theorem WellFormed.eq_of_slot_target (hdisk : disk.WellFormed) {other : Location} {slash : Bool}
    (hresolves : disk.Resolves path location) {mode : Option Nat}
    (hmode : disk.targetMode path = .ok mode)
    (hslot : disk.slot (disk.target path) = .ok (.named other slash)) :
  other = location
  := by
  have hne : location ≠ [] := by
    rintro rfl
    rw [target_of_resolves hresolves] at hslot
    cases hslot
  rw [hdisk.slot_target hne hresolves hmode] at hslot
  cases hslot
  rfl

end Disk

namespace Storage

/-- Nothing stands under the name of the temporary file beside the file that is to be
replaced, wherever that name is found once the directories above the file are there. -/
def TemporaryFree (process : Nat) (disk : Disk) (path : Text) : Prop :=
  ∀ location slash,
    (disk.withParents (disk.target path)).2.slot (temporaryPath process (disk.target path))
      = .ok (.named location slash) →
    disk.entry? location = none

variable {process : Nat} {disk middle after : Disk} {path : Text} {bytes : ByteArray}
  {faults : List (Option Fault)}

/-- The temporary file is a new one, and filling it gives it its bytes and permission bits. -/
theorem TemporaryFree.fill (hfree : TemporaryFree process disk path)
    (hparents : disk.withParents (disk.target path) = (.ok (), middle)) {opened : Disk}
    {serial : Nat}
    (hopen : middle.openTruncated (temporaryPath process (disk.target path))
      = .ok (serial, opened)) :
  ∃ directory name, name = temporaryName process (disk.target path)
    ∧ middle.Names (temporaryPath process (disk.target path)) directory name false
    ∧ middle.entry? (directory ++ [name]) = none
    ∧ opened = middle.create (directory ++ [name]) (.file .empty disk.newFileMode)
    ∧ ∀ bytes mode, opened.fill serial bytes mode
      = middle.create (directory ++ [name]) (.file bytes (mode.getD disk.newFileMode))
  := by
  have hgrown := disk.withParents_grown (disk.target path)
  rw [hparents] at hgrown
  -- What stands under its name has been made with the directories.
  have hplaces : ∀ location slash,
      middle.slot (temporaryPath process (disk.target path)) = .ok (.named location slash) →
      middle.entry? location = none ∨ middle.isDirectory location = true
    := by
    intro location slash hslot
    have hnone : disk.entry? location = none := by
      apply hfree location slash
      rw [hparents]
      apply hslot
    cases hentry : middle.entry? location with
    | none => exact .inl rfl
    | some entry =>
      obtain ⟨rfl, -⟩ := hgrown.new location entry hnone hentry
      exact .inr (Disk.isDirectory_iff.mpr ⟨_, hentry⟩)
  obtain ⟨front, hparts⟩ := splitAt_temporaryPath process (disk.target path)
  obtain ⟨directory, hnames, hnone, rfl, rfl⟩ := Disk.openTruncated_of_free hparts
    (temporaryName_not_void process _) (temporaryName_ne_up process _) hplaces hopen
  rw [← hgrown.newFileMode_eq]
  exact ⟨directory, _, rfl, hnames, hnone, rfl, middle.fill_create _⟩

/-! ### Success -/

/-- A replacement that succeeds changes one entry of the disk with the directories above the
file: that of the last name of the target. -/
theorem Writes.replaced (h : Writes process path bytes disk faults (.ok ()) after)
    (hfree : TemporaryFree process disk path) :
  ∃ mode middle location, disk.targetMode path = .ok mode
    ∧ disk.withParents (disk.target path) = (.ok (), middle)
    ∧ middle.slot (disk.target path) = .ok (.named location false)
    ∧ middle.isDirectory location = false
    ∧ middle.WithFile location bytes (mode.getD disk.newFileMode) after
    ∧ ∀ other slash,
      middle.slot (temporaryPath process (disk.target path)) = .ok (.named other slash) →
      other ≠ location ∧ middle.entry? other = none
  := by
  cases h with
  | @written mode serial middle opened after hmode hparents hopen hrename =>
  obtain ⟨directory, name, hname, hnames, hnone, -, hfill⟩ := hfree.fill hparents hopen
  rw [hfill] at hrename
  have hother : HostPath.fileName? (disk.target path) ≠ some name := by
    rw [hname]
    apply fileName?_ne_temporaryName
  obtain ⟨location, hslot, hne, hdirectory, hput⟩ :=
    Disk.rename_created hnames hnone hother hrename
  refine ⟨mode, middle, location, hmode, hparents, hslot, hdirectory, hput, ?_⟩
  intro other slash htemporary
  rw [Disk.slot_eq_named_iff.mpr ⟨directory, name, rfl, hnames⟩, Except.ok.injEq,
    Slot.named.injEq] at htemporary
  obtain ⟨rfl, -⟩ := htemporary
  exact ⟨hne.symm, hnone⟩

/-! ### Failure -/

/-- A replacement that fails leaves the disk, but for the directories made above the file,
unless the lock of the temporary file fails. -/
theorem Writes.kept {error : FileError}
    (h : Writes process path bytes disk faults (.error error) after)
    (hfree : TemporaryFree process disk path) (hlock : ∀ path, error ≠ .lockFailed path) :
  after = disk
    ∨ (∃ mode, disk.targetMode path = .ok mode)
      ∧ after.entry? = Disk.entry? (disk.withParents (disk.target path)).2
      ∧ after.workingDirectory = (disk.withParents (disk.target path)).2.workingDirectory
      ∧ after.umask = (disk.withParents (disk.target path)).2.umask
  := by
  cases h with
  | unknown hmode => exact .inl rfl
  | unparented hmode _ hparents =>
    rw [hparents]
    exact .inr ⟨⟨_, hmode⟩, rfl, rfl, rfl⟩
  | unopened hmode hparents _ =>
    rw [hparents]
    exact .inr ⟨⟨_, hmode⟩, rfl, rfl, rfl⟩
  | unlocked => exact absurd rfl (hlock _)
  | unfilled hfault hmode hparents hopen =>
    obtain ⟨directory, name, -, hnames, hnone, -, hfill⟩ := hfree.fill hparents hopen
    rw [hparents, hfill]
    exact .inr ⟨⟨_, hmode⟩, Disk.entry?_remove_created hnames hnone⟩
  | unreleased => exact absurd rfl (hlock _)
  | unmoved hmode hparents hopen _ =>
    obtain ⟨directory, name, -, hnames, hnone, -, hfill⟩ := hfree.fill hparents hopen
    rw [hparents, hfill]
    exact .inr ⟨⟨_, hmode⟩, Disk.entry?_remove_created hnames hnone⟩

/-- A replacement that fails at the lock of the temporary file leaves that file beside the
directories made above the target. -/
theorem Writes.left {failed : Text}
    (h : Writes process path bytes disk faults (.error (.lockFailed failed)) after)
    (hfree : TemporaryFree process disk path) :
  failed = disk.target path ∧ (∃ fault, some fault ∈ faults)
    ∧ (∃ mode, disk.targetMode path = .ok mode)
    ∧ ∃ middle location content mode,
      disk.withParents (disk.target path) = (.ok (), middle)
      ∧ middle.slot (temporaryPath process (disk.target path)) = .ok (.named location false)
      ∧ middle.entry? location = none ∧ middle.WithFile location content mode after
  := by
  cases h with
  | unlocked hfault hmode hparents hopen =>
    obtain ⟨directory, name, -, hnames, hnone, rfl, -⟩ := hfree.fill hparents hopen
    refine ⟨rfl, ⟨_, hfault⟩, ⟨_, hmode⟩, _, _, _, _, hparents, ?_, hnone,
      Disk.withFile_create (by simp)⟩
    exact Disk.slot_eq_named_iff.mpr ⟨directory, name, rfl, hnames⟩
  | unreleased hfault hmode hparents hopen =>
    obtain ⟨directory, name, -, hnames, hnone, -, hfill⟩ := hfree.fill hparents hopen
    rw [hfill]
    refine ⟨rfl, ⟨_, hfault⟩, ⟨_, hmode⟩, _, _, _, _, hparents, ?_, hnone,
      Disk.withFile_create (by simp)⟩
    exact Disk.slot_eq_named_iff.mpr ⟨directory, name, rfl, hnames⟩

end Storage

end Excision
