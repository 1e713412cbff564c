import Excision.Disk.Change
import Excision.Proofs.Disk.Ways

/-!
# A file put in a place

Putting a file under a name changes the entry there and no other.  What leads to other
places is what led there without the entry that stood under the name: the path of the name
reads the new file exactly if it did not lead through that entry (`WithFile.reads_iff`).
-/

namespace Excision

namespace Disk

/-- The second disk is the first with a file put at a location. -/
structure WithFile (disk : Disk) (location : Location) (bytes : ByteArray) (mode : Nat)
    (after : Disk) : Prop where
  /-- No other entry is changed. -/
  entry : after.entry? = Function.update disk.entry? location (some (.file bytes mode))
  /-- Relative paths begin where they began. -/
  workingDirectory : after.workingDirectory = disk.workingDirectory

/-- The path leads through the entry at this location on the way to its last name: without
that entry the last name would not stand where it does. -/
def LeadsThrough (disk : Disk) (path : Text) (location : Location) : Prop :=
  (disk.erase location).slot path ≠ disk.slot path

section

variable {disk after : Disk} {path : Text} {location other : Location} {bytes : ByteArray}
  {mode : Nat}

theorem readBytes_eq_ok_iff :
  disk.readBytes path = .ok bytes ↔
    ∃ location mode, disk.locate path = .ok location
      ∧ disk.entry? location = some (.file bytes mode)
  := by
  unfold readBytes
  cases hlocate : disk.locate path with
  | error cause => simp [bind, Except.bind]
  | ok location =>
    simp only [bind, Except.bind]
    split
    next content mode hentry => simp [hentry]
    next hentry => simp [hentry]
    next hfile _ =>
      simp only [reduceCtorEq, Except.ok.injEq, false_iff, not_exists]
      rintro other mode ⟨rfl, hentry⟩
      exact hfile _ _ hentry

/-! ### Ways -/

theorem waysKept_erase (hne : location ≠ []) :
  WaysKept (disk.erase location) disk
  := by
  apply waysKept_of_agree
  · intro other (hother : other ≠ location)
    rw [entry?_erase hne, Function.update_of_ne hother]
  · simp [entry?_erase hne]
  · rfl

theorem WithFile.entry?_self (h : disk.WithFile location bytes mode after) :
  after.entry? location = some (.file bytes mode)
  := by rw [h.entry, Function.update_self]

theorem WithFile.entry?_of_ne (h : disk.WithFile location bytes mode after)
    (hother : other ≠ location) :
  after.entry? other = disk.entry? other
  := by rw [h.entry, Function.update_of_ne hother]

theorem withFile_create (hne : location ≠ []) :
  disk.WithFile location bytes mode (disk.create location (.file bytes mode))
  := ⟨entry?_create hne _, rfl⟩

/-- The file takes no way away where a file or nothing was. -/
theorem WithFile.waysKept (h : disk.WithFile location bytes mode after)
    (hfile : ∀ entry, disk.entry? location = some entry →
      ∃ content bits, entry = .file content bits) :
  WaysKept disk after
  := waysKept_of_agree (fun _ => h.entry?_of_ne) hfile h.workingDirectory

/-- The file adds no way. -/
theorem WithFile.waysKept_back (h : disk.WithFile location bytes mode after) :
  WaysKept after disk
  := by
  apply waysKept_of_agree (fun _ hother => (h.entry?_of_ne hother).symm)
  · rw [h.entry?_self]
    rintro entry ⟨⟩
    exact ⟨bytes, mode, rfl⟩
  · apply h.workingDirectory.symm

/-- The file is put where nothing is as well as where something was. -/
theorem WithFile.of_erase (h : disk.WithFile location bytes mode after) (hne : location ≠ []) :
  (disk.erase location).WithFile location bytes mode after
  where
  entry := by rw [entry?_erase hne, Function.update_idem, h.entry]
  workingDirectory := h.workingDirectory

theorem WithFile.waysKept_of_erase (h : disk.WithFile location bytes mode after)
    (hne : location ≠ []) :
  WaysKept (disk.erase location) after
  := by
  apply (h.of_erase hne).waysKept
  simp [entry?_erase hne]

/-! ### The path of the name -/

/-- A path that leads through the entry that it names leads through a link, unless it names
a directory. -/
theorem LeadsThrough.exists_link (h : disk.LeadsThrough path location)
    (hslot : disk.slot path = .ok (.named location false))
    (hdirectory : disk.isDirectory location = false) :
  ∃ target, disk.entry? location = some (.link target)
  := by
  by_contra hlink
  apply h
  rw [hslot]
  refine slot_of_waysKept ?_ hslot
  obtain ⟨directory, name, rfl, -⟩ := slot_eq_named_iff.mp hslot
  apply waysKept_of_agree
  · intro other (hother : other ≠ directory ++ [name])
    rw [entry?_erase (by simp), Function.update_of_ne hother]
  · intro entry hentry
    cases entry with
    | file content mode => exact ⟨content, mode, rfl⟩
    | directory mode => simp [isDirectory, hentry] at hdirectory
    | link target => exact absurd ⟨target, hentry⟩ hlink
  · rfl

/-- The path names the file, unless it leads through the entry that stood there. -/
theorem WithFile.slot_eq (h : disk.WithFile location bytes mode after) (hne : location ≠ [])
    (hslot : disk.slot path = .ok (.named location false))
    (hthrough : ¬ disk.LeadsThrough path location) :
  after.slot path = .ok (.named location false)
  := by
  rw [LeadsThrough, not_not, hslot] at hthrough
  apply slot_of_waysKept (h.waysKept_of_erase hne) hthrough

/-- A path that leads through the entry that stood there leads to no file. -/
theorem WithFile.not_leadsThrough (h : disk.WithFile location bytes mode after)
    (hne : location ≠ []) (hslot : disk.slot path = .ok (.named location false))
    (hreads : after.readBytes path = .ok bytes) :
  ¬ disk.LeadsThrough path location
  := by
  obtain ⟨directory, name, rfl, hnames⟩ := slot_eq_named_iff.mp hslot
  obtain ⟨other, bits, hlocate, -⟩ := readBytes_eq_ok_iff.mp hreads
  obtain ⟨front, blanks, left, hparts, -, hslash, -⟩ := hnames.leads
  obtain rfl : blanks = [] := by simpa using hslash
  obtain ⟨parent, hafter, -⟩ := Names.of_place hparts hnames.isName.not_void
    hnames.isName.ne_up (locate_eq_ok_iff.mp hlocate)
  -- The last name stands in one directory, with the entry and without it.
  have herased := slot_of_waysKept (h.of_erase hne).waysKept_back
    (slot_eq_named_iff.mpr ⟨parent, name, rfl, hafter⟩)
  rw [LeadsThrough, not_not, herased, slot_of_waysKept (waysKept_erase hne) herased]

/-- The path of the name reads the file, unless it leads through the entry that stood
there. -/
theorem WithFile.reads_iff (h : disk.WithFile location bytes mode after)
    (hslot : disk.slot path = .ok (.named location false)) :
  after.readBytes path = .ok bytes ↔ ¬ disk.LeadsThrough path location
  := by
  obtain ⟨directory, name, rfl, -⟩ := slot_eq_named_iff.mp hslot
  have hne : directory ++ [name] ≠ [] := by simp
  constructor
  · apply h.not_leadsThrough hne hslot
  · intro hthrough
    obtain ⟨other, last, heq, hnames⟩ := slot_eq_named_iff.mp (h.slot_eq hne hslot hthrough)
    rw [heq] at h
    apply readBytes_eq_ok_iff.mpr
    refine ⟨other ++ [last], mode, ?_, h.entry?_self⟩
    apply hnames.locate_eq h.entry?_self (by simp) (.inl rfl)

/-- What stands before a slash of the path leads to a directory then. -/
theorem WithFile.leadsToDirectory (h : disk.WithFile location bytes mode after)
    (hslot : disk.slot path = .ok (.named location false))
    (hthrough : ¬ disk.LeadsThrough path location) {head rest : Text}
    (hpath : path = head ++ '/' :: rest) (hhead : head ≠ []) :
  after.leadsToDirectory head = true
  := by
  obtain ⟨directory, name, rfl, -⟩ := slot_eq_named_iff.mp hslot
  obtain ⟨other, last, -, hnames⟩ :=
    slot_eq_named_iff.mp (h.slot_eq (by simp) hslot hthrough)
  apply hnames.leadsToDirectory hpath hhead

end

end Disk

end Excision
