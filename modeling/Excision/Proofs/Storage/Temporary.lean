import Excision.Proofs.Disk.Preservation
import Excision.Proofs.Disk.Put
import Excision.Proofs.Path.Spelling
import Excision.Proofs.Storage.Steps
import Mathlib.Data.Nat.Digits.Defs

/-!
# The temporary file

The path of the temporary file of a target ends with a name of its own, in the directory of
the target.  Where nothing stands under that name, opening and filling the file is the same
as creating it with its bytes (`openTruncated_of_free`, `fill_create`), removing it gives the
entries that were there before (`entry?_remove_created`), and moving it over the target
changes the entry of the target alone (`rename_created`).  Beside a file that exists it has a
place of its own for each process (`Storage.temporaryLocation_injective`).
-/

namespace Excision

/-! ### Its name -/

section

variable (process : Nat) (target : Text)

theorem notMem_ofNat {c : Char} (hc : c.isDigit = false) (number : Nat) :
  c ∉ Text.ofNat number
  := by
  intro hmem
  have := Nat.isDigit_of_mem_toDigits (by decide) (by decide) hmem
  rw [hc] at this
  contradiction

theorem notMem_temporaryName :
  '/' ∉ temporaryName process target
  := by
  have hname : '/' ∉ (HostPath.fileName? target).getD [] := by
    cases hname : HostPath.fileName? target with
    | none => simp
    | some name => apply HostPath.notMem_of_fileName? hname
  have hprocess := notMem_ofNat (c := '/') (by decide) process
  simp [temporaryName, hname, hprocess]

/-- The name of the temporary file is longer than that of the target. -/
theorem length_temporaryName :
  ((HostPath.fileName? target).getD []).length + 5 < (temporaryName process target).length
  := by
  have hprocess : 0 < (Text.ofNat process).length := Nat.length_toDigits_pos
  simp only [temporaryName, List.length_append, List.length_cons, List.length_nil]
  omega

theorem temporaryName_not_void :
  HostPath.isVoidPart (temporaryName process target) = false
  := by
  have hlength := length_temporaryName process target
  simp only [HostPath.isVoidPart, Bool.or_eq_false_iff, beq_eq_false_iff_ne]
  constructor
  · intro h
    simp [h] at hlength
  · intro h
    simp [h] at hlength

theorem temporaryName_ne_up :
  temporaryName process target ≠ ['.', '.']
  := by
  intro h
  have hlength := length_temporaryName process target
  rw [h, List.length_cons, List.length_singleton] at hlength
  omega

/-- A path whose last part is the name of the temporary file is not the target. -/
theorem fileName?_ne_temporaryName :
  HostPath.fileName? target ≠ some (temporaryName process target)
  := by
  intro h
  have hlength := length_temporaryName process target
  rw [h, Option.getD_some] at hlength
  omega

theorem splitAt_temporaryPath :
  ∃ front, Text.splitAt '/' (temporaryPath process target)
    = front ++ [temporaryName process target]
  := HostPath.splitAt_withFileName target (notMem_temporaryName process target)

end

namespace Disk

/-! ### Opening it -/

/-- Opening a path whose name is free, or taken by a directory, makes a new file. -/
theorem openTruncated_of_free {disk opened : Disk} {path name : Text} {front : List Text}
    {serial : Nat} (hparts : Text.splitAt '/' path = front ++ [name])
    (hvoid : HostPath.isVoidPart name = false) (hup : name ≠ ['.', '.'])
    (hfree : ∀ location slash, disk.slot path = .ok (.named location slash) →
      disk.entry? location = none ∨ disk.isDirectory location = true)
    (h : disk.openTruncated path = .ok (serial, opened)) :
  ∃ directory, disk.Names path directory name false
    ∧ disk.entry? (directory ++ [name]) = none ∧ serial = disk.freshSerial
    ∧ opened = disk.create (directory ++ [name]) (.file .empty disk.newFileMode)
  := by
  rcases openTruncated_eq_ok h with
    ⟨location, hplace, hserial, hopened⟩ | ⟨location, content, mode, hplace, hnode, -⟩
  · obtain ⟨directory, hnames, hleads⟩ := Names.of_place hparts hvoid hup hplace
    have hnamed := hfree _ _ (slot_eq_named_iff.mpr ⟨directory, name, rfl, hnames⟩)
    rcases hleads with ⟨heq, hnone⟩ | ⟨heq, -⟩ | ⟨target, hlink⟩
    · cases heq
      exact ⟨directory, hnames, hnone, hserial, hopened⟩
    · contradiction
    · simp [isDirectory, hlink] at hnamed
  · -- What stands there would be a directory, which cannot be opened.
    obtain ⟨directory, hnames, hleads⟩ := Names.of_place hparts hvoid hup hplace
    have hnamed := hfree _ _ (slot_eq_named_iff.mpr ⟨directory, name, rfl, hnames⟩)
    rcases hleads with ⟨heq, -⟩ | ⟨heq, -⟩ | ⟨target, hlink⟩
    · contradiction
    · cases heq
      simp [isDirectory, entry?_of_ne_nil, hnode] at hnamed
    · simp [isDirectory, hlink] at hnamed

/-- A new file that is filled is a file created with its bytes and permission bits. -/
theorem fill_create (disk : Disk) (location : Location) (bytes : ByteArray)
    (mode : Option Nat) :
  (disk.create location (.file .empty disk.newFileMode)).fill disk.freshSerial bytes mode
    = disk.create location (.file bytes (mode.getD disk.newFileMode))
  := by
  have hoverwrite : overwrite .empty bytes = bytes := by simp [overwrite]
  have hwrite :
      (disk.create location (.file .empty disk.newFileMode)).write disk.freshSerial bytes
        = disk.create location (.file bytes disk.newFileMode)
    := by
    rw [write, modify_create]
    dsimp only
    rw [hoverwrite]
  cases mode with
  | none => rw [fill, hwrite, Option.getD_none]
  | some mode => rw [fill, hwrite, setMode, modify_create, Option.getD_some]

/-! ### Moving and removing it -/

section

variable {disk after : Disk} {source target name : Text} {directory : Location}
  {bytes : ByteArray} {mode : Nat}

/-- Moving a file that has just been created changes nothing but the entry of the target,
which is a name in a directory, and no directory itself. -/
theorem rename_created (hsource : disk.Names source directory name false)
    (hnone : disk.entry? (directory ++ [name]) = none)
    (hname : HostPath.fileName? target ≠ some name)
    (h : (disk.create (directory ++ [name]) (.file bytes mode)).rename source target
      = .ok after) :
  ∃ location, disk.slot target = .ok (.named location false)
    ∧ location ≠ directory ++ [name] ∧ disk.isDirectory location = false
    ∧ disk.WithFile location bytes mode after
  := by
  have hne : directory ++ [name] ≠ [] := by simp
  have hkept := waysKept_create hne hnone (.file bytes mode)
  obtain ⟨sourceLocation, location, node, hslot, htarget, hnode, -, hdirectory, hmoved⟩ :=
    rename_eq_ok h
  -- The file that is moved is the one that was created.
  have hcreated := slot_of_waysKept hkept (slot_eq_named_iff.mpr ⟨directory, name, rfl, hsource⟩)
  rw [hslot, Except.ok.injEq, Slot.named.injEq] at hcreated
  obtain ⟨rfl, -⟩ := hcreated
  rw [node?_create, Function.update_self, Option.some.injEq] at hnode
  subst hnode
  -- It is not moved to its own place.
  obtain ⟨other, last, rfl, hnames⟩ := slot_eq_named_iff.mp htarget
  have hlast : last ≠ name := by
    rintro rfl
    obtain ⟨front, blanks, left, hparts, hblanks, -, -⟩ := hnames.leads
    apply hname
    apply HostPath.fileName?_of_splitAt hparts hblanks hnames.isName.not_void
      hnames.isName.ne_up
  have hother : other ++ [last] ≠ directory ++ [name] := by
    intro heq
    obtain ⟨-, heq⟩ := List.append_inj' heq rfl
    simp [hlast] at heq
  have hupdated : Function.update disk.entry? (directory ++ [name]) none = disk.entry? := by
    rw [← hnone, Function.update_eq_self]
  -- What stands at the target is older, and so another node.
  obtain ⟨-, older, holder, hserial⟩ | ⟨rfl, -⟩ := hmoved
  · rw [node?_create, Function.update_of_ne hother] at holder
    have := serial_lt_freshSerial (mem_nodes_of_node? holder)
    dsimp only at hserial this
    omega
  refine ⟨other ++ [last], ?_, hother, ?_, ⟨?_, rfl⟩⟩
  · apply slot_of_waysKept (withFile_create hne).waysKept_back htarget
  · simpa [isDirectory, entry?_create hne, Function.update_of_ne hother] using hdirectory
  · rw [entry?_setNode (by simp), entry?_erase hne, entry?_create hne, Function.update_idem,
      hupdated]

/-- Removing a file that has just been created leaves the entries that were there before. -/
theorem entry?_remove_created (hsource : disk.Names source directory name false)
    (hnone : disk.entry? (directory ++ [name]) = none) :
  Disk.entry? ((disk.create (directory ++ [name]) (.file bytes mode)).remove source)
      = disk.entry?
    ∧ ((disk.create (directory ++ [name]) (.file bytes mode)).remove source).workingDirectory
      = disk.workingDirectory
    ∧ ((disk.create (directory ++ [name]) (.file bytes mode)).remove source).umask = disk.umask
  := by
  have hne : directory ++ [name] ≠ [] := by simp
  have hkept := waysKept_create hne hnone (.file bytes mode)
  have hslot := slot_of_waysKept hkept (slot_eq_named_iff.mpr ⟨directory, name, rfl, hsource⟩)
  have hfile : (disk.create (directory ++ [name]) (.file bytes mode)).isDirectory
      (directory ++ [name]) = false
    := by simp [isDirectory, entry?_create hne]
  simp only [remove, hslot, hfile, Bool.false_eq_true, if_false]
  refine ⟨?_, rfl, rfl⟩
  rw [entry?_erase hne, entry?_create hne, Function.update_idem, ← hnone,
    Function.update_eq_self]

end

end Disk

namespace Storage

/-! ### Beside a file that exists -/

/-- The place of the temporary file of a process beside the file at a location. -/
def temporaryLocation (process : Nat) (location : Location) : Location :=
  location.dropLast ++ [temporaryName process location.path]

section

variable {process : Nat} {location : Location}

theorem temporaryLocation_ne_nil :
  temporaryLocation process location ≠ []
  := by simp [temporaryLocation]

theorem temporaryLocation_ne (h : location.Proper) (hne : location ≠ []) :
  temporaryLocation process location ≠ location
  := by
  cases location using List.reverseRecOn with
  | nil => contradiction
  | append_singleton directory name =>
    intro heq
    rw [temporaryLocation, List.dropLast_concat] at heq
    have hname := List.singleton_inj.mp (List.append_cancel_left heq)
    apply fileName?_ne_temporaryName process (Location.path (directory ++ [name]))
    rw [hname, h.fileName?_path]

/-- Different processes have different temporary files. -/
theorem temporaryLocation_injective {other : Nat}
    (h : temporaryLocation process location = temporaryLocation other location) :
  process = other
  := by
  have hname := List.singleton_inj.mp (List.append_cancel_left h)
  unfold temporaryName at hname
  have hdigits : Text.ofNat process = Text.ofNat other := by simpa using hname
  rw [← Nat.ofDigitChars_ten_toDigits (n := process), ← Nat.ofDigitChars_ten_toDigits (n := other)]
  exact congrArg (Nat.ofDigitChars 10 · 0) hdigits

theorem temporaryPath_path (h : location.Proper) (hne : location ≠ []) :
  temporaryPath process location.path = Location.path (temporaryLocation process location)
  := by
  cases location using List.reverseRecOn with
  | nil => contradiction
  | append_singleton directory name =>
    have hslash := notMem_temporaryName process (Location.path (directory ++ [name]))
    rw [temporaryLocation, List.dropLast_concat, temporaryPath, HostPath.withFileName,
      h.fileName?_path, h.parent?_path]
    dsimp only
    rw [HostPath.join, if_neg (by simp [HostPath.isAbsolute_of_notMem hslash])]
    by_cases hdirectory : directory = []
    · subst hdirectory
      rfl
    · have hproper := (Location.proper_append_singleton_iff.mp h).1
      have hpath : Location.path directory ≠ [] := by simp [Location.path]
      rw [if_neg (by simp [hpath, hproper.not_endsWith_path hdirectory])]
      exact (Location.path_append_singleton hdirectory _).symm

variable {disk : Disk} {other : Location} {slash : Bool}

/-- The path of the temporary file names its place. -/
theorem eq_of_slot_temporaryPath (hdisk : disk.WellFormed) (hne : location ≠ [])
    (hentry : disk.entry? location ≠ none)
    (h : disk.slot (temporaryPath process location.path) = .ok (.named other slash)) :
  other = temporaryLocation process location
  := by
  obtain ⟨directory, name, rfl, hnames⟩ := Disk.slot_eq_named_iff.mp h
  obtain ⟨front, blanks, left, hparts, hblanks, -⟩ := hnames.leads
  obtain ⟨front', hparts'⟩ := splitAt_temporaryPath process location.path
  -- The last name is that of the temporary file.
  obtain rfl : name = temporaryName process location.path := by
    rw [hparts'] at hparts
    have htemporary : temporaryName process location.path ≠ [] := by
      intro hnil
      have := temporaryName_not_void process location.path
      rw [hnil] at this
      contradiction
    exact (HostPath.last_part_unique hparts htemporary hnames.isName.ne_nil (by simp)
      hblanks).symm
  have hproper := hdisk.proper hentry
  have hdirectory : disk.isDirectory location.dropLast = true := by
    apply hdisk.parent location.dropLast (location.getLast hne)
    rw [List.dropLast_concat_getLast]
    exact hentry
  rw [temporaryPath_path hproper hne] at h hnames
  have hplace := hdisk.names_path hdirectory hnames.isName (notMem_temporaryName process _)
    hnames.checked
  rw [temporaryLocation, Disk.slot_eq_named_iff.mpr ⟨_, _, rfl, hplace⟩, Except.ok.injEq,
    Slot.named.injEq] at h
  exact h.1.symm

end

end Storage

end Excision
