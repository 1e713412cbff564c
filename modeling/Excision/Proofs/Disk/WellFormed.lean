import Excision.Proofs.Disk.Ways
import Mathlib.Data.List.Induction

/-!
# Well-formed disks

A disk is well formed if every entry stands in a directory under a name that a path can have
there.  On such a disk the canonical path of an entry leads to that entry
(`WellFormed.place_path`), and a way ends at an entry that exists (`Leads.exists_entry`).
-/

namespace Excision

/-! ### Canonical paths -/

namespace Location

/-- All names are names that a path can have. -/
def Proper (location : Location) : Prop := ∀ name ∈ location, IsName name ∧ '/' ∉ name

variable {location directory : Location} {name : Text}

theorem proper_append_iff :
  Proper (directory ++ location) ↔ directory.Proper ∧ location.Proper
  := List.forall_mem_append

theorem proper_append_singleton_iff :
  Proper (directory ++ [name]) ↔ directory.Proper ∧ IsName name ∧ '/' ∉ name
  := by
  rw [proper_append_iff]
  simp [Proper]

theorem Proper.splitAt_path (h : location.Proper) (hne : location ≠ []) :
  Text.splitAt '/' location.path = [] :: location
  := by
  unfold path
  rw [Text.splitAt, if_pos rfl, Text.splitAt_joinWith hne fun name hname => (h name hname).2]

theorem path_append_singleton (hne : directory ≠ []) (name : Text) :
  path (directory ++ [name]) = directory.path ++ '/' :: name
  := by
  unfold path
  rw [Text.joinWith_append hne (by simp)]
  rfl

theorem Proper.backParts_path (h : location.Proper) :
  HostPath.backParts location.path = location.reverse
  := by
  have hbody : HostPath.backParts location.path
      = (Text.splitAt '/' (Text.joinWith '/' location)).reverse.dropWhile
          HostPath.isVoidPart
    := rfl
  cases location using List.reverseRecOn with
  | nil => rfl
  | append_singleton directory name =>
    have hname := (proper_append_singleton_iff.mp h).2.1
    rw [hbody, Text.splitAt_joinWith (by simp) fun name hname => (h name hname).2,
      List.reverse_append, List.reverse_singleton, List.singleton_append,
      List.dropWhile_cons_of_neg]
    simp [hname.not_void]

theorem Proper.parent?_path (h : Proper (directory ++ [name])) :
  HostPath.parent? (path (directory ++ [name])) = some directory.path
  := by
  have hfront : directory.reverse.dropWhile HostPath.isVoidPart = directory.reverse := by
    cases hreverse : directory.reverse with
    | nil => rfl
    | cons last front =>
      have hlast : last ∈ directory := by
        rw [← List.mem_reverse, hreverse]
        apply List.mem_cons_self
      have hname := ((proper_append_singleton_iff.mp h).1 last hlast).1
      rw [List.dropWhile_cons_of_neg]
      simp [hname.not_void]
  simp only [HostPath.parent?, h.backParts_path, List.reverse_append, List.reverse_singleton,
    List.singleton_append, hfront, List.reverse_reverse]
  rfl

theorem Proper.fileName?_path (h : Proper (directory ++ [name])) :
  HostPath.fileName? (path (directory ++ [name])) = some name
  := by
  have hname := (proper_append_singleton_iff.mp h).2.1
  simp [HostPath.fileName?, h.backParts_path, hname.ne_up]

/-- The path of a location below the root does not end in a slash. -/
theorem Proper.not_endsWith_path (h : location.Proper) (hne : location ≠ []) :
  Text.endsWith ['/'] location.path = false
  := by
  rw [Bool.eq_false_iff, Ne, Text.endsWith_iff]
  rintro ⟨rest, hrest⟩
  -- The last name would be empty.
  have hparts := h.splitAt_path hne
  rw [← hrest, Text.splitAt_append_cons] at hparts
  cases hsplit : Text.splitAt '/' rest with
  | nil => exact Text.splitAt_ne_nil '/' rest hsplit
  | cons part parts =>
    rw [hsplit, List.cons_append, List.cons.injEq] at hparts
    have hempty : [] ∈ location := by
      rw [← hparts.2]
      simp [Text.splitAt]
    exact (h [] hempty).1.ne_nil rfl

end Location

namespace Disk

/-! ### Well-formed disks -/

/-- Entries stand in directories, under names that paths can have. -/
structure WellFormed (disk : Disk) : Prop where
  /-- Every entry stands in a directory. -/
  parent : ∀ directory name, disk.entry? (directory ++ [name]) ≠ none →
    disk.isDirectory directory = true
  /-- Every name is one that a path can have. -/
  isName : ∀ directory name, disk.entry? (directory ++ [name]) ≠ none →
    IsName name ∧ '/' ∉ name
  /-- Nodes of one serial number are one entry under several names. -/
  serial : ∀ location other node node', disk.node? location = some node →
    disk.node? other = some node' → node.serial = node'.serial → node.entry = node'.entry

section

variable {disk : Disk} {directory location : Location}

theorem entry?_ne_none_of_isDirectory (h : disk.isDirectory location = true) :
  disk.entry? location ≠ none
  := by
  obtain ⟨mode, hmode⟩ := isDirectory_iff.mp h
  simp [hmode]

theorem WellFormed.proper (hdisk : disk.WellFormed) (h : disk.entry? location ≠ none) :
  location.Proper
  := by
  induction location using List.reverseRecOn with
  | nil => simp [Location.Proper]
  | append_singleton directory name ih =>
    have hdirectory := hdisk.parent directory name h
    rw [Location.proper_append_singleton_iff]
    exact ⟨ih (entry?_ne_none_of_isDirectory hdirectory), hdisk.isName directory name h⟩

/-- What stands above an entry is a directory. -/
theorem WellFormed.isDirectory_of_append (hdisk : disk.WellFormed) {names : List Text}
    (hne : names ≠ []) (h : disk.entry? (directory ++ names) ≠ none) :
  disk.isDirectory directory = true
  := by
  induction names using List.reverseRecOn with
  | nil => contradiction
  | append_singleton names name ih =>
    rw [← List.append_assoc] at h
    have hparent := hdisk.parent _ _ h
    by_cases hnames : names = []
    · subst hnames
      simpa using hparent
    · apply ih hnames (entry?_ne_none_of_isDirectory hparent)

/-- Below an entry that is no directory there is nothing. -/
theorem WellFormed.entry?_append (hdisk : disk.WellFormed) {names : List Text}
    (hne : names ≠ []) (h : disk.isDirectory directory = false) :
  disk.entry? (directory ++ names) = none
  := by
  by_contra hentry
  have := hdisk.isDirectory_of_append hne hentry
  simp [h] at this

/-! ### Ways on well-formed disks -/

theorem WellFormed.leads (hdisk : disk.WellFormed) {names : List Text} {entry : Entry}
    (hdirectory : disk.isDirectory directory = true)
    (hentry : disk.entry? (directory ++ names) = some entry)
    (hlink : ∀ target, entry ≠ .link target) (links : Nat) :
  disk.Leads links directory names links (.existing (directory ++ names))
  := by
  induction names generalizing directory with
  | nil =>
    rw [List.append_nil]
    exact .arrived
  | cons name names ih =>
    have hne : disk.entry? (directory ++ name :: names) ≠ none := by simp [hentry]
    rw [List.append_cons] at hentry hne ⊢
    have hname : IsName name := by
      have hproper := Location.proper_append_iff.mp (hdisk.proper hne)
      apply (Location.proper_append_singleton_iff.mp hproper.1).2.1
    by_cases hnames : names = []
    · subst hnames
      rw [List.append_nil] at hentry ⊢
      exact .entry hdirectory hname hentry hlink .arrived
    · have hnext := hdisk.isDirectory_of_append hnames hne
      obtain ⟨mode, hmode⟩ := isDirectory_iff.mp hnext
      exact .entry hdirectory hname hmode (by simp) (ih hnext hentry)

/-- The canonical path of an entry leads to it. -/
theorem WellFormed.place_path (hdisk : disk.WellFormed) {entry : Entry}
    (hentry : disk.entry? location = some entry) (hlink : ∀ target, entry ≠ .link target)
    (hcheck : checkPath location.path = .ok ()) :
  disk.place location.path = .ok (.existing location)
  := by
  have hroot : disk.isDirectory [] = true := by simp [isDirectory]
  rw [place_eq_ok_iff]
  refine ⟨hcheck, maxLinks, ?_⟩
  have horigin : disk.origin location.path = [] := rfl
  rw [horigin]
  by_cases hne : location = []
  · subst hne
    exact .void hroot rfl (.void hroot rfl .arrived)
  · rw [(hdisk.proper (by simp [hentry])).splitAt_path hne]
    exact .void hroot rfl (hdisk.leads hroot hentry hlink maxLinks)

/-- The canonical path of a name in a directory has that name as its last. -/
theorem WellFormed.names_path (hdisk : disk.WellFormed) {name : Text}
    (hdirectory : disk.isDirectory directory = true) (hname : IsName name)
    (hslash : '/' ∉ name) (hcheck : checkPath (Location.path (directory ++ [name])) = .ok ()) :
  disk.Names (Location.path (directory ++ [name])) directory name false
  where
  checked := hcheck
  leads := by
    have hproper := hdisk.proper (entry?_ne_none_of_isDirectory hdirectory)
    have hroot : disk.isDirectory [] = true := by simp [isDirectory]
    obtain ⟨mode, hmode⟩ := isDirectory_iff.mp hdirectory
    refine ⟨[] :: directory, [], maxLinks, ?_, by simp, rfl, ?_⟩
    · apply Location.Proper.splitAt_path _ (by simp)
      rw [Location.proper_append_singleton_iff]
      exact ⟨hproper, hname, hslash⟩
    · exact .void hroot rfl (hdisk.leads hroot hmode (by simp) maxLinks)
  isDirectory := hdirectory
  isName := hname

theorem WellFormed.isDirectory_dropLast (hdisk : disk.WellFormed)
    (h : disk.isDirectory location = true) :
  disk.isDirectory location.dropLast = true
  := by
  cases location using List.reverseRecOn with
  | nil => apply h
  | append_singleton directory name =>
    rw [List.dropLast_concat]
    apply hdisk.parent directory name (entry?_ne_none_of_isDirectory h)

/-- A way ends at an entry that is no link, if it begins at a directory. -/
theorem Leads.exists_entry (hdisk : disk.WellFormed) {links left : Nat} {here : Location}
    {names : List Text} (h : disk.Leads links here names left (.existing location))
    (hhere : disk.isDirectory here = true) :
  ∃ entry, disk.entry? location = some entry ∧ ∀ target, entry ≠ .link target
  := by
  generalize hplace : Place.existing location = place at h
  induction h with
  | arrived =>
    cases hplace
    obtain ⟨mode, hmode⟩ := isDirectory_iff.mp hhere
    exact ⟨_, hmode, by simp⟩
  | void _ _ _ ih => apply ih hhere hplace
  | up _ _ ih => apply ih (hdisk.isDirectory_dropLast hhere) hplace
  | vacant => contradiction
  | link _ _ _ hrest ih =>
    apply ih _ hplace
    apply hrest.isDirectory
    simp [Text.splitAt_ne_nil]
  | @entry links left here name names place entry hhere hname hentry hlink hrest ih =>
    by_cases hnames : names = []
    · subst hnames
      cases hrest
      cases hplace
      exact ⟨entry, hentry, hlink⟩
    · apply ih (hrest.isDirectory hnames) hplace

/-- A path leads to an entry that is no link. -/
theorem WellFormed.exists_entry_of_locate (hdisk : disk.WellFormed) {path : Text}
    (h : disk.locate path = .ok location) :
  ∃ entry, disk.entry? location = some entry ∧ ∀ target, entry ≠ .link target
  := by
  obtain ⟨-, left, hleads⟩ := place_eq_ok_iff.mp (locate_eq_ok_iff.mp h)
  apply hleads.exists_entry hdisk
  apply hleads.isDirectory (Text.splitAt_ne_nil _ _)

end

end Disk

end Excision
