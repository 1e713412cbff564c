import Excision.Disk.Change
import Excision.Proofs.Disk.WellFormed

/-!
# Paths that resolve

A path resolves to a location if it leads there and the canonical path can be found
(`Disk.Resolves`).  On a well-formed disk it does exactly if it leads there through entries
whose absolute paths can be looked up (`WellFormed.resolves_iff`), so that it resolves to the
same location on every disk with the same directories and links (`Resolves.of_waysKept`).  A
path that leads somewhere resolves, unless the disk has an entry whose absolute path is too
long (`exists_long_of_unresolved`).
-/

namespace Excision

namespace Disk

/-- The path leads to the location, whose absolute path is found to be its canonical path. -/
structure Resolves (disk : Disk) (path : Text) (location : Location) : Prop where
  /-- It leads there. -/
  locate : disk.locate path = .ok location
  /-- The canonical path can be found. -/
  canonicalize : disk.canonicalize path = .ok location.path

section

variable {disk after : Disk} {path : Text} {location : Location}

theorem resolves_of_canonicalize {resolved : Text} (h : disk.canonicalize path = .ok resolved) :
  ∃ location, disk.Resolves path location ∧ resolved = location.path
  := by
  have hresolved := h
  unfold canonicalize at h
  cases hlocate : disk.locate path with
  | error cause => simp [hlocate, bind, Except.bind] at h
  | ok location =>
    simp only [hlocate, bind, Except.bind] at h
    split at h
    · cases h
      exact ⟨location, ⟨hlocate, hresolved⟩, rfl⟩
    · contradiction

/-! ### Entries with an absolute path -/

theorem entry?_addressable (location : Location) :
  disk.addressable.entry? location
    = if Text.byteLength location.path ≤ maxPathBytes then disk.entry? location else none
  := by
  have hlookup := lookup_filter disk.nodes
    (fun location => Text.byteLength location.path ≤ maxPathBytes) location
  by_cases hroot : location = []
  · subst hroot
    rfl
  · rw [entry?_of_ne_nil hroot, entry?_of_ne_nil hroot, node?, addressable, hlookup]
    split
    next h => rw [if_pos (by simpa using h), node?]
    next h => rw [if_neg (by simpa using h), Option.map_none]

theorem entry?_of_addressable {entry : Entry}
    (h : disk.addressable.entry? location = some entry) :
  Text.byteLength location.path ≤ maxPathBytes ∧ disk.entry? location = some entry
  := by
  rw [entry?_addressable] at h
  split at h
  next hshort => exact ⟨hshort, h⟩
  next => contradiction

theorem waysKept_addressable (disk : Disk) :
  WaysKept disk.addressable disk
  := waysKept_of_kept (fun _ _ h _ => (entry?_of_addressable h).2) rfl

theorem WaysKept.addressable (hkept : WaysKept disk after) :
  WaysKept disk.addressable after.addressable
  where
  directory location hlocation := by
    obtain ⟨mode, hmode⟩ := isDirectory_iff.mp hlocation
    obtain ⟨hshort, hentry⟩ := entry?_of_addressable hmode
    obtain ⟨mode, hmode⟩ :=
      isDirectory_iff.mp (hkept.directory location (isDirectory_iff.mpr ⟨mode, hentry⟩))
    exact isDirectory_iff.mpr ⟨mode, by rw [entry?_addressable, if_pos hshort, hmode]⟩
  link location target hlocation := by
    obtain ⟨hshort, hentry⟩ := entry?_of_addressable hlocation
    rw [entry?_addressable, if_pos hshort, hkept.link location target hentry]
  workingDirectory := hkept.workingDirectory

/-- What stands above an entry has a shorter absolute path. -/
theorem WellFormed.addressable (hdisk : disk.WellFormed) :
  disk.addressable.WellFormed
  where
  parent directory name hentry := by
    obtain ⟨entry, hentry⟩ := Option.ne_none_iff_exists'.mp hentry
    obtain ⟨hshort, hentry⟩ := entry?_of_addressable hentry
    obtain ⟨mode, hmode⟩ := isDirectory_iff.mp (hdisk.parent directory name (by simp [hentry]))
    refine isDirectory_iff.mpr ⟨mode, ?_⟩
    rw [entry?_addressable, if_pos, hmode]
    by_cases hroot : directory = []
    · subst hroot
      decide
    · rw [Location.path_append_singleton hroot] at hshort
      exact (byteLength_le_of_sublist (List.sublist_append_left _ _)).trans hshort
  isName directory name hentry := by
    obtain ⟨entry, hentry⟩ := Option.ne_none_iff_exists'.mp hentry
    apply hdisk.isName directory name
    simp [(entry?_of_addressable hentry).2]
  serial location other node node' hnode hother := by
    have hfound {location : Location} {node : Node}
        (h : disk.addressable.node? location = some node) : disk.node? location = some node := by
      rw [node?, Disk.addressable, lookup_filter disk.nodes
        (fun location => Text.byteLength location.path ≤ maxPathBytes)] at h
      split at h
      · exact h
      · contradiction
    apply hdisk.serial location other node node' (hfound hnode) (hfound hother)

/-! ### Resolving -/

theorem WellFormed.resolves_iff (hdisk : disk.WellFormed) :
  disk.Resolves path location ↔ disk.addressable.locate path = .ok location
  := by
  have hleads {other : Location} (h : disk.addressable.locate path = .ok other) :
      disk.locate path = .ok other
    := by
    obtain ⟨entry, hentry, hlink⟩ := hdisk.addressable.exists_entry_of_locate h
    apply locate_of_waysKept (waysKept_addressable disk) h
    exact ⟨entry, (entry?_of_addressable hentry).2, hlink⟩
  constructor
  case mp =>
    intro h
    have hcanonical := h.canonicalize
    unfold canonicalize at hcanonical
    simp only [h.locate, bind, Except.bind] at hcanonical
    split at hcanonical
    next other hother =>
      have hsame := hleads hother
      rw [h.locate, Except.ok.injEq] at hsame
      rw [hother, hsame]
    next => contradiction
  case mpr =>
    intro h
    refine ⟨hleads h, ?_⟩
    simp [canonicalize, hleads h, h, bind, Except.bind]

theorem Resolves.byteLength_le (h : disk.Resolves path location) (hdisk : disk.WellFormed) :
  Text.byteLength location.path ≤ maxPathBytes
  := by
  obtain ⟨entry, hentry, -⟩ :=
    hdisk.addressable.exists_entry_of_locate (hdisk.resolves_iff.mp h)
  exact (entry?_of_addressable hentry).1

/-- A path that resolves does so on every disk that has the directories and links on the
way. -/
theorem Resolves.of_waysKept (h : disk.Resolves path location) (hdisk : disk.WellFormed)
    (hafter : after.WellFormed) (hkept : WaysKept disk after)
    (hend : ∃ entry, after.entry? location = some entry ∧ ∀ target, entry ≠ .link target) :
  after.Resolves path location
  := by
  obtain ⟨entry, hentry, hlink⟩ := hend
  apply hafter.resolves_iff.mpr
  apply locate_of_waysKept hkept.addressable (hdisk.resolves_iff.mp h)
  exact ⟨entry, by rw [entry?_addressable, if_pos (h.byteLength_le hdisk), hentry], hlink⟩

/-- A path that leads somewhere and does not resolve leads through an entry whose absolute
path is too long. -/
theorem exists_long_of_unresolved {cause : Cause} (hlocate : disk.locate path = .ok location)
    (h : disk.canonicalize path = .error cause) :
  cause = .nameTooLong
    ∧ ∃ item ∈ disk.nodes, maxPathBytes < Text.byteLength (Location.path item.1)
  := by
  unfold canonicalize at h
  simp only [hlocate, bind, Except.bind] at h
  split at h
  · contradiction
  next other hother =>
    cases h
    refine ⟨rfl, ?_⟩
    -- If every entry had a short path, the disk would be the same without the others.
    by_contra hshort
    have hsame : disk.addressable = disk := by
      unfold addressable
      rw [List.filter_eq_self.mpr]
      intro item hitem
      simpa using fun hlong => hshort ⟨item, hitem, hlong⟩
    rw [hsame, hlocate] at hother
    contradiction

end

end Disk

end Excision
