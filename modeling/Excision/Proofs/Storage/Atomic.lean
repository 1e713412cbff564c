import Excision.Proofs.Storage.Replacement

/-!
# Whole or not at all

Writing bytes to the file of a path either succeeds, and then the file holds the bytes and
nothing else has changed but for new directories above it (`writeBytes_replaces`), or it
fails, and then nothing has changed but for new directories, unless it was a lock that failed
(`writeBytes_unharmed`).
-/

namespace Excision

namespace Storage

/-! ### Success -/

/-- The file of a path that did not resolve has been created at a location. -/
structure Created (path : Text) (bytes : ByteArray) (before after : Disk)
    (location : Location) : Prop where
  /-- It is the place of the last name of the path. -/
  named : (before.withParents path).2.slot path = .ok (.named location false)
  /-- The file holds the bytes and has the permission bits of a new one. -/
  file : after.entry? location = some (.file bytes before.newFileMode)
  /-- All other entries are what they were. -/
  kept : ∀ other entry, other ≠ location → before.entry? other = some entry →
    after.entry? other = some entry
  /-- All other new entries are directories to which the path leads before a slash. -/
  new : ∀ other entry, other ≠ location → before.entry? other = none →
    after.entry? other = some entry →
    entry = .directory before.newDirectoryMode ∧ ∃ head rest, path = head ++ '/' :: rest
      ∧ (before.withParents path).2.locate head = .ok other
  /-- The path reads the bytes, unless it leads through its own last name. -/
  reads : after.readBytes path = .ok bytes ↔
    ¬ (before.withParents path).2.LeadsThrough path location
  /-- What stands before a slash of the path leads to a directory, with the same exception. -/
  parents : ¬ (before.withParents path).2.LeadsThrough path location →
    ∀ head rest, path = head ++ '/' :: rest → head ≠ [] → after.leadsToDirectory head = true
  /-- The exception needs a link under the last name, in whose place the file now is. -/
  through : (before.withParents path).2.LeadsThrough path location →
    ∃ target, before.entry? location = some (.link target)

/-- Bytes have been written to the file of a path. -/
structure Replaced (process : Nat) (path : Text) (bytes : ByteArray) (before after : Disk) :
    Prop where
  /-- A path that resolved led to a file, which has the bytes and its old permission bits.  All
  other entries, the links on the way among them, are what they were. -/
  resolved : ∀ location, before.Resolves path location →
    ∃ content mode, before.entry? location = some (.file content mode)
      ∧ after.entry? = Function.update before.entry? location (some (.file bytes mode))
      ∧ after.readBytes path = .ok bytes
  /-- For a path that did not resolve a file has been created. -/
  unresolved : ∀ cause, before.canonicalize path = .error cause →
    ∃ location, Created path bytes before after location
  /-- Nothing stands under the name of the temporary file. -/
  temporary : ∀ location slash,
    after.slot (temporaryPath process (before.target path)) = .ok (.named location slash) →
    after.entry? location = none

section

variable {process : Nat} {path : Text} {bytes : ByteArray} {before after : Disk}
  {faults : List (Option Fault)} {location : Location}

theorem Writes.created (h : Writes process path bytes before faults (.ok ()) after)
    (hfree : TemporaryFree process before path) {cause : Cause}
    (hunresolved : before.canonicalize path = .error cause) :
  ∃ location, Created path bytes before after location
  := by
  obtain ⟨htarget, hmode⟩ := Disk.target_of_unresolved hunresolved
  obtain ⟨mode, middle, location, hmode', hparents, hslot, hdirectory, hput, -⟩ :=
    h.replaced hfree
  rw [hmode, Except.ok.injEq] at hmode'
  subst hmode'
  rw [Option.getD_none] at hput
  rw [htarget] at hparents hslot
  have hgrown := before.withParents_grown path
  rw [hparents] at hgrown
  use location
  constructor
  case named =>
    rw [hparents]
    apply hslot
  case file => apply hput.entry?_self
  case kept =>
    intro other entry hother hbefore
    rw [hput.entry?_of_ne hother]
    apply hgrown.kept other entry hbefore
  case new =>
    intro other entry hother hbefore hafter
    rw [hput.entry?_of_ne hother] at hafter
    obtain ⟨rfl, head, ⟨rest, hpath⟩, hlocate⟩ := hgrown.new other entry hbefore hafter
    rw [hparents]
    exact ⟨rfl, head, rest, hpath, hlocate⟩
  case reads =>
    rw [hparents]
    apply hput.reads_iff hslot
  case parents =>
    rw [hparents]
    intro hthrough head rest
    apply hput.leadsToDirectory hslot hthrough
  case through =>
    rw [hparents]
    intro hthrough
    obtain ⟨target, hlink⟩ := hthrough.exists_link hslot hdirectory
    -- Making directories makes no links.
    cases hbefore : before.entry? location with
    | none =>
      obtain ⟨hnew, -⟩ := hgrown.new location _ hbefore hlink
      contradiction
    | some entry =>
      rw [hgrown.kept location entry hbefore, Option.some.injEq] at hlink
      exact ⟨target, by rw [hlink]⟩

theorem Writes.overwritten (hbefore : before.WellFormed)
    (h : Writes process path bytes before faults (.ok ()) after)
    (hfree : TemporaryFree process before path) (hresolves : before.Resolves path location) :
  ∃ content mode, before.entry? location = some (.file content mode)
    ∧ after.entry? = Function.update before.entry? location (some (.file bytes mode))
    ∧ after.locate path = .ok location
  := by
  obtain ⟨mode, middle, other, hmode, hparents, hslot, hdirectory, hput, -⟩ :=
    h.replaced hfree
  rw [Disk.withParents_target hresolves.locate hmode] at hparents
  cases hparents
  -- The canonical path names the file.
  obtain rfl := hbefore.eq_of_slot_target hresolves hmode hslot
  obtain ⟨content, bits, rfl, hfile⟩ :=
    hbefore.exists_file_of_targetMode hresolves hmode hdirectory
  rw [Option.getD_some] at hput
  refine ⟨content, bits, hfile, hput.entry, ?_⟩
  apply Disk.locate_of_waysKept _ hresolves.locate ⟨_, hput.entry?_self, by simp⟩
  apply hput.waysKept
  rw [hfile]
  rintro entry ⟨⟩
  exact ⟨content, bits, rfl⟩

/-- Where a path leads to something and does not resolve, the new file takes the place of its
last name. -/
theorem Writes.put_of_locate (h : Writes process path bytes before faults (.ok ()) after)
    (hfree : TemporaryFree process before path) (hlocate : before.locate path = .ok location)
    {cause : Cause} (hunresolved : before.canonicalize path = .error cause) :
  ∃ place, before.slot path = .ok (.named place false)
    ∧ after.entry? = Function.update before.entry? place (some (.file bytes before.newFileMode))
  := by
  obtain ⟨htarget, hnone⟩ := Disk.target_of_unresolved hunresolved
  obtain ⟨mode, middle, place, hmode, hparents, hslot, -, hput, -⟩ := h.replaced hfree
  cases hnone.symm.trans hmode
  rw [htarget, Disk.withParents_of_locate hlocate] at hparents
  cases hparents
  rw [htarget] at hslot
  exact ⟨place, hslot, hput.entry⟩

theorem Writes.temporary_gone (h : Writes process path bytes before faults (.ok ()) after)
    (hfree : TemporaryFree process before path) {slash : Bool}
    (hslot : after.slot (temporaryPath process (before.target path))
      = .ok (.named location slash)) :
  after.entry? location = none
  := by
  obtain ⟨mode, middle, other, -, -, -, -, hput, htemporary⟩ := h.replaced hfree
  obtain ⟨hne, hnone⟩ :=
    htemporary location slash (Disk.slot_of_waysKept hput.waysKept_back hslot)
  rw [hput.entry?_of_ne hne, hnone]

/-- A write that succeeds has its effect on the file of the path, and no other but for new
directories above it. -/
theorem writeBytes_replaces {path : SlashPath} {session : Session}
    (hdisk : session.disk.WellFormed)
    (hfree : TemporaryFree process session.disk path.text)
    (h : ((writeBytes process path bytes).exec session).1 = .ok ()) :
  Replaced process path.text bytes session.disk
    ((writeBytes process path bytes).exec session).2.disk
  := by
  obtain ⟨hwrites, -⟩ := exec_writeBytes session process path bytes
  rw [h] at hwrites
  exact {
    resolved := by
      intro location hresolves
      obtain ⟨content, mode, hfile, hentry, hleads⟩ :=
        hwrites.overwritten hdisk hfree hresolves
      refine ⟨content, mode, hfile, hentry, Disk.readBytes_eq_ok_iff.mpr ?_⟩
      exact ⟨location, mode, hleads, by rw [hentry, Function.update_self]⟩
    unresolved := fun _ => hwrites.created hfree
    temporary := fun _ _ => hwrites.temporary_gone hfree }

end

/-- A disk with a file in a directory and a link to the file. -/
def linkedDisk (content : ByteArray) : Disk :=
  ((({} : Disk).create [['d']] (.directory 0o755)).create [['d'], ['t']]
    (.file content 0o755)).create [['l']] (.link ['d', '/', 't'])

theorem wellFormed_linkedDisk (content : ByteArray) :
  (linkedDisk content).WellFormed
  := by
  have hd : IsName ['d'] := ⟨rfl, by decide, by decide⟩
  have ht : IsName ['t'] := ⟨rfl, by decide, by decide⟩
  have hl : IsName ['l'] := ⟨rfl, by decide, by decide⟩
  have hroot : Disk.isDirectory {} [] = true := rfl
  have hdirectory := (Disk.wellFormed_empty []).create hroot hd (by decide) rfl
    (.directory 0o755)
  have hparent : (({} : Disk).create [['d']] (.directory 0o755)).isDirectory [['d']]
      = true
    := rfl
  have hfile := hdirectory.create hparent ht (by decide) rfl (.file content 0o755)
  have hroot : ((({} : Disk).create [['d']] (.directory 0o755)).create [['d'], ['t']]
      (.file content 0o755)).isDirectory [] = true
    := rfl
  exact hfile.create hroot hl (by decide) rfl (.link ['d', '/', 't'])

/-- Nothing stands beside the file of the disk. -/
theorem temporaryFree_linkedDisk (content : ByteArray) :
  TemporaryFree 7 (linkedDisk content) ['l']
  := by
  have htarget : (linkedDisk content).target ['l'] = ['/', 'd', '/', 't'] := rfl
  have hparents :
      (linkedDisk content).withParents ['/', 'd', '/', 't'] = (.ok (), linkedDisk content)
    := rfl
  intro location slash h
  rw [htarget, hparents] at h
  cases h
  rfl

/-- Writing to the link replaces the file behind it. -/
theorem writeBytes_replaces_linked :
  Replaced 7 ['l'] ⟨#[65]⟩ (linkedDisk .empty)
    ((writeBytes 7 ⟨['l']⟩ ⟨#[65]⟩).exec { disk := linkedDisk .empty }).2.disk
  := by
  have h : ((writeBytes 7 ⟨['l']⟩ ⟨#[65]⟩).exec { disk := linkedDisk .empty }).1 = .ok () := rfl
  exact @writeBytes_replaces 7 ⟨#[65]⟩ ⟨['l']⟩ { disk := linkedDisk .empty }
    (wellFormed_linkedDisk .empty) (temporaryFree_linkedDisk .empty) h

/-- A dangling link under the name of the directory that the write makes: the path leads
through the link to the link itself, and reads nothing once the file is there. -/
theorem writeBytes_through_itself :
  let disk := ({} : Disk).create [['l']] (.link ['a'])
  let path : SlashPath := ⟨['a', '/', '.', '.', '/', 'l', '/', '.', '.', '/', 'l']⟩
  let run := (writeBytes 7 path ⟨#[65]⟩).exec { disk }
  disk.WellFormed ∧ TemporaryFree 7 disk path.text
    ∧ disk.locate path.text = .error .noSuchFile ∧ run.1 = .ok ()
    ∧ run.2.disk.readBytes path.text = .error .notDirectory
  := by
  have hl : IsName ['l'] := ⟨rfl, by decide, by decide⟩
  have hroot : Disk.isDirectory {} [] = true := rfl
  refine ⟨(Disk.wellFormed_empty []).create hroot hl (by decide) rfl (.link ['a']), ?_, rfl,
    rfl, rfl⟩
  intro location slash h
  cases h
  rfl

/-! ### Failure -/

/-- A write of bytes to the file of a path has failed with an error. -/
structure Unharmed (process : Nat) (path : Text) (bytes : ByteArray) (error : FileError)
    (faults : List (Option Fault)) (before after : Disk) : Prop where
  /-- The error names the path of the step that failed. -/
  failed : Writes process path bytes before faults (.error error) after
  /-- All entries are what they were. -/
  kept : ∀ location entry, before.entry? location = some entry →
    after.entry? location = some entry
  /-- All new entries are directories to which the path leads before a slash. -/
  new : ∀ location entry, before.entry? location = none → after.entry? location = some entry →
    entry = .directory before.newDirectoryMode ∧ ∃ head rest, path = head ++ '/' :: rest
      ∧ after.locate head = .ok location
  /-- Below a new directory there are only new directories. -/
  below : ∀ location names entry, before.entry? location = none →
    after.entry? (location ++ names) = some entry → entry = .directory before.newDirectoryMode
  /-- If the path led somewhere, no entry is new. -/
  resolved : ∀ location, before.locate path = .ok location → after.entry? = before.entry?
  /-- Under the name of the temporary file there is no file. -/
  temporary : ∀ location slash,
    after.slot (temporaryPath process (before.target path)) = .ok (.named location slash) →
    after.entry? location = none ∨ after.isDirectory location = true

section

variable {process : Nat} {path : Text} {bytes : ByteArray} {error : FileError}
  {faults : List (Option Fault)} {before after : Disk} {location : Location}

theorem Writes.entry?_eq_of_locate
    (h : Writes process path bytes before faults (.error error) after)
    (hfree : TemporaryFree process before path) (hlock : ∀ failed, error ≠ .lockFailed failed)
    (hlocate : before.locate path = .ok location) :
  after.entry? = before.entry?
  := by
  rcases h.kept hfree hlock with rfl | ⟨⟨mode, hmode⟩, hentry, -⟩
  · rfl
  · rw [hentry, Disk.withParents_target hlocate hmode]

theorem Writes.grown (h : Writes process path bytes before faults (.error error) after)
    (hfree : TemporaryFree process before path)
    (hlock : ∀ failed, error ≠ .lockFailed failed) :
  Disk.Grown (fun head => ∃ rest, path = head ++ '/' :: rest) before after
  := by
  rcases h.kept hfree hlock with rfl | ⟨⟨mode, hmode⟩, hentry, hworking, humask⟩
  · apply Disk.Grown.refl
  cases hcanonical : before.canonicalize path with
  | ok resolved =>
    obtain ⟨location, hresolves, -⟩ := Disk.resolves_of_canonicalize hcanonical
    rw [Disk.withParents_target hresolves.locate hmode] at hentry hworking humask
    apply (Disk.Grown.refl _ before).of_entry?_eq hentry hworking humask
  | error cause =>
    rw [(Disk.target_of_unresolved hcanonical).1] at hentry hworking humask
    apply (before.withParents_grown path).of_entry?_eq hentry hworking humask

/-- What stands under the name of the temporary file after a failure is a directory that has
been made, or nothing. -/
theorem Writes.temporary_none_or_directory
    (h : Writes process path bytes before faults (.error error) after)
    (hfree : TemporaryFree process before path) (hlock : ∀ failed, error ≠ .lockFailed failed)
    {slash : Bool}
    (hslot : after.slot (temporaryPath process (before.target path))
      = .ok (.named location slash)) :
  after.entry? location = none ∨ after.isDirectory location = true
  := by
  have hgrown := before.withParents_grown (before.target path)
  rcases h.kept hfree hlock with rfl | ⟨-, hentry, hworking, -⟩
  · exact .inl (hfree location slash (Disk.slot_of_waysKept hgrown.waysKept hslot))
  · have hkept := Disk.waysKept_of_entry?_eq hentry.symm hworking.symm
    have hnone := hfree location slash (Disk.slot_of_waysKept hkept hslot)
    cases hafter : after.entry? location with
    | none => exact .inl rfl
    | some entry =>
      have hmiddle := hafter
      rw [hentry] at hmiddle
      obtain ⟨rfl, -⟩ := hgrown.new location entry hnone hmiddle
      exact .inr (Disk.isDirectory_iff.mpr ⟨_, hafter⟩)

/-- A write that fails changes nothing, but that it may have made directories above the
file, unless the lock of the temporary file is what failed. -/
theorem writeBytes_unharmed {path : SlashPath} {session : Session}
    (hdisk : session.disk.WellFormed)
    (hfree : TemporaryFree process session.disk path.text)
    (h : ((writeBytes process path bytes).exec session).1 = .error error)
    (hlock : ∀ failed, error ≠ .lockFailed failed) :
  Unharmed process path.text bytes error session.faults session.disk
    ((writeBytes process path bytes).exec session).2.disk
  := by
  obtain ⟨hwrites, -⟩ := exec_writeBytes session process path bytes
  rw [h] at hwrites
  have hgrown := hwrites.grown hfree hlock
  generalize ((writeBytes process path bytes).exec session).2.disk = after at *
  have hnew : ∀ location entry, session.disk.entry? location = none →
      after.entry? location = some entry → entry = .directory session.disk.newDirectoryMode
    := fun location entry hnone hentry => (hgrown.new location entry hnone hentry).1
  exact {
    failed := hwrites
    kept := hgrown.kept
    new := by
      intro location entry hnone hentry
      obtain ⟨hdirectory, head, ⟨rest, hpath⟩, hlocate⟩ :=
        hgrown.new location entry hnone hentry
      exact ⟨hdirectory, head, rest, hpath, hlocate⟩
    below := by
      intro location names entry hnone hentry
      apply hnew (location ++ names) entry _ hentry
      by_cases hnames : names = []
      · rw [hnames, List.append_nil, hnone]
      · apply hdisk.entry?_append hnames
        simp [Disk.isDirectory, hnone]
    resolved := fun _ => hwrites.entry?_eq_of_locate hfree hlock
    temporary := fun _ _ => hwrites.temporary_none_or_directory hfree hlock }

end

/-- A path that ends in a slash names no file: the directory above it is made, and the
temporary file does not stay. -/
theorem writeBytes_unharmed_slash :
  Unharmed 7 ['e', '/', 'f', '/'] ⟨#[65]⟩ (.disk ['e', '/', 'f', '/'] .notDirectory) []
    (linkedDisk .empty)
    ((writeBytes 7 ⟨['e', '/', 'f', '/']⟩ ⟨#[65]⟩).exec { disk := linkedDisk .empty }).2.disk
  := by
  have hfree : TemporaryFree 7 (linkedDisk .empty) ['e', '/', 'f', '/'] := by
    intro location slash h
    cases h
    rfl
  have h : ((writeBytes 7 ⟨['e', '/', 'f', '/']⟩ ⟨#[65]⟩).exec { disk := linkedDisk .empty }).1
      = .error (.disk ['e', '/', 'f', '/'] .notDirectory)
    := rfl
  exact @writeBytes_unharmed 7 ⟨#[65]⟩ _ ⟨['e', '/', 'f', '/']⟩
    { disk := linkedDisk .empty } (wellFormed_linkedDisk .empty) hfree h (by simp)

end Storage

end Excision
