import Excision.Proofs.Disk.Spelling
import Excision.Proofs.Storage.Atomic
import Excision.Proofs.Storage.Reading

/-!
# Saving what has been loaded

A document that has been loaded is saved back through a temporary file, whose name is longer
than that of the document.  Where the longer name can be had, the document can be saved, and
where it cannot be had, the document cannot be saved, although it has been loaded
(`Storage.saveDocument_long_name`).  The disk is what it was in either case, if the path
resolves; if it does not, a new file takes the place of its last name
(`Storage.saveDocument_loaded`).
-/

namespace Excision

namespace Disk

/-! ### Making, and moving, a file that is made -/

section

variable {disk : Disk} {path source target name : Text} {location directory : Location}
  {content bytes : ByteArray} {mode bits : Nat}

/-- A file can be made under a free name. -/
theorem Names.openTruncated_eq (h : disk.Names path directory name false)
    (hnone : disk.entry? (directory ++ [name]) = none) :
  disk.openTruncated path
    = .ok (disk.freshSerial, disk.create (directory ++ [name]) (.file .empty disk.newFileMode))
  := by
  unfold openTruncated
  rw [h.place_eq hnone]
  rfl

/-- The permission bits of a file are found if its canonical path can be looked up. -/
theorem WellFormed.targetMode_eq (hdisk : disk.WellFormed)
    (hresolves : disk.Resolves path location)
    (hfile : disk.entry? location = some (.file content mode))
    (hcheck : checkPath location.path = .ok ()) :
  disk.targetMode path = .ok (some mode)
  := by
  simp only [targetMode, hresolves.canonicalize, Except.map, hdisk.mode_path hfile hcheck]

/-- The path of the file to be replaced leads where the path leads. -/
theorem WellFormed.locate_target (hdisk : disk.WellFormed)
    (hlocate : disk.locate path = .ok location) {found : Option Nat}
    (hmode : disk.targetMode path = .ok found) :
  disk.locate (disk.target path) = .ok location
  := by
  cases hcanonical : disk.canonicalize path with
  | error cause => rw [(target_of_unresolved hcanonical).1, hlocate]
  | ok resolved =>
    obtain ⟨other, hresolves, -⟩ := resolves_of_canonicalize hcanonical
    obtain ⟨bits, -, hbits⟩ := mode_of_targetMode hresolves hmode
    obtain ⟨entry, hentry, hlink⟩ := hdisk.exists_entry_of_locate hresolves.locate
    obtain rfl := Except.ok.inj (hlocate.symm.trans hresolves.locate)
    rw [target_of_resolves hresolves, locate_eq_ok_iff]
    exact hdisk.place_path hentry hlink (checkPath_of_mode hbits)

/-- A path that leads to a file ends with a name, which is that of the file or of a link. -/
theorem WellFormed.exists_names_of_file (hdisk : disk.WellFormed)
    (hlocate : disk.locate path = .ok location)
    (hfile : disk.entry? location = some (.file content mode)) :
  ∃ directory name, disk.Names path directory name false
    ∧ disk.entry? (directory ++ [name]) ≠ none ∧ disk.isDirectory (directory ++ [name]) = false
  := by
  have hplace := locate_eq_ok_iff.mp hlocate
  obtain ⟨-, left, hleads⟩ := place_eq_ok_iff.mp hplace
  have hnofile : disk.isDirectory location = false := by simp [isDirectory, hfile]
  have hparts := List.dropLast_concat_getLast (Text.splitAt_ne_nil '/' path)
  generalize (Text.splitAt '/' path).dropLast = front at hparts
  generalize (Text.splitAt '/' path).getLast _ = name at hparts
  rw [← hparts] at hleads
  obtain ⟨middle, directory, -, hlast⟩ := hleads.split (by simp)
  have hdirectory := hlast.isDirectory (by simp)
  -- A last part that names nothing, or leads upwards, leads to a directory.
  have hvoid : HostPath.isVoidPart name = false := by
    rw [Bool.eq_false_iff]
    intro hvoid
    cases hlast with
    | void _ _ hrest =>
      cases hrest
      simp [hnofile] at hdirectory
    | up => contradiction
    | link _ hname => simp [hname.not_void] at hvoid
    | entry _ hname => simp [hname.not_void] at hvoid
  have hup : name ≠ ['.', '.'] := by
    rintro rfl
    cases hlast with
    | void _ h => contradiction
    | up _ hrest =>
      cases hrest
      simp [hdisk.isDirectory_dropLast hdirectory] at hnofile
    | link _ hname => exact hname.ne_up rfl
    | entry _ hname => exact hname.ne_up rfl
  obtain ⟨directory, hnames, hlast⟩ := Names.of_place hparts.symm hvoid hup hplace
  refine ⟨directory, name, hnames, ?_⟩
  rcases hlast with ⟨hvacant, -⟩ | ⟨hexisting, -⟩ | ⟨target, hlink⟩
  · contradiction
  · cases hexisting
    exact ⟨by simp [hfile], hnofile⟩
  · exact ⟨by simp [hlink], by simp [isDirectory, hlink]⟩

/-- A file that has just been created can be moved over what is no directory. -/
theorem exists_rename_created (hsource : disk.Names source directory name false)
    (hnone : disk.entry? (directory ++ [name]) = none)
    (htarget : disk.slot target = .ok (.named location false))
    (hentry : disk.entry? location ≠ none) (hdirectory : disk.isDirectory location = false) :
  ∃ after, (disk.create (directory ++ [name]) (.file bytes bits)).rename source target
    = .ok after
  := by
  have hne : directory ++ [name] ≠ [] := by simp
  have hkept := waysKept_create hne hnone (.file bytes bits)
  have hother : location ≠ directory ++ [name] := by
    rintro rfl
    exact hentry hnone
  have hslot := slot_of_waysKept hkept (slot_eq_named_iff.mpr ⟨directory, name, rfl, hsource⟩)
  have hnode : (disk.create (directory ++ [name]) (.file bytes bits)).node? (directory ++ [name])
      = some ⟨disk.freshSerial, .file bytes bits⟩
    := by rw [node?_create, Function.update_self]
  apply rename_of_slots hslot (slot_of_waysKept hkept htarget) hnode (by simp)
  simpa [isDirectory, entry?_create hne, Function.update_of_ne hother] using hdirectory

end

end Disk

/-- No operation on an open file fails. -/
def Session.Reliable (session : Session) : Prop := ∀ fault, some fault ∉ session.faults

namespace Storage

/-! ### The name of the temporary file -/

/-- The temporary file beside a target can have its name: the name is not too long, and the
path with it is one that operations take. -/
structure Nameable (process : Nat) (target : Text) : Prop where
  /-- The name is not too long. -/
  name : Text.byteLength (temporaryName process target) ≤ maxNameBytes
  /-- The path can be looked up. -/
  path : checkPath (temporaryPath process target) = .ok ()

section

variable {process : Nat} {location : Location}

theorem sublist_temporaryName (process : Nat) (target : Text) :
  ((HostPath.fileName? target).getD []).Sublist (temporaryName process target)
  := by
  apply (List.sublist_cons_self '.' _).trans
  apply (List.sublist_append_left _ _).trans
  apply List.sublist_append_left

/-- Paths of names in one directory differ in the names only. -/
theorem exists_path_eq_append (directory : Location) :
  ∃ head, ∀ name, Location.path (directory ++ [name]) = head ++ name
  := by
  by_cases hne : directory = []
  · subst hne
    exact ⟨['/'], fun _ => rfl⟩
  · use directory.path ++ ['/']
    intro name
    rw [Location.path_append_singleton hne, List.append_assoc]
    rfl

/-- If the temporary file beside a file can be looked up, so can the file. -/
theorem checkPath_of_temporaryPath (h : location.Proper) (hne : location ≠ [])
    (hcheck : checkPath (temporaryPath process location.path) = .ok ()) :
  checkPath location.path = .ok ()
  := by
  rw [temporaryPath_path h hne] at hcheck
  cases location using List.reverseRecOn with
  | nil => contradiction
  | append_singleton directory name =>
    have hname := sublist_temporaryName process (Location.path (directory ++ [name]))
    rw [h.fileName?_path, Option.getD_some] at hname
    obtain ⟨head, hpath⟩ := exists_path_eq_append directory
    rw [temporaryLocation, List.dropLast_concat, hpath] at hcheck
    apply Disk.checkPath_of_sublist _ (by simp [Location.path]) hcheck
    rw [hpath name] at hname ⊢
    apply hname.append_left

/-! ### Saving -/

variable {path : Text} {bytes content : ByteArray} {mode : Nat} {disk after : Disk}
  {faults : List (Option Fault)} {result : Except FileError Unit}

/-- A write that succeeds has named its temporary file. -/
theorem Writes.nameable (h : Writes process path bytes disk faults (.ok ()) after)
    (hfree : TemporaryFree process disk path) :
  Nameable process (disk.target path)
  := by
  cases h with
  | written hmode hparents hopen hrename =>
    obtain ⟨directory, name, rfl, hnames, -⟩ := hfree.fill hparents hopen
    exact ⟨hnames.isName.byteLength_le, hnames.checked⟩

/-- If the temporary file beside a file can have its name, the permission bits of the file can
be found. -/
theorem Nameable.exists_targetMode (h : Nameable process (disk.target path))
    (hdisk : disk.WellFormed) (hlocate : disk.locate path = .ok location)
    (hfile : disk.entry? location = some (.file content mode)) :
  ∃ found, disk.targetMode path = .ok found
  := by
  cases hcanonical : disk.canonicalize path with
  | error cause => exact ⟨none, (Disk.target_of_unresolved hcanonical).2⟩
  | ok resolved =>
    obtain ⟨other, hresolves, -⟩ := Disk.resolves_of_canonicalize hcanonical
    obtain rfl := Except.ok.inj (hlocate.symm.trans hresolves.locate)
    have hne : location ≠ [] := by
      rintro rfl
      simp at hfile
    have hcheck := h.path
    rw [Disk.target_of_resolves hresolves] at hcheck
    use some mode
    apply hdisk.targetMode_eq hresolves hfile
    apply checkPath_of_temporaryPath (hdisk.proper (by simp [hfile])) hne hcheck

/-- A write to a file that exists succeeds if the temporary file can have its name and the
device does not fail. -/
theorem Writes.eq_ok_of_nameable (hdisk : disk.WellFormed)
    (h : Writes process path bytes disk faults result after)
    (hfree : TemporaryFree process disk path) (hreliable : ∀ fault, some fault ∉ faults)
    (hlocate : disk.locate path = .ok location)
    (hfile : disk.entry? location = some (.file content mode))
    (hname : Nameable process (disk.target path)) :
  result = .ok ()
  := by
  obtain ⟨found, hmode⟩ := hname.exists_targetMode hdisk hlocate hfile
  have hparents := Disk.withParents_target hlocate hmode
  obtain ⟨directory, last, hnames, hentry, hdirectory⟩ :=
    hdisk.exists_names_of_file (hdisk.locate_target hlocate hmode) hfile
  cases h with
  | unknown hunknown =>
    rw [hmode] at hunknown
    contradiction
  | unparented _ _ hunparented =>
    rw [hparents] at hunparented
    cases hunparented
  | unopened _ hsame hopen =>
    rw [hparents] at hsame
    cases hsame
    -- The temporary file has a free place beside the last name.
    have hbeside := hnames.withFileName
      ⟨temporaryName_not_void process (disk.target path),
        temporaryName_ne_up process (disk.target path), hname.name⟩
      (notMem_temporaryName process (disk.target path)) hname.path
    have hnone := hfree _ false (by
      rw [hparents]
      exact Disk.slot_eq_named_iff.mpr ⟨_, _, rfl, hbeside⟩)
    rw [temporaryPath, hbeside.openTruncated_eq hnone] at hopen
    contradiction
  | unlocked hfault => exact absurd hfault (hreliable _)
  | unfilled hfault => exact absurd hfault (hreliable _)
  | unreleased hfault => exact absurd hfault (hreliable _)
  | unmoved _ hsame hopen hrename =>
    rw [hparents] at hsame
    cases hsame
    obtain ⟨place, name, -, hsource, hnone, -, hfill⟩ := hfree.fill hparents hopen
    have hslot := Disk.slot_eq_named_iff.mpr ⟨directory, last, rfl, hnames⟩
    obtain ⟨moved, hmoved⟩ := Disk.exists_rename_created hsource hnone hslot hentry hdirectory
    rw [hfill, hmoved] at hrename
    contradiction
  | written => rfl

/-- Writing to a file to which a path resolves the bytes that it holds changes nothing. -/
theorem Writes.entry?_eq_of_same (hdisk : disk.WellFormed)
    (h : Writes process path bytes disk faults (.ok ()) after)
    (hfree : TemporaryFree process disk path) (hresolves : disk.Resolves path location)
    (hfile : disk.entry? location = some (.file bytes mode)) :
  after.entry? = disk.entry?
  := by
  obtain ⟨content, bits, hold, hentry, -⟩ := h.overwritten hdisk hfree hresolves
  rw [hfile, Option.some.injEq, Entry.file.injEq] at hold
  rw [hentry, ← hold.2, ← hfile, Function.update_eq_self]

/-- Without faults no lock fails. -/
theorem Writes.ne_lockFailed {error : FileError}
    (h : Writes process path bytes disk faults (.error error) after)
    (hreliable : ∀ fault, some fault ∉ faults) (failed : Text) :
  error ≠ .lockFailed failed
  := by
  rintro rfl
  cases h with
  | unlocked hfault => exact hreliable _ hfault
  | unreleased hfault => exact hreliable _ hfault

end

/-- A document that has been loaded from the file of a path has been saved back there, with
this result. -/
structure SavedBack (process : Nat) (path : Text) (document : Document)
    (result : Except FileError Unit) (before after : Disk) : Prop where
  /-- It can be saved exactly if the temporary file can have its name. -/
  ok_iff : result = .ok () ↔ Nameable process (before.target path)
  /-- If it could not be saved, all entries are what they were. -/
  failed : result ≠ .ok () → after.entry? = before.entry?
  /-- So are they if the path resolves to the document. -/
  resolved : ∀ location, before.Resolves path location → after.entry? = before.entry?
  /-- If the path leads to the document and does not resolve, a new file takes the place of its
  last name, which may be that of a link. -/
  unresolved : ∀ cause, before.canonicalize path = .error cause → result = .ok () →
    ∃ location, before.slot path = .ok (.named location false)
      ∧ after.entry? = Function.update before.entry? location
        (some (.file document.toText.toBytes before.newFileMode))

/-- A document that has been loaded can be saved where it was exactly if the temporary file
beside it can have its name.  The disk is what it was whether it is saved or not, if the path
resolves. -/
theorem saveDocument_loaded {process : Nat} {path : SlashPath} {session : Session}
    {document : Document} (hdisk : session.disk.WellFormed) (hreliable : session.Reliable)
    (hfree : TemporaryFree process session.disk path.text)
    (hload : ((loadDocument path).exec session).1 = .ok document) :
  let saved := (saveDocument process path document).exec ((loadDocument path).exec session).2
  SavedBack process path.text document saved.1 session.disk saved.2.disk
  := by
  obtain ⟨text, hreads, rfl⟩ := loadDocument_eq_ok_iff.mp hload
  obtain ⟨location, mode, hlocate, hfile⟩ := Disk.readBytes_eq_ok_iff.mp hreads
  obtain ⟨reports, hloaded⟩ := loadDocument_readOnly path session
  obtain ⟨hwrites, -⟩ := exec_writeBytes ((loadDocument path).exec session).2 process path
    (Document.ofText text).toText.toBytes
  rw [hloaded] at hwrites ⊢
  dsimp only [saveDocument, writeText]
  dsimp only at hwrites
  rw [Document.toText_ofText] at hwrites ⊢
  generalize hrun : (writeBytes process path text.toBytes).exec _ = run at hwrites ⊢
  obtain ⟨result, after⟩ := run
  dsimp only at hwrites ⊢
  exact {
    ok_iff := by
      constructor
      · rintro rfl
        apply hwrites.nameable hfree
      · apply hwrites.eq_ok_of_nameable hdisk hfree hreliable hlocate hfile
    failed := by
      intro hfailed
      cases result with
      | error error =>
        apply hwrites.entry?_eq_of_locate hfree (hwrites.ne_lockFailed hreliable) hlocate
      | ok => contradiction
    resolved := by
      intro other hresolves
      obtain rfl := Except.ok.inj (hlocate.symm.trans hresolves.locate)
      cases result with
      | error error =>
        apply hwrites.entry?_eq_of_locate hfree (hwrites.ne_lockFailed hreliable) hlocate
      | ok => exact hwrites.entry?_eq_of_same hdisk hfree hresolves hfile
    unresolved := by
      rintro cause hcanonical rfl
      rw [Document.toText_ofText]
      apply hwrites.put_of_locate hfree hlocate hcanonical }

/-- A document behind a link is saved back. -/
theorem saveDocument_loaded_linked :
  let session : Session := { disk := linkedDisk (Text.toBytes ['x', '\n']) }
  let loaded := (loadDocument ⟨['l']⟩).exec session
  let saved := (saveDocument 7 ⟨['l']⟩ (Document.ofText ['x', '\n'])).exec loaded.2
  loaded.1 = .ok (Document.ofText ['x', '\n']) ∧ saved.1 = .ok ()
    ∧ saved.2.disk.entry? = session.disk.entry?
    ∧ SavedBack 7 ['l'] (Document.ofText ['x', '\n']) saved.1 session.disk saved.2.disk
  := by
  have htarget (content : ByteArray) : (linkedDisk content).target ['l'] = ['/', 'd', '/', 't'] :=
    rfl
  dsimp only
  have hload : ((loadDocument ⟨['l']⟩).exec { disk := linkedDisk (Text.toBytes ['x', '\n']) }).1
      = .ok (Document.ofText ['x', '\n'])
    := by decide +kernel
  have hsaved := @saveDocument_loaded 7 ⟨['l']⟩ { disk := linkedDisk (Text.toBytes ['x', '\n']) }
    (Document.ofText ['x', '\n']) (wellFormed_linkedDisk _) (by simp [Session.Reliable])
    (temporaryFree_linkedDisk _) hload
  dsimp only at hsaved
  refine ⟨hload, hsaved.ok_iff.mpr ?_, hsaved.resolved [['d'], ['t']] ⟨rfl, rfl⟩, hsaved⟩
  rw [htarget]
  exact ⟨by decide, by decide⟩

/-- A document whose name is not too long, and that has been loaded, cannot be saved back: the
name of the temporary file is too long. -/
theorem saveDocument_long_name :
  let name : Text := List.replicate 250 'a'
  let session : Session :=
    { disk := ({} : Disk).create [name] (.file (Text.toBytes ['x', '\n']) 0o644) }
  let loaded := (loadDocument ⟨name⟩).exec session
  let saved := (saveDocument 7 ⟨name⟩ (Document.ofText ['x', '\n'])).exec loaded.2
  session.disk.WellFormed ∧ IsName name ∧ TemporaryFree 7 session.disk name
    ∧ loaded.1 = .ok (Document.ofText ['x', '\n'])
    ∧ saved.1 = .error (.disk (temporaryPath 7 ('/' :: name)) .nameTooLong)
  := by
  intro name session loaded saved
  have hname : IsName name := ⟨by decide +kernel, by decide +kernel, by decide +kernel⟩
  have hdisk : session.disk.WellFormed := by
    have hroot : Disk.isDirectory {} [] = true := rfl
    apply (Disk.wellFormed_empty []).create hroot hname (by decide +kernel) rfl
  have hload : loaded.1 = .ok (Document.ofText ['x', '\n']) := by decide +kernel
  have hsaved : saved.1 = .error (.disk (temporaryPath 7 ('/' :: name)) .nameTooLong) := by
    decide +kernel
  have hslot : (session.disk.withParents (session.disk.target name)).2.slot
      (temporaryPath 7 (session.disk.target name)) = .error .nameTooLong
    := by decide +kernel
  have hfree : TemporaryFree 7 session.disk name := by
    intro location slash h
    cases hslot.symm.trans h
  exact ⟨hdisk, hname, hfree, hload, hsaved⟩

end Storage

end Excision
