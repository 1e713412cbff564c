import Excision.Disk.Change
import Excision.Proofs.Disk.WellFormed

/-!
# Making directories

Making a directory together with those above it adds directories to a disk and changes
nothing else, whether it succeeds or fails on the way (`makeDirectories_grown`).  Each new
directory is one to which one of the paths leads.
-/

namespace Excision

namespace Disk

/-- The second disk has all entries of the first, and besides them only directories to which
paths of this kind lead. -/
structure Grown (named : Text → Prop) (disk after : Disk) : Prop where
  /-- Entries stay as they are. -/
  kept : ∀ location entry, disk.entry? location = some entry →
    after.entry? location = some entry
  /-- New entries are directories. -/
  new : ∀ location entry, disk.entry? location = none → after.entry? location = some entry →
    entry = .directory disk.newDirectoryMode
      ∧ ∃ path, named path ∧ after.locate path = .ok location
  /-- Relative paths begin where they began. -/
  workingDirectory : after.workingDirectory = disk.workingDirectory
  /-- New files and directories have the permission bits that they would have had. -/
  umask : after.umask = disk.umask

section

variable {disk middle after : Disk} {named : Text → Prop}

theorem Grown.refl (named : Text → Prop) (disk : Disk) :
  Grown named disk disk
  where
  kept _ _ h := h
  new _ _ h h' := by simp [h] at h'
  workingDirectory := rfl
  umask := rfl

theorem Grown.newFileMode_eq (h : Grown named disk after) :
  after.newFileMode = disk.newFileMode
  := by rw [newFileMode, h.umask, newFileMode]

theorem Grown.newDirectoryMode_eq (h : Grown named disk after) :
  after.newDirectoryMode = disk.newDirectoryMode
  := by rw [newDirectoryMode, h.umask, newDirectoryMode]

theorem Grown.waysKept (h : Grown named disk after) :
  WaysKept disk after
  := waysKept_of_kept (fun location entry hentry _ => h.kept location entry hentry)
    h.workingDirectory

theorem Grown.mono {named' : Text → Prop} (h : Grown named disk after)
    (hnamed : ∀ path, named path → named' path) :
  Grown named' disk after
  where
  kept := h.kept
  new location entry hnone hsome := by
    obtain ⟨hentry, path, hpath, hlocate⟩ := h.new location entry hnone hsome
    exact ⟨hentry, path, hnamed path hpath, hlocate⟩
  workingDirectory := h.workingDirectory
  umask := h.umask

/-- Growth can be seen from the entries alone. -/
theorem Grown.of_entry?_eq (h : Grown named disk middle) (hentry : after.entry? = middle.entry?)
    (hworking : after.workingDirectory = middle.workingDirectory)
    (humask : after.umask = middle.umask) :
  Grown named disk after
  where
  kept location entry hlocation := by
    rw [hentry]
    apply h.kept location entry hlocation
  new location entry hnone hsome := by
    have hafter := hsome
    rw [hentry] at hsome
    obtain ⟨rfl, path, hpath, hlocate⟩ := h.new location entry hnone hsome
    refine ⟨rfl, path, hpath, ?_⟩
    exact locate_of_waysKept (waysKept_of_entry?_eq hentry hworking) hlocate ⟨_, hafter, by simp⟩
  workingDirectory := hworking.trans h.workingDirectory
  umask := humask.trans h.umask

theorem Grown.trans (h : Grown named disk middle) (h' : Grown named middle after) :
  Grown named disk after
  where
  kept location entry hentry := h'.kept _ _ (h.kept _ _ hentry)
  new location entry hnone hsome := by
    cases hmiddle : middle.entry? location with
    | none =>
      rw [← h.newDirectoryMode_eq]
      apply h'.new location entry hmiddle hsome
    | some other =>
      have hkept := h'.kept _ _ hmiddle
      rw [hsome, Option.some.injEq] at hkept
      subst hkept
      obtain ⟨rfl, path, hpath, hlocate⟩ := h.new location entry hnone hmiddle
      refine ⟨rfl, path, hpath, locate_of_waysKept h'.waysKept hlocate ?_⟩
      exact ⟨_, hsome, by simp⟩
  workingDirectory := h'.workingDirectory.trans h.workingDirectory
  umask := h'.umask.trans h.umask

end

/-! ### One directory -/

theorem makeDirectory_eq_ok {disk after : Disk} {path : Text}
    (h : disk.makeDirectory path = .ok after) :
  ∃ directory name slash, disk.Names path directory name slash
    ∧ disk.entry? (directory ++ [name]) = none
    ∧ after = disk.create (directory ++ [name]) (.directory disk.newDirectoryMode)
  := by
  unfold makeDirectory at h
  cases hslot : disk.slot path with
  | error cause =>
    rw [hslot] at h
    contradiction
  | ok slot =>
    rw [hslot] at h
    simp only [bind, Except.bind] at h
    split at h
    · contradiction
    next location slash =>
      obtain ⟨directory, name, rfl, hnames⟩ := slot_eq_named_iff.mp hslot
      split at h
      · contradiction
      next hnone =>
        cases h
        exact ⟨directory, name, slash, hnames, hnone, rfl⟩

/-- A new entry in a free place leaves all ways as they are. -/
theorem waysKept_create {disk : Disk} {location : Location} (hne : location ≠ [])
    (hnone : disk.entry? location = none) (entry : Entry) :
  WaysKept disk (disk.create location entry)
  := by
  apply waysKept_of_agree
  · intro other (hother : other ≠ location)
    rw [entry?_create hne, Function.update_of_ne hother]
  · simp [hnone]
  · rfl

theorem makeDirectory_grown {disk after : Disk} {path : Text}
    (h : disk.makeDirectory path = .ok after) :
  Grown (· = path) disk after
  := by
  obtain ⟨directory, name, slash, hnames, hnone, rfl⟩ := makeDirectory_eq_ok h
  have hne : directory ++ [name] ≠ [] := by simp
  have hentry :
      Disk.entry? (disk.create (directory ++ [name]) (.directory disk.newDirectoryMode))
        (directory ++ [name]) = some (.directory disk.newDirectoryMode)
    := by rw [entry?_create hne, Function.update_self]
  exact {
    kept := by
      intro location entry hlocation
      rw [entry?_create hne, Function.update_of_ne, hlocation]
      rintro rfl
      simp [hnone] at hlocation
    new := by
      intro location entry hlocation hsome
      by_cases hlast : location = directory ++ [name]
      · subst hlast
        rw [hentry, Option.some.injEq] at hsome
        refine ⟨hsome.symm, path, rfl, ?_⟩
        apply (hnames.of_waysKept (waysKept_create hne hnone _)).locate_eq hentry (by simp)
        exact .inr (isDirectory_iff.mpr ⟨_, hentry⟩)
      · rw [entry?_create hne, Function.update_of_ne hlast, hlocation] at hsome
        contradiction
    workingDirectory := rfl
    umask := rfl }

/-! ### A directory and those above it -/

/-- What making one of the directories preserves holds after all of them, whether they are made
or one of them fails. -/
theorem makeDirectories_induction {motive : Disk → Prop} {disk : Disk} {paths : List Text}
    (hmake : ∀ middle after, ∀ path ∈ paths, motive middle →
      middle.makeDirectory path = .ok after → motive after)
    (hstart : motive disk) :
  motive (disk.makeDirectories paths).2
  := by
  induction paths with
  | nil => exact hstart
  | cons path parents ih =>
    have hhead {middle after : Disk} := hmake middle after path List.mem_cons_self
    have htail := ih fun middle after other hother =>
      hmake middle after other (List.mem_cons_of_mem path hother)
    unfold makeDirectories
    split
    · exact hstart
    split
    next after h => exact hhead hstart h
    next =>
      split
      next cause middle hparents =>
        rw [hparents] at htail
        exact htail
      next middle hparents =>
        rw [hparents] at htail
        split
        next after h => exact hhead htail h
        next => exact htail
    next => exact hstart

theorem makeDirectories_grown (disk : Disk) (paths : List Text) :
  Grown (· ∈ paths) disk (disk.makeDirectories paths).2
  := by
  apply makeDirectories_induction (motive := Grown (· ∈ paths) disk)
  · intro middle after path hpath hgrown hmake
    exact hgrown.trans ((makeDirectory_grown hmake).mono fun _ h => h ▸ hpath)
  · apply Grown.refl

/-- What making the directory above a path answers, and the disk after it.  The root and a
name alone have no directory above them that has to be made. -/
def withParents (disk : Disk) (path : Text) : Except Cause Unit × Disk :=
  match HostPath.parent? path with
  | none | some [] => (.ok (), disk)
  | some parent => disk.makeDirectoryTree parent

theorem locate_nil (disk : Disk) (location : Location) :
  disk.locate [] ≠ .ok location
  := by
  intro h
  have := (place_eq_ok_iff.mp (locate_eq_ok_iff.mp h)).1
  contradiction

theorem locate_root (disk : Disk) :
  disk.locate ['/'] = .ok []
  := by
  have hroot : disk.isDirectory [] = true := by simp [isDirectory]
  rw [locate_eq_ok_iff, place_eq_ok_iff]
  exact ⟨rfl, maxLinks, .void hroot rfl (.void hroot rfl .arrived)⟩

/-- The directories above a path are new under what stands before its slashes. -/
theorem withParents_grown (disk : Disk) (path : Text) :
  Grown (fun head => ∃ rest, path = head ++ '/' :: rest) disk (disk.withParents path).2
  := by
  unfold withParents
  split
  · apply Grown.refl
  · apply Grown.refl
  next parent _ hparent =>
    have h := disk.makeDirectories_grown (HostPath.ancestors (parent.length + 1) parent)
    refine ⟨h.kept, ?_, h.workingDirectory, h.umask⟩
    intro location entry hnone hsome
    obtain ⟨hentry, head, hhead, hlocate⟩ := h.new location entry hnone hsome
    refine ⟨hentry, head, ?_, hlocate⟩
    rcases HostPath.isHead_of_mem_ancestors hparent hhead with rfl | ⟨rfl, -⟩ | hrest
    · exact absurd hlocate (locate_nil _ _)
    · rw [locate_root] at hlocate
      cases hlocate
      simp at hnone
    · apply hrest

/-- What making directories preserves holds once those above a path are there. -/
theorem withParents_induction {motive : Disk → Prop} {disk : Disk} {path : Text}
    (hmake : ∀ middle after head, motive middle → middle.makeDirectory head = .ok after →
      motive after)
    (hstart : motive disk) :
  motive (disk.withParents path).2
  := by
  unfold withParents
  split
  · exact hstart
  · exact hstart
  · exact makeDirectories_induction (fun middle after head _ => hmake middle after head) hstart

/-- Making the directories above a path leaves all nodes as they are. -/
theorem withParents_node? {disk : Disk} {location : Location} {node : Node}
    (hnode : disk.node? location = some node) (path : Text) :
  (disk.withParents path).2.node? location = some node
  := by
  apply withParents_induction (motive := fun after => after.node? location = some node) _ hnode
  intro middle after head hmiddle hmake
  obtain ⟨directory, name, -, -, hnone, rfl⟩ := makeDirectory_eq_ok hmake
  rw [node?_create, Function.update_of_ne, hmiddle]
  rintro rfl
  simp [entry?_of_ne_nil, hmiddle] at hnone

/-! ### Directories that are there already -/

/-- No directory can be made where a path leads to something. -/
theorem makeDirectory_of_locate {disk : Disk} {path : Text} {location : Location}
    (h : disk.locate path = .ok location) :
  disk.makeDirectory path = .error .fileExists
  := by
  obtain ⟨hcheck, left, hleads⟩ := place_eq_ok_iff.mp (locate_eq_ok_iff.mp h)
  cases hdrop : (Text.splitAt '/' path).reverse.dropWhile List.isEmpty with
  | nil => simp only [makeDirectory, slot, hcheck, hdrop, bind, Except.bind]
  | cons name front =>
  obtain ⟨blanks, hparts, -, hne⟩ := exists_blanks hdrop
  rw [hparts] at hleads
  obtain ⟨middle, directory, hfront, hlast⟩ := hleads.split (by simp)
  have hdirectory := hlast.isDirectory (by simp)
  by_cases hdots : name = ['.'] ∨ name = ['.', '.']
  · -- A last part that is one or two dots names nothing that could be made.
    simp [makeDirectory, slot, hcheck, hdrop, hfront.walk_eq, hdirectory, hdots, bind,
      Except.bind]
  -- The last name is that of a link or of another entry.
  rw [not_or] at hdots
  obtain ⟨hname, hentry⟩ : IsName name ∧ disk.entry? (directory ++ [name]) ≠ none := by
    cases hlast with
    | void _ hvoid => simp [HostPath.isVoidPart, hne, hdots.1] at hvoid
    | up => exact absurd rfl hdots.2
    | link _ hname hentry => exact ⟨hname, by simp [hentry]⟩
    | entry _ hname hentry => exact ⟨hname, by simp [hentry]⟩
  obtain ⟨entry, hentry⟩ := Option.ne_none_iff_exists'.mp hentry
  have hlength := hname.byteLength_le
  simp [makeDirectory, slot, hcheck, hdrop, hfront.walk_eq, hdirectory, hdots, hentry,
    Nat.not_lt.mpr hlength, bind, Except.bind]

/-- Nothing has to be made above what a path leads to. -/
theorem withParents_of_locate {disk : Disk} {path : Text} {location : Location}
    (h : disk.locate path = .ok location) :
  disk.withParents path = (.ok (), disk)
  := by
  unfold withParents
  split
  · rfl
  · rfl
  next parent hne hparent =>
    have hleads : disk.leadsToDirectory parent = true := by
      rcases HostPath.isHead_of_parent? hparent with rfl | ⟨rfl, -⟩ | ⟨rest, hpath⟩
      · exact absurd rfl hne
      · simp [leadsToDirectory, locate_root, isDirectory]
      · exact leadsToDirectory_of_locate h hpath hne
    have hexists : disk.makeDirectory parent = .error .fileExists := by
      unfold leadsToDirectory at hleads
      split at hleads
      next directory hlocate => exact makeDirectory_of_locate hlocate
      next => contradiction
    rw [makeDirectoryTree, HostPath.ancestors, makeDirectories, if_neg hne, hexists]
    simp [hleads]

end Disk

end Excision
