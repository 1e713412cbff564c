import Excision.Proofs.Disk.Growth
import Excision.Script

/-!
# Well-formed disks stay well formed

Every request leaves a well-formed disk well formed (`Session.wellFormed_answer`), and so
does every script (`Script.wellFormed_run`).  The disk without entries is well formed.
-/

namespace Excision

namespace Disk

variable {disk : Disk} {location directory : Location} {name : Text}

theorem mem_nodes_of_node? {node : Node} (h : disk.node? location = some node) :
  (location, node) ∈ disk.nodes
  := by
  obtain ⟨front, back, hnodes, -⟩ := List.lookup_eq_some_iff.mp h
  rw [hnodes]
  simp

theorem node?_modify (serial : Nat) (change : Entry → Entry) :
  (disk.modify serial change).node? location
    = (disk.node? location).map fun node =>
        if node.serial = serial then { node with entry := change node.entry } else node
  := by
  unfold node? modify
  induction disk.nodes with
  | nil => rfl
  | cons item nodes ih =>
    rw [List.map_cons, List.lookup_cons, List.lookup_cons]
    have hkey : (if item.2.serial = serial then
        (item.1, { item.2 with entry := change item.2.entry }) else item).1 = item.1
      := by split <;> rfl
    rw [hkey, ih]
    split
    · split
      next hserial => simp [hserial]
      next hserial => simp [hserial]
    · rfl

/-! ### One change -/

theorem wellFormed_empty (workingDirectory : Location) :
  WellFormed { workingDirectory }
  where
  parent directory name h := absurd (by simp [entry?_of_ne_nil, node?]) h
  isName directory name h := absurd (by simp [entry?_of_ne_nil, node?]) h
  serial location other node node' h := by simp [node?] at h

/-- A node may be put into a directory, under a name that paths can have and where no
directory stands, if it has a serial number of its own or is as all others of its number. -/
theorem WellFormed.setNode (hdisk : disk.WellFormed)
    (hdirectory : disk.isDirectory directory = true) (hname : IsName name) (hslash : '/' ∉ name)
    (hfree : disk.isDirectory (directory ++ [name]) = false) {node : Node}
    (hserial : ∀ other node', disk.node? other = some node' → node.serial = node'.serial →
      node.entry = node'.entry) :
  (disk.setNode (directory ++ [name]) node).WellFormed
  := by
  have hne : directory ++ [name] ≠ [] := by simp
  have hkept {other : Location} (h : disk.isDirectory other = true) :
      (disk.setNode (directory ++ [name]) node).isDirectory other = true
    := by
    have hother : other ≠ directory ++ [name] := by
      rintro rfl
      rw [hfree] at h
      contradiction
    rwa [isDirectory, entry?_setNode hne, Function.update_of_ne hother]
  have hold {other : Location} {last : Text} (h : other ++ [last] ≠ directory ++ [name])
      (hentry : Disk.entry? (disk.setNode (directory ++ [name]) node) (other ++ [last]) ≠ none) :
      disk.entry? (other ++ [last]) ≠ none
    := by
    rwa [entry?_setNode hne, Function.update_of_ne h] at hentry
  constructor
  case parent =>
    intro other last hentry
    by_cases heq : other ++ [last] = directory ++ [name]
    · obtain ⟨rfl, -⟩ := List.append_inj' heq rfl
      apply hkept hdirectory
    · apply hkept (hdisk.parent other last (hold heq hentry))
  case isName =>
    intro other last hentry
    by_cases heq : other ++ [last] = directory ++ [name]
    · obtain ⟨-, hlast⟩ := List.append_inj' heq rfl
      cases hlast
      exact ⟨hname, hslash⟩
    · apply hdisk.isName other last (hold heq hentry)
  case serial =>
    intro location other first second h h' heq
    rw [node?_setNode, Function.update_apply] at h h'
    split at h
    · cases h
      split at h'
      · cases h'
        rfl
      · apply hserial other second h' heq
    · split at h'
      · cases h'
        exact (hserial location first h heq.symm).symm
      · apply hdisk.serial location other first second h h' heq

/-- A new entry may be put into a directory under a free name that paths can have. -/
theorem WellFormed.create (hdisk : disk.WellFormed) (hdirectory : disk.isDirectory directory = true)
    (hname : IsName name) (hslash : '/' ∉ name)
    (hnone : disk.entry? (directory ++ [name]) = none) (entry : Entry) :
  (disk.create (directory ++ [name]) entry).WellFormed
  := by
  have hset : (disk.setNode (directory ++ [name]) ⟨disk.freshSerial, entry⟩).WellFormed := by
    apply hdisk.setNode hdirectory hname hslash
    · simp [isDirectory, hnone]
    · intro other node h heq
      have := serial_lt_freshSerial (mem_nodes_of_node? h)
      dsimp only at heq this
      omega
  exact ⟨hset.parent, hset.isName, hset.serial⟩

/-- A change of the entries of one serial number must leave directories directories. -/
theorem WellFormed.modify (hdisk : disk.WellFormed) {serial : Nat} {change : Entry → Entry}
    (hchange : ∀ location mode, disk.node? location = some ⟨serial, .directory mode⟩ →
      ∃ mode', change (.directory mode) = .directory mode') :
  (disk.modify serial change).WellFormed
  := by
  have hnone {other : Location} (h : Disk.entry? (disk.modify serial change) other ≠ none) :
      disk.entry? other ≠ none
    := by
    by_cases hne : other = []
    · simp [hne]
    · rw [entry?_of_ne_nil hne, node?_modify] at h
      rw [entry?_of_ne_nil hne]
      simpa using h
  constructor
  case parent =>
    intro other last hentry
    obtain ⟨mode, hmode⟩ := isDirectory_iff.mp (hdisk.parent other last (hnone hentry))
    rw [isDirectory_iff]
    by_cases hne : other = []
    · exact ⟨rootMode, by simp [hne]⟩
    rw [entry?_of_ne_nil hne, Option.map_eq_some_iff] at hmode
    obtain ⟨⟨number, _⟩, hnode, rfl⟩ := hmode
    rw [entry?_of_ne_nil hne, node?_modify, hnode]
    by_cases hserial : number = serial
    · subst hserial
      obtain ⟨mode', hmode'⟩ := hchange other mode hnode
      exact ⟨mode', by simp [hmode']⟩
    · exact ⟨mode, by simp [hserial]⟩
  case isName =>
    intro other last hentry
    apply hdisk.isName other last (hnone hentry)
  case serial =>
    intro location other node node' h h' hserial
    rw [node?_modify, Option.map_eq_some_iff] at h h'
    obtain ⟨old, hold, rfl⟩ := h
    obtain ⟨old', hold', rfl⟩ := h'
    have hserials : old.serial = old'.serial := by
      revert hserial
      split <;> split <;> exact id
    have hentries := hdisk.serial location other old old' hold hold' hserials
    rw [← hserials]
    split
    · exact congrArg change hentries
    · exact hentries

/-- What is no directory can be taken away. -/
theorem WellFormed.erase (hdisk : disk.WellFormed) (hfile : disk.isDirectory location = false) :
  (disk.erase location).WellFormed
  := by
  have hne : location ≠ [] := by
    rintro rfl
    simp [isDirectory] at hfile
  have hold {other : Location} (h : Disk.entry? (disk.erase location) other ≠ none) :
      disk.entry? other ≠ none
    := by
    rw [entry?_erase hne, Function.update_apply] at h
    split at h
    · contradiction
    · apply h
  have hkept {other : Location} (h : disk.isDirectory other = true) :
      (disk.erase location).isDirectory other = true
    := by
    have hother : other ≠ location := by
      rintro rfl
      rw [hfile] at h
      contradiction
    rwa [isDirectory, entry?_erase hne, Function.update_of_ne hother]
  constructor
  case parent =>
    intro other last hentry
    apply hkept (hdisk.parent other last (hold hentry))
  case isName =>
    intro other last hentry
    apply hdisk.isName other last (hold hentry)
  case serial =>
    intro location other node node' h h' hserial
    rw [node?_erase, Function.update_apply] at h h'
    split at h
    · contradiction
    split at h'
    · contradiction
    apply hdisk.serial location other node node' h h' hserial

/-! ### Operations -/

/-- The last name of a path has no slash. -/
theorem Names.notMem {path : Text} {slash : Bool} (h : disk.Names path directory name slash) :
  '/' ∉ name
  := by
  obtain ⟨front, blanks, left, hparts, -⟩ := h.leads
  apply Text.notMem_of_mem_splitAt
  rw [hparts]
  simp

/-- A free place to which names lead is one in a directory, under a name that paths can
have. -/
theorem Leads.vacant_place {links left : Nat} {here : Location} {names : List Text}
    {slash : Bool} (h : disk.Leads links here names left (.vacant location slash))
    (hslash : ∀ part ∈ names, '/' ∉ part) :
  ∃ directory name, location = directory ++ [name] ∧ disk.isDirectory directory = true
    ∧ IsName name ∧ '/' ∉ name ∧ disk.entry? (directory ++ [name]) = none
  := by
  generalize hplace : Place.vacant location slash = place at h
  induction h with
  | arrived => contradiction
  | void _ _ _ ih => exact ih (List.forall_mem_cons.mp hslash).2 hplace
  | up _ _ ih => exact ih (List.forall_mem_cons.mp hslash).2 hplace
  | vacant hhere hname hentry _ =>
    cases hplace
    exact ⟨_, _, rfl, hhere, hname, (List.forall_mem_cons.mp hslash).1, hentry⟩
  | link _ _ _ _ ih =>
    apply ih _ hplace
    intro part hpart
    rcases List.mem_append.mp hpart with hpart | hpart
    · apply Text.notMem_of_mem_splitAt hpart
    · apply (List.forall_mem_cons.mp hslash).2 part hpart
  | entry _ _ _ _ _ ih => exact ih (List.forall_mem_cons.mp hslash).2 hplace

theorem WellFormed.makeDirectory (hdisk : disk.WellFormed) {path : Text} {after : Disk}
    (h : disk.makeDirectory path = .ok after) :
  after.WellFormed
  := by
  obtain ⟨directory, name, slash, hnames, hnone, rfl⟩ := makeDirectory_eq_ok h
  apply hdisk.create hnames.isDirectory hnames.isName hnames.notMem hnone

theorem WellFormed.makeDirectories (hdisk : disk.WellFormed) (paths : List Text) :
  (disk.makeDirectories paths).2.WellFormed
  := makeDirectories_induction (fun _ _ _ _ hmiddle hmake => hmiddle.makeDirectory hmake) hdisk

theorem WellFormed.withParents (hdisk : disk.WellFormed) (path : Text) :
  (disk.withParents path).2.WellFormed
  := withParents_induction (fun _ _ _ hmiddle hmake => hmiddle.makeDirectory hmake) hdisk

/-- What is opened for writing is a new file in a free place, or a file that is there and is
emptied. -/
theorem openTruncated_eq_ok {path : Text} {serial : Nat} {opened : Disk}
    (h : disk.openTruncated path = .ok (serial, opened)) :
  (∃ location, disk.place path = .ok (.vacant location false) ∧ serial = disk.freshSerial
      ∧ opened = disk.create location (.file .empty disk.newFileMode))
    ∨ ∃ location content mode, disk.place path = .ok (.existing location)
      ∧ disk.node? location = some ⟨serial, .file content mode⟩
      ∧ opened = disk.modify serial fun _ => .file .empty mode
  := by
  unfold Disk.openTruncated at h
  cases hplace : disk.place path with
  | error cause =>
    rw [hplace] at h
    contradiction
  | ok place =>
  rw [hplace] at h
  cases place with
  | vacant location slash =>
    cases slash with
    | true => contradiction
    | false =>
      cases h
      exact .inl ⟨location, rfl, rfl, rfl⟩
  | existing location =>
    simp only [bind, Except.bind] at h
    split at h
    next number content mode hnode =>
      cases h
      exact .inr ⟨location, content, mode, rfl, hnode, rfl⟩
    · contradiction

theorem WellFormed.openTruncated (hdisk : disk.WellFormed) {path : Text} {serial : Nat}
    {opened : Disk} (h : disk.openTruncated path = .ok (serial, opened)) :
  opened.WellFormed
  := by
  obtain ⟨location, hplace, rfl, rfl⟩ | ⟨location, content, mode, -, hnode, rfl⟩ :=
    openTruncated_eq_ok h
  · obtain ⟨-, left, hleads⟩ := place_eq_ok_iff.mp hplace
    obtain ⟨directory, name, rfl, hdirectory, hname, hslash, hnone⟩ :=
      hleads.vacant_place fun part hpart => Text.notMem_of_mem_splitAt hpart
    apply hdisk.create hdirectory hname hslash hnone
  · -- What has the number of a file is a file.
    apply hdisk.modify
    intro other mode' hother
    have := hdisk.serial location other _ _ hnode hother rfl
    contradiction

theorem WellFormed.write (hdisk : disk.WellFormed) (serial : Nat) (bytes : ByteArray) :
  (disk.write serial bytes).WellFormed
  := hdisk.modify fun _ mode _ => ⟨mode, rfl⟩

theorem WellFormed.setMode (hdisk : disk.WellFormed) (serial mode : Nat) :
  (disk.setMode serial mode).WellFormed
  := hdisk.modify fun _ bits _ => ⟨bits, rfl⟩

/-- What is moved to another name takes the place of what stood there, unless that was the
same node. -/
theorem rename_eq_ok {after : Disk} {source target : Text}
    (h : disk.rename source target = .ok after) :
  ∃ sourceLocation targetLocation node, disk.slot source = .ok (.named sourceLocation false)
    ∧ disk.slot target = .ok (.named targetLocation false)
    ∧ disk.node? sourceLocation = some node ∧ (∀ mode, node.entry ≠ .directory mode)
    ∧ disk.isDirectory targetLocation = false
    ∧ (after = disk
        ∧ (∃ other, disk.node? targetLocation = some other ∧ other.serial = node.serial)
      ∨ after = (disk.erase sourceLocation).setNode targetLocation node
        ∧ ∀ other, disk.node? targetLocation = some other → other.serial ≠ node.serial)
  := by
  unfold rename at h
  cases hsource : disk.slot source with
  | error cause => simp [hsource, bind, Except.bind] at h
  | ok sourceSlot =>
  cases htarget : disk.slot target with
  | error cause => simp [hsource, htarget, bind, Except.bind] at h
  | ok targetSlot =>
  simp only [hsource, htarget, bind, Except.bind] at h
  split at h
  next sourceLocation sourceSlash targetLocation targetSlash =>
    split at h
    · contradiction
    · contradiction
    next node hdirectory hnode =>
    split at h
    · contradiction
    next hslash =>
    split at h
    · contradiction
    next hfree =>
    simp only [Bool.or_eq_true, not_or, Bool.not_eq_true] at hslash
    obtain ⟨rfl, rfl⟩ := hslash
    simp only [Bool.not_eq_true] at hfree
    refine ⟨sourceLocation, targetLocation, node, rfl, rfl, hnode, ?_, hfree, ?_⟩
    · intro mode hmode
      exact hdirectory node.serial mode (by rw [← hmode])
    split at h
    next hsame =>
      cases h
      exact .inl ⟨rfl, Option.map_eq_some_iff.mp hsame⟩
    next hsame =>
      cases h
      refine .inr ⟨rfl, fun other hother hserial => hsame ?_⟩
      exact Option.map_eq_some_iff.mpr ⟨other, hother, hserial⟩
  · contradiction

/-- A file or a link can be moved to a name under which no directory stands. -/
theorem rename_of_slots {source target : Text} {sourceLocation targetLocation : Location}
    {node : Node} (hsource : disk.slot source = .ok (.named sourceLocation false))
    (htarget : disk.slot target = .ok (.named targetLocation false))
    (hnode : disk.node? sourceLocation = some node) (hentry : ∀ mode, node.entry ≠ .directory mode)
    (hfree : disk.isDirectory targetLocation = false) :
  ∃ after, disk.rename source target = .ok after
  := by
  have hmoves : ∃ after, (if (disk.node? targetLocation).map Node.serial = some node.serial then
      .ok disk
      else .ok ((disk.erase sourceLocation).setNode targetLocation node) : Except Cause Disk)
        = .ok after
    := by
    split
    · exact ⟨_, rfl⟩
    · exact ⟨_, rfl⟩
  obtain ⟨serial, entry⟩ := node
  cases entry with
  | directory mode => exact absurd rfl (hentry mode)
  | file content mode =>
    simpa [Disk.rename, bind, Except.bind, hsource, htarget, hnode, hfree] using hmoves
  | link path =>
    simpa [Disk.rename, bind, Except.bind, hsource, htarget, hnode, hfree] using hmoves

theorem WellFormed.rename (hdisk : disk.WellFormed) {source target : Text} {after : Disk}
    (h : disk.rename source target = .ok after) :
  after.WellFormed
  := by
  obtain ⟨sourceLocation, targetLocation, node, hsource, htarget, hnode, hfile, hfree,
    ⟨rfl, -⟩ | ⟨rfl, -⟩⟩ := rename_eq_ok h
  · exact hdisk
  obtain ⟨front, last, rfl, -⟩ := slot_eq_named_iff.mp hsource
  obtain ⟨directory, name, rfl, hnames⟩ := slot_eq_named_iff.mp htarget
  have hne : front ++ [last] ≠ [] := by simp
  have hmoved : disk.isDirectory (front ++ [last]) = false := by
    rw [Bool.eq_false_iff, Ne, isDirectory_iff, entry?_of_ne_nil hne, hnode]
    simpa using hfile
  have herase {other : Location} (h : other ≠ front ++ [last]) :
      (disk.erase (front ++ [last])).isDirectory other = disk.isDirectory other
    := by rw [isDirectory, entry?_erase hne, Function.update_of_ne h, isDirectory]
  apply (hdisk.erase hmoved).setNode _ hnames.isName hnames.notMem
  · by_cases heq : directory ++ [name] = front ++ [last]
    · simp [heq, isDirectory, entry?_erase hne]
    · rw [herase heq, hfree]
  · -- The other nodes are those of the disk from which the node was taken.
    intro other node' h hserial
    rw [node?_erase, Function.update_apply] at h
    split at h
    · contradiction
    apply hdisk.serial _ other node node' hnode h hserial
  · rw [herase, hnames.isDirectory]
    rintro rfl
    rw [hnames.isDirectory] at hmoved
    contradiction

theorem WellFormed.remove (hdisk : disk.WellFormed) (path : Text) :
  (disk.remove path).WellFormed
  := by
  unfold Disk.remove
  split
  next location hslot =>
    split
    · apply hdisk
    next hfile => apply hdisk.erase (by simpa using hfile)
  · apply hdisk

end Disk

/-! ### Runs -/

/-- An operation on an open file leaves a well-formed disk well formed, whatever its fault. -/
theorem Request.wellFormed_effect {disk : Disk} (h : disk.WellFormed) (request : Request)
    (fault : Option Fault) :
  (request.effect fault disk).WellFormed
  := by
  unfold effect
  split
  · apply h.write
  · apply h.write
  · apply h.setMode
  · exact h

/-- The answer to a request leaves a well-formed disk well formed. -/
theorem Session.wellFormed_answer {session : Session} (h : session.disk.WellFormed)
    (request : Request) :
  (session.answer request).2.disk.WellFormed
  := by
  cases request with
  | makeDirectoryTree path =>
    dsimp only [Session.answer]
    apply h.makeDirectories
  | openTruncated path =>
    dsimp only [Session.answer]
    cases hopen : session.disk.openTruncated path with
    | error cause => apply h
    | ok answer => apply h.openTruncated hopen
  | rename source target =>
    dsimp only [Session.answer]
    cases hrename : session.disk.rename source target with
    | error cause => apply h
    | ok disk => apply h.rename hrename
  | remove path => exact h.remove path
  | lock | write | setMode | sync | unlock =>
    dsimp only [Session.answer, Session.operate]
    apply Request.wellFormed_effect h
  | canonicalize | mode | readBytes | print | report => exact h

/-- A script leaves a well-formed disk well formed. -/
theorem Script.wellFormed_run {α : Type} (script : Script α) {session : Session}
    (h : session.disk.WellFormed) :
  (script.run session).2.disk.WellFormed
  := by
  induction script generalizing session with
  | done value => apply h
  | ask request next ih => exact ih _ (Session.wellFormed_answer h request)

end Excision
