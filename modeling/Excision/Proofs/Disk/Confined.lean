import Excision.Proofs.Disk.Preservation

/-!
# Changes in two places

A user of a disk who changes a file of its own, and perhaps moves that file to another place,
changes nothing anywhere else (`Disk.Confined`).  Another file keeps its node then, and stays
the only one of its serial number (`Disk.Alone.of_confined`); where there are files in the two
places, the ways stay as they were (`Disk.Confined.waysKept`).
-/

namespace Excision

namespace Disk

/-- The node at a location is the only one of its serial number. -/
structure Alone (disk : Disk) (location : Location) (node : Node) : Prop where
  /-- It stands there. -/
  node?_eq : disk.node? location = some node
  /-- Its serial number is found nowhere else. -/
  eq_of_serial : ∀ other node', disk.node? other = some node' → node'.serial = node.serial →
    other = location

/-- The second disk is the first but for two places, and a node that is not new comes from
where it was or from the first of them. -/
structure Confined (disk : Disk) (source target : Location) (after : Disk) : Prop where
  /-- Elsewhere nothing is changed. -/
  node?_eq : ∀ other, other ≠ source → other ≠ target → after.node? other = disk.node? other
  /-- No serial number comes from elsewhere. -/
  serial : ∀ other node, after.node? other = some node → node.serial < disk.freshSerial →
    ∃ place old, (place = other ∨ place = source) ∧ disk.node? place = some old
      ∧ old.serial = node.serial
  /-- Relative paths begin where they began. -/
  workingDirectory : after.workingDirectory = disk.workingDirectory

section

variable {disk after : Disk} {source target location : Location} {node : Node}

theorem Alone.serial_lt (h : disk.Alone location node) :
  node.serial < disk.freshSerial
  := serial_lt_freshSerial (mem_nodes_of_node? h.node?_eq)

theorem Alone.entry?_eq (h : disk.Alone location node) (hne : location ≠ []) :
  disk.entry? location = some node.entry
  := by rw [entry?_of_ne_nil hne, h.node?_eq, Option.map_some]

/-- A node in a third place stays the only one of its serial number. -/
theorem Alone.of_confined (hconfined : disk.Confined source target after)
    (h : disk.Alone location node) (hsource : location ≠ source) (htarget : location ≠ target) :
  after.Alone location node
  where
  node?_eq := by rw [hconfined.node?_eq location hsource htarget, h.node?_eq]
  eq_of_serial other node' hother hserial := by
    obtain ⟨place, old, hplace, hold, hserial'⟩ :=
      hconfined.serial other node' hother (by rw [hserial]; exact h.serial_lt)
    have heq := h.eq_of_serial place old hold (hserial'.trans hserial)
    rcases hplace with rfl | rfl
    · exact heq
    · exact absurd heq.symm hsource

theorem Confined.entry?_eq (hconfined : disk.Confined source target after)
    (hsource : location ≠ source) (htarget : location ≠ target) :
  after.entry? location = disk.entry? location
  := by
  unfold entry?
  rw [hconfined.node?_eq location hsource htarget]

theorem Confined.refl (disk : Disk) (source target : Location) :
  disk.Confined source target disk
  where
  node?_eq _ _ _ := rfl
  serial other node h _ := ⟨other, node, .inl rfl, h, rfl⟩
  workingDirectory := rfl

/-! ### Kinds of changes -/

theorem alone_create (entry : Entry) :
  (disk.create location entry).Alone location ⟨disk.freshSerial, entry⟩
  where
  node?_eq := by rw [node?_create, Function.update_self]
  eq_of_serial other node h hserial := by
    by_contra hother
    rw [node?_create, Function.update_of_ne hother] at h
    have := serial_lt_freshSerial (mem_nodes_of_node? h)
    dsimp only at this hserial
    omega

theorem confined_create (entry : Entry) :
  disk.Confined location location (disk.create location entry)
  where
  node?_eq other hother _ := by rw [node?_create, Function.update_of_ne hother]
  serial other node h hserial := by
    rw [node?_create, Function.update_apply] at h
    split at h
    · cases h
      exact absurd hserial (lt_irrefl _)
    · exact ⟨other, node, .inl rfl, h, rfl⟩
  workingDirectory := rfl

theorem Alone.modify (h : disk.Alone location node) (change : Entry → Entry) :
  (disk.modify node.serial change).Alone location { node with entry := change node.entry }
  where
  node?_eq := by simp [node?_modify, h.node?_eq]
  eq_of_serial other node' hother hserial := by
    rw [node?_modify, Option.map_eq_some_iff] at hother
    obtain ⟨old, hold, rfl⟩ := hother
    apply h.eq_of_serial other old hold
    split at hserial
    · exact hserial
    · exact hserial

theorem Alone.confined_modify (h : disk.Alone location node) (change : Entry → Entry) :
  disk.Confined location location (disk.modify node.serial change)
  where
  node?_eq other hother _ := by
    rw [node?_modify]
    cases hnode : disk.node? other with
    | none => rfl
    | some old =>
      rw [Option.map_some, if_neg]
      intro hserial
      exact hother (h.eq_of_serial other old hnode hserial)
  serial other node' hnode _ := by
    rw [node?_modify, Option.map_eq_some_iff] at hnode
    obtain ⟨old, hold, rfl⟩ := hnode
    refine ⟨other, old, .inl rfl, hold, ?_⟩
    split
    · rfl
    · rfl
  workingDirectory := rfl

/-- Bytes written to a new file that is open are all that it holds. -/
theorem Alone.write {serial mode : Nat} (h : disk.Alone location ⟨serial, .file .empty mode⟩)
    (bytes : ByteArray) :
  (disk.write serial bytes).Alone location ⟨serial, .file bytes mode⟩
  := by
  have hoverwrite : overwrite .empty bytes = bytes := by simp [overwrite]
  have hwrite : (disk.write serial bytes).Alone location
      ⟨serial, .file (overwrite .empty bytes) mode⟩ := h.modify _
  rwa [hoverwrite] at hwrite

theorem Alone.confined_write {serial : Nat} {entry : Entry}
    (h : disk.Alone location ⟨serial, entry⟩) (bytes : ByteArray) :
  disk.Confined location location (disk.write serial bytes)
  := h.confined_modify _

theorem Alone.setMode {serial mode : Nat} {bytes : ByteArray}
    (h : disk.Alone location ⟨serial, .file bytes mode⟩) (bits : Nat) :
  (disk.setMode serial bits).Alone location ⟨serial, .file bytes bits⟩
  := h.modify _

theorem Alone.confined_setMode {serial : Nat} {entry : Entry}
    (h : disk.Alone location ⟨serial, entry⟩) (bits : Nat) :
  disk.Confined location location (disk.setMode serial bits)
  := h.confined_modify _

theorem confined_erase :
  disk.Confined location location (disk.erase location)
  where
  node?_eq other hother _ := by rw [node?_erase, Function.update_of_ne hother]
  serial other node h _ := by
    rw [node?_erase, Function.update_apply] at h
    split at h
    · contradiction
    · exact ⟨other, node, .inl rfl, h, rfl⟩
  workingDirectory := rfl

theorem confined_move (h : disk.node? source = some node) (target : Location) :
  disk.Confined source target ((disk.erase source).setNode target node)
  where
  node?_eq other hsource htarget := by
    rw [node?_setNode, Function.update_of_ne htarget, node?_erase, Function.update_of_ne hsource]
  serial other node' hnode _ := by
    rw [node?_setNode, Function.update_apply, node?_erase, Function.update_apply] at hnode
    split at hnode
    · cases hnode
      exact ⟨source, node, .inr rfl, h, rfl⟩
    · split at hnode
      · contradiction
      · exact ⟨other, node', .inl rfl, hnode, rfl⟩
  workingDirectory := rfl

/-! ### Ways -/

/-- A file stands at the location, or nothing. -/
def HasNoWay (disk : Disk) (location : Location) : Prop :=
  ∀ entry, disk.entry? location = some entry → ∃ content mode, entry = .file content mode

theorem hasNoWay_of_none (h : disk.entry? location = none) :
  disk.HasNoWay location
  := by
  intro entry hentry
  rw [h] at hentry
  contradiction

theorem hasNoWay_of_file {content : ByteArray} {mode : Nat}
    (h : disk.entry? location = some (.file content mode)) :
  disk.HasNoWay location
  := by
  intro entry hentry
  rw [h, Option.some.injEq] at hentry
  exact ⟨content, mode, hentry.symm⟩

theorem Alone.hasNoWay {serial mode : Nat} {content : ByteArray}
    (h : disk.Alone location ⟨serial, .file content mode⟩) (hne : location ≠ []) :
  disk.HasNoWay location
  := hasNoWay_of_file (h.entry?_eq hne)

/-- Changing places in which there are files takes no way away. -/
theorem Confined.waysKept (hconfined : disk.Confined source target after)
    (hsource : disk.HasNoWay source) (htarget : disk.HasNoWay target) :
  WaysKept disk after
  := by
  apply waysKept_of_kept _ hconfined.workingDirectory
  intro location entry hentry hfile
  rw [hconfined.entry?_eq, hentry]
  · rintro rfl
    obtain ⟨content, mode, rfl⟩ := hsource entry hentry
    exact hfile content mode rfl
  · rintro rfl
    obtain ⟨content, mode, rfl⟩ := htarget entry hentry
    exact hfile content mode rfl

theorem WaysKept.trans {middle : Disk} (h : WaysKept disk middle) (h' : WaysKept middle after) :
  WaysKept disk after
  where
  directory location hlocation := h'.directory location (h.directory location hlocation)
  link location target hlink := h'.link location target (h.link location target hlink)
  workingDirectory := h'.workingDirectory.trans h.workingDirectory

end

end Disk

end Excision
