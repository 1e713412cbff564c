import Excision.Proofs.Storage.Replacement

/-!
# A temporary file that is there already

What stands under the name of the temporary file when a replacement begins is opened, not
made.  A file there is emptied and used, and a directory stops the replacement, so that in
both cases only the file to be replaced is changed, and it is changed only by a replacement
that succeeds, unless the device fails and the stale file is another name of that file.  A link
that can be opened leads the bytes to the file behind it, and then takes the place of the file
to be replaced (`Storage.writeBytes_taken`, `Storage.writeBytes_redirected`).
-/

namespace Excision

namespace Disk

section

variable {disk after : Disk} {location : Location} {path : Text} {bytes : ByteArray}
  {serial : Nat}

/-! ### Filling an open file -/

/-- The second disk is the first with bytes in the file of a serial number, which was there or
has been made. -/
structure Fills (disk : Disk) (serial : Nat) (bytes : ByteArray) (after : Disk) : Prop where
  /-- What had the serial number was a file, and holds the bytes. -/
  file : ∀ location node, disk.node? location = some node → node.serial = serial →
    ∃ content mode bits, node = ⟨serial, .file content mode⟩
      ∧ after.node? location = some ⟨serial, .file bytes bits⟩
  /-- Other nodes are what they were. -/
  kept : ∀ location node, disk.node? location = some node → node.serial ≠ serial →
    after.node? location = some node
  /-- If the file was there, free places are free. -/
  free : ∀ other node, disk.node? other = some node → node.serial = serial →
    ∀ location, disk.node? location = none → after.node? location = none
  /-- No way is new. -/
  waysKept_back : WaysKept after disk

/-- What is no file is what it was. -/
theorem Fills.entry?_eq (h : disk.Fills serial bytes after) {entry : Entry}
    (hentry : disk.entry? location = some entry)
    (hfile : ∀ content mode, entry ≠ .file content mode) :
  after.entry? location = some entry
  := by
  by_cases hne : location = []
  · rwa [hne, entry?_nil] at hentry ⊢
  rw [entry?_of_ne_nil hne, Option.map_eq_some_iff] at hentry ⊢
  obtain ⟨node, hnode, rfl⟩ := hentry
  refine ⟨node, h.kept location node hnode ?_, rfl⟩
  intro hserial
  obtain ⟨content, mode, bits, rfl, -⟩ := h.file location node hnode hserial
  exact hfile content mode rfl

theorem Fills.waysKept (h : disk.Fills serial bytes after) :
  WaysKept disk after
  := waysKept_of_kept (fun _ _ => h.entry?_eq) h.waysKept_back.workingDirectory.symm

theorem modify_modify (serial : Nat) (first second : Entry → Entry) :
  (disk.modify serial first).modify serial second = disk.modify serial (second ∘ first)
  := by
  unfold modify
  simp only [List.map_map, Disk.mk.injEq, and_true]
  apply List.map_congr_left
  intro item _
  by_cases h : item.2.serial = serial
  · simp [h]
  · simp [h]

/-- A file that has been emptied is filled with the bytes. -/
theorem fill_modify (disk : Disk) (serial mode : Nat) (bytes : ByteArray) (bits : Option Nat) :
  (disk.modify serial fun _ => .file .empty mode).fill serial bytes bits
    = disk.modify serial fun _ => .file bytes (bits.getD mode)
  := by
  have hoverwrite : overwrite .empty bytes = bytes := by simp [overwrite]
  have hwrite : (disk.modify serial fun _ => .file .empty mode).write serial bytes
      = disk.modify serial fun _ => .file bytes mode
    := by
    rw [write, modify_modify]
    simp only [Function.comp_def, hoverwrite]
  cases bits with
  | none => rw [fill, hwrite, Option.getD_none]
  | some bits => rw [fill, hwrite, setMode, modify_modify, Option.getD_some, Function.comp_def]

theorem fills_create (hne : location ≠ []) (hnone : disk.entry? location = none)
    (bytes : ByteArray) (mode : Nat) :
  disk.Fills disk.freshSerial bytes (disk.create location (.file bytes mode))
  := by
  have hserial {other : Location} {node : Node} (h : disk.node? other = some node) :
      node.serial ≠ disk.freshSerial
    := (serial_lt_freshSerial (mem_nodes_of_node? h)).ne
  constructor
  case file => exact fun other node h heq => absurd heq (hserial h)
  case kept =>
    intro other node h _
    rw [node?_create, Function.update_of_ne, h]
    rintro rfl
    simp [entry?_of_ne_nil hne, h] at hnone
  case free => exact fun other node h heq => absurd heq (hserial h)
  case waysKept_back => apply (withFile_create hne).waysKept_back

theorem WellFormed.fills_modify (hdisk : disk.WellFormed) {content : ByteArray} {mode : Nat}
    (hnode : disk.node? location = some ⟨serial, .file content mode⟩) (bytes : ByteArray)
    (bits : Nat) :
  disk.Fills serial bytes (disk.modify serial fun _ => .file bytes bits)
  := by
  -- What has the serial number is the file under another name.
  have hsame {other : Location} {node : Node} (h : disk.node? other = some node)
      (hserial : node.serial = serial) :
      node = ⟨serial, .file content mode⟩
    := by
    obtain ⟨number, entry⟩ := node
    obtain rfl : number = serial := hserial
    exact congrArg (Node.mk number) (hdisk.serial other location _ _ h hnode rfl)
  have hother {other : Location} {node : Node} (h : disk.node? other = some node)
      (hserial : node.serial ≠ serial) :
      (disk.modify serial fun _ => .file bytes bits).node? other = some node
    := by rw [node?_modify, h, Option.map_some, if_neg hserial]
  constructor
  case file =>
    intro other node h hserial
    refine ⟨content, mode, bits, hsame h hserial, ?_⟩
    rw [node?_modify, h, Option.map_some, if_pos hserial, hserial]
  case kept => exact fun other node => hother
  case free =>
    intro other node _ _ place hplace
    rw [node?_modify, hplace, Option.map_none]
  case waysKept_back =>
    refine waysKept_of_kept ?_ rfl
    intro other entry h hfile
    by_cases hne : other = []
    · rwa [hne, entry?_nil] at h ⊢
    rw [entry?_of_ne_nil hne, node?_modify, Option.map_eq_some_iff] at h
    obtain ⟨_, h, rfl⟩ := h
    obtain ⟨node, hnode, rfl⟩ := Option.map_eq_some_iff.mp h
    split at hfile
    · exact absurd rfl (hfile bytes bits)
    next hserial => rw [entry?_of_ne_nil hne, hnode, if_neg hserial, Option.map_some]

/-- What is opened for writing is filled. -/
theorem WellFormed.fills (hdisk : disk.WellFormed) {opened : Disk}
    (hopen : disk.openTruncated path = .ok (serial, opened)) (bytes : ByteArray)
    (mode : Option Nat) :
  disk.Fills serial bytes (opened.fill serial bytes mode)
  := by
  rcases openTruncated_eq_ok hopen with
    ⟨location, hplace, rfl, rfl⟩ | ⟨location, content, bits, -, hnode, rfl⟩
  · obtain ⟨-, left, hleads⟩ := place_eq_ok_iff.mp hplace
    obtain ⟨directory, name, rfl, -, -, -, hnone⟩ :=
      hleads.vacant_place fun part hpart => Text.notMem_of_mem_splitAt hpart
    rw [fill_create]
    apply fills_create (by simp) hnone
  · rw [fill_modify]
    apply hdisk.fills_modify hnode

/-- A file that has been opened is filled with nothing. -/
theorem fill_opened {opened : Disk} (hopen : disk.openTruncated path = .ok (serial, opened)) :
  opened.fill serial .empty none = opened
  := by
  rcases openTruncated_eq_ok hopen with
    ⟨location, -, rfl, rfl⟩ | ⟨location, content, bits, -, -, rfl⟩
  · rw [fill_create, Option.getD_none]
  · rw [fill_modify, Option.getD_none]

/-- What is opened under a name that is there, and is no link, is what stands there. -/
theorem serial_of_openTruncated {name : Text} {front : List Text} {node : Node} {opened : Disk}
    (hparts : Text.splitAt '/' path = front ++ [name])
    (hvoid : HostPath.isVoidPart name = false) (hup : name ≠ ['.', '.'])
    (hslot : disk.slot path = .ok (.named location false))
    (hnode : disk.node? location = some node) (hlink : ∀ target, node.entry ≠ .link target)
    (hopen : disk.openTruncated path = .ok (serial, opened)) :
  node.serial = serial
  := by
  have hplaced {place : Place} (hplace : disk.place path = .ok place) :
      place = .existing location
    := by
    obtain ⟨directory, hnames, hleads⟩ := Names.of_place hparts hvoid hup hplace
    rw [slot_eq_named_iff.mpr ⟨directory, name, rfl, hnames⟩, Except.ok.injEq,
      Slot.named.injEq] at hslot
    obtain ⟨rfl, -⟩ := hslot
    have hentry : disk.entry? (directory ++ [name]) = some node.entry := by
      rw [entry?_of_ne_nil (by simp), hnode, Option.map_some]
    rcases hleads with ⟨-, hnone⟩ | ⟨heq, -⟩ | ⟨target, htarget⟩
    · rw [hnone] at hentry
      contradiction
    · exact heq
    · rw [htarget, Option.some.injEq] at hentry
      exact absurd hentry.symm (hlink target)
  rcases openTruncated_eq_ok hopen with
    ⟨other, hplace, -⟩ | ⟨other, content, mode, hplace, hother, -⟩
  · cases hplaced hplace
  · cases hplaced hplace
    rw [hnode, Option.some.injEq] at hother
    rw [hother]

/-! ### The file to be replaced -/

/-- A location is that of the file that is replaced when bytes are written to a path. -/
inductive Targets (disk : Disk) (path : Text) (location : Location) : Prop where
  /-- The path resolves to it. -/
  | resolved (hresolves : disk.Resolves path location)
  /-- The path does not resolve, and its last name stands there once the directories above it
  are there. -/
  | unresolved {cause : Cause} (hcanonical : disk.canonicalize path = .error cause)
      (hslot : (disk.withParents path).2.slot path = .ok (.named location false))

theorem Targets.unique {other : Location} (h : disk.Targets path location)
    (h' : disk.Targets path other) :
  location = other
  := by
  cases h with
  | resolved hresolves =>
    cases h' with
    | resolved hresolves' => exact Except.ok.inj (hresolves.locate.symm.trans hresolves'.locate)
    | unresolved hcanonical => cases hcanonical.symm.trans hresolves.canonicalize
  | unresolved hcanonical hslot =>
    cases h' with
    | resolved hresolves => cases hcanonical.symm.trans hresolves.canonicalize
    | unresolved _ hslot' =>
      rw [hslot] at hslot'
      cases hslot'
      rfl

/-- The file to be replaced is the one that is named by the path over which the temporary file
is moved. -/
theorem WellFormed.targets_iff (hdisk : disk.WellFormed) {mode : Option Nat}
    (hmode : disk.targetMode path = .ok mode) (hne : location ≠ []) :
  disk.Targets path location ↔
    (disk.withParents (disk.target path)).2.slot (disk.target path) = .ok (.named location false)
  := by
  cases hcanonical : disk.canonicalize path with
  | ok resolved =>
    obtain ⟨other, hother, -⟩ := resolves_of_canonicalize hcanonical
    rw [withParents_target hother.locate hmode]
    constructor
    · rintro (hresolves | ⟨hunresolved, -⟩)
      · apply hdisk.slot_target hne hresolves hmode
      · cases hcanonical.symm.trans hunresolved
    · intro hslot
      obtain rfl := hdisk.eq_of_slot_target hother hmode hslot
      exact .resolved hother
  | error cause =>
    rw [(target_of_unresolved hcanonical).1]
    constructor
    · rintro (hresolves | ⟨-, hslot⟩)
      · cases hcanonical.symm.trans hresolves.canonicalize
      · exact hslot
    · exact .unresolved hcanonical

end

end Disk

namespace Storage

/-! ### What a stale entry can do -/

/-- A node stands under the name of the temporary file, beside the file that is to be replaced
once the directories above that are there. -/
structure TemporaryTaken (process : Nat) (disk : Disk) (path : Text) (stale : Location)
    (node : Node) : Prop where
  /-- The name stands there. -/
  slot : (disk.withParents (disk.target path)).2.slot (temporaryPath process (disk.target path))
    = .ok (.named stale false)
  /-- The node is there before the directories are made. -/
  node?_eq : disk.node? stale = some node

/-- The node under the name of the temporary file is a link that can be opened for writing: it
leads to a file, or to a free place in a directory. -/
structure Redirects (process : Nat) (disk : Disk) (path : Text) (node : Node) : Prop where
  /-- It is a link. -/
  link : ∃ target, node.entry = .link target
  /-- It can be opened. -/
  opens : ∃ answer, (disk.withParents (disk.target path)).2.openTruncated
    (temporaryPath process (disk.target path)) = .ok answer

/-- Bytes have been written to the file of a path, or could not be written, and what stood
under the name of the temporary file has had no effect on other files. -/
structure Guarded (path : Text) (bytes : ByteArray) (stale : Node) (faults : List (Option Fault))
    (before after : Disk) (result : Except FileError Unit) : Prop where
  /-- All but the file to be replaced and the stale node is what it was. -/
  kept : ∀ location node, before.node? location = some node → node.serial ≠ stale.serial →
    ¬ before.Targets path location → after.node? location = some node
  /-- If the write succeeds, the file to be replaced is a file that holds the bytes. -/
  written : result = .ok () → ∃ location mode, before.Targets path location
    ∧ after.entry? location = some (.file bytes mode)
  /-- If it fails, the file to be replaced is what it was, unless the device has failed and the
  stale node is that file. -/
  unchanged : ∀ error, result = .error error → ∀ location entry, before.Targets path location →
    before.entry? location = some entry →
    (∀ fault, some fault ∉ faults)
      ∨ (∀ node, before.node? location = some node → node.serial ≠ stale.serial) →
    after.entry? location = some entry
  /-- If it fails, nothing is new but directories. -/
  new : ∀ error, result = .error error → ∀ location entry, before.entry? location = none →
    after.entry? location = some entry → entry = .directory before.newDirectoryMode

section

variable {process : Nat} {path : Text} {bytes : ByteArray} {faults : List (Option Fault)}
  {disk after : Disk} {stale : Location} {node : Node}

/-- A write that stops before it opens the temporary file has made directories at most. -/
theorem guarded_of_grown {named : Text → Prop} {error : FileError}
    (hgrown : Disk.Grown named disk after)
    (hkept : ∀ location node, disk.node? location = some node →
      after.node? location = some node) :
  Guarded path bytes node faults disk after (.error error)
  where
  kept location other h _ _ := hkept location other h
  written := nofun
  unchanged _ _ location entry _ h _ := hgrown.kept location entry h
  new _ _ location entry hnone hentry := (hgrown.new location entry hnone hentry).1

/-- The stale entry is there once the directories above the file are there. -/
theorem TemporaryTaken.of_withParents (htaken : TemporaryTaken process disk path stale node)
    {result : Except Cause Unit} {middle : Disk}
    (hparents : disk.withParents (disk.target path) = (result, middle)) :
  middle.slot (temporaryPath process (disk.target path)) = .ok (.named stale false)
    ∧ middle.node? stale = some node
  := by
  have hslot := htaken.slot
  have hnode := Disk.withParents_node? htaken.node?_eq (disk.target path)
  rw [hparents] at hslot hnode
  exact ⟨hslot, hnode⟩

/-- A link that has been opened as the temporary file redirects the bytes. -/
theorem Redirects.of_openTruncated {middle : Disk} {answer : Nat × Disk} {target : Text}
    (hparents : disk.withParents (disk.target path) = (.ok (), middle))
    (hopen : middle.openTruncated (temporaryPath process (disk.target path)) = .ok answer)
    (hlink : node.entry = .link target) :
  Redirects process disk path node
  where
  link := ⟨target, hlink⟩
  opens := by
    rw [hparents]
    exact ⟨answer, hopen⟩

/-- What is opened as the temporary file is the stale entry, unless that is a link. -/
theorem TemporaryTaken.serial_eq (htaken : TemporaryTaken process disk path stale node)
    (hredirects : ¬ Redirects process disk path node) {serial : Nat} {middle opened : Disk}
    (hparents : disk.withParents (disk.target path) = (.ok (), middle))
    (hopen : middle.openTruncated (temporaryPath process (disk.target path))
      = .ok (serial, opened)) :
  node.serial = serial
  := by
  obtain ⟨front, hparts⟩ := splitAt_temporaryPath process (disk.target path)
  obtain ⟨hslot, hnode⟩ := htaken.of_withParents hparents
  apply Disk.serial_of_openTruncated hparts (temporaryName_not_void process _)
    (temporaryName_ne_up process _) hslot hnode _ hopen
  intro target hlink
  exact hredirects (.of_openTruncated hparents hopen hlink)

/-- A node that has another serial number is not the stale one, and is kept when the temporary
file is filled. -/
theorem TemporaryTaken.kept {serial : Nat} {part : ByteArray} {middle filled : Disk}
    {location : Location} {other : Node} (htaken : TemporaryTaken process disk path stale node)
    (hparents : disk.withParents (disk.target path) = (.ok (), middle))
    (hfills : middle.Fills serial part filled) (hserial : node.serial = serial)
    (hother : disk.node? location = some other) (hne : other.serial ≠ node.serial) :
  location ≠ stale ∧ filled.node? location = some other
  := by
  have hmiddle := Disk.withParents_node? hother (disk.target path)
  rw [hparents] at hmiddle
  refine ⟨?_, hfills.kept location other hmiddle (hserial ▸ hne)⟩
  rintro rfl
  rw [htaken.node?_eq, Option.some.injEq] at hother
  exact hne (by rw [hother])

/-! ### Success -/

/-- A successful write has filled a file, and what then stood under the name of the temporary
file stands in the place of the file to be replaced. -/
theorem Writes.moved (hdisk : disk.WellFormed)
    (h : Writes process path bytes disk faults (.ok ()) after)
    (htaken : TemporaryTaken process disk path stale node) :
  ∃ serial middle opened filled location moved,
    disk.withParents (disk.target path) = (.ok (), middle)
      ∧ middle.openTruncated (temporaryPath process (disk.target path)) = .ok (serial, opened)
      ∧ middle.Fills serial bytes filled ∧ disk.Targets path location
      ∧ filled.node? stale = some moved ∧ after.entry? location = some moved.entry
      ∧ ∀ other, other ≠ stale → other ≠ location → after.node? other = filled.node? other
  := by
  cases h with
  | @written mode serial middle opened after hmode hparents hopen hrename =>
  have hmiddle := hdisk.withParents (disk.target path)
  rw [hparents] at hmiddle
  obtain ⟨htemporary, -⟩ := htaken.of_withParents hparents
  have hfills := hmiddle.fills hopen bytes mode
  have hfilled : (opened.fill serial bytes mode).WellFormed := by
    have hopened := hmiddle.openTruncated hopen
    cases mode with
    | none => exact hopened.write serial bytes
    | some bits => exact (hopened.write serial bytes).setMode serial bits
  obtain ⟨source, location, moved, hsource, htarget, hmoved, -, -, hafter⟩ :=
    Disk.rename_eq_ok hrename
  rw [Disk.slot_of_waysKept hfills.waysKept htemporary, Except.ok.injEq,
    Slot.named.injEq] at hsource
  obtain ⟨rfl, -⟩ := hsource
  have hne : location ≠ [] := by
    obtain ⟨directory, name, rfl, -⟩ := Disk.slot_eq_named_iff.mp htarget
    simp
  have htargets : disk.Targets path location := by
    rw [hdisk.targets_iff hmode hne, hparents]
    apply Disk.slot_of_waysKept hfills.waysKept_back htarget
  refine ⟨serial, middle, opened, _, location, moved, hparents, hopen, hfills, htargets, hmoved,
    ?_⟩
  rcases hafter with ⟨rfl, other, hother, hserial⟩ | ⟨rfl, -⟩
  · -- Both names are names of one node already.
    refine ⟨?_, fun _ _ _ => rfl⟩
    rw [Disk.entry?_of_ne_nil hne, hother, Option.map_some,
      hfilled.serial location stale other moved hother hmoved hserial]
  · refine ⟨by rw [Disk.entry?_setNode hne, Function.update_self], ?_⟩
    intro other hstale hlocation
    rw [Disk.node?_setNode, Function.update_of_ne hlocation, Disk.node?_erase,
      Function.update_of_ne hstale]

/-- A stale entry does no harm to a write that succeeds, unless it is a link that is opened. -/
theorem Writes.guarded_of_ok (hdisk : disk.WellFormed)
    (h : Writes process path bytes disk faults (.ok ()) after)
    (htaken : TemporaryTaken process disk path stale node)
    (hredirects : ¬ Redirects process disk path node) :
  Guarded path bytes node faults disk after (.ok ())
  := by
  obtain ⟨serial, middle, opened, filled, location, moved, hparents, hopen, hfills, htargets,
    hmoved, hentry, hafter⟩ := h.moved hdisk htaken
  -- The stale entry is the file that has been filled.
  have hserial := htaken.serial_eq hredirects hparents hopen
  obtain ⟨-, hmiddle⟩ := htaken.of_withParents hparents
  obtain ⟨content, mode, bits, -, hfile⟩ := hfills.file stale node hmiddle hserial
  rw [hmoved, Option.some.injEq] at hfile
  constructor
  case kept =>
    intro other old hold hother hnot
    obtain ⟨hstale, hkept⟩ := htaken.kept hparents hfills hserial hold hother
    rw [hafter other hstale, hkept]
    rintro rfl
    exact hnot htargets
  case written => exact fun _ => ⟨location, bits, htargets, by rw [hentry, hfile]⟩
  case unchanged => nofun
  case new => nofun

/-- A stale link takes the place of the file to be replaced. -/
theorem Writes.link_moved (hdisk : disk.WellFormed)
    (h : Writes process path bytes disk faults (.ok ()) after)
    (htaken : TemporaryTaken process disk path stale node) {target : Text}
    (hlink : node.entry = .link target) :
  ∃ location, disk.Targets path location ∧ after.entry? location = some (.link target)
  := by
  obtain ⟨serial, middle, opened, filled, location, moved, hparents, -, hfills, htargets, hmoved,
    hentry, -⟩ := h.moved hdisk htaken
  obtain ⟨-, hmiddle⟩ := htaken.of_withParents hparents
  -- What has been filled is a file, and not the link.
  have hserial : node.serial ≠ serial := by
    intro hserial
    obtain ⟨content, mode, bits, rfl, -⟩ := hfills.file stale node hmiddle hserial
    contradiction
  rw [hfills.kept stale node hmiddle hserial, Option.some.injEq] at hmoved
  exact ⟨location, htargets, by rw [hentry, ← hmoved, hlink]⟩

/-! ### Failure -/

/-- A write that has filled the stale entry, in part or as a whole, and stops there does no
harm, whether it removes the entry or not. -/
theorem guarded_of_filled (htaken : TemporaryTaken process disk path stale node) {serial : Nat}
    {part : ByteArray} {middle filled : Disk} {error : FileError}
    (hparents : disk.withParents (disk.target path) = (.ok (), middle))
    (hfills : middle.Fills serial part filled) (hserial : node.serial = serial)
    (hafter : ∀ location, location ≠ stale → after.node? location = filled.node? location)
    (htarget : (∀ fault, some fault ∉ faults) → ∀ location entry, disk.Targets path location →
      disk.entry? location = some entry → after.entry? location = some entry) :
  Guarded path bytes node faults disk after (.error error)
  := by
  have hgrown := disk.withParents_grown (disk.target path)
  rw [hparents] at hgrown
  obtain ⟨-, hmiddle⟩ := htaken.of_withParents hparents
  have hkept {location : Location} {other : Node} (hother : disk.node? location = some other)
      (hne : other.serial ≠ node.serial) :
      after.node? location = some other
    := by
    obtain ⟨hstale, hfilled⟩ := htaken.kept hparents hfills hserial hother hne
    rw [hafter location hstale, hfilled]
  constructor
  case kept => exact fun location other hother hne _ => hkept hother hne
  case written =>
    intro hok
    cases hok
  case unchanged =>
    rintro _ _ location entry htargets hentry (hreliable | hother)
    · exact htarget hreliable location entry htargets hentry
    · by_cases hne : location = []
      · rwa [hne, Disk.entry?_nil] at hentry ⊢
      rw [Disk.entry?_of_ne_nil hne, Option.map_eq_some_iff] at hentry ⊢
      obtain ⟨other, hnode, rfl⟩ := hentry
      exact ⟨other, hkept hnode (hother other hnode), rfl⟩
  case new =>
    intro _ _ location entry hnone hentry
    have hne : location ≠ [] := by
      rintro rfl
      simp at hnone
    have hstale : location ≠ stale := by
      rintro rfl
      simp [Disk.entry?_of_ne_nil hne, htaken.node?_eq] at hnone
    rw [Disk.entry?_of_ne_nil hne, hafter location hstale, ← Disk.entry?_of_ne_nil hne] at hentry
    cases hold : middle.entry? location with
    | none =>
      rw [Disk.entry?_of_ne_nil hne, Option.map_eq_none_iff] at hold
      rw [Disk.entry?_of_ne_nil hne, hfills.free stale node hmiddle hserial location hold] at hentry
      contradiction
    | some old =>
      obtain ⟨rfl, -⟩ := hgrown.new location old hnone hold
      rw [hfills.entry?_eq hold (by simp), Option.some.injEq] at hentry
      exact hentry.symm

/-- A stale file that has been filled is removed, and nothing else. -/
theorem TemporaryTaken.remove_eq (htaken : TemporaryTaken process disk path stale node)
    {serial : Nat} {part : ByteArray} {middle filled : Disk}
    (hparents : disk.withParents (disk.target path) = (.ok (), middle))
    (hfills : middle.Fills serial part filled) (hserial : node.serial = serial) :
  filled.remove (temporaryPath process (disk.target path)) = filled.erase stale
    ∧ ∀ location, location ≠ stale →
      (filled.erase stale).node? location = filled.node? location
  := by
  obtain ⟨hslot, hmiddle⟩ := htaken.of_withParents hparents
  have htemporary := Disk.slot_of_waysKept hfills.waysKept hslot
  have hstale : stale ≠ [] := by
    obtain ⟨directory, name, rfl, -⟩ := Disk.slot_eq_named_iff.mp hslot
    simp
  obtain ⟨content, old, bits, -, hfile⟩ := hfills.file stale node hmiddle hserial
  constructor
  · simp [Disk.remove, htemporary, Disk.isDirectory, Disk.entry?_of_ne_nil hstale, hfile]
  · intro location hlocation
    rw [Disk.node?_erase, Function.update_of_ne hlocation]

/-- Where the stale entry has been filled but cannot be moved, the file to be replaced is a
directory. -/
theorem isDirectory_of_unmoved (hdisk : disk.WellFormed)
    (htaken : TemporaryTaken process disk path stale node) {mode : Option Nat} {serial : Nat}
    {middle filled : Disk} {cause : Cause} {location : Location}
    (hmode : disk.targetMode path = .ok mode)
    (hparents : disk.withParents (disk.target path) = (.ok (), middle))
    (hfills : middle.Fills serial bytes filled) (hserial : node.serial = serial)
    (hrename : filled.rename (temporaryPath process (disk.target path)) (disk.target path)
      = .error cause)
    (htargets : disk.Targets path location) :
  filled.isDirectory location = true
  := by
  by_contra hfree
  have hne : location ≠ [] := by
    rintro rfl
    simp [Disk.isDirectory] at hfree
  obtain ⟨hslot, hmiddle⟩ := htaken.of_withParents hparents
  obtain ⟨content, old, bits, -, hfile⟩ := hfills.file stale node hmiddle hserial
  have htarget := (hdisk.targets_iff hmode hne).mp htargets
  rw [hparents] at htarget
  obtain ⟨moved, hmoved⟩ := Disk.rename_of_slots (Disk.slot_of_waysKept hfills.waysKept hslot)
    (Disk.slot_of_waysKept hfills.waysKept htarget) hfile (by simp) (by simpa using hfree)
  rw [hmoved] at hrename
  contradiction

/-- A stale entry does no harm to a write that fails, unless it is a link that is opened. -/
theorem Writes.guarded_of_error {error : FileError} (hdisk : disk.WellFormed)
    (h : Writes process path bytes disk faults (.error error) after)
    (htaken : TemporaryTaken process disk path stale node)
    (hredirects : ¬ Redirects process disk path node) :
  Guarded path bytes node faults disk after (.error error)
  := by
  have hgrown := disk.withParents_grown (disk.target path)
  have hkept : ∀ location other, disk.node? location = some other →
      (disk.withParents (disk.target path)).2.node? location = some other
    := fun _ _ hother => Disk.withParents_node? hother _
  have hmiddle := hdisk.withParents (disk.target path)
  cases h with
  | unknown =>
    apply guarded_of_grown (Disk.Grown.refl (fun _ => False) disk)
    exact fun _ _ hother => hother
  | unparented _ _ hparents =>
    rw [hparents] at hgrown hkept
    apply guarded_of_grown hgrown hkept
  | unopened _ hparents =>
    rw [hparents] at hgrown hkept
    apply guarded_of_grown hgrown hkept
  | unlocked hfault _ hparents hopen =>
    have hserial := htaken.serial_eq hredirects hparents hopen
    rw [hparents] at hmiddle
    have hfills := hmiddle.fills hopen .empty none
    rw [Disk.fill_opened hopen] at hfills
    exact guarded_of_filled htaken hparents hfills hserial (fun _ _ => rfl)
      fun hreliable => absurd hfault (hreliable _)
  | @unfilled _ bits _ part _ _ _ hfault _ hparents hopen =>
    have hserial := htaken.serial_eq hredirects hparents hopen
    rw [hparents] at hmiddle
    have hfills := hmiddle.fills hopen part bits
    obtain ⟨hremove, hafter⟩ := htaken.remove_eq hparents hfills hserial
    rw [hremove]
    exact guarded_of_filled htaken hparents hfills hserial hafter
      fun hreliable => absurd hfault (hreliable _)
  | unreleased hfault _ hparents hopen =>
    have hserial := htaken.serial_eq hredirects hparents hopen
    rw [hparents] at hmiddle
    exact guarded_of_filled htaken hparents (hmiddle.fills hopen bytes _) hserial
      (fun _ _ => rfl) fun hreliable => absurd hfault (hreliable _)
  | @unmoved mode _ _ _ _ hmode hparents hopen hrename =>
    have hserial := htaken.serial_eq hredirects hparents hopen
    rw [hparents] at hmiddle hgrown
    have hfills := hmiddle.fills hopen bytes mode
    obtain ⟨hremove, hafter⟩ := htaken.remove_eq hparents hfills hserial
    rw [hremove]
    refine guarded_of_filled htaken hparents hfills hserial hafter ?_
    intro _ location entry htargets hentry
    -- A directory is not touched.
    obtain ⟨bits, hbits⟩ := Disk.isDirectory_iff.mp
      (isDirectory_of_unmoved hdisk htaken hmode hparents hfills hserial hrename htargets)
    have hold := hfills.waysKept_back.directory location (Disk.isDirectory_iff.mpr ⟨bits, hbits⟩)
    obtain ⟨old, hold⟩ := Disk.isDirectory_iff.mp hold
    rw [hgrown.kept location entry hentry, Option.some.injEq] at hold
    subst hold
    rw [← hfills.entry?_eq (hgrown.kept location _ hentry) (by simp)]
    by_cases hne : location = []
    · rw [hne, Disk.entry?_nil, Disk.entry?_nil]
    rw [Disk.entry?_of_ne_nil hne, Disk.entry?_of_ne_nil hne, hafter]
    rintro rfl
    obtain ⟨-, hnode⟩ := htaken.of_withParents hparents
    obtain ⟨content, mode, bits', -, hfile⟩ := hfills.file location node hnode hserial
    simp [Disk.entry?_of_ne_nil hne, hfile] at hbits

/-- What stands under the name of the temporary file does no harm, unless it is a link that
can be opened.  If it is one, and the write succeeds, the link has taken the place of the file
that was to be replaced. -/
theorem writeBytes_taken {path : SlashPath} {session : Session}
    (hdisk : session.disk.WellFormed)
    (htaken : TemporaryTaken process session.disk path.text stale node) :
  let run := (writeBytes process path bytes).exec session
  (¬ Redirects process session.disk path.text node →
      Guarded path.text bytes node session.faults session.disk run.2.disk run.1)
    ∧ (Redirects process session.disk path.text node → run.1 = .ok () →
      ¬ Guarded path.text bytes node session.faults session.disk run.2.disk run.1
        ∧ ∃ location, session.disk.Targets path.text location
          ∧ run.2.disk.entry? location = some node.entry)
  := by
  obtain ⟨hwrites, -⟩ := exec_writeBytes session process path bytes
  dsimp only
  generalize (writeBytes process path bytes).exec session = run at hwrites ⊢
  constructor
  · intro hredirects
    cases hresult : run.1 with
    | error error =>
      rw [hresult] at hwrites
      apply hwrites.guarded_of_error hdisk htaken hredirects
    | ok =>
      rw [hresult] at hwrites
      apply hwrites.guarded_of_ok hdisk htaken hredirects
  · intro hredirects hresult
    obtain ⟨target, htarget⟩ := hredirects.link
    rw [hresult] at hwrites
    obtain ⟨location, htargets, hentry⟩ := hwrites.link_moved hdisk htaken htarget
    rw [htarget]
    refine ⟨?_, location, htargets, hentry⟩
    intro hguarded
    obtain ⟨other, mode, hother, hfile⟩ := hguarded.written hresult
    rw [htargets.unique hother, hfile] at hentry
    cases hentry

end

/-- A disk with two files, and an entry under the name of the temporary file of the first. -/
def staleDisk (entry : Entry) : Disk :=
  ((({} : Disk).create [['d']] (.file ⟨#[66]⟩ 0o600)).create [['f']]
    (.file ⟨#[67]⟩ 0o644)).create [temporaryName 7 ['d']] entry

theorem wellFormed_staleDisk (entry : Entry) :
  (staleDisk entry).WellFormed
  := by
  have hd : IsName ['d'] := ⟨rfl, by decide, by decide⟩
  have hf : IsName ['f'] := ⟨rfl, by decide, by decide⟩
  have ht : IsName (temporaryName 7 ['d']) := ⟨rfl, by decide, by decide⟩
  have hroot (disk : Disk) : disk.isDirectory [] = true := by simp [Disk.isDirectory]
  have hfirst := (Disk.wellFormed_empty []).create (hroot _) hd (by decide) rfl
    (.file ⟨#[66]⟩ 0o600)
  have hsecond := hfirst.create (hroot _) hf (by decide) rfl (.file ⟨#[67]⟩ 0o644)
  exact hsecond.create (hroot _) ht (by decide) rfl entry

theorem staleDisk_taken (entry : Entry) :
  TemporaryTaken 7 (staleDisk entry) ['d'] [temporaryName 7 ['d']] ⟨2, entry⟩
  where
  slot := by
    have htarget : (staleDisk entry).target ['d'] = ['/', 'd'] := rfl
    have hparents : (staleDisk entry).withParents ['/', 'd'] = (.ok (), staleDisk entry) := rfl
    rw [htarget, hparents]
    rfl
  node?_eq := rfl

/-- A stale file does no harm, and a stale link takes the place of the file. -/
theorem writeBytes_taken_sample :
  let run (entry : Entry) := (writeBytes 7 ⟨['d']⟩ ⟨#[65]⟩).exec { disk := staleDisk entry }
  let file : Entry := .file ⟨#[68]⟩ 0o644
  (run file).1 = .ok ()
    ∧ Guarded ['d'] ⟨#[65]⟩ ⟨2, file⟩ [] (staleDisk file) (run file).2.disk (run file).1
    ∧ ∃ location, (staleDisk (.link ['f'])).Targets ['d'] location
      ∧ Disk.entry? (run (.link ['f'])).2.disk location = some (.link ['f'])
  := by
  have hfile := @writeBytes_taken 7 ⟨#[65]⟩ _ _ ⟨['d']⟩
    { disk := staleDisk (.file ⟨#[68]⟩ 0o644) } (wellFormed_staleDisk _) (staleDisk_taken _)
  have hlink := @writeBytes_taken 7 ⟨#[65]⟩ _ _ ⟨['d']⟩ { disk := staleDisk (.link ['f']) }
    (wellFormed_staleDisk _) (staleDisk_taken _)
  dsimp only at hfile hlink ⊢
  refine ⟨rfl, hfile.1 ?_, (hlink.2 ⟨⟨['f'], rfl⟩, _, rfl⟩ rfl).2⟩
  rintro ⟨⟨target, htarget⟩, -⟩
  contradiction

/-- A link under the name of the temporary file has the write change the file behind the link:
it succeeds, and the file that it was to replace is the link. -/
theorem writeBytes_redirected :
  let disk := staleDisk (.link ['f'])
  let run := (writeBytes 7 ⟨['d']⟩ ⟨#[65]⟩).exec { disk }
  disk.WellFormed ∧ TemporaryTaken 7 disk ['d'] [temporaryName 7 ['d']] ⟨2, .link ['f']⟩
    ∧ run.1 = .ok () ∧ disk.readBytes ['f'] = .ok ⟨#[67]⟩
    ∧ run.2.disk.readBytes ['f'] = .ok ⟨#[65]⟩
    ∧ run.2.disk.entry? [['d']] = some (.link ['f'])
    ∧ ¬ Guarded ['d'] ⟨#[65]⟩ ⟨2, .link ['f']⟩ [] disk run.2.disk run.1
  := by
  refine ⟨wellFormed_staleDisk _, staleDisk_taken _, rfl, rfl, rfl, rfl, ?_⟩
  intro hguarded
  obtain ⟨location, mode, htargets, hfile⟩ := hguarded.written rfl
  obtain rfl : location = [['d']] := htargets.unique (.resolved ⟨rfl, rfl⟩)
  cases hfile

end Storage

end Excision
