import Excision.Disk.Basic
import Mathlib.Logic.Function.Basic

/-!
# Entries after a change

What each change of a disk does to its entries.  Putting, creating and erasing a node change
the entry at its location and leave all others, and changing the node that has just been
created is the same as creating it changed (`modify_create`).
-/

namespace Excision

namespace Disk

variable {disk : Disk} {location : Location}

@[simp] theorem entry?_nil (disk : Disk) :
  disk.entry? [] = some (.directory rootMode)
  := if_pos rfl

theorem entry?_of_ne_nil (h : location ≠ []) :
  disk.entry? location = (disk.node? location).map Node.entry
  := if_neg h

theorem isDirectory_iff :
  disk.isDirectory location = true ↔ ∃ mode, disk.entry? location = some (.directory mode)
  := by
  unfold isDirectory
  split
  next mode h => simp [h]
  next h =>
    simp only [Bool.false_eq_true, false_iff, not_exists]
    exact h

/-! ### Nodes -/

/-- Looking up in a list of which only some keys are left finds these as before. -/
theorem lookup_filter (nodes : List (Location × Node)) (keep : Location → Bool)
    (location : Location) :
  (nodes.filter fun item => keep item.1).lookup location
    = if keep location = true then nodes.lookup location else none
  := by
  induction nodes with
  | nil => simp
  | cons item nodes ih =>
    obtain ⟨key, node⟩ := item
    cases hkey : keep key with
    | true =>
      rw [List.filter_cons_of_pos (by simp [hkey]), List.lookup_cons, List.lookup_cons, ih]
      by_cases hlocation : location = key
      · subst hlocation
        simp [hkey]
      · simp only [beq_false_of_ne hlocation]
    | false =>
      rw [List.filter_cons_of_neg (by simp [hkey]), ih, List.lookup_cons]
      by_cases hlocation : location = key
      · subst hlocation
        simp [hkey]
      · simp only [beq_false_of_ne hlocation]

theorem node?_setNode (node : Node) :
  (disk.setNode location node).node? = Function.update disk.node? location (some node)
  := by
  funext other
  unfold node? setNode
  rw [List.lookup_cons, lookup_filter _ (· != location), Function.update_apply]
  by_cases h : other = location
  · simp [h]
  · simp [beq_false_of_ne h, h]

theorem node?_erase :
  (disk.erase location).node? = Function.update disk.node? location none
  := by
  funext other
  rw [Function.update_apply, node?, erase, lookup_filter _ (· != location)]
  by_cases h : other = location
  · simp [h]
  · simp [h, node?]

theorem node?_create (entry : Entry) :
  (disk.create location entry).node?
    = Function.update disk.node? location (some ⟨disk.freshSerial, entry⟩)
  := node?_setNode _

theorem serial_lt_freshSerial {item : Location × Node} (h : item ∈ disk.nodes) :
  item.2.serial < disk.freshSerial
  := by
  unfold freshSerial
  generalize disk.nodes = nodes at h ⊢
  induction nodes with
  | nil => contradiction
  | cons head nodes ih =>
    rw [List.foldr_cons]
    rcases List.mem_cons.mp h with rfl | h
    · omega
    · have := ih h
      omega

/-- A node that has just been created is the only one of its serial number. -/
theorem modify_create (entry : Entry) (change : Entry → Entry) :
  (disk.create location entry).modify disk.freshSerial change
    = disk.create location (change entry)
  := by
  unfold create modify setNode
  simp only [List.map_cons, if_true, Disk.mk.injEq, and_true, List.cons.injEq, true_and]
  conv =>
    rhs
    rw [← List.map_id (List.filter _ _)]
  apply List.map_congr_left
  intro item hitem
  have := serial_lt_freshSerial (List.mem_filter.mp hitem).1
  rw [if_neg (by omega), id_eq]

/-! ### Entries -/

/-- A change of one node that is not the root changes the entry there. -/
theorem entry?_update {after : Disk} {node : Option Node} (hne : location ≠ [])
    (h : after.node? = Function.update disk.node? location node) :
  after.entry? = Function.update disk.entry? location (node.map Node.entry)
  := by
  funext other
  rw [Function.update_apply]
  by_cases hroot : other = []
  · subst hroot
    rw [if_neg hne.symm, entry?_nil, entry?_nil]
  · rw [entry?_of_ne_nil hroot, entry?_of_ne_nil hroot, h, Function.update_apply]
    split
    · rfl
    · rfl

theorem entry?_setNode (hne : location ≠ []) (node : Node) :
  Disk.entry? (disk.setNode location node)
    = Function.update disk.entry? location (some node.entry)
  := entry?_update hne (node?_setNode node)

theorem entry?_erase (hne : location ≠ []) :
  Disk.entry? (disk.erase location) = Function.update disk.entry? location none
  := entry?_update hne node?_erase

theorem entry?_create (hne : location ≠ []) (entry : Entry) :
  Disk.entry? (disk.create location entry) = Function.update disk.entry? location (some entry)
  := entry?_update hne (node?_create entry)

end Disk

end Excision
