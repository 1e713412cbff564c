import Excision.Proofs.Disk.Ways
import Excision.Proofs.Path.Spelling

/-!
# Ways of paths that are spelled alike

Of the parts of a path before the last ones only those that name something matter to where it
leads (`Leads.of_names_eq`).  Paths that are spelled alike lead to the same entries
(`leadsTo_of_alike`), and a path with another last name has it in the same directory
(`Names.withFileName`).
-/

namespace Excision

namespace Disk

/-! ### Paths that are spelled alike -/

/-- The path leads to the entry at a location, if it is not too long. -/
def LeadsTo (disk : Disk) (path : Text) (location : Location) : Prop :=
  ∃ left, disk.Leads maxLinks (disk.origin path) (Text.splitAt '/' path) left
    (.existing location)

/-- The location of a path is where it leads, if it can be looked up. -/
theorem locate_eq_ok_iff_leadsTo {disk : Disk} {path : Text} {location : Location} :
  disk.locate path = .ok location ↔ checkPath path = .ok () ∧ disk.LeadsTo path location
  := by
  rw [locate_eq_ok_iff, place_eq_ok_iff]
  rfl

variable {disk : Disk} {links left : Nat} {here location : Location}

/-- Parts that name nothing can be put before others. -/
theorem Leads.voids {voids back : List Text} {place : Place} (hback : back ≠ [])
    (hvoids : HostPath.names voids = []) (h : disk.Leads links here back left place) :
  disk.Leads links here (voids ++ back) left place
  := by
  rw [HostPath.names_eq_nil_iff] at hvoids
  induction voids with
  | nil => exact h
  | cons part voids ih =>
    rw [List.forall_mem_cons] at hvoids
    exact .void (h.isDirectory hback) hvoids.1 (ih hvoids.2)

/-- Parts that have the names of others have the first of them behind parts that name
nothing. -/
theorem exists_voids {parts front : List Text} {name : Text}
    (hname : HostPath.isVoidPart name = false)
    (h : HostPath.names (name :: front) = HostPath.names parts) :
  ∃ voids rest, parts = voids ++ name :: rest ∧ HostPath.names voids = []
    ∧ HostPath.names front = HostPath.names rest
  := by
  unfold HostPath.names at h ⊢
  rw [List.filter_cons_of_pos (by simp [hname]), eq_comm] at h
  obtain ⟨voids, rest, rfl, hvoids, -, hrest⟩ := List.filter_eq_cons_iff.mp h
  exact ⟨voids, rest, rfl, List.filter_eq_nil_iff.mpr hvoids, hrest.symm⟩

/-- Of the parts before the last ones only the names matter to where a way leads. -/
theorem Leads.of_names_eq {front front' back : List Text} (hback : back ≠ [])
    (hnames : HostPath.names front = HostPath.names front')
    (h : disk.Leads links here (front ++ back) left (.existing location)) :
  disk.Leads links here (front' ++ back) left (.existing location)
  := by
  generalize hparts : front ++ back = parts at h
  generalize hplace : Place.existing location = place at h ⊢
  induction h generalizing front front' with
  | arrived => simp [hback] at hparts
  | @void _ _ _ name _ _ hhere hname hrest ih =>
    rcases List.append_eq_cons_iff.mp hparts with ⟨rfl, rfl⟩ | ⟨front, rfl, rfl⟩
    · exact .voids hback hnames.symm (.void hhere hname hrest)
    · have hfront : HostPath.names (name :: front) = HostPath.names front := by
        simp [HostPath.names, hname]
      exact ih (hfront.symm.trans hnames) rfl hplace
  | up hhere hrest ih =>
    rcases List.append_eq_cons_iff.mp hparts with ⟨rfl, rfl⟩ | ⟨front, rfl, rfl⟩
    · exact .voids hback hnames.symm (.up hhere hrest)
    · obtain ⟨voids, rest, rfl, hvoids, hnames⟩ := exists_voids rfl hnames
      rw [List.append_assoc]
      exact .voids (by simp) hvoids (.up hhere (ih hnames rfl hplace))
  | vacant => contradiction
  | @link _ _ _ _ target _ _ hhere hname hentry hrest ih =>
    rcases List.append_eq_cons_iff.mp hparts with ⟨rfl, rfl⟩ | ⟨front, rfl, rfl⟩
    · exact .voids hback hnames.symm (.link hhere hname hentry hrest)
    · obtain ⟨voids, rest, rfl, hvoids, hnames⟩ := exists_voids hname.not_void hnames
      rw [List.append_assoc]
      have hparts := List.append_assoc (Text.splitAt '/' target) front back
      have hnames : HostPath.names (Text.splitAt '/' target ++ front)
          = HostPath.names (Text.splitAt '/' target ++ rest) := by simp [hnames]
      have hrest := ih hnames hparts hplace
      rw [List.append_assoc] at hrest
      exact .voids (by simp) hvoids (.link hhere hname hentry hrest)
  | entry hhere hname hentry hlink hrest ih =>
    rcases List.append_eq_cons_iff.mp hparts with ⟨rfl, rfl⟩ | ⟨front, rfl, rfl⟩
    · exact .voids hback hnames.symm (.entry hhere hname hentry hlink hrest)
    · obtain ⟨voids, rest, rfl, hvoids, hnames⟩ := exists_voids hname.not_void hnames
      rw [List.append_assoc]
      exact .voids (by simp) hvoids (.entry hhere hname hentry hlink (ih hnames rfl hplace))

/-- Paths that are spelled alike lead to the same entries. -/
theorem leadsTo_of_alike {path other : Text} (h : HostPath.Alike path other) :
  disk.LeadsTo path location ↔ disk.LeadsTo other location
  := by
  obtain ⟨front, front', back, hpath, hother, hnames, hback⟩ := h.parts
  unfold LeadsTo origin
  rw [hpath, hother, h.isAbsolute_eq]
  constructor
  · rintro ⟨left, h⟩
    exact ⟨left, h.of_names_eq hback hnames⟩
  · rintro ⟨left, h⟩
    exact ⟨left, h.of_names_eq hback hnames.symm⟩

/-! ### Another last name -/

/-- A path with another name in the place of its last one has that name in the same
directory. -/
theorem Names.withFileName {path name other : Text} {directory : Location} {slash : Bool}
    (h : disk.Names path directory name slash) (hother : IsName other) (hslash : '/' ∉ other)
    (hcheck : checkPath (HostPath.withFileName path other) = .ok ()) :
  disk.Names (HostPath.withFileName path other) directory other false
  := by
  obtain ⟨front, blanks, left, hparts, hblanks, -, hleads⟩ := h.leads
  have hvoid := h.isName.not_void
  have hname := HostPath.fileName?_of_splitAt hparts hblanks hvoid h.isName.ne_up
  obtain ⟨parent, hparent⟩ := HostPath.exists_parent? hparts hblanks hvoid
  have hrelative := HostPath.isAbsolute_of_notMem hslash
  obtain ⟨front', hparts', hnames⟩ := HostPath.splitAt_join_part parent hrelative
  rw [HostPath.names_parent? hparts hblanks hvoid hparent] at hnames
  rw [Text.splitAt_of_notMem hslash] at hparts'
  simp only [HostPath.withFileName, hname, hparent] at hcheck ⊢
  refine ⟨hcheck, ⟨front', [], ?_⟩, h.isDirectory, hother⟩
  have horigin : disk.origin (HostPath.join parent other) = disk.origin path := by
    unfold origin
    rw [HostPath.isAbsolute_join hrelative, HostPath.isAbsolute_eq_of_parent? hparent]
  rw [horigin]
  -- A slash at the end makes the parts before the name comparable, and leads nowhere else.
  have hstay : disk.Leads left directory [[]] left (.existing directory) :=
    .void h.isDirectory rfl .arrived
  have hblank := hleads.append hstay
  obtain ⟨middle, place, hfront, hlast⟩ :=
    (hblank.of_names_eq (by simp) hnames.symm).split (by simp)
  cases hlast with
  | void _ _ hrest =>
    cases hrest
    exact ⟨left, hparts', by simp, rfl, hfront⟩
  | link _ hname => exact absurd rfl hname.ne_nil
  | entry _ hname => exact absurd rfl hname.ne_nil

end Disk

end Excision
