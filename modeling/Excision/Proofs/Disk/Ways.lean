import Excision.Disk.Lookup
import Excision.Proofs.Disk.Entries
import Excision.Proofs.Path.Host
import Mathlib.Data.List.TakeWhile

/-!
# Ways

Where the names of a path lead, as a relation with one rule for each kind of name
(`Disk.Leads`).  A path leads to a place exactly if the rules say so (`place_eq_ok_iff`), and
its last name stands in a directory exactly if the names before it lead there
(`slot_eq_named_iff`).  Ways can be put together and taken apart, and they depend on nothing
but the directories and links of a disk: where these are kept, a way leads where it led
before (`Leads.of_waysKept`).
-/

namespace Excision

/-- A name that a path may have in a directory. -/
structure IsName (name : Text) : Prop where
  /-- It names something. -/
  not_void : HostPath.isVoidPart name = false
  /-- It does not lead upwards. -/
  ne_up : name ≠ ['.', '.']
  /-- It is not too long. -/
  byteLength_le : Text.byteLength name ≤ maxNameBytes

theorem IsName.ne_nil {name : Text} (h : IsName name) :
  name ≠ []
  := by
  rintro rfl
  have := h.not_void
  contradiction

namespace Disk

/-- The names lead from the directory `here` to a place.  At most `links` links may be
followed, and `left` of them have not been. -/
inductive Leads (disk : Disk) :
    (links : Nat) → (here : Location) → (names : List Text) → (left : Nat) → Place → Prop where
  /-- No name is left. -/
  | arrived {links : Nat} {here : Location} :
      Leads disk links here [] links (.existing here)
  /-- A name that names nothing stays in the directory. -/
  | void {links left : Nat} {here : Location} {name : Text} {names : List Text}
      {place : Place} (hhere : disk.isDirectory here = true)
      (hname : HostPath.isVoidPart name = true) (hrest : Leads disk links here names left place) :
      Leads disk links here (name :: names) left place
  /-- Two dots lead to the directory above. -/
  | up {links left : Nat} {here : Location} {names : List Text} {place : Place}
      (hhere : disk.isDirectory here = true)
      (hrest : Leads disk links here.dropLast names left place) :
      Leads disk links here (['.', '.'] :: names) left place
  /-- The last name may be free. -/
  | vacant {links : Nat} {here : Location} {name : Text} {names : List Text}
      (hhere : disk.isDirectory here = true) (hname : IsName name)
      (hentry : disk.entry? (here ++ [name]) = none) (hnames : ∀ part ∈ names, part = []) :
      Leads disk links here (name :: names) links
        (.vacant (here ++ [name]) (!names.isEmpty))
  /-- A link is replaced by the path that it holds. -/
  | link {links left : Nat} {here : Location} {name target : Text} {names : List Text}
      {place : Place} (hhere : disk.isDirectory here = true) (hname : IsName name)
      (hentry : disk.entry? (here ++ [name]) = some (.link target))
      (hrest : Leads disk links (if HostPath.isAbsolute target then [] else here)
        (Text.splitAt '/' target ++ names) left place) :
      Leads disk (links + 1) here (name :: names) left place
  /-- A file or a directory is entered. -/
  | entry {links left : Nat} {here : Location} {name : Text} {names : List Text}
      {place : Place} {entry : Entry} (hhere : disk.isDirectory here = true)
      (hname : IsName name) (hentry : disk.entry? (here ++ [name]) = some entry)
      (hlink : ∀ target, entry ≠ .link target)
      (hrest : Leads disk links (here ++ [name]) names left place) :
      Leads disk links here (name :: names) left place

/-! ### Walking -/

theorem walk_nil (disk : Disk) (links : Nat) (here : Location) :
  disk.walk true links here [] = .ok (.existing here)
  := by
  cases links with
  | zero => rfl
  | succ links => rfl

theorem walk_cons (disk : Disk) (links : Nat) (here : Location) (name : Text)
    (names : List Text) :
  disk.walk true links here (name :: names)
    = if disk.isDirectory here = false then .error .notDirectory
      else if HostPath.isVoidPart name then disk.walk true links here names
      else if name = ['.', '.'] then disk.walk true links here.dropLast names
      else if maxNameBytes < Text.byteLength name then .error .nameTooLong
      else
        match disk.entry? (here ++ [name]), links with
        | none, _ =>
          if ∀ part ∈ names, part = [] then .ok (.vacant (here ++ [name]) (!names.isEmpty))
          else .error .noSuchFile
        | some (.link _), 0 => .error .tooManyLinks
        | some (.link target), links + 1 =>
          disk.walk true links (if HostPath.isAbsolute target then [] else here)
            (Text.splitAt '/' target ++ names)
        | some _, links => disk.walk true links (here ++ [name]) names
  := by
  cases links with
  | zero =>
    simp only [walk, steps]
    cases disk.entry? (here ++ [name]) with
    | none => simp
    | some entry => cases entry <;> simp [walk]
  | succ links =>
    simp only [walk, steps]
    cases disk.entry? (here ++ [name]) with
    | none => simp
    | some entry => cases entry <;> simp [walk]

theorem Leads.walk_eq {disk : Disk} {links left : Nat} {here : Location}
    {names : List Text} {place : Place} (h : disk.Leads links here names left place) :
  disk.walk true links here names = .ok place
  := by
  induction h with
  | arrived => apply walk_nil
  | void hhere hname _ ih =>
    rw [walk_cons, if_neg (by simp [hhere]), if_pos hname]
    apply ih
  | up hhere _ ih =>
    rw [walk_cons, if_neg (by simp [hhere]), if_neg (by simp [HostPath.isVoidPart]),
      if_pos rfl]
    apply ih
  | vacant hhere hname hentry hnames =>
    rw [walk_cons, if_neg (by simp [hhere]), if_neg (by simp [hname.not_void]),
      if_neg hname.ne_up, if_neg (by simpa using hname.byteLength_le), hentry]
    simpa using hnames
  | link hhere hname hentry _ ih =>
    rw [walk_cons, if_neg (by simp [hhere]), if_neg (by simp [hname.not_void]),
      if_neg hname.ne_up, if_neg (by simpa using hname.byteLength_le), hentry]
    apply ih
  | @entry links left here name names place entry hhere hname hentry hlink _ ih =>
    rw [walk_cons, if_neg (by simp [hhere]), if_neg (by simp [hname.not_void]),
      if_neg hname.ne_up, if_neg (by simpa using hname.byteLength_le), hentry]
    cases entry with
    | file content mode => apply ih
    | directory mode => apply ih
    | link target => exact absurd rfl (hlink target)

theorem leads_of_walk {disk : Disk} {links : Nat} {here : Location} {names : List Text}
    {place : Place} (h : disk.walk true links here names = .ok place) :
  ∃ left, disk.Leads links here names left place
  := by
  -- The recursion is on the links that are left, and below that on the names.
  induction links using Nat.strongRecOn generalizing here names with
  | ind links ihlinks =>
  induction names generalizing here with
  | nil =>
    rw [walk_nil] at h
    cases h
    exact ⟨links, .arrived⟩
  | cons name names ihnames =>
    rw [walk_cons] at h
    split at h
    · contradiction
    next hhere =>
    rw [Bool.not_eq_false] at hhere
    split at h
    next hvoid =>
      obtain ⟨left, hrest⟩ := ihnames h
      exact ⟨left, .void hhere hvoid hrest⟩
    next hvoid =>
    split at h
    next hup =>
      subst hup
      obtain ⟨left, hrest⟩ := ihnames h
      exact ⟨left, .up hhere hrest⟩
    next hup =>
    split at h
    · contradiction
    next hlength =>
    have hname : IsName name := ⟨by simpa using hvoid, hup, by simpa using hlength⟩
    cases hentry : disk.entry? (here ++ [name]) with
    | none =>
      rw [hentry] at h
      simp only at h
      split at h
      next hnames =>
        cases h
        exact ⟨links, .vacant hhere hname hentry hnames⟩
      · contradiction
    | some entry =>
      rw [hentry] at h
      cases entry with
      | link target =>
        cases links with
        | zero => contradiction
        | succ links =>
          obtain ⟨left, hrest⟩ := ihlinks links (Nat.lt_succ_self links) h
          exact ⟨left, .link hhere hname hentry hrest⟩
      | file content mode =>
        obtain ⟨left, hrest⟩ := ihnames h
        exact ⟨left, .entry hhere hname hentry (by simp) hrest⟩
      | directory mode =>
        obtain ⟨left, hrest⟩ := ihnames h
        exact ⟨left, .entry hhere hname hentry (by simp) hrest⟩

/-! ### Ways put together and taken apart -/

section

variable {disk after : Disk} {links left : Nat} {here location : Location} {names : List Text}
  {place : Place}

/-- A way with a name left begins in a directory. -/
theorem Leads.isDirectory (h : disk.Leads links here names left place) (hne : names ≠ []) :
  disk.isDirectory here = true
  := by
  cases h with
  | arrived => contradiction
  | void hhere => apply hhere
  | up hhere => apply hhere
  | vacant hhere => apply hhere
  | link hhere => apply hhere
  | entry hhere => apply hhere

theorem Leads.append {front back : List Text} {middle : Nat} {directory : Location}
    (h : disk.Leads links here front middle (.existing directory))
    (h' : disk.Leads middle directory back left place) :
  disk.Leads links here (front ++ back) left place
  := by
  generalize hend : Place.existing directory = last at h
  induction h with
  | arrived =>
    cases hend
    apply h'
  | void hhere hname _ ih => exact .void hhere hname (ih h' hend)
  | up hhere _ ih => exact .up hhere (ih h' hend)
  | vacant => contradiction
  | link hhere hname hentry _ ih =>
    have hrest := ih h' hend
    rw [List.append_assoc] at hrest
    exact .link hhere hname hentry hrest
  | entry hhere hname hentry hlink _ ih => exact .entry hhere hname hentry hlink (ih h' hend)

/-- The first names of a way lead to an entry, from which the others lead on, if the way
ends at an entry or one of the others is not empty. -/
theorem Leads.split {front back : List Text}
    (h : disk.Leads links here (front ++ back) left place)
    (hback : ∀ location slash, place = .vacant location slash → ∃ part ∈ back, part ≠ []) :
  ∃ middle directory, disk.Leads links here front middle (.existing directory)
    ∧ disk.Leads middle directory back left place
  := by
  generalize hnames : front ++ back = names at h
  induction h generalizing front with
  | arrived =>
    obtain ⟨rfl, rfl⟩ := List.append_eq_nil_iff.mp hnames
    exact ⟨_, _, .arrived, .arrived⟩
  | void hhere hname hrest ih =>
    rcases List.append_eq_cons_iff.mp hnames with ⟨rfl, rfl⟩ | ⟨front, rfl, rfl⟩
    · exact ⟨_, _, .arrived, .void hhere hname hrest⟩
    · obtain ⟨middle, directory, hfront, hrest⟩ := ih hback rfl
      exact ⟨middle, directory, .void hhere hname hfront, hrest⟩
  | up hhere hrest ih =>
    rcases List.append_eq_cons_iff.mp hnames with ⟨rfl, rfl⟩ | ⟨front, rfl, rfl⟩
    · exact ⟨_, _, .arrived, .up hhere hrest⟩
    · obtain ⟨middle, directory, hfront, hrest⟩ := ih hback rfl
      exact ⟨middle, directory, .up hhere hfront, hrest⟩
  | vacant hhere hname hentry hempty =>
    rcases List.append_eq_cons_iff.mp hnames with ⟨rfl, rfl⟩ | ⟨front, rfl, rfl⟩
    · exact ⟨_, _, .arrived, .vacant hhere hname hentry hempty⟩
    · obtain ⟨part, hpart, hne⟩ := hback _ _ rfl
      exact absurd (hempty part (List.mem_append_right front hpart)) hne
  | link hhere hname hentry hrest ih =>
    rcases List.append_eq_cons_iff.mp hnames with ⟨rfl, rfl⟩ | ⟨front, rfl, rfl⟩
    · exact ⟨_, _, .arrived, .link hhere hname hentry hrest⟩
    · obtain ⟨middle, directory, hfront, hrest⟩ := ih hback (List.append_assoc _ _ _)
      exact ⟨middle, directory, .link hhere hname hentry hfront, hrest⟩
  | entry hhere hname hentry hlink hrest ih =>
    rcases List.append_eq_cons_iff.mp hnames with ⟨rfl, rfl⟩ | ⟨front, rfl, rfl⟩
    · exact ⟨_, _, .arrived, .entry hhere hname hentry hlink hrest⟩
    · obtain ⟨middle, directory, hfront, hrest⟩ := ih hback rfl
      exact ⟨middle, directory, .entry hhere hname hentry hlink hfront, hrest⟩

/-! ### What ways depend on -/

/-- Every directory and every link of the first disk is one of the second. -/
structure WaysKept (disk after : Disk) : Prop where
  /-- Directories stay directories. -/
  directory :
    ∀ location, disk.isDirectory location = true → after.isDirectory location = true
  /-- Links keep their paths. -/
  link : ∀ location target, disk.entry? location = some (.link target) →
    after.entry? location = some (.link target)
  /-- Relative paths begin where they began. -/
  workingDirectory : after.workingDirectory = disk.workingDirectory

theorem WaysKept.origin_eq (hkept : WaysKept disk after) (path : Text) :
  after.origin path = disk.origin path
  := by
  unfold origin
  rw [hkept.workingDirectory]

/-- What is no file decides the ways. -/
theorem waysKept_of_kept
    (hkept : ∀ other entry, disk.entry? other = some entry →
      (∀ content mode, entry ≠ .file content mode) → after.entry? other = some entry)
    (hworking : after.workingDirectory = disk.workingDirectory) :
  WaysKept disk after
  where
  directory other hother := by
    obtain ⟨mode, hmode⟩ := isDirectory_iff.mp hother
    exact isDirectory_iff.mpr ⟨mode, hkept other _ hmode (by simp)⟩
  link other target htarget := hkept other _ htarget (by simp)
  workingDirectory := hworking

/-- Disks that agree but for a place where the first has nothing or a file have the same
ways. -/
theorem waysKept_of_agree
    (hentry : ∀ other, other ≠ location → after.entry? other = disk.entry? other)
    (hlocation : ∀ entry, disk.entry? location = some entry → ∃ content mode,
      entry = .file content mode)
    (hworking : after.workingDirectory = disk.workingDirectory) :
  WaysKept disk after
  := by
  apply waysKept_of_kept _ hworking
  intro other entry hother hfile
  rw [hentry other, hother]
  rintro rfl
  obtain ⟨content, mode, rfl⟩ := hlocation entry hother
  exact hfile content mode rfl

theorem waysKept_of_entry?_eq (hentry : after.entry? = disk.entry?)
    (hworking : after.workingDirectory = disk.workingDirectory) :
  WaysKept disk after
  := waysKept_of_kept (fun other _ hother _ => by rw [hentry, hother]) hworking

/-- A way to an entry that is no link leads there on every disk that has the directories and
links on the way. -/
theorem Leads.of_waysKept (hkept : WaysKept disk after)
    (h : disk.Leads links here names left (.existing location))
    (hend : ∃ entry, after.entry? location = some entry ∧ ∀ target, entry ≠ .link target) :
  after.Leads links here names left (.existing location)
  := by
  generalize hplace : Place.existing location = place at h
  induction h with
  | arrived =>
    cases hplace
    exact .arrived
  | void hhere hname _ ih => exact .void (hkept.directory _ hhere) hname (ih hplace)
  | up hhere _ ih => exact .up (hkept.directory _ hhere) (ih hplace)
  | vacant => contradiction
  | link hhere hname hentry _ ih =>
    exact .link (hkept.directory _ hhere) hname (hkept.link _ _ hentry) (ih hplace)
  | @entry links left here name names place entry hhere hname hentry hlink hrest ih =>
    -- The entry is a directory, unless the way ends here.
    by_cases hnames : names = []
    · subst hnames
      cases hrest
      cases hplace
      obtain ⟨entry, hentry, hlink⟩ := hend
      exact .entry (hkept.directory _ hhere) hname hentry hlink .arrived
    · obtain ⟨mode, hmode⟩ :=
        isDirectory_iff.mp (hkept.directory _ (hrest.isDirectory hnames))
      exact .entry (hkept.directory _ hhere) hname hmode (by simp) (ih hplace)

end

/-! ### Paths -/

theorem place_eq_ok_iff {disk : Disk} {path : Text} {place : Place} :
  disk.place path = .ok place ↔
    checkPath path = .ok ()
      ∧ ∃ left, disk.Leads maxLinks (disk.origin path) (Text.splitAt '/' path) left place
  := by
  unfold Disk.place
  cases hcheck : checkPath path with
  | error cause => simp [bind, Except.bind]
  | ok =>
    simp only [bind, Except.bind, true_and]
    exact ⟨leads_of_walk, fun ⟨_, h⟩ => h.walk_eq⟩

theorem locate_eq_ok_iff {disk : Disk} {path : Text} {location : Location} :
  disk.locate path = .ok location ↔ disk.place path = .ok (.existing location)
  := by
  unfold locate
  cases hplace : disk.place path with
  | error cause => simp [bind, Except.bind]
  | ok place =>
    cases place with
    | existing other => simp [bind, Except.bind]
    | vacant other slash => simp [bind, Except.bind]

/-- The last name of a path is `name`, in the directory to which the names before it lead.
The path may end in a slash. -/
structure Names (disk : Disk) (path : Text) (directory : Location) (name : Text)
    (slash : Bool) : Prop where
  /-- The path can be looked up. -/
  checked : checkPath path = .ok ()
  /-- The names before the last lead to the directory. -/
  leads : ∃ front blanks left, Text.splitAt '/' path = front ++ name :: blanks
    ∧ (∀ part ∈ blanks, part = []) ∧ slash = !blanks.isEmpty
    ∧ disk.Leads maxLinks (disk.origin path) front left (.existing directory)
  /-- It is a directory. -/
  isDirectory : disk.isDirectory directory = true
  /-- The last name is one. -/
  isName : IsName name

/-- The last part of a path that is not empty, found from the end. -/
theorem dropWhile_reverse_eq {parts front blanks : List Text} {name : Text}
    (hparts : parts = front ++ name :: blanks) (hblanks : ∀ part ∈ blanks, part = [])
    (hname : name ≠ []) :
  parts.reverse.dropWhile List.isEmpty = name :: front.reverse
    ∧ (parts.reverse.head?.map List.isEmpty).getD false = !blanks.isEmpty
  := by
  have hreverse : parts.reverse = blanks.reverse ++ name :: front.reverse := by simp [hparts]
  have hempty : ∀ part ∈ blanks.reverse, part.isEmpty = true := by
    intro part hpart
    simp [hblanks part (List.mem_reverse.mp hpart)]
  rw [hreverse]
  constructor
  · rw [List.dropWhile_append_of_pos hempty, List.dropWhile_cons_of_neg (by simp [hname])]
  · cases hback : blanks.reverse with
    | nil => simp_all
    | cons part back =>
      have hne : blanks ≠ [] := by
        rintro rfl
        contradiction
      rw [hback] at hempty
      simp [hempty part, hne]

theorem exists_blanks {parts front : List Text} {name : Text}
    (h : parts.reverse.dropWhile List.isEmpty = name :: front) :
  ∃ blanks, parts = front.reverse ++ name :: blanks ∧ (∀ part ∈ blanks, part = [])
    ∧ name ≠ []
  := by
  have hsplit := List.takeWhile_append_dropWhile (p := List.isEmpty) (l := parts.reverse)
  rw [h] at hsplit
  refine ⟨(parts.reverse.takeWhile List.isEmpty).reverse, ?_, ?_, ?_⟩
  · have := congrArg List.reverse hsplit
    simpa using this.symm
  · intro part hpart
    have := List.mem_takeWhile_imp (List.mem_reverse.mp hpart)
    simpa using this
  · rintro rfl
    have := List.head_dropWhile_not List.isEmpty (l := parts.reverse) (by simp [h])
    simp [h] at this

theorem slot_eq_named_iff {disk : Disk} {path : Text} {location : Location} {slash : Bool} :
  disk.slot path = .ok (.named location slash) ↔
    ∃ directory name, location = directory ++ [name]
      ∧ disk.Names path directory name slash
  := by
  unfold slot
  constructor
  · intro h
    cases hcheck : checkPath path with
    | error cause =>
      rw [hcheck] at h
      contradiction
    | ok =>
    rw [hcheck] at h
    simp only [bind, Except.bind] at h
    split at h
    · cases h
    next name front hdrop =>
    obtain ⟨blanks, hparts, hblanks, hne⟩ := exists_blanks hdrop
    split at h
    · contradiction
    next place hwalk =>
    cases place with
    | vacant other slash => contradiction
    | existing directory =>
    simp only at h
    split at h
    · contradiction
    next hdirectory =>
    split at h
    · cases h
    next hspecial =>
    split at h
    · contradiction
    next hlength =>
    simp only [Except.ok.injEq, Slot.named.injEq] at h
    obtain ⟨left, hleads⟩ := leads_of_walk hwalk
    obtain ⟨-, hslash⟩ := dropWhile_reverse_eq hparts hblanks hne
    rw [hslash] at h
    refine ⟨directory, name, h.1.symm, hcheck, ?_, by simpa using hdirectory, ?_⟩
    · exact ⟨front.reverse, blanks, left, hparts, hblanks, h.2.symm, hleads⟩
    · simp only [Bool.or_eq_true, decide_eq_true_eq, not_or] at hspecial
      exact ⟨by simp [HostPath.isVoidPart, hne, hspecial.1], hspecial.2, by simpa using hlength⟩
  · rintro ⟨directory, name, rfl, hcheck, hleads, hdirectory, hname⟩
    obtain ⟨front, blanks, left, hparts, hblanks, rfl, hleads⟩ := hleads
    obtain ⟨hdrop, hslash⟩ := dropWhile_reverse_eq hparts hblanks hname.ne_nil
    have hdot : name ≠ ['.'] := by
      rintro rfl
      have := hname.not_void
      contradiction
    simp only [hcheck, bind, Except.bind, hdrop, List.reverse_reverse, hleads.walk_eq, hslash]
    rw [if_neg (by simp [hdirectory]), if_neg (by simp [hdot, hname.ne_up]),
      if_neg (by simpa using hname.byteLength_le)]

/-! ### The last name of a path -/

section

variable {disk after : Disk} {path name : Text} {directory : Location} {slash : Bool}

theorem Leads.blanks {links : Nat} {here : Location} {blanks : List Text}
    (hhere : disk.isDirectory here = true) (hblanks : ∀ part ∈ blanks, part = []) :
  disk.Leads links here blanks links (.existing here)
  := by
  induction blanks with
  | nil => exact .arrived
  | cons part blanks ih =>
    rw [List.forall_mem_cons] at hblanks
    obtain ⟨rfl, hblanks⟩ := hblanks
    exact .void hhere rfl (ih hblanks)

/-- A path leads to the entry of its last name, if that is no link.  A path that ends in a
slash needs a directory there. -/
theorem Names.locate_eq (h : disk.Names path directory name slash) {entry : Entry}
    (hentry : disk.entry? (directory ++ [name]) = some entry)
    (hlink : ∀ target, entry ≠ .link target)
    (hslash : slash = false ∨ disk.isDirectory (directory ++ [name]) = true) :
  disk.locate path = .ok (directory ++ [name])
  := by
  obtain ⟨front, blanks, left, hparts, hblanks, rfl, hleads⟩ := h.leads
  rw [locate_eq_ok_iff, place_eq_ok_iff, hparts]
  refine ⟨h.checked, left, hleads.append (.entry h.isDirectory h.isName hentry hlink ?_)⟩
  rcases hslash with hslash | hslash
  · rw [Bool.not_eq_false', List.isEmpty_iff] at hslash
    subst hslash
    exact .arrived
  · exact .blanks hslash hblanks

/-- A path leads to the place of its last name, if that is free. -/
theorem Names.place_eq (h : disk.Names path directory name slash)
    (hnone : disk.entry? (directory ++ [name]) = none) :
  disk.place path = .ok (.vacant (directory ++ [name]) slash)
  := by
  obtain ⟨front, blanks, left, hparts, hblanks, rfl, hleads⟩ := h.leads
  rw [place_eq_ok_iff, hparts]
  exact ⟨h.checked, left, hleads.append (.vacant h.isDirectory h.isName hnone hblanks)⟩

/-- A path that leads somewhere, and whose last part is a name, has that name in a
directory. -/
theorem Names.of_place {front : List Text} {place : Place}
    (hparts : Text.splitAt '/' path = front ++ [name])
    (hvoid : HostPath.isVoidPart name = false) (hup : name ≠ ['.', '.'])
    (h : disk.place path = .ok place) :
  ∃ directory, disk.Names path directory name false
    ∧ (place = .vacant (directory ++ [name]) false ∧ disk.entry? (directory ++ [name]) = none
      ∨ place = .existing (directory ++ [name]) ∧ disk.entry? (directory ++ [name]) ≠ none
      ∨ ∃ target, disk.entry? (directory ++ [name]) = some (.link target))
  := by
  obtain ⟨hcheck, left, hleads⟩ := place_eq_ok_iff.mp h
  rw [hparts] at hleads
  have hne : name ≠ [] := by
    rintro rfl
    contradiction
  obtain ⟨middle, directory, hfront, hlast⟩ := hleads.split fun _ _ _ => ⟨name, by simp, hne⟩
  have hnames (hdirectory : disk.isDirectory directory = true) (hname : IsName name) :
      disk.Names path directory name false
    := ⟨hcheck, ⟨front, [], middle, hparts, by simp, rfl, hfront⟩, hdirectory, hname⟩
  use directory
  cases hlast with
  | void _ h => simp [hvoid] at h
  | up => contradiction
  | vacant hdirectory hname hentry =>
    exact ⟨hnames hdirectory hname, .inl ⟨rfl, hentry⟩⟩
  | link hdirectory hname hentry =>
    exact ⟨hnames hdirectory hname, .inr (.inr ⟨_, hentry⟩)⟩
  | entry hdirectory hname hentry hlink hrest =>
    cases hrest
    exact ⟨hnames hdirectory hname, .inr (.inl ⟨rfl, by simp [hentry]⟩)⟩

/-- A path names the same on every disk that has the directories and links on the way. -/
theorem Names.of_waysKept (hkept : WaysKept disk after)
    (h : disk.Names path directory name slash) :
  after.Names path directory name slash
  where
  checked := h.checked
  leads := by
    obtain ⟨front, blanks, left, hparts, hblanks, hslash, hleads⟩ := h.leads
    obtain ⟨mode, hmode⟩ := isDirectory_iff.mp (hkept.directory _ h.isDirectory)
    refine ⟨front, blanks, left, hparts, hblanks, hslash, ?_⟩
    rw [hkept.origin_eq]
    apply hleads.of_waysKept hkept
    exact ⟨_, hmode, by simp⟩
  isDirectory := hkept.directory _ h.isDirectory
  isName := h.isName

theorem slot_of_waysKept (hkept : WaysKept disk after) {location : Location}
    (h : disk.slot path = .ok (.named location slash)) :
  after.slot path = .ok (.named location slash)
  := by
  obtain ⟨directory, name, rfl, hnames⟩ := slot_eq_named_iff.mp h
  exact slot_eq_named_iff.mpr ⟨directory, name, rfl, hnames.of_waysKept hkept⟩

/-- A path leads to the same entry on every disk that has the directories and links on the
way. -/
theorem locate_of_waysKept (hkept : WaysKept disk after) {location : Location}
    (h : disk.locate path = .ok location)
    (hend : ∃ entry, after.entry? location = some entry ∧ ∀ target, entry ≠ .link target) :
  after.locate path = .ok location
  := by
  rw [locate_eq_ok_iff, place_eq_ok_iff] at h ⊢
  obtain ⟨hcheck, left, hleads⟩ := h
  rw [hkept.origin_eq]
  exact ⟨hcheck, left, hleads.of_waysKept hkept hend⟩

theorem byteLength_le_of_sublist {part text : Text} (h : part.Sublist text) :
  Text.byteLength part ≤ Text.byteLength text
  := by
  induction h with
  | slnil => exact le_refl _
  | cons c _ ih =>
    rw [Text.byteLength]
    omega
  | cons_cons c _ ih =>
    rw [Text.byteLength, Text.byteLength]
    omega

/-- What is left of a path that can be looked up when characters are taken out can be looked
up. -/
theorem checkPath_of_sublist {part path : Text} (hpart : part.Sublist path) (hne : part ≠ [])
    (h : checkPath path = .ok ()) :
  checkPath part = .ok ()
  := by
  unfold checkPath at h ⊢
  split at h
  · contradiction
  next hnul =>
  split at h
  · contradiction
  split at h
  · contradiction
  next hlength =>
  have hle := byteLength_le_of_sublist hpart
  rw [if_neg fun hmem => hnul (hpart.subset hmem), if_neg hne, if_neg (by omega)]

/-- What a path that can be looked up begins with can be looked up. -/
theorem checkPath_of_append {head rest : Text} (hne : head ≠ [])
    (h : checkPath (head ++ rest) = .ok ()) :
  checkPath head = .ok ()
  := checkPath_of_sublist (List.sublist_append_left head rest) hne h

/-- What a path begins with leads to a directory, if its parts do. -/
theorem leadsToDirectory_of_leads {head rest : Text} {left : Nat} {location : Location}
    (hcheck : checkPath (head ++ rest) = .ok ()) (hne : head ≠ [])
    (hleads : disk.Leads maxLinks (disk.origin (head ++ rest)) (Text.splitAt '/' head) left
      (.existing location))
    (hdirectory : disk.isDirectory location = true) :
  disk.leadsToDirectory head = true
  := by
  have hlocate : disk.locate head = .ok location := by
    rw [locate_eq_ok_iff, place_eq_ok_iff]
    refine ⟨checkPath_of_append hne hcheck, left, ?_⟩
    unfold origin at hleads ⊢
    rw [HostPath.isAbsolute_append hne] at hleads
    apply hleads
  simp [Disk.leadsToDirectory, hlocate, hdirectory]

/-- All that stands before a slash of a path that leads somewhere leads to a directory. -/
theorem leadsToDirectory_of_locate {location : Location} (h : disk.locate path = .ok location)
    {head rest : Text} (hpath : path = head ++ '/' :: rest) (hne : head ≠ []) :
  disk.leadsToDirectory head = true
  := by
  obtain ⟨hcheck, left, hleads⟩ := place_eq_ok_iff.mp (locate_eq_ok_iff.mp h)
  subst hpath
  rw [Text.splitAt_append_cons] at hleads
  obtain ⟨middle, directory, hhead, hrest⟩ := hleads.split (by simp)
  exact leadsToDirectory_of_leads hcheck hne hhead (hrest.isDirectory (Text.splitAt_ne_nil _ _))

/-- All that stands before a slash of a path leads to a directory. -/
theorem Names.leadsToDirectory (h : disk.Names path directory name false) {head rest : Text}
    (hpath : path = head ++ '/' :: rest) (hne : head ≠ []) :
  disk.leadsToDirectory head = true
  := by
  obtain ⟨front, blanks, left, hparts, -, hslash, hleads⟩ := h.leads
  obtain rfl : blanks = [] := by simpa using hslash
  have hcheck := h.checked
  subst hpath
  rw [Text.splitAt_append_cons] at hparts
  -- The parts of the head are among those before the last name.
  obtain ⟨more, last, hrest⟩ : ∃ more last, Text.splitAt '/' rest = more ++ [last] :=
    ⟨_, _, (List.dropLast_concat_getLast (Text.splitAt_ne_nil '/' rest)).symm⟩
  rw [hrest, ← List.append_assoc] at hparts
  obtain ⟨rfl, -⟩ := List.append_inj' hparts rfl
  obtain ⟨middle, location, hhead, hmore⟩ := hleads.split (by simp)
  apply leadsToDirectory_of_leads hcheck hne hhead
  by_cases hnil : more = []
  · subst hnil
    cases hmore
    apply h.isDirectory
  · apply hmore.isDirectory hnil

end

end Disk

end Excision
