import Excision.Proofs.Command.Selection
import Excision.Proofs.Disk.Spelling

/-!
# The document of a selection

A document that is given among the settings is taken as it is given, and one that a job file
names is looked for in the directory of the job file, if its path is not absolute
(`SlashPath.beside`).  The job file is read under its slash path, while its directory is that
of the text, so that the two agree only for a job file whose last name has no backslash
(`Selection.prepare_document`).
-/

namespace Excision

/-! ### Where the document is -/

namespace SlashPath

/-- Both paths lead to the same entries on every disk. -/
def LeadsAs (path other : SlashPath) : Prop :=
  ∀ disk location, Disk.LeadsTo disk path.text location ↔ disk.LeadsTo other.text location

/-- The path taken inside the directory of the file at `jobFile`, unless it is absolute. -/
def beside (path jobFile : SlashPath) : SlashPath :=
  ⟨HostPath.join ((HostPath.parent? jobFile.text).getD []) path.text⟩

end SlashPath

/-- The job looks for its document in the directory of the file at `path`. -/
theorem Job.file_beside (job : Job) (path : Text) :
  (job.beside path).file
    = job.file.map fun file => HostPath.join ((HostPath.parent? path).getD []) file
  := by
  unfold Job.beside
  cases hfile : job.file with
  | none => simp [hfile]
  | some file =>
    cases HostPath.parent? path with
    | none => simp [hfile, HostPath.join]
    | some directory =>
      by_cases habsolute : HostPath.isAbsolute file = true
      · simp [hfile, habsolute, HostPath.join]
      · simp [habsolute]

/-- The job names the document at a path and makes a resolver. -/
def Job.Selects (job : Job) (path : SlashPath) (resolver : Resolver) : Prop :=
  job.file.map SlashPath.ofText = some path ∧ job.resolver.value = .ok resolver

/-- What a resolver is made from does not include the document. -/
theorem Job.resolver_beside (job settings : Job) (path : Text) :
  ((job.beside path).overlay settings).resolver = (job.overlay settings).resolver
  := by
  unfold Job.beside
  split
  · split
    · rfl
    · rfl
  · rfl

/-- A job file has a name that does not lead to another directory. -/
theorem Storage.exists_name_of_loadJob {path : SlashPath} {session : Session} {job : Job}
    (h : ((Storage.loadJob path).exec session).1 = .ok job) :
  ∃ name, path.fileName? = some name ∧ HostPath.isVoidPart name = false
  := by
  have hformat : JobFormat.ofExtension? (JobFormat.extensionOf path) ≠ none := by
    intro hnone
    rw [loadJob_of_none hnone] at h
    contradiction
  unfold JobFormat.extensionOf SlashPath.extension? at hformat
  cases hname : path.fileName? with
  | none =>
    rw [hname] at hformat
    contradiction
  | some name =>
    refine ⟨name, rfl, ?_⟩
    rw [hname] at hformat
    by_contra hvoid
    rw [Bool.not_eq_false, HostPath.isVoidPart, Bool.or_eq_true, beq_iff_eq, beq_iff_eq] at hvoid
    rcases hvoid with rfl | rfl
    · contradiction
    · contradiction

namespace Selection

/-- The path of the document that a job file names. -/
structure DocumentNamed (jobFile file : Text) (path : SlashPath) : Prop where
  /-- An absolute path stands for itself, if it does not begin with a backslash. -/
  absolute : HostPath.isAbsolute (SlashPath.ofText file).text = true →
    file.head? ≠ some '\\' → path = .ofText file
  /-- Another one is taken in the directory of the job file, if the name of that file has no
  backslash. -/
  relative : HostPath.isAbsolute (SlashPath.ofText file).text = false →
    (∀ name, HostPath.fileName? jobFile = some name → '\\' ∉ name) →
    path.LeadsAs ((SlashPath.ofText file).beside (.ofText jobFile))

/-- A document path that is relative is taken in the directory of a job file whose name has no
backslash. -/
theorem leadsAs_beside {jobFile file name : Text}
    (hname : (SlashPath.ofText jobFile).fileName? = some name)
    (hvoid : HostPath.isVoidPart name = false)
    (hplain : ∀ name, HostPath.fileName? jobFile = some name → '\\' ∉ name)
    (hrelative : HostPath.isAbsolute (SlashPath.ofText file).text = false) :
  (SlashPath.ofText (HostPath.join ((HostPath.parent? jobFile).getD []) file)).LeadsAs
    ((SlashPath.ofText file).beside (.ofText jobFile))
  := by
  obtain ⟨front, blanks, hparts, hblanks, hback⟩ :=
    SlashPath.exists_parts_of_notMem hname hvoid hplain
  obtain ⟨parent, hparent⟩ := HostPath.exists_parent? hparts hblanks hvoid
  obtain ⟨parent', hparent'⟩ :=
    HostPath.exists_parent? (SlashPath.parts_of_splitAt hparts hblanks hback) hblanks hvoid
  have halike :=
    SlashPath.alike_join_parent? hparts hblanks hvoid hback hrelative hparent hparent'
  intro disk location
  rw [hparent, SlashPath.beside, hparent']
  apply Disk.leadsTo_of_alike halike

/-- A selection is prepared by its settings, laid over the job that it starts from. -/
theorem prepare_eq_ok_iff_selects {selection : Selection} {session : Session}
    {path : SlashPath} {resolver : Resolver} :
  (selection.prepare.exec session).1 = .ok (path, resolver)
    ↔ ∃ job, (selection.baseJob.exec session).1 = .ok job
      ∧ (job.overlay selection.settings).Selects path resolver
  := by
  unfold prepare
  simp only [Attempt.exec_bind_eq_ok_iff, Attempt.exec_report, exists_const, true_and]
  apply exists_congr
  intro job
  apply and_congr_right
  intro _
  unfold Job.Selects
  cases (job.overlay selection.settings).file with
  | none => simp
  | some file =>
    simp only [Attempt.exec_bind_eq_ok_iff, Attempt.exec_onBlock, Attempt.mapError_eq_ok_iff,
      Attempt.exec_pure, Except.ok.injEq, Prod.mk.injEq, Option.map_some, Option.some.injEq]
    constructor
    · rintro ⟨other, hresolver, rfl, rfl⟩
      exact ⟨rfl, hresolver⟩
    · rintro ⟨rfl, hresolver⟩
      exact ⟨resolver, hresolver, rfl, rfl⟩

/-- A selection is prepared to the document of its settings laid over those of its job
file. -/
theorem prepare_eq_ok_iff {selection : Selection} {jobFile : Text} {job : Job}
    {session : Session} {path : SlashPath} {resolver : Resolver}
    (hjobFile : selection.jobFile = some jobFile)
    (hload : ((Storage.loadJob (.ofText jobFile)).exec session).1 = .ok job) :
  (selection.prepare.exec session).1 = .ok (path, resolver)
    ↔ (∃ file, ((job.beside jobFile).overlay selection.settings).file = some file
        ∧ path = .ofText file)
      ∧ (job.overlay selection.settings).resolver.value = .ok resolver
  := by
  have hbase : ∀ base, (selection.baseJob.exec session).1 = .ok base
      ↔ job.beside jobFile = base
    := by
    intro base
    unfold baseJob
    rw [hjobFile]
    simp only [Attempt.exec_bind_eq_ok_iff, Attempt.exec_onFiles, Attempt.mapError_eq_ok_iff,
      hload, Attempt.exec_pure, Except.ok.injEq, exists_eq_left']
  simp only [prepare_eq_ok_iff_selects, hbase, exists_eq_left', Job.Selects,
    Option.map_eq_some_iff, Job.resolver_beside, eq_comm (a := path)]

/-- The document of a selection is the one given among the settings, or else the one that the
job file names. -/
theorem prepare_document {selection : Selection} {jobFile : Text} {job : Job}
    {session : Session} {resolver : Resolver} (hjobFile : selection.jobFile = some jobFile)
    (hload : ((Storage.loadJob (.ofText jobFile)).exec session).1 = .ok job) :
  ((∃ path, (selection.prepare.exec session).1 = .ok (path, resolver))
      ↔ (job.overlay selection.settings).file.isSome
        ∧ (job.overlay selection.settings).resolver.value = .ok resolver)
    ∧ ∀ path, (selection.prepare.exec session).1 = .ok (path, resolver) →
      (∀ file, selection.settings.file = some file → path = .ofText file)
      ∧ (selection.settings.file = none →
        ∃ file, job.file = some file ∧ DocumentNamed jobFile file path)
  := by
  simp only [prepare_eq_ok_iff hjobFile hload]
  have hfile : ((job.beside jobFile).overlay selection.settings).file
      = (selection.settings.file <|> job.file.map
          fun file => HostPath.join ((HostPath.parent? jobFile).getD []) file) := by
    rw [← Job.file_beside]
    rfl
  have hsome : (job.overlay selection.settings).file = (selection.settings.file <|> job.file) := rfl
  rw [hfile, hsome]
  constructor
  · cases selection.settings.file with
    | some file => simp
    | none => simp [Option.isSome_iff_exists]
  · rintro path ⟨⟨file, hpath, rfl⟩, -⟩
    constructor
    · intro given hgiven
      rw [hgiven] at hpath
      cases hpath
      rfl
    · intro hgiven
      rw [hgiven] at hpath
      obtain ⟨named, hnamed, rfl⟩ := Option.map_eq_some_iff.mp hpath
      refine ⟨named, hnamed, ?_, ?_⟩
      · intro habsolute hhead
        rw [HostPath.join, if_pos (SlashPath.isAbsolute_of_head habsolute hhead)]
      · intro hrelative hplain
        obtain ⟨name, hname, hvoid⟩ := Storage.exists_name_of_loadJob hload
        apply leadsAs_beside hname hvoid hplain hrelative

/-- A session on a disk with a job file in a directory, a document beside it and another of
the same name above. -/
def besideSession : Session where
  disk := {
    nodes := [
      ([['s']], ⟨0, .directory 0o755⟩),
      ([['s'], ['j', '.', 't', 'o', 'm', 'l']],
        ⟨1, .file (Text.toBytes ['f', 'i', 'l', 'e', '=', '"', 'd', '"']) 0o644⟩),
      ([['s'], ['d']], ⟨2, .file (Text.toBytes ['1']) 0o644⟩),
      ([['d']], ⟨3, .file (Text.toBytes ['2']) 0o644⟩)]
    nextSerial := 4 }

/-- A selection by a job file that names no more than the document. -/
def besideSelection (jobFile : Text) : Selection where
  jobFile := some jobFile
  settings := {
    startMarker := some ['S']
    boundaryMarker := some ['E']
    indent := some [' '] }

/-- The resolver of the selection. -/
def besideResolver : Resolver where
  startMarker := ['S']
  boundaryMarker := ['E']
  indent := ⟨[' '], by decide, by decide⟩

/-- The document of the job file `s/j.toml` is the one in the directory `s`. -/
theorem prepare_document_beside :
  ∃ path, ((besideSelection ['s', '/', 'j', '.', 't', 'o', 'm', 'l']).prepare.exec
      besideSession).1 = .ok (path, besideResolver)
    ∧ besideSession.disk.LeadsTo path.text [['s'], ['d']]
  := by
  have hload : ((Storage.loadJob (.ofText ['s', '/', 'j', '.', 't', 'o', 'm', 'l'])).exec
      besideSession).1 = .ok { file := some ['d'] } := by decide +kernel
  obtain ⟨hprepared, hdocument⟩ := @prepare_document
    (besideSelection ['s', '/', 'j', '.', 't', 'o', 'm', 'l']) _ _ _ besideResolver rfl hload
  obtain ⟨path, hpath⟩ := hprepared.mpr ⟨rfl, by decide⟩
  obtain ⟨file, hfile, hnamed⟩ := (hdocument path hpath).2 rfl
  cases hfile
  have hleads := hnamed.relative rfl (by decide) besideSession.disk [['s'], ['d']]
  exact ⟨path, hpath, hleads.mpr (Disk.locate_eq_ok_iff_leadsTo.mp (by decide)).2⟩

/-- The document of the job file `s/j.toml` is not the one in the directory `s` if the job
file is written with a backslash, though the same job file is read. -/
theorem prepare_document_above :
  let jobFile := ['s', '\\', 'j', '.', 't', 'o', 'm', 'l']
  ((Storage.loadJob (.ofText jobFile)).exec besideSession).1 = .ok { file := some ['d'] }
    ∧ ∃ path, ((besideSelection jobFile).prepare.exec besideSession).1
        = .ok (path, besideResolver)
      ∧ ¬ path.LeadsAs ((SlashPath.ofText ['d']).beside (.ofText jobFile))
  := by
  intro jobFile
  have hload : ((Storage.loadJob (.ofText jobFile)).exec besideSession).1
      = .ok { file := some ['d'] } := by decide +kernel
  refine ⟨hload, ⟨['d']⟩, (prepare_eq_ok_iff rfl hload).mpr ⟨⟨['d'], rfl, rfl⟩, by decide⟩, ?_⟩
  -- The path leads to the document above, and the one beside the job file does not.
  intro hleads
  have habove : besideSession.disk.LeadsTo ['d'] [['d']] :=
    (Disk.locate_eq_ok_iff_leadsTo.mp (by decide)).2
  have hlocate : besideSession.disk.locate ['s', '/', 'd'] = .ok [['d']] :=
    Disk.locate_eq_ok_iff_leadsTo.mpr ⟨by decide, (hleads _ _).mp habove⟩
  revert hlocate
  decide

end Selection

end Excision
