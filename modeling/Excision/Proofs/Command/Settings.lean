import Excision.Proofs.Command.Document
import Excision.Proofs.Command.Words

/-!
# Settings in a job file and on the command line

Settings may be written in a job file, on the command line, or in part here and in part there.
However they are divided, the job of the command line laid over that of the job file is the job
that all the settings mean together (`WrittenSettings.exists_overlay_iff`).  Only the names of
strategies are not the same in both places: a job file must have them in small letters, and the
command line takes capital letters as well.  So a block is selected by divided settings exactly
if the command line alone selects it by all of them and the strategy, if it is written in the
job file, is written in small letters (`Invocation.preparesTo_divided_iff`).
-/

namespace Excision

/-! ### The names of strategies -/

namespace StrategyName

theorem lowerAscii_toText (name : StrategyName) :
  name.toText.lowerAscii = name.toText
  := by
  cases name with
  | _ => decide

/-- The exact name of a strategy is its name in small letters. -/
theorem ofText?_eq_some_iff_ofAnyCase? {text : Text} {name : StrategyName} :
  ofText? text = some name ↔ ofAnyCase? text = some name ∧ text.lowerAscii = text
  := by
  constructor
  · intro h
    have hsmall : text.lowerAscii = text := by
      rw [ofText?_eq_some_iff.mp h, lowerAscii_toText]
    refine ⟨?_, hsmall⟩
    rw [ofAnyCase?, hsmall, h]
  · rintro ⟨h, hsmall⟩
    rwa [ofAnyCase?, hsmall] at h

end StrategyName

/-! ### Divided settings -/

/-- The settings of a part of the job, the others left open. -/
def Job.restrict (job : Job) (part : Setting → Bool) : Job :=
  ofValues fun setting => if part setting then job.value? setting else none

namespace WrittenSettings

variable {settings : WrittenSettings} {strategyOf : Text → Option StrategyName} {job : Job}

/-- The strategy, if it is written, is written in small letters. -/
def SmallStrategy (settings : WrittenSettings) : Prop :=
  ∀ name ∈ settings .strategy, Text.lowerAscii name = name

/-- Settings mean the same with the exact names of strategies, if the strategy is written in
small letters. -/
theorem means_ofText?_iff :
  settings.Means StrategyName.ofText? job
    ↔ settings.Means StrategyName.ofAnyCase? job ∧ settings.SmallStrategy
  := by
  constructor
  · intro h
    constructor
    · refine ⟨h.none, ?_⟩
      intro setting written hwritten
      obtain ⟨value, hmeaning, hvalue⟩ := h.some setting written hwritten
      refine ⟨value, ?_, hvalue⟩
      cases setting with
      | strategy => exact (StrategyName.ofText?_eq_some_iff_ofAnyCase?.mp hmeaning).1
      | _ => exact hmeaning
    · intro name hname
      obtain ⟨value, hmeaning, -⟩ := h.some .strategy name hname
      exact (StrategyName.ofText?_eq_some_iff_ofAnyCase?.mp hmeaning).2
  · rintro ⟨h, hsmall⟩
    refine ⟨h.none, ?_⟩
    intro setting written hwritten
    obtain ⟨value, hmeaning, hvalue⟩ := h.some setting written hwritten
    refine ⟨value, ?_, hvalue⟩
    cases setting with
    | strategy =>
      exact StrategyName.ofText?_eq_some_iff_ofAnyCase?.mpr ⟨hmeaning, hsmall written hwritten⟩
    | _ => exact hmeaning

/-- A part of the settings means that part of the job. -/
theorem Means.restrict (h : settings.Means strategyOf job) (part : Setting → Bool) :
  (settings.restrict part).Means strategyOf (job.restrict part)
  := by
  constructor
  · intro setting hnone
    unfold WrittenSettings.restrict at hnone
    unfold Job.restrict
    rw [Job.value?_ofValues]
    split
    next hpart =>
      rw [if_pos hpart] at hnone
      apply h.none setting hnone
    next => rfl
  · intro setting written hwritten
    unfold WrittenSettings.restrict at hwritten
    unfold Job.restrict
    rw [Job.value?_ofValues]
    split at hwritten
    next hpart =>
      rw [if_pos hpart]
      apply h.some setting written hwritten
    next => contradiction

/-- A job sets an indent only if one is written. -/
theorem Means.setsIndent (h : settings.Means strategyOf job) (hsets : job.setsIndent = true) :
  (settings .indent).isSome ∨ (settings .indentWidth).isSome
  := by
  rw [Job.setsIndent, Bool.or_eq_true] at hsets
  apply hsets.imp (h.isSome .indent) (h.isSome .indentWidth)

section

variable {part : Setting → Bool} {lower upper : Job}
  (hindent : ¬ ((settings .indent).isSome ∧ (settings .indentWidth).isSome))
  (hlower : (settings.restrict part).Means strategyOf lower)
  (hupper : (settings.restrict (!part ·)).Means strategyOf upper)

include hindent hlower hupper

/-- Where at most one indent is written, only one of the parts sets an indent. -/
theorem Means.setsIndent_eq_false (hsets : upper.setsIndent = true) :
  lower.setsIndent = false
  := by
  by_contra hboth
  rw [Bool.not_eq_false] at hboth
  have hparts : ∀ setting, (settings.restrict part setting).isSome →
      ¬ (settings.restrict (!part ·) setting).isSome
    := by
    intro setting hin hout
    have hpart := (restrict_isSome hin).1
    have hother := (restrict_isSome hout).1
    simp [hpart] at hother
  rcases hlower.setsIndent hboth with htext | hwidth
  · rcases hupper.setsIndent hsets with htext' | hwidth'
    · apply hparts .indent htext htext'
    · apply hindent ⟨(restrict_isSome htext).2, (restrict_isSome hwidth').2⟩
  · rcases hupper.setsIndent hsets with htext' | hwidth'
    · apply hindent ⟨(restrict_isSome htext').2, (restrict_isSome hwidth).2⟩
    · apply hparts .indentWidth hwidth hwidth'

/-- What the parts of the settings mean, laid over one another, is what all of them mean. -/
theorem Means.overlay :
  settings.Means strategyOf (lower.overlay upper)
  := by
  have hvalue := Job.value?_overlay (hlower.setsIndent_eq_false hindent hupper)
  -- A setting is written in one of the parts, and left open by the job of the other.
  have hsplit : ∀ setting, (lower.overlay upper).value? setting
      = if part setting then lower.value? setting else upper.value? setting
    := by
    intro setting
    rw [hvalue setting]
    cases hpart : part setting with
    | true =>
      have hnone := hupper.none setting (by simp [WrittenSettings.restrict, hpart])
      simp [hnone]
    | false =>
      have hnone := hlower.none setting (by simp [WrittenSettings.restrict, hpart])
      simp [hnone]
  constructor
  · intro setting hnone
    rw [hsplit]
    split
    · apply hlower.none setting
      simp [WrittenSettings.restrict, hnone]
    · apply hupper.none setting
      simp [WrittenSettings.restrict, hnone]
  · intro setting written hwritten
    rw [hsplit]
    split
    next hpart =>
      apply hlower.some setting written
      simpa [WrittenSettings.restrict, hpart] using hwritten
    next hpart =>
      apply hupper.some setting written
      simpa [WrittenSettings.restrict, hpart] using hwritten

end

/-- The job that all the settings mean on the command line can be had from a job file with the
command line laid over it, exactly if the strategy is not in the job file with capital
letters. -/
theorem exists_overlay_iff {part : Setting → Bool} {whole : Job}
    (hindent : ¬ ((settings .indent).isSome ∧ (settings .indentWidth).isSome)) :
  (∃ lower upper, (settings.restrict part).Means StrategyName.ofText? lower
      ∧ (settings.restrict (!part ·)).Means StrategyName.ofAnyCase? upper
      ∧ lower.overlay upper = whole)
    ↔ settings.Means StrategyName.ofAnyCase? whole ∧ (settings.restrict part).SmallStrategy
  := by
  simp only [means_ofText?_iff]
  constructor
  · rintro ⟨lower, upper, ⟨hlower, hsmall⟩, hupper, rfl⟩
    exact ⟨hlower.overlay hindent hupper, hsmall⟩
  · rintro ⟨hwhole, hsmall⟩
    have hlower := hwhole.restrict part
    have hupper := hwhole.restrict (!part ·)
    exact ⟨_, _, ⟨hlower, hsmall⟩, hupper, (hlower.overlay hindent hupper).unique hwhole⟩

end WrittenSettings

/-! ### Selections by settings -/

/-- A job file that is named by its name alone leaves the path of its document as it is. -/
theorem Job.beside_here {path : Text} (here : HostPath.parent? path = some []) (job : Job) :
  job.beside path = job
  := by
  unfold beside
  rw [here]
  cases hfile : job.file with
  | none => rfl
  | some file =>
    dsimp only
    split
    · rfl
    · cases job
      simp_all [HostPath.join]

/-- A job file is loaded as the job that its text writes in the format of its extension. -/
theorem Storage.loadJob_eq_ok_iff {path : SlashPath} {session : Session} {format : JobFormat}
    {text : Text} (hformat : JobFormat.ofExtension? (JobFormat.extensionOf path) = some format)
    (htext : session.disk.readBytes path.text = .ok text.toBytes) {job : Job} :
  ((loadJob path).exec session).1 = .ok job ↔ format.jobOfText? text = some job
  := by
  have hread : ∀ other : Text, ((readText path).exec session).1 = .ok other ↔ other = text := by
    intro other
    rw [readText_eq_ok_iff, htext]
    constructor
    · intro h
      injection h with hbytes
      rw [← Option.some.injEq, ← Text.ofBytes?_toBytes other, ← hbytes, Text.ofBytes?_toBytes]
    · rintro rfl
      rfl
  rw [loadJob_of_some hformat]
  simp only [loadJobAs, Attempt.exec_bind_eq_ok_iff, hread, exists_eq_left, Attempt.exec_report,
    exists_const, true_and]
  cases format.jobOfText? text with
  | none => simp
  | some other => simp

namespace Selection

variable {session : Session} {path : SlashPath} {resolver : Resolver}

/-- Without a job file the settings alone select. -/
theorem prepare_without_jobFile (settings : Job) :
  ((⟨none, settings⟩ : Selection).prepare.exec session).1 = .ok (path, resolver)
    ↔ settings.Selects path resolver
  := by
  simp [prepare_eq_ok_iff_selects, baseJob]

/-- A job file that is named by its name alone selects by its job as it is, with the settings
laid over it. -/
theorem prepare_here {jobFile : Text} (here : HostPath.parent? jobFile = some [])
    (settings : Job) :
  ((⟨some jobFile, settings⟩ : Selection).prepare.exec session).1 = .ok (path, resolver)
    ↔ ∃ job, ((Storage.loadJob (.ofText jobFile)).exec session).1 = .ok job
      ∧ (job.overlay settings).Selects path resolver
  := by
  simp only [prepare_eq_ok_iff_selects, baseJob, Attempt.exec_bind_eq_ok_iff,
    Attempt.exec_onFiles, Attempt.mapError_eq_ok_iff, Attempt.exec_pure, Except.ok.injEq,
    Job.beside_here here, exists_eq_right]

end Selection

/-- The job file is in the working directory and has settings written in it, in the format of
its extension. -/
structure Session.HasJobFile (session : Session) (jobFile : Text) (settings : WrittenSettings) :
    Prop where
  /-- The job file is named by its name alone. -/
  here : HostPath.parent? jobFile = some []
  /-- Its text writes the settings. -/
  written : ∃ format text,
    JobFormat.ofExtension? (JobFormat.extensionOf (.ofText jobFile)) = some format
    ∧ session.disk.readBytes (SlashPath.ofText jobFile).text = .ok text.toBytes
    ∧ format.Writes settings text

theorem Session.HasJobFile.loadJob_eq_ok_iff {session : Session} {jobFile : Text}
    {settings : WrittenSettings} (h : session.HasJobFile jobFile settings) {job : Job} :
  ((Storage.loadJob (.ofText jobFile)).exec session).1 = .ok job
    ↔ settings.Means StrategyName.ofText? job
  := by
  obtain ⟨format, text, hformat, htext, hwrites⟩ := h.written
  rw [Storage.loadJob_eq_ok_iff hformat htext, hwrites.jobOfText?_eq_some_iff]

namespace Invocation

/-- The words are accepted, and select the document at a path and a resolver. -/
def PreparesTo (session : Session) (words : List Text) (path : SlashPath)
    (resolver : Resolver) : Prop :=
  ∃ invocation, ofWords none words = .ok invocation
    ∧ (invocation.command.selection.prepare.exec session).1 = .ok (path, resolver)

/-- Words that give settings select by the job that these mean. -/
theorem preparesTo_iff {place : OptionPlace} (hplace : place ≠ .program)
    {settings : WrittenSettings} {jobFile : Option Text} {words : List Text}
    (hwords : settings.GivenBy jobFile words)
    (hindent : ¬ ((settings .indent).isSome ∧ (settings .indentWidth).isSome))
    (hfile : settings .file ≠ some []) (hjobFile : jobFile ≠ some [])
    {session : Session} {path : SlashPath} {resolver : Resolver} :
  PreparesTo session (place.commandWord :: words) path resolver
    ↔ ∃ job, settings.Means StrategyName.ofAnyCase? job
      ∧ ((⟨jobFile, job⟩ : Selection).prepare.exec session).1 = .ok (path, resolver)
  := by
  have hselection := exists_ofWords_of_givenBy hplace hwords hindent hfile hjobFile
  constructor
  · rintro ⟨invocation, hinvocation, hprepare⟩
    obtain ⟨rfl, hmeans⟩ := (hselection _).mp ⟨invocation, hinvocation, rfl⟩
    exact ⟨_, hmeans, hprepare⟩
  · rintro ⟨job, hmeans, hprepare⟩
    obtain ⟨invocation, hinvocation, hsame⟩ := (hselection ⟨jobFile, job⟩).mpr ⟨rfl, hmeans⟩
    rw [← hsame] at hprepare
    exact ⟨invocation, hinvocation, hprepare⟩

/-- However settings are divided between a job file and the command line, they select what
all of them select on the command line, except that a strategy in the job file must be written
in small letters. -/
theorem preparesTo_divided_iff {place : OptionPlace} (hplace : place ≠ .program)
    {settings : WrittenSettings} {part : Setting → Bool} {jobFile : Text}
    {divided all : List Text} {session : Session}
    (hindent : ¬ ((settings .indent).isSome ∧ (settings .indentWidth).isSome))
    (hfile : settings .file ≠ some [])
    (hjob : session.HasJobFile jobFile (settings.restrict part))
    (hdivided : (settings.restrict (!part ·)).GivenBy (some jobFile) divided)
    (hall : settings.GivenBy none all) (path : SlashPath) (resolver : Resolver) :
  PreparesTo session (place.commandWord :: divided) path resolver
    ↔ PreparesTo session (place.commandWord :: all) path resolver
      ∧ (settings.restrict part).SmallStrategy
  := by
  have hjobFile : some jobFile ≠ some [] := by
    rw [Ne, Option.some.injEq]
    rintro rfl
    have here := hjob.here
    contradiction
  have hindent' : ¬ ((settings.restrict (!part ·) .indent).isSome
      ∧ (settings.restrict (!part ·) .indentWidth).isSome)
    := by
    rintro ⟨htext, hwidth⟩
    exact hindent ⟨(WrittenSettings.restrict_isSome htext).2,
      (WrittenSettings.restrict_isSome hwidth).2⟩
  have hfile' : settings.restrict (!part ·) .file ≠ some [] := by
    intro hempty
    unfold WrittenSettings.restrict at hempty
    split at hempty
    · contradiction
    · contradiction
  rw [preparesTo_iff hplace hdivided hindent' hfile' hjobFile,
    preparesTo_iff hplace hall hindent hfile (by simp)]
  simp only [Selection.prepare_here hjob.here, hjob.loadJob_eq_ok_iff,
    Selection.prepare_without_jobFile]
  constructor
  · rintro ⟨upper, hupper, lower, hlower, hselects⟩
    obtain ⟨hwhole, hsmall⟩ :=
      (WrittenSettings.exists_overlay_iff hindent).mp ⟨lower, upper, hlower, hupper, rfl⟩
    exact ⟨⟨_, hwhole, hselects⟩, hsmall⟩
  · rintro ⟨⟨whole, hwhole, hselects⟩, hsmall⟩
    obtain ⟨lower, upper, hlower, hupper, rfl⟩ :=
      (WrittenSettings.exists_overlay_iff hindent).mpr ⟨hwhole, hsmall⟩
    exact ⟨upper, hupper, lower, hlower, hselects⟩

/-! ### A strategy with a capital letter -/

/-- The settings of a block, with the strategy written with a capital letter. -/
def sampleSettings : WrittenSettings
  | .file => some ['d']
  | .startMarker => some ['S']
  | .boundaryMarker => some ['E']
  | .indentWidth => some (3 : Nat)
  | .strategy => some "Balanced".toList
  | _ => none

/-- The settings as they are written, the strategy first. -/
def sampleFields : List (Setting × Text) :=
  [(.strategy, "Balanced".toList), (.startMarker, ['S']), (.boundaryMarker, ['E']),
    (.indentWidth, ['3']), (.file, ['d'])]

/-- The job that the settings mean. -/
def sampleJob : Job where
  file := some ['d']
  startMarker := some ['S']
  boundaryMarker := some ['E']
  indentWidth := some 3
  strategy := some .balanced

/-- The resolver of the job. -/
def sampleResolver : Resolver where
  startMarker := ['S']
  boundaryMarker := ['E']
  indent := ⟨[' ', ' ', ' '], by decide, by decide⟩
  strategy := .balanced "<div".toList

/-- The words for all the settings. -/
def sampleWords : List Text := selectionWords none (sampleFields.take 4) (some ['d'])

/-- The name of a job file. -/
def sampleJobFile : Text := ['c', '.', 'y', 'm', 'l']

/-- The text of a job file with some fields. -/
def sampleText (fields : List (Setting × Text)) : Text :=
  fields.flatMap fun field => field.1.name ++ ':' :: ' ' :: field.2 ++ ['\n']

/-- A session with a job file that has some fields. -/
def sampleSession (fields : List (Setting × Text)) : Session where
  disk := {
    nodes := [([sampleJobFile], ⟨0, .file (sampleText fields).toBytes 0o644⟩)]
    nextSerial := 1 }

/-- The fields as plain scalars. -/
def sampleScalars (fields : List (Setting × Text)) : List (Setting × Yaml.Scalar) :=
  fields.map fun field => (field.1, { text := field.2 })

theorem sampleFields_list {V : Type} {spelling : Spelling V} (ofText : Text → V)
    (htext : ∀ text ∈ ["Balanced".toList, ['S'], ['E'], ['d']],
      spelling.text (ofText text) text)
    (hnumber : spelling.number (ofText ['3']) 3) :
  Lists spelling (sampleFields.map fun field => (field.1, ofText field.2)) sampleSettings
  := by
  simp only [List.forall_mem_cons] at htext
  obtain ⟨hstrategy, hstart, hboundary, hfile, -⟩ := htext
  constructor
  · rw [List.map_map]
    change (sampleFields.map Prod.fst).Nodup
    decide
  · simp only [sampleFields, List.map_cons, List.map_nil, List.forall_mem_cons]
    exact ⟨⟨_, rfl, hstrategy⟩, ⟨_, rfl, hstart⟩, ⟨_, rfl, hboundary⟩, ⟨_, rfl, hnumber⟩,
      ⟨_, rfl, hfile⟩, by simp⟩
  · intro setting hsome
    cases setting with
    | indent => contradiction
    | closingToken => contradiction
    | openToken => contradiction
    | expectOpening => contradiction
    | _ => simp [sampleFields]

theorem sampleFields_words :
  Lists wordSpelling sampleFields sampleSettings
  := by
  apply sampleFields_list id
  · intro text _
    rfl
  · change wordReader.number? ['3'] = some 3
    decide

theorem sampleFields_scalars :
  Lists Yaml.spelling (sampleScalars sampleFields) sampleSettings
  := by
  apply sampleFields_list fun text => ({ text } : Yaml.Scalar)
  · simp only [Yaml.spelling]
    decide
  · exact ⟨rfl, by decide, rfl, by decide⟩

theorem sampleSession_hasJobFile {fields : List (Setting × Text)} {settings : WrittenSettings}
    (hparse : Yaml.mappingOfText? (sampleText fields)
      = some (namedFields (sampleScalars fields)))
    (hfields : Lists Yaml.spelling (sampleScalars fields) settings) :
  (sampleSession fields).HasJobFile sampleJobFile settings
  := by
  refine ⟨by decide, .yaml, sampleText fields, by decide, ?_, .yaml hparse hfields⟩
  rfl

theorem sampleWords_give :
  sampleSettings.GivenBy none sampleWords
  := ⟨_, _, rfl, by decide, sampleFields_words⟩

/-- On the command line the strategy may have a capital letter. -/
theorem preparesTo_sampleWords (session : Session) :
  PreparesTo session (OptionPlace.show.commandWord :: sampleWords) ⟨['d']⟩ sampleResolver
  := by
  refine ⟨⟨false, .show ⟨none, sampleJob⟩⟩, by decide +kernel, ?_⟩
  apply (Selection.prepare_without_jobFile sampleJob).mpr
  exact ⟨rfl, by decide⟩

/-- The block is selected as well if all settings but the strategy are in the job file. -/
theorem preparesTo_divided_sample :
  PreparesTo (sampleSession sampleFields.tail)
    (OptionPlace.show.commandWord
      :: selectionWords (some sampleJobFile) (sampleFields.take 1) none)
    ⟨['d']⟩ sampleResolver
  := by
  have hjob : (sampleSession sampleFields.tail).HasJobFile sampleJobFile
      (sampleSettings.restrict (· != .strategy))
    := sampleSession_hasJobFile (by decide +kernel)
      (sampleFields_scalars.restrict (· != .strategy))
  have hdivided : (sampleSettings.restrict (!(· != Setting.strategy) ·)).GivenBy
      (some sampleJobFile) (selectionWords (some sampleJobFile) (sampleFields.take 1) none)
    := ⟨_, _, rfl, by decide, sampleFields_words.restrict fun setting => !(setting != .strategy)⟩
  apply (preparesTo_divided_iff (by decide) (by decide) (by decide) hjob hdivided sampleWords_give
    ⟨['d']⟩ sampleResolver).mpr
  refine ⟨preparesTo_sampleWords _, ?_⟩
  intro name hname
  contradiction

/-- The block is not selected if all settings are in the job file, for the strategy has a
capital letter there. -/
theorem not_preparesTo_capital :
  sampleSettings.GivenBy none sampleWords
    ∧ (sampleSession sampleFields).HasJobFile sampleJobFile sampleSettings
    ∧ PreparesTo (sampleSession sampleFields) (OptionPlace.show.commandWord :: sampleWords)
      ⟨['d']⟩ sampleResolver
    ∧ ∀ path resolver, ¬ PreparesTo (sampleSession sampleFields)
      (OptionPlace.show.commandWord :: selectionWords (some sampleJobFile) [] none) path resolver
  := by
  have hjob : (sampleSession sampleFields).HasJobFile sampleJobFile sampleSettings :=
    sampleSession_hasJobFile (by decide +kernel) sampleFields_scalars
  refine ⟨sampleWords_give, hjob, preparesTo_sampleWords _, ?_⟩
  rintro path resolver ⟨invocation, hinvocation, hprepare⟩
  have hwords : ofWords none
      (OptionPlace.show.commandWord :: selectionWords (some sampleJobFile) [] none)
        = .ok ⟨false, .show ⟨some sampleJobFile, {}⟩⟩
    := by decide +kernel
  rw [hwords] at hinvocation
  cases hinvocation
  obtain ⟨job, hload, -⟩ := (Selection.prepare_here hjob.here {}).mp hprepare
  have hsmall := (WrittenSettings.means_ofText?_iff.mp (hjob.loadJob_eq_ok_iff.mp hload)).2
  have hname : Text.lowerAscii "Balanced".toList = "Balanced".toList := hsmall _ rfl
  revert hname
  decide

end Invocation

end Excision
