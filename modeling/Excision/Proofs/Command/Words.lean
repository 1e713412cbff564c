import Excision.Command.Words
import Excision.Proofs.Job.Written

/-!
# Settings in words

The words of a command that give settings: each setting in a word of its own, as a long option
with its value behind an equals sign, and the document behind two hyphens.  Such words are read
by assigning one setting after the other (`Draft.words_selectionWords`), so that they make the
selection whose settings are meant by what is written, with the strategy found under its name
in capital or small letters (`Invocation.exists_ofWords_of_givenBy`).
-/

namespace Excision

/-! ### Words that give settings -/

namespace CommandOption

/-- The name of an option of a selection. -/
def longName (option : CommandOption) : Text :=
  ((ofSelection.find? fun entry => entry.1 == option).map fun entry => entry.2.1).getD []

/-- The word for an option with its value. -/
def word (option : CommandOption) (value : Text) : Text :=
  '-' :: '-' :: (option.longName ++ '=' :: value)

end CommandOption

/-- The words for a job file, for options that set something, and for a document. -/
def selectionWords (jobFile : Option Text) (flags : List (Setting × Text))
    (document : Option Text) : List Text :=
  jobFile.toList.map (CommandOption.word .jobFile)
    ++ flags.map (fun flag => CommandOption.word (.set flag.1) flag.2)
    ++ document.toList.flatMap fun path => [['-', '-'], path]

/-- The word that names the command whose options stand at a place. -/
def OptionPlace.commandWord : OptionPlace → Text
  | program => []
  | remove => "remove".toList
  | «show» => "show".toList

/-- Words spell texts as they are, and numbers in digits. -/
def wordSpelling : Spelling Text where
  text word text := word = text
  number word n := wordReader.number? word = some n

theorem wordReader_understands :
  wordReader.Understands wordSpelling StrategyName.ofAnyCase?
  where
  text := by
    rintro _ text rfl
    exact ⟨rfl, rfl, rfl⟩
  number _ _ h := ⟨rfl, h⟩

/-- The words give the job file, if there is one, and the written settings: the document
behind two hyphens, and the others by their options in any order. -/
def WrittenSettings.GivenBy (settings : WrittenSettings) (jobFile : Option Text)
    (words : List Text) : Prop :=
  ∃ (flags : List (Setting × Text)) (document : Option Text),
    words = selectionWords jobFile flags document
    ∧ (∀ flag ∈ flags, flag.1 ≠ .file)
    ∧ Lists wordSpelling (flags ++ document.toList.map (Setting.file, ·)) settings

/-! ### Reading one word after the other -/

/-- The option of a word is found under its name. -/
theorem CommandOption.ofName?_longName {place : OptionPlace} (hplace : place ≠ .program)
    {option : CommandOption} (hvalue : option.takesValue = true) (hfile : option ≠ .set .file) :
  '=' ∉ option.longName ∧ ofName? place option.longName = some option
  := by
  cases option with
  | help => contradiction
  | version => contradiction
  | verbose => contradiction
  | dryRun => contradiction
  | jobFile =>
    cases place with
    | program => contradiction
    | _ => decide
  | set setting =>
    cases place with
    | program => contradiction
    | _ =>
      cases setting with
      | file => contradiction
      | _ => decide

namespace Draft

/-- A word for an option with its value assigns the value. -/
theorem words_word {place : OptionPlace} (hplace : place ≠ .program) (option : CommandOption)
    (hvalue : option.takesValue = true) (hfile : option ≠ .set .file) (draft : Draft)
    (value : Text) (rest : List Text) :
  Draft.words place draft none (option.word value :: rest)
    = (draft.assign option value).bind fun draft => Draft.words place draft none rest
  := by
  obtain ⟨hequals, hname⟩ := CommandOption.ofName?_longName hplace hvalue hfile
  have htake : (option.longName ++ '=' :: value).takeWhile (· != '=') = option.longName := by
    rw [List.takeWhile_append_of_pos, List.takeWhile_cons_of_neg (by simp), List.append_nil]
    intro c hc
    rw [bne_iff_ne]
    rintro rfl
    apply hequals hc
  have hlong : draft.long place (option.longName ++ '=' :: value)
      = (draft.assign option value).map fun draft => (draft, none)
    := by
    unfold long
    simp only [htake, hname, List.drop_left]
    rfl
  have hoptions : draft.options? place (option.word value)
      = some ((draft.assign option value).map fun draft => (draft, none))
    := congrArg some hlong
  have hword : option.word value ≠ ['-', '-'] := by simp [CommandOption.word]
  rw [Draft.words.eq_def]
  dsimp only
  rw [if_neg hword, hoptions]
  cases draft.assign option value with
  | error refusal => rfl
  | ok draft => rfl

/-- The draft with settings assigned to it, the earliest first. -/
def assignAll (draft : Draft) (fields : List (Setting × Text)) : Except Refusal Draft :=
  fields.foldlM (fun draft field => draft.assign (.set field.1) field.2) draft

theorem assignAll_cons (draft : Draft) (field : Setting × Text)
    (fields : List (Setting × Text)) :
  draft.assignAll (field :: fields)
    = (draft.assign (.set field.1) field.2).bind fun draft => draft.assignAll fields
  := List.foldlM_cons

/-- The words for options and a document assign them one after the other. -/
theorem words_flags {place : OptionPlace} (hplace : place ≠ .program)
    {flags : List (Setting × Text)} (hflags : ∀ flag ∈ flags, flag.1 ≠ .file)
    (document : Option Text) (draft : Draft) :
  Draft.words place draft none (selectionWords none flags document)
    = draft.assignAll (flags ++ document.toList.map (Setting.file, ·))
  := by
  induction flags generalizing draft with
  | nil =>
    cases document with
    | none => rfl
    | some path => rfl
  | cons flag flags ih =>
    rw [List.forall_mem_cons] at hflags
    have hword := words_word hplace (.set flag.1) rfl (by simpa using hflags.1) draft
      flag.2 (selectionWords none flags document)
    calc
      Draft.words place draft none (selectionWords none (flag :: flags) document)
        = (draft.assign (.set flag.1) flag.2).bind fun draft =>
            Draft.words place draft none (selectionWords none flags document) := hword
      _ = (draft.assign (.set flag.1) flag.2).bind fun draft =>
            draft.assignAll (flags ++ document.toList.map (Setting.file, ·)) := by
        simp only [ih hflags.2]
      _ = draft.assignAll (flag :: flags ++ document.toList.map (Setting.file, ·)) := by
        rw [List.cons_append, assignAll_cons]

/-- A setting that has not been given can be assigned if its value can be read. -/
theorem assign_set {draft : Draft} {setting : Setting} {value : Text}
    (hgiven : .set setting ∉ draft.given) (hfile : setting = .file → value ≠ []) :
  draft.assign (.set setting) value
    = match draft.settings.set? wordReader setting value with
      | some settings =>
        .ok { draft with given := .set setting :: draft.given, settings := settings }
      | none => .error .misuse
  := by
  have hmark : draft.mark (.set setting)
      = .ok { draft with given := .set setting :: draft.given }
    := by
    simp [mark, hgiven]
  have hempty : ¬ (decide (setting = .file) && decide (value = [])) = true := by
    simpa using hfile
  simp only [assign, hmark]
  change (if (decide (setting = .file) && decide (value = [])) = true then _ else _) = _
  rw [if_neg hempty]
  cases draft.settings.set? wordReader setting value with
  | none => rfl
  | some settings => rfl

/-- Settings that have not been given can be assigned if their values can be read. -/
theorem exists_assignAll_iff {draft : Draft} {fields : List (Setting × Text)}
    (hnodup : (fields.map Prod.fst).Nodup)
    (hgiven : ∀ field ∈ fields, .set field.1 ∉ draft.given)
    (hfile : ∀ field ∈ fields, field.1 = .file → field.2 ≠ []) (jobFile : Option Text)
    (settings : Job) :
  (∃ result, draft.assignAll fields = .ok result
      ∧ result.jobFile = jobFile ∧ result.settings = settings)
    ↔ draft.jobFile = jobFile ∧ Job.setAll? wordReader draft.settings fields = some settings
  := by
  induction fields generalizing draft with
  | nil => simp [assignAll, Job.setAll?, pure, Except.pure]
  | cons field fields ih =>
    rw [List.map_cons, List.nodup_cons] at hnodup
    rw [List.forall_mem_cons] at hgiven hfile
    rw [assignAll_cons, assign_set hgiven.1 hfile.1, Job.setAll?]
    cases hset : draft.settings.set? wordReader field.1 field.2 with
    | none => simp [Except.bind]
    | some next =>
      apply ih hnodup.2 _ hfile.2
      intro other hother
      rw [List.mem_cons, CommandOption.set.injEq, not_or]
      refine ⟨?_, hgiven.2 other hother⟩
      intro hsame
      apply hnodup.1
      rw [← hsame]
      apply List.mem_map_of_mem hother

/-- The draft with the job file given, if there is one. -/
def ofJobFile : Option Text → Draft
  | none => {}
  | some path => { given := [.jobFile], jobFile := some path }

/-- The words of a selection give the job file first and then assign the settings. -/
theorem words_selectionWords {place : OptionPlace} (hplace : place ≠ .program)
    {flags : List (Setting × Text)} (hflags : ∀ flag ∈ flags, flag.1 ≠ .file)
    {jobFile : Option Text} (hjobFile : jobFile ≠ some []) (document : Option Text) :
  Draft.words place {} none (selectionWords jobFile flags document)
    = (ofJobFile jobFile).assignAll (flags ++ document.toList.map (Setting.file, ·))
  := by
  rw [← words_flags hplace hflags]
  cases jobFile with
  | none => rfl
  | some path =>
    have hassign : assign {} .jobFile path = .ok (ofJobFile (some path)) := by
      have hpath : path ≠ [] := by simpa using hjobFile
      unfold assign
      change (if path = [] then _ else _) = _
      rw [if_neg hpath]
      rfl
    have hword := words_word hplace .jobFile rfl (by simp) {} path
      (selectionWords none flags document)
    rw [hassign] at hword
    exact hword

/-- A draft without two indents makes a selection of its job file and its settings. -/
theorem selection_eq_ok_iff {draft : Draft} {selection : Selection} :
  draft.selection none = .ok selection
    ↔ ¬ (draft.settings.indent.isSome = true ∧ draft.settings.indentWidth.isSome = true)
      ∧ draft.jobFile = selection.jobFile ∧ draft.settings = selection.settings
  := by
  have hselection : draft.selection none
      = if (draft.settings.indent.isSome && draft.settings.indentWidth.isSome) = true
        then .error .misuse else .ok ⟨draft.jobFile, draft.settings⟩
    := by
    unfold Draft.selection
    cases draft.settings.file with
    | none => rfl
    | some path => rfl
  obtain ⟨jobFile, settings⟩ := selection
  rw [hselection, ← Bool.and_eq_true]
  split
  next h => simp [h]
  next h => simp [h]

end Draft

/-! ### Reading a command -/

/-- The block that a command is about. -/
def Command.selection : Command → Selection
  | .remove selection _ => selection
  | .show selection => selection

namespace Invocation

/-- The command of a place, about the selection of a draft. -/
def ofSelection (place : OptionPlace) (draft : Draft) (selection : Selection) : Invocation where
  verbose := draft.given.contains .verbose
  command :=
    match place with
    | .remove => .remove selection (draft.given.contains .dryRun)
    | _ => .show selection

/-- The words behind the name of a command are its options. -/
theorem ofWords_commandWord {place : OptionPlace} (hplace : place ≠ .program)
    (words : List Text) :
  ofWords none (place.commandWord :: words)
    = (Draft.words place {} none words).bind fun draft =>
        (draft.selection none).map fun selection => ofSelection place draft selection
  := by
  cases place with
  | program => contradiction
  | remove =>
    change (Draft.words .remove {} none words).bind _ = _
    cases Draft.words .remove {} none words with
    | error refusal => rfl
    | ok draft =>
      change (draft.selection none).bind _ = (draft.selection none).map _
      cases draft.selection none with
      | _ => rfl
  | «show» =>
    change (Draft.words .show {} none words).bind _ = _
    cases Draft.words .show {} none words with
    | error refusal => rfl
    | ok draft =>
      change (draft.selection none).bind _ = (draft.selection none).map _
      cases draft.selection none with
      | _ => rfl

/-- The words behind the name of a command make its selection. -/
theorem exists_ofWords_iff {place : OptionPlace} (hplace : place ≠ .program)
    {words : List Text} {selection : Selection} :
  (∃ invocation, ofWords none (place.commandWord :: words) = .ok invocation
      ∧ invocation.command.selection = selection)
    ↔ ∃ draft, Draft.words place {} none words = .ok draft
      ∧ draft.selection none = .ok selection
  := by
  rw [ofWords_commandWord hplace]
  cases hdraft : Draft.words place {} none words with
  | error refusal => simp [Except.bind]
  | ok draft =>
    cases hselection : draft.selection none with
    | error refusal => simp [Except.bind, Except.map, hselection]
    | ok other =>
      have hcommand : (ofSelection place draft other).command.selection = other := by
        cases place with
        | _ => rfl
      simp [Except.bind, Except.map, hselection, hcommand]

/-- The words that give settings make a selection with the job that they mean. -/
theorem exists_ofWords_of_givenBy {place : OptionPlace} (hplace : place ≠ .program)
    {settings : WrittenSettings} {jobFile : Option Text} {words : List Text}
    (hwords : settings.GivenBy jobFile words)
    (hindent : ¬ ((settings .indent).isSome ∧ (settings .indentWidth).isSome))
    (hfile : settings .file ≠ some []) (hjobFile : jobFile ≠ some [])
    (selection : Selection) :
  (∃ invocation, ofWords none (place.commandWord :: words) = .ok invocation
      ∧ invocation.command.selection = selection)
    ↔ selection.jobFile = jobFile
      ∧ settings.Means StrategyName.ofAnyCase? selection.settings
  := by
  rw [exists_ofWords_iff hplace]
  obtain ⟨flags, document, rfl, hflags, hlists⟩ := hwords
  generalize hfields : flags ++ document.toList.map (Setting.file, ·) = fields at hlists
  have hnonempty : ∀ field ∈ fields, field.1 = .file → field.2 ≠ [] := by
    rintro ⟨_, path⟩ hfield rfl hempty
    obtain ⟨written, hwritten, hspells⟩ := hlists.spelled _ hfield
    have hpath : path = written := hspells
    apply hfile
    rw [Option.mem_def.mp hwritten, ← hpath]
    exact congrArg some hempty
  have hgiven : ∀ field ∈ fields, .set field.1 ∉ (Draft.ofJobFile jobFile).given := by
    intro field _
    cases jobFile with
    | none => simp [Draft.ofJobFile]
    | some path => simp [Draft.ofJobFile]
  have hassign := Draft.exists_assignAll_iff hlists.nodup hgiven hnonempty selection.jobFile
    selection.settings
  have hstart : (Draft.ofJobFile jobFile).settings = {}
      ∧ (Draft.ofJobFile jobFile).jobFile = jobFile
    := by
    cases jobFile with
    | _ => exact ⟨rfl, rfl⟩
  rw [hstart.1, hstart.2, hlists.setAll?_eq_some_iff wordReader_understands] at hassign
  rw [Draft.words_selectionWords hplace hflags hjobFile, hfields, eq_comm (a := selection.jobFile),
    ← hassign]
  simp only [Draft.selection_eq_ok_iff]
  constructor
  · rintro ⟨draft, hdraft, -, hselection⟩
    exact ⟨draft, hdraft, hselection⟩
  · rintro ⟨draft, hdraft, hselection⟩
    refine ⟨draft, hdraft, ?_, hselection⟩
    have hmeans := (hassign.mp ⟨draft, hdraft, hselection⟩).2
    rw [hselection.2]
    rintro ⟨hsome, hwidth⟩
    apply hindent
    constructor
    · apply hmeans.isSome .indent hsome
    · apply hmeans.isSome .indentWidth hwidth

end Invocation

end Excision
