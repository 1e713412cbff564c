import Excision.Command.Basic
import Excision.Text.Digits

/-!
# Words of the command line

Reading a command from the words of the command line. A word that begins with a hyphen holds
options: a long one after two hyphens, or letters of short ones after a single hyphen. The
value of an option follows it in the same word, a long one after an equals sign, or is the
next word, which must not look like an option then. Two hyphens on their own end the
options. Options are read one by one, and the first that asks for the version or for help,
or that cannot be right, decides.
-/

namespace Excision

/-- Why words make no command. -/
inductive Refusal where
  /-- They cannot be understood. -/
  | misuse
  /-- They ask for help. -/
  | help
  /-- They ask for the version. -/
  | version
deriving DecidableEq, Repr

/-- An option of the command line. -/
inductive CommandOption where
  | help
  | version
  | verbose
  | dryRun
  | jobFile
  | set (setting : Setting)
deriving DecidableEq, Repr

/-- Where on the command line options stand. -/
inductive OptionPlace where
  /-- Before the name of the command. -/
  | program
  /-- After the name of the command for removing. -/
  | remove
  /-- After the name of the command for showing. -/
  | show
deriving DecidableEq, Repr

namespace CommandOption

/-- Whether an option has a value. -/
def takesValue : CommandOption → Bool
  | jobFile | set _ => true
  | _ => false

/-- The options that stand before the name of the command, with their names and letters. -/
def ofProgram : List (CommandOption × Text × Option Char) :=
  [(help, "help".toList, some 'h'), (version, "version".toList, some 'V'),
    (verbose, "verbose".toList, some 'v')]

/-- The options by which a block is selected, with their names and letters. -/
def ofSelection : List (CommandOption × Text × Option Char) :=
  [(help, "help".toList, some 'h'), (verbose, "verbose".toList, some 'v'),
    (jobFile, "config".toList, some 'c'), (set .startMarker, "start".toList, some 's'),
    (set .boundaryMarker, "boundary".toList, some 'b'), (set .indent, "indent".toList, none),
    (set .indentWidth, "indent-width".toList, some 'w'),
    (set .closingToken, "closing".toList, none), (set .strategy, "strategy".toList, none),
    (set .openToken, "open".toList, none), (set .expectOpening, "expect-opening".toList, none)]

/-- The options at a place, with their names and letters. -/
def all : OptionPlace → List (CommandOption × Text × Option Char)
  | .program => ofProgram
  | .remove => (dryRun, "dry-run".toList, none) :: ofSelection
  | .show => ofSelection

/-- The option of a name. -/
def ofName? (place : OptionPlace) (name : Text) : Option CommandOption :=
  ((all place).find? fun option => option.2.1 == name).map Prod.fst

/-- The option of a letter. -/
def ofLetter? (place : OptionPlace) (letter : Char) : Option CommandOption :=
  ((all place).find? fun option => option.2.2 == some letter).map Prod.fst

end CommandOption

/-- How words are understood as settings. -/
def wordReader : ValueReader Text where
  isOpen _ := false
  text? word := some word
  number? word :=
    match digitsNumber? 10 ((Text.dropHead? ['+'] word).getD word) with
    | some n => if n ≤ maxNumber then some n else none
    | none => none
  strategy? := StrategyName.ofAnyCase?

/-- What the words so far have said. -/
structure Draft where
  /-- The options that have been given. None may be given twice at a place. -/
  given : List CommandOption := []
  /-- The path of the job file. -/
  jobFile : Option Text := none
  /-- The settings. -/
  settings : Job := {}

namespace Draft

/-- The draft with an option given that has no value. -/
def mark (draft : Draft) (option : CommandOption) : Except Refusal Draft :=
  match option with
  | .help => .error .help
  | .version => .error .version
  | _ =>
    if draft.given.contains option then .error .misuse
    else .ok { draft with given := option :: draft.given }

/-- The draft with an option given together with a value. No path may be empty. -/
def assign (draft : Draft) (option : CommandOption) (value : Text) : Except Refusal Draft :=
  match option with
  | .jobFile => do
    let draft ← draft.mark option
    if value = [] then .error .misuse else return { draft with jobFile := some value }
  | .set setting => do
    let draft ← draft.mark option
    if setting = .file && value = [] then .error .misuse
    match draft.settings.set? wordReader setting value with
    | some settings => return { draft with settings }
    | none => .error .misuse
  | _ => .error .misuse

/-- The draft with the document named by a word that is no option. -/
def operand (draft : Draft) (word : Text) : Except Refusal Draft :=
  draft.assign (.set .file) word

/-- The draft with the options of the letters of a word. The last of them may wait for its
value. -/
def letters (place : OptionPlace) :
    Draft → (letters : Text) → Except Refusal (Draft × Option CommandOption)
  | draft, [] => .ok (draft, none)
  | draft, letter :: rest =>
    match CommandOption.ofLetter? place letter with
    | none => .error .misuse
    | some option =>
      if !option.takesValue then do Draft.letters place (← draft.mark option) rest
      else
        match rest with
        | [] => .ok (draft, some option)
        | '=' :: value => do return (← draft.assign option value, none)
        | value => do return (← draft.assign option value, none)

/-- The draft with the option that a word holds after two hyphens. It may wait for its
value. -/
def long (place : OptionPlace) (draft : Draft) (text : Text) :
    Except Refusal (Draft × Option CommandOption) :=
  let name := text.takeWhile (· != '=')
  match CommandOption.ofName? place name with
  | none => .error .misuse
  | some option =>
    match text.drop name.length with
    | [] => if option.takesValue then .ok (draft, some option) else do
      return (← draft.mark option, none)
    | _ :: value => do return (← draft.assign option value, none)

/-- The draft with the options of a word that is neither an operand nor the end of the
options, and `none` for an operand. -/
def options? (place : OptionPlace) (draft : Draft) (word : Text) :
    Option (Except Refusal (Draft × Option CommandOption)) :=
  match word with
  | '-' :: '-' :: text => some (draft.long place text)
  | '-' :: letter :: rest => some (draft.letters place (letter :: rest))
  | _ => none

/-- The draft with all the words after the name of a command, where `waiting` is an option
that waits for its value. -/
def words (place : OptionPlace) :
    Draft → (waiting : Option CommandOption) → List Text → Except Refusal Draft
  | draft, none, [] => .ok draft
  | _, some _, [] => .error .misuse
  | draft, waiting, word :: rest =>
    if word = ['-', '-'] then
      if waiting.isSome then .error .misuse
      else rest.foldlM Draft.operand draft
    else
      match waiting, draft.options? place word with
      | none, none => do Draft.words place (← draft.operand word) none rest
      | some option, none => do Draft.words place (← draft.assign option word) none rest
      | none, some read => do
        let (draft, waiting) ← read
        Draft.words place draft waiting rest
      | some _, some _ => .error .misuse

/-- The selection that the words have made. The document may be named in the environment
instead; the two forms of the indent must not both be given. -/
def selection (draft : Draft) (document : Option Text) : Except Refusal Selection := do
  let draft ←
    match draft.settings.file, document with
    | none, some path => draft.operand path
    | _, _ => .ok draft
  if draft.settings.indent.isSome && draft.settings.indentWidth.isSome then .error .misuse
  else return ⟨draft.jobFile, draft.settings⟩

end Draft

/-- A command, and whether the log shows everything. -/
structure Invocation where
  verbose : Bool
  command : Command
deriving DecidableEq, Repr

namespace Invocation

/-- The refusal of words that ask for help by name: about the program, or about one of the
commands. -/
def helpRefusal : List Text → Refusal
  | [] => .help
  | [name] =>
    if ["remove".toList, "show".toList, "help".toList].contains name then .help else .misuse
  | _ => .misuse

/-- The command that words say, where `draft` holds the options before its name. -/
def ofDraft (document : Option Text) : (draft : Draft) → List Text → Except Refusal Invocation
  | _, [] => .error .misuse
  | draft, word :: rest => do
    let verbose (inner : Draft) : Bool :=
      draft.given.contains .verbose || inner.given.contains .verbose
    if word = "help".toList then .error (helpRefusal rest)
    else if word = "remove".toList then
      let inner ← Draft.words .remove {} none rest
      let selection ← inner.selection document
      return ⟨verbose inner, .remove selection (inner.given.contains .dryRun)⟩
    else if word = "show".toList then
      let inner ← Draft.words .show {} none rest
      let selection ← inner.selection document
      return ⟨verbose inner, .show selection⟩
    else
      match draft.options? .program word with
      | none => .error .misuse
      | some read => ofDraft document (← read).1 rest

/-- The command that the words of the command line say. `document` is the path that the
environment gives for the document, if there is one. -/
def ofWords (document : Option Text) (words : List Text) : Except Refusal Invocation :=
  ofDraft document {} words

end Invocation

end Excision
