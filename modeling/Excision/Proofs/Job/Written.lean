import Excision.Job.File
import Excision.Proofs.Job.Values

/-!
# Written settings

Settings as they are written down, in a job file or on the command line: the strategy by a
name, which may be any text, and the others by their values.  A list of settings writes them
if it spells each of them once (`Lists`), and a job is what they mean if it holds their values
(`WrittenSettings.Means`).  The same reading of lists serves all formats, so that from a list
that writes settings the job is read that they mean (`Lists.setAll?_eq_some_iff`); all the
formats differ in is which texts they take for the name of a strategy.  In a job file that is
the exact name (`JobFormat.Writes.jobOfText?_eq_some_iff`).
-/

namespace Excision

/-- What is written for a setting. -/
abbrev Setting.Written : Setting → Type
  | .indentWidth => Nat
  | _ => Text

/-- The value that is written for a setting, where `strategyOf` finds strategies by their
names. -/
def Setting.meaning? (strategyOf : Text → Option StrategyName) :
    (setting : Setting) → setting.Written → Option setting.Value
  | .file => some
  | .startMarker => some
  | .boundaryMarker => some
  | .indent => some
  | .indentWidth => some
  | .closingToken => some
  | .strategy => strategyOf
  | .openToken => some
  | .expectOpening => some

/-- What is written for each setting, if anything is. -/
abbrev WrittenSettings : Type := (setting : Setting) → Option setting.Written

namespace WrittenSettings

/-- The settings of a part, and nothing for the others. -/
def restrict (settings : WrittenSettings) (part : Setting → Bool) : WrittenSettings :=
  fun setting => if part setting then settings setting else none

/-- The job holds the values that are written, and nothing else. -/
structure Means (settings : WrittenSettings) (strategyOf : Text → Option StrategyName)
    (job : Job) : Prop where
  /-- A setting that is not written is left open. -/
  none : ∀ setting, settings setting = .none → job.value? setting = .none
  /-- A setting that is written has the value that is written for it. -/
  some : ∀ setting, ∀ written ∈ settings setting,
    ∃ value, setting.meaning? strategyOf written = .some value
      ∧ job.value? setting = .some value

theorem Means.unique {settings : WrittenSettings} {strategyOf : Text → Option StrategyName}
    {job other : Job} (h : settings.Means strategyOf job) (h' : settings.Means strategyOf other) :
  job = other
  := by
  apply Job.ext_value?
  intro setting
  cases hwritten : settings setting with
  | none => rw [h.none setting hwritten, h'.none setting hwritten]
  | some written =>
    obtain ⟨value, hmeaning, hvalue⟩ := h.some setting written hwritten
    obtain ⟨value', hmeaning', hvalue'⟩ := h'.some setting written hwritten
    rw [hvalue, hvalue', ← hmeaning, hmeaning']

/-- A job sets nothing that is not written. -/
theorem Means.isSome {settings : WrittenSettings} {strategyOf : Text → Option StrategyName}
    {job : Job} (h : settings.Means strategyOf job) (setting : Setting)
    (hvalue : (job.value? setting).isSome) :
  (settings setting).isSome
  := by
  by_contra hnone
  rw [Bool.not_eq_true, Option.isSome_eq_false_iff, Option.isNone_iff_eq_none] at hnone
  rw [h.none setting hnone] at hvalue
  contradiction

theorem restrict_isSome {settings : WrittenSettings} {part : Setting → Bool} {setting : Setting}
    (h : (settings.restrict part setting).isSome) :
  part setting = true ∧ (settings setting).isSome
  := by
  unfold restrict at h
  split at h
  next hpart => exact ⟨hpart, h⟩
  next => contradiction

end WrittenSettings

/-! ### Lists that write settings -/

/-- Which values of a format spell a text and which spell a number. -/
structure Spelling (V : Type) where
  /-- The value is this text. -/
  text : V → Text → Prop
  /-- The value is this number. -/
  number : V → Nat → Prop

/-- The value spells what is written for a setting. -/
def Spelling.Spells {V : Type} (spelling : Spelling V) :
    (setting : Setting) → V → setting.Written → Prop
  | .file => spelling.text
  | .startMarker => spelling.text
  | .boundaryMarker => spelling.text
  | .indent => spelling.text
  | .indentWidth => spelling.number
  | .closingToken => spelling.text
  | .strategy => spelling.text
  | .openToken => spelling.text
  | .expectOpening => spelling.text

/-- A reader takes spelled texts and numbers for what they are, and finds strategies by
`strategyOf`. -/
structure ValueReader.Understands {V : Type} (reader : ValueReader V) (spelling : Spelling V)
    (strategyOf : Text → Option StrategyName) : Prop where
  text : ∀ value text, spelling.text value text →
    reader.isOpen value = false ∧ reader.text? value = some text
      ∧ reader.strategy? value = strategyOf text
  number : ∀ value n, spelling.number value n →
    reader.isOpen value = false ∧ reader.number? value = some n

/-- The list spells the written settings, each of them once, in any order. -/
structure Lists {V : Type} (spelling : Spelling V) (fields : List (Setting × V))
    (settings : WrittenSettings) : Prop where
  /-- No setting is listed twice. -/
  nodup : (fields.map Prod.fst).Nodup
  /-- What is listed is written, and spelled. -/
  spelled : ∀ field ∈ fields, ∃ written ∈ settings field.1,
    spelling.Spells field.1 field.2 written
  /-- What is written is listed. -/
  listed : ∀ setting, (settings setting).isSome → setting ∈ fields.map Prod.fst

section

variable {V : Type} {reader : ValueReader V} {spelling : Spelling V}
  {strategyOf : Text → Option StrategyName}

theorem ValueReader.Understands.read? (h : reader.Understands spelling strategyOf)
    {setting : Setting} {value : V} {written : setting.Written}
    (hspells : spelling.Spells setting value written) :
  reader.isOpen value = false
    ∧ reader.read? setting value = setting.meaning? strategyOf written
  := by
  cases setting with
  | indentWidth => apply h.number value written hspells
  | strategy =>
    obtain ⟨hopen, -, hstrategy⟩ := h.text value written hspells
    exact ⟨hopen, hstrategy⟩
  | _ =>
    obtain ⟨hopen, htext, -⟩ := h.text value written hspells
    exact ⟨hopen, htext⟩

/-- What is listed of a part writes the settings of the part. -/
theorem Lists.restrict {fields : List (Setting × V)} {settings : WrittenSettings}
    (h : Lists spelling fields settings) (part : Setting → Bool) :
  Lists spelling (fields.filter (part ·.1)) (settings.restrict part)
  := by
  constructor
  · apply (List.filter_sublist.map Prod.fst).nodup h.nodup
  · intro field hfield
    obtain ⟨hfield, hpart⟩ := List.mem_filter.mp hfield
    unfold WrittenSettings.restrict
    rw [if_pos hpart]
    apply h.spelled field hfield
  · intro setting hsome
    obtain ⟨hpart, hsome⟩ := WrittenSettings.restrict_isSome hsome
    obtain ⟨field, hfield, rfl⟩ := List.mem_map.mp (h.listed setting hsome)
    apply List.mem_map_of_mem (List.mem_filter.mpr ⟨hfield, hpart⟩)

/-- From a list that writes settings the job is read that they mean. -/
theorem Lists.setAll?_eq_some_iff {fields : List (Setting × V)} {settings : WrittenSettings}
    (h : Lists spelling fields settings) (hreader : reader.Understands spelling strategyOf)
    {job : Job} :
  Job.setAll? reader {} fields = some job ↔ settings.Means strategyOf job
  := by
  have hopen : ∀ field ∈ fields, reader.isOpen field.2 = false := by
    intro field hfield
    obtain ⟨written, -, hspells⟩ := h.spelled field hfield
    apply (hreader.read? hspells).1
  rw [Job.setAll?_eq_some_iff hopen h.nodup]
  constructor
  · rintro ⟨hfields, hothers⟩
    constructor
    · intro setting hnone
      rw [hothers setting, Job.value?_empty]
      intro hmem
      obtain ⟨field, hfield, rfl⟩ := List.mem_map.mp hmem
      obtain ⟨written, hwritten, -⟩ := h.spelled field hfield
      rw [hnone] at hwritten
      contradiction
    · intro setting written hwritten
      have hmem := h.listed setting (by rw [Option.mem_def.mp hwritten]; rfl)
      obtain ⟨field, hfield, rfl⟩ := List.mem_map.mp hmem
      obtain ⟨other, hother, hspells⟩ := h.spelled field hfield
      obtain rfl := Option.mem_unique hwritten hother
      rw [← (hreader.read? hspells).2]
      apply hfields field hfield
  · intro hmeans
    constructor
    · intro field hfield
      obtain ⟨written, hwritten, hspells⟩ := h.spelled field hfield
      rw [(hreader.read? hspells).2]
      apply hmeans.some field.1 written hwritten
    · intro setting hnotMem
      rw [Job.value?_empty]
      apply hmeans.none
      rw [← Option.not_isSome_iff_eq_none]
      intro hsome
      apply hnotMem (h.listed setting hsome)

end

/-! ### Job files -/

/-- The fields with the names of their settings. -/
def namedFields {V : Type} (fields : List (Setting × V)) : List (Text × V) :=
  fields.map fun field => (field.1.name, field.2)

theorem Setting.ofName?_name (setting : Setting) :
  ofName? setting.name = some setting
  := by
  cases setting with
  | _ => rfl

/-- Named fields are read as a list of settings, if no name stands twice. -/
theorem Job.ofFields?_namedFields {V : Type} (reader : ValueReader V)
    {fields : List (Setting × V)} (h : (fields.map Prod.fst).Nodup) :
  Job.ofFields? reader (namedFields fields) = Job.setAll? reader {} fields
  := by
  have hnamed : ((namedFields fields).mapM fun field =>
      (Setting.ofName? field.1).bind fun setting => some (setting, field.2)) = some fields
    := by
    clear h
    induction fields with
    | nil => rfl
    | cons field fields ih =>
      unfold namedFields at ih ⊢
      rw [List.map_cons, List.mapM_cons, ih]
      simp [Setting.ofName?_name]
  calc
    Job.ofFields? reader (namedFields fields)
      = ((namedFields fields).mapM fun field =>
          (Setting.ofName? field.1).bind fun setting => some (setting, field.2)).bind fun named =>
            if (named.map Prod.fst).Nodup then setAll? reader {} named else none := rfl
    _ = setAll? reader {} fields := by
      rw [hnamed, Option.bind_some, if_pos h]

namespace Toml

/-- Strings and integers. -/
def spelling : Spelling Item where
  text item text := item = .value (.text text)
  number item n := item = .value (.integer n)

theorem reader_understands :
  reader.Understands spelling StrategyName.ofText?
  where
  text := by
    rintro _ text rfl
    exact ⟨rfl, rfl, rfl⟩
  number := by
    rintro _ n rfl
    exact ⟨rfl, by simp [reader]⟩

end Toml

namespace Json

/-- Strings, and numbers that are natural. -/
def spelling : Spelling Value where
  text value text := value = .text text
  number value n := ∃ literal, value = .number literal ∧ naturalOf? literal = some n

theorem reader_understands :
  reader.Understands spelling StrategyName.ofText?
  where
  text := by
    rintro _ text rfl
    exact ⟨rfl, rfl, rfl⟩
  number := by
    rintro _ n ⟨literal, rfl, hnatural⟩
    exact ⟨rfl, hnatural⟩

end Json

namespace Yaml

/-- The names and the scalars of the mapping that a text writes. -/
def mappingOfText? (text : Text) : Option (List (Text × Scalar)) := do
  match ← onlyContent? (← tokensOf? text) with
  | .scalar _ => none
  | .mapping anchor pairs =>
    return (← scalarPairs? anchor pairs).map fun (key, value) => (key.text, value)

/-- The job of a text with a mapping is read from its names and scalars. -/
theorem jobOfText?_of_mapping {text : Text} {fields : List (Text × Scalar)}
    (h : mappingOfText? text = some fields) :
  jobOfText? text = Job.ofFields? reader fields
  := by
  obtain ⟨tokens, htokens, h⟩ := Option.bind_eq_some_iff.mp h
  obtain ⟨content, hcontent, h⟩ := Option.bind_eq_some_iff.mp h
  unfold jobOfText?
  rw [htokens, Option.bind_eq_bind, Option.bind_some, hcontent, Option.bind_eq_bind,
    Option.bind_some]
  cases content with
  | scalar scalar => contradiction
  | mapping anchor pairs =>
    obtain ⟨scalars, hscalars, h⟩ := Option.bind_eq_some_iff.mp h
    cases h
    simp [hscalars]

/-- Scalars without a tag, quoted ones and plain ones that do not stand for nothing, and plain
numbers. -/
def spelling : Spelling Scalar where
  text scalar text := scalar.tag = none ∧ scalar.isOpen = false ∧ scalar.text = text
  number scalar n :=
    scalar.tag = none ∧ scalar.isOpen = false ∧ scalar.style = .plain
      ∧ Scalar.numberOf? scalar.text = some n

theorem Scalar.isTaggedNull_of_tag {scalar : Scalar} (h : scalar.tag = none) :
  scalar.isTaggedNull = false
  := by
  simp [isTaggedNull, h]

theorem reader_understands :
  reader.Understands spelling StrategyName.ofText?
  where
  text := by
    rintro scalar _ ⟨htag, hopen, rfl⟩
    have hnull := Scalar.isTaggedNull_of_tag htag
    refine ⟨hopen, ?_, ?_⟩
    · simp [reader, hnull]
    · simp [reader, hnull, Scalar.strategy?, htag]
  number := by
    rintro scalar n ⟨htag, hopen, hstyle, hnumber⟩
    have hnull := Scalar.isTaggedNull_of_tag htag
    refine ⟨hopen, ?_⟩
    simp [reader, hnull, hstyle, hnumber]

end Yaml

/-- The text writes the settings in a format: it is a table, an object or a mapping of strings
and numbers, under the names of the settings. -/
inductive JobFormat.Writes (settings : WrittenSettings) : JobFormat → Text → Prop where
  | toml {text : Text} {implied dotted : Bool} {fields : List (Setting × Toml.Item)}
      (hparse : Toml.Item.ofText? text = some (.table implied dotted (namedFields fields)))
      (hfields : Lists Toml.spelling fields settings) :
      Writes settings .toml text
  | json {text : Text} {fields : List (Setting × Json.Value)}
      (hparse : Json.ofText? text = some (.object (namedFields fields)))
      (hfields : Lists Json.spelling fields settings) :
      Writes settings .json text
  | yaml {text : Text} {fields : List (Setting × Yaml.Scalar)}
      (hparse : Yaml.mappingOfText? text = some (namedFields fields))
      (hfields : Lists Yaml.spelling fields settings) :
      Writes settings .yaml text

/-- From a text that writes settings in any format the job is read that they mean, if the
strategy is written by its exact name. -/
theorem JobFormat.Writes.jobOfText?_eq_some_iff {settings : WrittenSettings}
    {format : JobFormat} {text : Text} (h : format.Writes settings text) {job : Job} :
  format.jobOfText? text = some job ↔ settings.Means StrategyName.ofText? job
  := by
  cases h with
  | toml hparse hfields =>
    rw [← hfields.setAll?_eq_some_iff Toml.reader_understands,
      ← Job.ofFields?_namedFields _ hfields.nodup, jobOfText?, Toml.jobOfText?, hparse]
    rfl
  | json hparse hfields =>
    rw [← hfields.setAll?_eq_some_iff Json.reader_understands,
      ← Job.ofFields?_namedFields _ hfields.nodup, jobOfText?, Json.jobOfText?, hparse]
    rfl
  | yaml hparse hfields =>
    rw [← hfields.setAll?_eq_some_iff Yaml.reader_understands,
      ← Job.ofFields?_namedFields _ hfields.nodup, jobOfText?, Yaml.jobOfText?_of_mapping hparse]

end Excision
