import Excision.Job.Fields
import Mathlib.Logic.Function.Basic

/-!
# The values of a job

A job seen as what it holds for each setting: `Job.value?` and `Job.ofValues` take a job apart
into these values and put it together again.  Reading a list of settings with their values is
then putting one value after the other, so that a job is read from a list exactly if it holds
the values of the list and nothing else (`Job.setAll?_eq_some_iff`), and the order in which
they are listed does not matter.  Laying one job over another is choosing for each setting, as
long as not both of them set an indent (`Job.value?_overlay`).
-/

namespace Excision

/-- What the value of a setting is. -/
abbrev Setting.Value : Setting → Type
  | .indentWidth => Nat
  | .strategy => StrategyName
  | _ => Text

/-- The value of a format as the value of a setting. -/
def ValueReader.read? {V : Type} (reader : ValueReader V) :
    (setting : Setting) → V → Option setting.Value
  | .file => reader.text?
  | .startMarker => reader.text?
  | .boundaryMarker => reader.text?
  | .indent => reader.text?
  | .indentWidth => reader.number?
  | .closingToken => reader.text?
  | .strategy => reader.strategy?
  | .openToken => reader.text?
  | .expectOpening => reader.text?

namespace Job

/-- The value that the job holds for a setting. -/
def value? (job : Job) : (setting : Setting) → Option setting.Value
  | .file => job.file
  | .startMarker => job.startMarker
  | .boundaryMarker => job.boundaryMarker
  | .indent => job.indent
  | .indentWidth => job.indentWidth
  | .closingToken => job.closingToken
  | .strategy => job.strategy
  | .openToken => job.openToken
  | .expectOpening => job.expectOpening

/-- The job that holds these values. -/
def ofValues (values : (setting : Setting) → Option setting.Value) : Job where
  file := values .file
  startMarker := values .startMarker
  boundaryMarker := values .boundaryMarker
  indent := values .indent
  indentWidth := values .indentWidth
  closingToken := values .closingToken
  strategy := values .strategy
  openToken := values .openToken
  expectOpening := values .expectOpening

@[simp] theorem value?_ofValues (values : (setting : Setting) → Option setting.Value) :
  (ofValues values).value? = values
  := by
  funext setting
  cases setting with
  | _ => rfl

@[simp] theorem ofValues_value? (job : Job) :
  ofValues job.value? = job
  := rfl

@[simp] theorem value?_empty (setting : Setting) :
  value? {} setting = none
  := by
  cases setting with
  | _ => rfl

/-- A job is determined by its values. -/
theorem ext_value? {job other : Job} (h : ∀ setting, job.value? setting = other.value? setting) :
  job = other
  := by
  rw [← ofValues_value? job, ← ofValues_value? other, funext h]

/-! ### Reading a list of values -/

/-- The job with a value put in for a setting. -/
def put (job : Job) (setting : Setting) (value : setting.Value) : Job :=
  ofValues (Function.update job.value? setting (some value))

/-- A setting is read from a value, unless that leaves it open. -/
theorem set?_eq {V : Type} (reader : ValueReader V) (job : Job) (setting : Setting) (value : V)
    (hopen : reader.isOpen value = false) :
  job.set? reader setting value = (reader.read? setting value).map (job.put setting)
  := by
  unfold set?
  rw [if_neg (by simp [hopen])]
  cases setting with
  | _ => rfl

/-- A job is read from a list of settings, each listed once, exactly if it holds the values of
the list and what was there before for the others. -/
theorem setAll?_eq_some_iff {V : Type} {reader : ValueReader V} {fields : List (Setting × V)}
    {job result : Job} (hopen : ∀ field ∈ fields, reader.isOpen field.2 = false)
    (hnodup : (fields.map Prod.fst).Nodup) :
  setAll? reader job fields = some result ↔
    (∀ field ∈ fields, ∃ value, reader.read? field.1 field.2 = some value
      ∧ result.value? field.1 = some value)
    ∧ ∀ setting ∉ fields.map Prod.fst, result.value? setting = job.value? setting
  := by
  induction fields generalizing job with
  | nil =>
    simp only [setAll?, Option.some.injEq]
    constructor
    · rintro rfl
      simp
    · rintro ⟨-, h⟩
      apply ext_value?
      intro setting
      apply (h setting (by simp)).symm
  | cons field fields ih =>
    obtain ⟨setting, written⟩ := field
    rw [List.forall_mem_cons] at hopen
    rw [List.map_cons, List.nodup_cons] at hnodup
    rw [setAll?, set?_eq reader job setting written hopen.1]
    cases hread : reader.read? setting written with
    | none => simp [hread]
    | some value =>
      rw [Option.map_some]
      change setAll? reader (job.put setting value) fields = some result ↔ _
      rw [ih hopen.2 hnodup.2, List.forall_mem_cons]
      constructor
      · rintro ⟨hfields, hothers⟩
        have hvalue := hothers setting hnodup.1
        rw [put, value?_ofValues, Function.update_self] at hvalue
        refine ⟨⟨⟨value, hread, hvalue⟩, hfields⟩, ?_⟩
        intro other hother
        rw [List.map_cons, List.mem_cons, not_or] at hother
        rw [hothers other hother.2, put, value?_ofValues, Function.update_of_ne hother.1]
      · rintro ⟨⟨⟨value', hread', hvalue⟩, hfields⟩, hothers⟩
        rw [hread] at hread'
        cases hread'
        refine ⟨hfields, ?_⟩
        intro other hother
        rw [put, value?_ofValues]
        by_cases hsame : other = setting
        · subst hsame
          rw [hvalue, Function.update_self]
        · rw [Function.update_of_ne hsame]
          apply hothers
          simp [hsame, hother]

/-! ### Laying jobs over one another -/

/-- The upper job's value goes before the lower one's, if not both of them set an indent. -/
theorem value?_overlay {lower upper : Job}
    (h : upper.setsIndent = true → lower.setsIndent = false) (setting : Setting) :
  (lower.overlay upper).value? setting = (upper.value? setting).or (lower.value? setting)
  := by
  have hindent : (lower.overlay upper).indent = upper.indent.or lower.indent
      ∧ (lower.overlay upper).indentWidth = upper.indentWidth.or lower.indentWidth
    := by
    unfold overlay
    cases hupper : upper.setsIndent with
    | true =>
      have hlower := h hupper
      simp only [setsIndent, Bool.or_eq_false_iff, Option.isSome_eq_false_iff,
        Option.isNone_iff_eq_none] at hlower
      simp [hlower]
    | false =>
      simp only [setsIndent, Bool.or_eq_false_iff, Option.isSome_eq_false_iff,
        Option.isNone_iff_eq_none] at hupper
      simp [hupper]
  cases setting with
  | indent => apply hindent.1
  | indentWidth => apply hindent.2
  | _ => exact Option.orElse_eq_or

@[simp] theorem overlay_empty (job : Job) :
  overlay {} job = job
  := by
  apply ext_value?
  intro setting
  rw [value?_overlay (fun _ => rfl), value?_empty, Option.or_none]

end Job

end Excision
