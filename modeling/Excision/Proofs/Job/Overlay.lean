import Excision.Proofs.Job.Values
import Mathlib.Data.List.Induction

/-!
# Jobs laid over one another

Each setting of two jobs laid over one another comes from one of them: from the upper job if
that decides about the setting, and otherwise from the lower one (`Job.value?_overlay_eq`).  The
two forms of the indent are decided together, every other setting on its own.  So jobs form a
monoid in which what is laid on top later wins (`Job.overlay_lawful`), and in a stack of jobs,
however high, the indent is that of the last job that sets one (`Job.indentation_overlayAll`).
-/

namespace Excision

namespace Job

/-- Whether the job decides about a setting when it is laid over another: it sets it, or it sets
the indent in one of its two forms. -/
def decides (job : Job) : Setting → Bool
  | .indent => job.setsIndent
  | .indentWidth => job.setsIndent
  | setting => (job.value? setting).isSome

/-- The indent in both of its forms. -/
def indentForms (job : Job) : Option Text × Option Nat := (job.indent, job.indentWidth)

/-- The indent is given in at most one of its forms. -/
def HasOneIndent (job : Job) : Prop := job.indent = none ∨ job.indentWidth = none

/-- The jobs of a list, each laid over those before it. -/
def overlayAll (jobs : List Job) : Job := jobs.foldl overlay {}

section

variable {job lower upper : Job} {setting : Setting}

theorem decides_of_value? {value : setting.Value} (h : job.value? setting = some value) :
  job.decides setting = true
  := by
  cases setting with
  | indent =>
    change job.indent = some value at h
    simp [decides, setsIndent, h]
  | indentWidth =>
    change job.indentWidth = some value at h
    simp [decides, setsIndent, h]
  | _ => exact Option.isSome_of_eq_some h

/-- A setting on which a job does not decide is left open by it. -/
theorem value?_of_decides_eq_false (h : job.decides setting = false) :
  job.value? setting = none
  := by
  rw [Option.eq_none_iff_forall_ne_some]
  intro value hvalue
  rw [decides_of_value? hvalue] at h
  contradiction

/-- A setting other than the indent that a job leaves open is one on which it does not decide. -/
theorem decides_eq_false (hindent : setting ≠ .indent) (hwidth : setting ≠ .indentWidth)
    (h : job.value? setting = none) :
  job.decides setting = false
  := by
  cases setting with
  | indent => contradiction
  | indentWidth => contradiction
  | _ => exact Option.isSome_eq_false_iff.mpr (Option.isNone_iff_eq_none.mpr h)

/-! ### One job over another -/

/-- A setting comes from the upper job if that decides about it, and otherwise from the lower
one. -/
theorem value?_overlay_eq (lower upper : Job) (setting : Setting) :
  (lower.overlay upper).value? setting
    = if upper.decides setting then upper.value? setting else lower.value? setting
  := by
  have hchoice {α : Type} (first second : Option α) :
      (first <|> second) = if first.isSome then first else second
    := by
    cases first with
    | none => rfl
    | some value => rfl
  cases setting with
  | indent => rfl
  | indentWidth => rfl
  | _ => apply hchoice

theorem setsIndent_overlay (lower upper : Job) :
  (lower.overlay upper).setsIndent = (upper.setsIndent || lower.setsIndent)
  := by
  unfold overlay
  cases h : upper.setsIndent with
  | true => exact h
  | false => rfl

/-- Together two jobs decide about what one of them decides about. -/
theorem decides_overlay (lower upper : Job) (setting : Setting) :
  (lower.overlay upper).decides setting = (upper.decides setting || lower.decides setting)
  := by
  have hchoice {α : Type} (first second : Option α) :
      (first <|> second).isSome = (first.isSome || second.isSome)
    := by
    cases first with
    | none => rfl
    | some value => rfl
  cases setting with
  | indent => apply setsIndent_overlay
  | indentWidth => apply setsIndent_overlay
  | _ => apply hchoice

theorem overlay_assoc (a b c : Job) :
  (a.overlay b).overlay c = a.overlay (b.overlay c)
  := by
  apply ext_value?
  intro setting
  simp only [value?_overlay_eq, decides_overlay]
  cases c.decides setting with
  | true => rfl
  | false => rfl

theorem overlay_empty_right (job : Job) :
  job.overlay {} = job
  := by
  apply ext_value?
  intro setting
  rw [value?_overlay_eq, if_neg]
  cases setting with
  | _ => simp [decides, setsIndent]

theorem overlay_self (job : Job) :
  job.overlay job = job
  := by
  apply ext_value?
  intro setting
  rw [value?_overlay_eq, ite_self]

/-- What lies below a job that is laid on again does not matter where it lies above. -/
theorem overlay_overlay_left (a b : Job) :
  (a.overlay b).overlay a = b.overlay a
  := by
  apply ext_value?
  intro setting
  simp only [value?_overlay_eq]
  cases ha : a.decides setting with
  | true => rfl
  | false =>
    -- Neither job sets what neither decides about.
    cases hb : b.decides setting with
    | true => rfl
    | false =>
      change a.value? setting = b.value? setting
      rw [value?_of_decides_eq_false ha, value?_of_decides_eq_false hb]

/-- The two forms of the indent come from the same job. -/
theorem indentForms_overlay (lower upper : Job) :
  (lower.overlay upper).indentForms
    = if upper.setsIndent then upper.indentForms else lower.indentForms
  := by
  unfold indentForms overlay
  cases upper.setsIndent with
  | true => rfl
  | false => rfl

/-! ### Many jobs -/

theorem overlayAll_concat (jobs : List Job) (job : Job) :
  overlayAll (jobs ++ [job]) = (overlayAll jobs).overlay job
  := by
  unfold overlayAll
  rw [List.foldl_append]
  rfl

/-- The indent of many jobs, in both of its forms, is that of the last job that sets one. -/
theorem indentForms_overlayAll (jobs : List Job) :
  (overlayAll jobs).indentForms = ((jobs.filter setsIndent).getLast?.getD {}).indentForms
  := by
  induction jobs using List.reverseRecOn with
  | nil => rfl
  | append_singleton jobs job ih =>
    rw [overlayAll_concat, indentForms_overlay, List.filter_append]
    cases hsets : job.setsIndent with
    | true => simp [hsets]
    | false => simpa [hsets] using ih

/-- What a job says about its indent lies in the two forms of it. -/
theorem indentation_eq_of_indentForms {other : Job} (h : job.indentForms = other.indentForms) :
  job.indentation = other.indentation
  := by
  obtain ⟨hindent, hwidth⟩ := Prod.mk.inj h
  rw [indentation, indentation, hindent, hwidth]

theorem indentation_overlayAll (jobs : List Job) :
  (overlayAll jobs).indentation
    = match (jobs.filter setsIndent).getLast? with
      | some job => job.indentation
      | none => .error (.missingSetting .indent)
  := by
  rw [indentation_eq_of_indentForms (indentForms_overlayAll jobs)]
  cases (jobs.filter setsIndent).getLast? with
  | none => rfl
  | some job => rfl

/-- Many jobs that each have at most one indent have at most one together. -/
theorem hasOneIndent_overlayAll {jobs : List Job} (h : ∀ job ∈ jobs, job.HasOneIndent) :
  (overlayAll jobs).HasOneIndent
  := by
  obtain ⟨hindent, hwidth⟩ := Prod.mk.inj (indentForms_overlayAll jobs)
  rw [HasOneIndent, hindent, hwidth]
  cases hlast : (jobs.filter setsIndent).getLast? with
  | none => exact .inl rfl
  | some job => exact h job (List.mem_filter.mp (List.mem_of_getLast? hlast)).1

end

/-- Laying jobs over one another is a lawful choice of the upper one.  It is associative, the
empty job is neutral, a job over itself is that job, and what lies below a job is covered where
the job is laid on again.  What the upper job sets is set, and what it leaves open, but for the
indent, is as in the lower one; the two forms of the indent come from one of the two jobs.  Many
jobs that have at most one indent each have at most one together, and it is that of the last of
them that sets one. -/
theorem overlay_lawful :
  (∀ a b c : Job, (a.overlay b).overlay c = a.overlay (b.overlay c))
  ∧ (∀ a : Job, a.overlay {} = a ∧ overlay {} a = a ∧ a.overlay a = a)
  ∧ (∀ a b : Job, (a.overlay b).overlay a = b.overlay a)
  ∧ (∀ (lower upper : Job) (setting : Setting) (value : setting.Value),
      upper.value? setting = some value → (lower.overlay upper).value? setting = some value)
  ∧ (∀ (lower upper : Job) (setting : Setting), setting ≠ .indent → setting ≠ .indentWidth →
      upper.value? setting = none →
      (lower.overlay upper).value? setting = lower.value? setting)
  ∧ (∀ lower upper : Job, (lower.overlay upper).indentForms
      = if upper.setsIndent then upper.indentForms else lower.indentForms)
  ∧ ∀ jobs : List Job,
      ((∀ job ∈ jobs, job.HasOneIndent) → (overlayAll jobs).HasOneIndent)
      ∧ (overlayAll jobs).indentation
        = match (jobs.filter setsIndent).getLast? with
          | some job => job.indentation
          | none => .error (.missingSetting .indent)
  := by
  refine ⟨overlay_assoc, ?_, overlay_overlay_left, ?_, ?_, indentForms_overlay, ?_⟩
  · intro a
    exact ⟨overlay_empty_right a, overlay_empty a, overlay_self a⟩
  · intro lower upper setting value hvalue
    rw [value?_overlay_eq, if_pos (decides_of_value? hvalue), hvalue]
  · intro lower upper setting hindent hwidth hnone
    rw [value?_overlay_eq, decides_eq_false hindent hwidth hnone]
    rfl
  · intro jobs
    exact ⟨hasOneIndent_overlayAll, indentation_overlayAll jobs⟩

/-- A width, then an indent of one tab, then a job without any: the tab is the indent of the
three, and the width is gone. -/
theorem overlay_lawful_sample :
  let base : Job := { startMarker := some ['S'], indentWidth := some 2 }
  let upper : Job := { startMarker := some ['T'], indent := some ['\t'] }
  let last : Job := { closingToken := some ['}'] }
  (overlayAll [base, upper, last]).HasOneIndent
    ∧ (overlayAll [base, upper, last]).indentation = Indent.ofText ['\t']
    ∧ (base.overlay upper).value? .startMarker = some ['T']
    ∧ (base.overlay last).value? .startMarker = some ['S']
  := by
  intro base upper last
  obtain ⟨-, -, -, hset, hopen, -, hall⟩ := overlay_lawful
  have hone : ∀ job ∈ [base, upper, last], job.HasOneIndent := by
    simp [base, upper, last, HasOneIndent]
  obtain ⟨hsingle, hindentation⟩ := hall [base, upper, last]
  refine ⟨hsingle hone, hindentation, ?_, ?_⟩
  · exact hset base upper .startMarker ['T'] rfl
  · exact hopen base last .startMarker (by decide) (by decide) rfl

end Job

end Excision
