import Excision.Failure

/-!
# Runs of attempts

What an attempt comes to on a session: its result, which may be an error, and the session
that it leaves.  An attempt made of parts runs them in order and stops at the first error
(`exec_bind`).  An attempt whose parts do no more than report does no more itself
(`ReadOnly.bind`).
-/

namespace Excision

namespace Script

@[simp] theorem run_request (request : Request) (session : Session) :
  (Script.request request).run session = session.answer request
  := rfl

end Script

namespace Attempt

/-- The result of an attempt on a session, and the session after it. -/
def exec {ε α : Type} (attempt : Attempt ε α) (session : Session) : Except ε α × Session :=
  attempt.run.run session

section

variable {ε α β : Type} (session : Session)

@[simp] theorem exec_pure (value : α) :
  (pure value : Attempt ε α).exec session = (.ok value, session)
  := rfl

@[simp] theorem exec_throw (error : ε) :
  (throw error : Attempt ε α).exec session = (.error error, session)
  := rfl

@[simp] theorem exec_bind (first : Attempt ε α) (next : α → Attempt ε β) :
  (first >>= next).exec session
    = match first.exec session with
      | (.ok value, session) => (next value).exec session
      | (.error error, session) => (.error error, session)
  := by
  unfold exec
  change (Script.bind first.run _).run session = _
  rw [Script.run_bind]
  rcases first.run.run session with ⟨⟨⟩ | ⟨⟩, session⟩
  · rfl
  · rfl

/-- An attempt made of two parts succeeds if both do, the second on what the first leaves. -/
theorem exec_bind_eq_ok_iff {first : Attempt ε α} {next : α → Attempt ε β} {value : β} :
  ((first >>= next).exec session).1 = .ok value
    ↔ ∃ middle, (first.exec session).1 = .ok middle
      ∧ ((next middle).exec (first.exec session).2).1 = .ok value
  := by
  rw [exec_bind]
  rcases first.exec session with ⟨⟨error⟩ | ⟨middle⟩, after⟩
  · simp
  · simp

@[simp] theorem exec_ask (request : Request) :
  (ask request : Attempt ε _).exec session
    = (.ok (session.answer request).1, (session.answer request).2)
  := rfl

@[simp] theorem exec_lift (script : Script α) :
  exec (ExceptT.lift script : Attempt ε α) session
    = (.ok (script.run session).1, (script.run session).2)
  := by
  change (Script.bind script _).run session = _
  rw [Script.run_bind]
  rfl

@[simp] theorem exec_mk (script : Script (Except ε α)) :
  exec (ExceptT.mk script : Attempt ε α) session = script.run session
  := rfl

@[simp] theorem exec_report (report : Report) :
  (Attempt.report report : Attempt ε Unit).exec session
    = (.ok (), { session with reports := session.reports ++ [report] })
  := rfl

@[simp] theorem exec_printLine (line : Text) :
  (printLine line : Attempt ε Unit).exec session
    = (.ok (), { session with printed := session.printed ++ (line ++ ['\n']) })
  := rfl

@[simp] theorem exec_ofLogged (logged : Logged (Except ε α)) :
  (ofLogged logged).exec session
    = (logged.value,
        { session with reports := session.reports ++ logged.events.map .block })
  := by
  obtain ⟨value, events⟩ := logged
  have hevents : ∀ session : Session,
      (forM events fun event => Attempt.report (.block event) : Attempt ε Unit).exec session
        = (.ok (), { session with reports := session.reports ++ events.map .block })
    := by
    induction events with
    | nil =>
      intro session
      simp
    | cons event events ih =>
      intro session
      simp [ih]
  rw [ofLogged, List.forM_eq_forM, exec_bind, hevents]
  rfl

@[simp] theorem mapError_ok {ε' : Type} (f : ε → ε') (value : α) :
  (Except.ok value : Except ε α).mapError f = .ok value
  := rfl

@[simp] theorem mapError_error {ε' : Type} (f : ε → ε') (error : ε) :
  (Except.error error : Except ε α).mapError f = .error (f error)
  := rfl

theorem mapError_eq_ok_iff {ε' : Type} {result : Except ε α} {f : ε → ε'} {value : α} :
  result.mapError f = .ok value ↔ result = .ok value
  := by
  cases result with
  | error error => simp
  | ok other => simp

@[simp] theorem exec_onFiles (attempt : Attempt FileError α) :
  (onFiles attempt).exec session
    = ((attempt.exec session).1.mapError .file, (attempt.exec session).2)
  := by
  unfold onFiles exec
  change (Script.bind attempt.run _).run session = _
  rw [Script.run_bind]
  rcases attempt.run.run session with ⟨⟨⟩ | ⟨⟩, session⟩
  · rfl
  · rfl

@[simp] theorem exec_onBlock (logged : Logged (Except BlockError α)) :
  (onBlock logged).exec session
    = (logged.value.mapError .block,
        { session with reports := session.reports ++ logged.events.map .block })
  := by
  unfold onBlock
  rw [exec_ofLogged]
  cases logged.value with
  | ok value => rfl
  | error error => rfl

@[simp] theorem exec_expect (path : Text) (answer : Script (Except Cause α)) :
  (Storage.expect path answer).exec session
    = ((answer.run session).1.mapError (.disk path), (answer.run session).2)
  := by
  unfold Storage.expect exec
  change (Script.bind answer _).run session = _
  rw [Script.run_bind]
  rcases answer.run session with ⟨⟨⟩ | ⟨⟩, session⟩
  · rfl
  · rfl

end

/-! ### Attempts that only read -/

/-- The attempt leaves the session as it is, but for what it reports. -/
def ReadOnly {ε α : Type} (attempt : Attempt ε α) : Prop :=
  ∀ session, ∃ reports, (attempt.exec session).2 = { session with reports }

namespace ReadOnly

variable {ε α β : Type}

theorem disk_eq {attempt : Attempt ε α} (h : attempt.ReadOnly) (session : Session) :
  (attempt.exec session).2.disk = session.disk
  := by
  obtain ⟨reports, hsession⟩ := h session
  rw [hsession]

theorem pure (value : α) :
  ReadOnly (Pure.pure value : Attempt ε α)
  := fun session => ⟨session.reports, rfl⟩

theorem throw (error : ε) :
  ReadOnly (MonadExcept.throw error : Attempt ε α)
  := fun session => ⟨session.reports, rfl⟩

theorem report (report : Report) :
  ReadOnly (Attempt.report report : Attempt ε Unit)
  := fun _ => ⟨_, rfl⟩

theorem bind {first : Attempt ε α} {next : α → Attempt ε β} (h : first.ReadOnly)
    (hnext : ∀ value, (next value).ReadOnly) :
  (first >>= next).ReadOnly
  := by
  intro session
  obtain ⟨reports, hfirst⟩ := h session
  rw [exec_bind]
  rcases hexec : first.exec session with ⟨⟨error⟩ | ⟨value⟩, middle⟩
  · rw [hexec] at hfirst
    exact ⟨reports, hfirst⟩
  · rw [hexec] at hfirst
    obtain rfl : middle = { session with reports } := hfirst
    apply hnext value

theorem onFiles {attempt : Attempt FileError α} (h : attempt.ReadOnly) :
  (onFiles attempt).ReadOnly
  := by
  intro session
  rw [exec_onFiles]
  apply h session

theorem onBlock (logged : Logged (Except BlockError α)) :
  (onBlock logged).ReadOnly
  := by
  intro session
  rw [exec_onBlock]
  exact ⟨_, rfl⟩

end ReadOnly

end Attempt

end Excision
