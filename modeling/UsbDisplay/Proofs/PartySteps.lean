import UsbDisplay.Transfer.Parties

/-!
The steps that the parties behind a slot can take, one by one (`Parties.Step`). What is shown about
runs of the parties is shown from this list, so that the step functions are opened here. Only a
comparison of two runs opens them again (`Parties.State.step_blur`).
-/

namespace UsbDisplay.Parties

/-- What an action can make of a state, and what it leaves in the history. -/
inductive Step (s : State) : Action → State → Option Event → Prop where
  | fill {old : TransferBuffer} (buffer : TransferBuffer) (held : s.owner.buffer? = some old) :
    Step s (.owner (.fill buffer))
      { s with owner := { s.owner with buffer? := some buffer } } none
  | submit {buffer : TransferBuffer} {length : Nat} (held : s.owner.buffer? = some buffer)
    (isOpen : s.owner.isOpen = true) (fits : length ≤ buffer.capacity) :
    Step s (.owner (.submit length))
      { s with
        owner := { s.owner with
          buffer? := none, inFlight? := some s.tokens.length, lastOutcome := none }
        jobs := s.jobs ++ [⟨s.tokens.length, buffer, length⟩]
        tokens := s.tokens ++ [.fresh] }
      (some (.submitted ⟨s.tokens.length, buffer, length⟩))
  | cancel {number : Nat} (aloft : s.owner.inFlight? = some number) :
    Step s (.owner .cancel) (s.cancelJob number .requested) (some (.cancelled number))
  | look (nothing_new : s.owner.buffer? = none → s.completions = [] ∧ s.worker ≠ .gone) :
    Step s (.owner .poll) s none
  | receive {c : Completion} {rest : List Completion} (there : s.owner.isThere = true)
    (away : s.owner.buffer? = none) (arrived : s.completions = c :: rest) :
    Step s (.owner .poll)
      { s with
        owner := { s.owner with
          buffer? := some c.buffer, inFlight? := none, lastOutcome := some c.outcome }
        completions := rest }
      (some (.received c))
  | lose (gone : s.worker = .gone) (away : s.owner.buffer? = none)
    (none_arrived : s.completions = []) :
    Step s (.owner .poll) { s with owner := { s.owner with workerLost := true } } none
  | close (away : s.owner.buffer? = none) :
    Step s (.owner .close)
      { s with owner := { s.owner with buffer? := none, isOpen := false } } none
  | giveUp {buffer : TransferBuffer} (held : s.owner.buffer? = some buffer) :
    Step s (.owner .close)
      { s with owner := { s.owner with buffer? := none, isOpen := false } } (some .released)
  | part (closed : s.owner.isOpen = false) (away : s.owner.buffer? = none)
    (none_arrived : s.completions = []) :
    Step s (.owner .leave)
      { s with
        owner := { s.owner with buffer? := none, isThere := false }, completions := [] } none
  | abandon (closed : s.owner.isOpen = false)
    (left : s.owner.buffer? = none → s.completions ≠ []) :
    Step s (.owner .leave)
      { s with
        owner := { s.owner with buffer? := none, isThere := false }, completions := [] }
      (some .released)
  | take {job : Job} {rest : List Job} (waiting : s.worker = .waiting)
    (queued : s.jobs = job :: rest) :
    Step s (.worker .take) { s with worker := .taken job, jobs := rest } none
  | arm {job : Job} (taken : s.worker = .taken job) :
    Step s (.worker .arm)
      { s with worker := .calling job, notices := s.notices ++ [.arm job.number] }
      (some (.begun job.number))
  | finishCall {job : Job} (result : Except TransportError Nat)
    (calling : s.worker = .calling job) :
    Step s (.worker (.finishCall result)) { s with worker := .returned job result }
      (some (.returned job.number result))
  | disarm {job : Job} {result : Except TransportError Nat}
    (returned : s.worker = .returned job result) :
    Step s (.worker .disarm)
      { s with worker := .disarmed job result, notices := s.notices ++ [.disarm job.number] } none
  | judge {job : Job} {result : Except TransportError Nat}
    (disarmed : s.worker = .disarmed job result) :
    Step s (.worker .judge)
      { s with
        worker := .finished ⟨job.number, job.buffer, .ofResult result (s.token job.number)⟩ }
      (some (.judged ⟨job.number, job.buffer, .ofResult result (s.token job.number)⟩))
  | report {c : Completion} (there : s.owner.isThere = true) (finished : s.worker = .finished c) :
    Step s (.worker .report)
      { s with worker := .waiting, completions := s.completions ++ [c] } none
  | reportInVain {c : Completion} (left : s.owner.isThere = false)
    (finished : s.worker = .finished c) :
    Step s (.worker .report) { s with worker := .gone } (some .released)
  | quit (closed : s.owner.isOpen = false) (waiting : s.worker = .waiting)
    (none_queued : s.jobs = []) :
    Step s (.worker .leave) { s with worker := .gone } none
  | heedArm {number : Nat} {rest : List Notice} (idle : s.watchdog = .idle)
    (next : s.notices = .arm number :: rest) :
    Step s (.watchdog .notice) { s with watchdog := .armed number, notices := rest }
      (some (.armed number))
  | passDisarm {number : Nat} {rest : List Notice} (idle : s.watchdog = .idle)
    (next : s.notices = .disarm number :: rest) :
    Step s (.watchdog .notice) { s with notices := rest } none
  | endWait {number : Nat} {first : Notice} {rest : List Notice}
    (armed : s.watchdog = .armed number) (next : s.notices = first :: rest) :
    Step s (.watchdog .notice) { s with watchdog := .idle, notices := rest } none
  | expire {number : Nat} (armed : s.watchdog = .armed number) (none_next : s.notices = []) :
    Step s (.watchdog .expire) { s with watchdog := .expired number } none
  | fire {number : Nat} (expired : s.watchdog = .expired number) :
    Step s (.watchdog .fire) { s.cancelJob number .deadline with watchdog := .idle }
      (some (.fired number))
  | retire (gone : s.worker = .gone) (none_next : s.notices = []) :
    Step s (.watchdog .leave) { s with watchdog := .gone } none

namespace Worker

theorem isGone_iff {w : Worker} : w.isGone = true ↔ w = .gone := by
  cases w <;> simp [isGone]

end Worker

namespace State

variable {s next : State} {event? : Option Event}

theorem step_of_ownerStep {a : OwnerAction} (h : s.ownerStep a = some (next, event?)) :
    Step s (.owner a) next event? := by
  unfold ownerStep at h
  split at h
  next there =>
    cases a with
    | fill buffer =>
      simp only at h
      split at h
      · cases h
      next old held =>
        split at h
        · cases h
          exact .fill buffer held
        · cases h
    | submit length =>
      simp only at h
      split at h
      · cases h
      next buffer held =>
        split at h
        next hfits =>
          cases h
          exact .submit held hfits.2.1 hfits.1
        · cases h
    | cancel =>
      obtain ⟨number, aloft, heq⟩ := Option.map_eq_some_iff.1 h
      cases heq
      exact .cancel aloft
    | poll =>
      simp only at h
      split at h
      next held =>
        cases h
        exact .look fun away => nomatch held.symm.trans away
      next c rest away arrived =>
        cases h
        exact .receive there away arrived
      next away none_arrived =>
        split at h
        next gone =>
          cases h
          exact .lose (Worker.isGone_iff.1 gone) away none_arrived
        next working =>
          cases h
          exact .look fun _ => ⟨none_arrived, fun gone => working (Worker.isGone_iff.2 gone)⟩
    | close =>
      cases h
      cases held : s.owner.buffer? with
      | none => exact .close held
      | some buffer => exact .giveUp held
    | leave =>
      simp only at h
      split at h
      · cases h
      next closed =>
        cases h
        replace closed := Bool.eq_false_iff.2 closed
        split
        next none_left =>
          simp only [Bool.and_eq_true, Option.isNone_iff_eq_none, List.isEmpty_iff] at none_left
          exact .part closed none_left.1 none_left.2
        next left =>
          exact .abandon closed fun away none_arrived => left (by simp [away, none_arrived])
  · cases h

theorem step_of_workerStep {a : WorkerAction} (h : s.workerStep a = some (next, event?)) :
    Step s (.worker a) next event? := by
  cases a with
  | take =>
    simp only [workerStep] at h
    split at h
    next waiting queued =>
      cases h
      exact .take waiting queued
    · cases h
  | arm =>
    simp only [workerStep] at h
    split at h
    next taken =>
      cases h
      exact .arm taken
    · cases h
  | finishCall result =>
    simp only [workerStep] at h
    split at h
    next calling =>
      cases h
      exact .finishCall result calling
    · cases h
  | disarm =>
    simp only [workerStep] at h
    split at h
    next returned =>
      cases h
      exact .disarm returned
    · cases h
  | judge =>
    simp only [workerStep] at h
    split at h
    next disarmed =>
      cases h
      exact .judge disarmed
    · cases h
  | report =>
    simp only [workerStep] at h
    split at h
    next finished =>
      split at h
      next there =>
        split at h
        · cases h
          exact .report there finished
        · cases h
      next left =>
        cases h
        exact .reportInVain (Bool.eq_false_iff.2 left) finished
    · cases h
  | leave =>
    simp only [workerStep] at h
    split at h
    next waiting none_queued =>
      split at h
      · cases h
      next closed =>
        cases h
        exact .quit (Bool.eq_false_iff.2 closed) waiting none_queued
    · cases h

theorem step_of_watchdogStep {a : WatchdogAction} (h : s.watchdogStep a = some (next, event?)) :
    Step s (.watchdog a) next event? := by
  cases a with
  | notice =>
    simp only [watchdogStep] at h
    split at h
    next idle hnext =>
      cases h
      exact .heedArm idle hnext
    next idle hnext =>
      cases h
      exact .passDisarm idle hnext
    next armed hnext =>
      cases h
      exact .endWait armed hnext
    · cases h
  | expire =>
    simp only [watchdogStep] at h
    split at h
    next armed none_next =>
      cases h
      exact .expire armed none_next
    · cases h
  | fire =>
    simp only [watchdogStep] at h
    split at h
    next expired =>
      cases h
      exact .fire expired
    · cases h
  | leave =>
    simp only [watchdogStep] at h
    split at h
    next gone _ none_next =>
      cases h
      exact .retire gone none_next
    next gone _ none_next =>
      cases h
      exact .retire gone none_next
    · cases h

/-- Every step of a party is in the list. -/
theorem step_of_eq_some {a : Action} (h : s.step a = some (next, event?)) :
    Step s a next event? := by
  cases a with
  | owner a => exact step_of_ownerStep h
  | worker a => exact step_of_workerStep h
  | watchdog a => exact step_of_watchdogStep h

end State

namespace Chronicle

/-- What holds at the start and is kept by every step holds throughout a run. -/
theorem run_induction {P : Chronicle → Prop}
    (step : ∀ {c : Chronicle} {a : Action} {next : State} {event? : Option Event}, P c →
      Step c.state a next event? → P (c.after next event?))
    {c : Chronicle} (start : P c) (actions : List Action) : P (c.run actions) := by
  induction actions generalizing c with
  | nil => exact start
  | cons a rest ih =>
    refine ih ?_
    rw [act]
    split
    · exact start
    next hstep => exact step start (State.step_of_eq_some hstep)

end Chronicle

end UsbDisplay.Parties
