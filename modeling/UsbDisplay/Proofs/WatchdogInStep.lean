import UsbDisplay.Proofs.JobsInOrder

/-!
The watchdog and the worker stay in step, although the watchdog may be whole transfers behind and
takes whatever notice comes first for the end of its wait. For each job that the worker begins, it
sends a notice to arm and later one to disarm. So what the watchdog has not heard yet is, after the
disarm of the job that it was armed for last, if that is still to come, whole pairs for the jobs
that have begun since (`Parties.Heeding`). It follows that the watchdog is armed for every job in
its turn, that only the end of that job ends its wait, and that it stops no other job than the one
that it was armed for last.
-/

namespace UsbDisplay.Parties

@[simp] def Event.armed? : Event → Option Nat
  | armed number => some number
  | _ => none

@[simp] def Event.fired? : Event → Option Nat
  | fired number => some number
  | _ => none

namespace Chronicle

/-- The numbers of the jobs that the watchdog was armed for, in order. -/
def arms (c : Chronicle) : List Nat := c.history.filterMap Event.armed?

/-- The numbers of the jobs that the watchdog has asked to stop, in order. -/
def fires (c : Chronicle) : List Nat := c.history.filterMap Event.fired?

variable (c : Chronicle) (next : State) (event? : Option Event)

@[simp] theorem arms_after :
    (c.after next event?).arms = c.arms ++ (event?.bind Event.armed?).toList :=
  c.filterMap_history_after next event? _

@[simp] theorem fires_after :
    (c.after next event?).fires = c.fires ++ (event?.bind Event.fired?).toList :=
  c.filterMap_history_after next event? _

end Chronicle

namespace Notice

@[simp] def arm? : Notice → Option Nat
  | arm number => some number
  | disarm _ => none

/-- The notices about jobs that are begun and ended one after the other. -/
def pairs (numbers : List Nat) : List Notice := numbers.flatMap fun n => [arm n, disarm n]

@[simp] theorem pairs_nil : pairs [] = [] := rfl

@[simp] theorem pairs_cons (number : Nat) (numbers : List Nat) :
    pairs (number :: numbers) = arm number :: disarm number :: pairs numbers := rfl

@[simp] theorem pairs_append (numbers more : List Nat) :
    pairs (numbers ++ more) = pairs numbers ++ pairs more := List.flatMap_append

@[simp] theorem filterMap_arm?_pairs (numbers : List Nat) :
    (pairs numbers).filterMap arm? = numbers := by
  induction numbers with
  | nil => rfl
  | cons number rest ih => simp [List.filterMap_cons, ih]

end Notice

/-- The notice that the worker owes about a job it has begun. -/
def Worker.due : Worker → List Notice
  | calling job | returned job _ => [.disarm job.number]
  | _ => []

@[simp] theorem Worker.filterMap_arm?_due (w : Worker) : w.due.filterMap Notice.arm? = [] := by
  cases w <;> rfl

/-- What the watchdog is yet to hear about the jobs that have begun. -/
def State.unheard (s : State) : List Notice := s.notices ++ s.worker.due

/-- What the watchdog hears before it can be armed again, if `last` is the job that it was armed for
last. -/
inductive Watchdog.Awaits (last : Option Nat) : Watchdog → List Notice → Prop where
  | rested : Awaits last .idle []
  /-- It has asked the transfer to stop, and does not know that it has ended. -/
  | fired {number : Nat} (h : last = some number) : Awaits last .idle [.disarm number]
  | armed {number : Nat} (h : last = some number) : Awaits last (.armed number) [.disarm number]
  | expired {number : Nat} (h : last = some number) : Awaits last (.expired number) [.disarm number]
  | gone : Awaits last .gone []

theorem Watchdog.Awaits.filterMap_arm? {last : Option Nat} {w : Watchdog} {awaited : List Notice}
    (h : w.Awaits last awaited) : awaited.filterMap Notice.arm? = [] := by
  cases h <;> rfl

/-- The watchdog was armed for all jobs that have begun, up to some that it is yet to hear of. -/
structure Heeding (c : Chronicle) (awaited : List Notice) (ahead : List Nat) : Prop where
  awaits : c.state.watchdog.Awaits c.arms.getLast? awaited
  unheard : c.state.unheard = awaited ++ Notice.pairs ahead
  begins : c.arms ++ ahead = c.begins

namespace Heeding

variable {c : Chronicle} {a : Action} {next : State} {event? : Option Event}
  {awaited : List Notice} {ahead : List Nat}

/-- The notice that ends a wait is the one that the job has ended for which the watchdog was armed.
-/
theorem eq_disarm (h : Heeding c awaited ahead) {number : Nat} {first : Notice} {rest : List Notice}
    (armed : c.state.watchdog = .armed number) (hnext : c.state.notices = first :: rest) :
    first = .disarm number := by
  have hawaits := h.awaits
  have hunheard := h.unheard
  rw [armed] at hawaits
  cases hawaits
  rw [State.unheard, hnext] at hunheard
  exact (List.cons.inj hunheard).1

theorem step_worker (h : Heeding c awaited ahead) {job : Job}
    (taken : c.state.worker = .taken job) :
    Heeding (c.after { c.state with
      worker := .calling job, notices := c.state.notices ++ [.arm job.number] }
      (some (.begun job.number))) awaited (ahead ++ [job.number]) where
  awaits := by simpa using h.awaits
  unheard := by
    have := h.unheard
    simp only [State.unheard, taken, Worker.due, List.append_nil] at this
    simp [State.unheard, Worker.due, this]
  begins := by simp [← h.begins]

theorem step_heedArm (h : Heeding c awaited ahead) {number : Nat} {rest : List Notice}
    (idle : c.state.watchdog = .idle) (hnext : c.state.notices = .arm number :: rest) :
    ∃ ahead, Heeding (c.after { c.state with watchdog := .armed number, notices := rest }
      (some (.armed number))) [.disarm number] ahead := by
  obtain ⟨hawaits, hunheard, hbegins⟩ := h
  rw [State.unheard, hnext] at hunheard
  rw [idle] at hawaits
  cases hawaits with
  | fired => exact nomatch hunheard
  | rested =>
    cases ahead with
    | nil => exact nomatch hunheard
    | cons first later =>
      obtain ⟨hfirst, hrest⟩ := List.cons.inj hunheard
      cases hfirst
      exact ⟨later, .armed (by simp), hrest, by simpa using hbegins⟩

theorem step_passDisarm (h : Heeding c awaited ahead) {number : Nat} {rest : List Notice}
    (idle : c.state.watchdog = .idle) (hnext : c.state.notices = .disarm number :: rest) :
    Heeding (c.after { c.state with notices := rest } none) [] ahead := by
  obtain ⟨hawaits, hunheard, hbegins⟩ := h
  rw [State.unheard, hnext] at hunheard
  rw [idle] at hawaits
  cases hawaits with
  | rested => cases ahead <;> exact nomatch hunheard
  | fired =>
    refine ⟨?_, (List.cons.inj hunheard).2, by simpa using hbegins⟩
    simpa [idle] using Watchdog.Awaits.rested

theorem step_endWait (h : Heeding c awaited ahead) {number : Nat} {first : Notice}
    {rest : List Notice} (armed : c.state.watchdog = .armed number)
    (hnext : c.state.notices = first :: rest) :
    Heeding (c.after { c.state with watchdog := .idle, notices := rest } none) [] ahead := by
  obtain ⟨hawaits, hunheard, hbegins⟩ := h
  rw [State.unheard, hnext] at hunheard
  rw [armed] at hawaits
  cases hawaits
  exact ⟨.rested, (List.cons.inj hunheard).2, by simpa using hbegins⟩

theorem step_expire (h : Heeding c awaited ahead) {number : Nat}
    (armed : c.state.watchdog = .armed number) :
    Heeding (c.after { c.state with watchdog := .expired number } none) awaited ahead := by
  obtain ⟨hawaits, hunheard, hbegins⟩ := h
  rw [armed] at hawaits
  cases hawaits with
  | armed last => exact ⟨.expired (by simpa using last), hunheard, by simpa using hbegins⟩

theorem step_fire (h : Heeding c awaited ahead) {number : Nat}
    (expired : c.state.watchdog = .expired number) :
    Heeding (c.after { c.state.cancelJob number .deadline with watchdog := .idle }
      (some (.fired number))) awaited ahead := by
  obtain ⟨hawaits, hunheard, hbegins⟩ := h
  rw [expired] at hawaits
  cases hawaits with
  | expired last => exact ⟨.fired (by simpa using last), hunheard, by simpa using hbegins⟩

/-- The watchdog only leaves when it has heard of the end of every job. -/
theorem step_retire (h : Heeding c awaited ahead) (gone : c.state.worker = .gone)
    (none_next : c.state.notices = []) :
    Heeding (c.after { c.state with watchdog := .gone } none) awaited ahead := by
  obtain ⟨hawaits, hunheard, hbegins⟩ := h
  have all_heard : awaited = [] := by
    rw [State.unheard, none_next, gone] at hunheard
    exact (List.append_eq_nil_iff.1 hunheard.symm).1
  subst all_heard
  exact ⟨.gone, hunheard, by simpa using hbegins⟩

theorem step (h : Heeding c awaited ahead) (hs : Step c.state a next event?) :
    ∃ awaited ahead, Heeding (c.after next event?) awaited ahead := by
  cases hs with
  | heedArm idle hnext => exact ⟨_, h.step_heedArm idle hnext⟩
  | passDisarm idle hnext => exact ⟨_, _, h.step_passDisarm idle hnext⟩
  | arm taken => exact ⟨_, _, h.step_worker taken⟩
  | take worker | judge worker | report _ worker | reportInVain _ worker | quit _ worker
    | finishCall _ worker | disarm worker =>
    refine ⟨awaited, ahead, by simpa using h.awaits, ?_, by simpa using h.begins⟩
    simpa [State.unheard, Worker.due, worker] using h.unheard
  | endWait armed hnext => exact ⟨_, _, h.step_endWait armed hnext⟩
  | expire armed => exact ⟨_, _, h.step_expire armed⟩
  | fire expired => exact ⟨_, _, h.step_fire expired⟩
  | retire gone none_next => exact ⟨_, _, h.step_retire gone none_next⟩
  | _ => exact ⟨awaited, ahead, by simpa using h.awaits, h.unheard, by simpa using h.begins⟩

/-- No notice to arm is passed over: the watchdog was armed for each, or it is in the queue still.
-/
theorem arms_append (h : Heeding c awaited ahead) :
    c.arms ++ c.state.notices.filterMap Notice.arm? = c.begins := by
  have told : c.state.notices.filterMap Notice.arm? = ahead := by
    have hunheard := congrArg (List.filterMap Notice.arm?) h.unheard
    simpa [State.unheard, h.awaits.filterMap_arm?] using hunheard
  rw [told, h.begins]

/-- The job that the watchdog is about to stop is the one that it was armed for last. -/
theorem last_arm (h : Heeding c awaited ahead) {number : Nat}
    (expired : c.state.watchdog = .expired number) : c.arms.getLast? = some number := by
  have hawaits := h.awaits
  rw [expired] at hawaits
  cases hawaits with
  | expired last => exact last

theorem mem_begins (h : Heeding c awaited ahead) {number : Nat} (armed : number ∈ c.arms) :
    number ∈ c.begins := by
  rw [← h.begins]
  exact List.mem_append_left _ armed

end Heeding

/-! ### Whom the watchdog stops -/

namespace State

theorem token_cancelJob_of_ne (s : State) {number other : Nat} (h : number ≠ other)
    (reason : CancelReason) : (s.cancelJob number reason).token other = s.token other := by
  simp [token, cancelJob, h]

theorem token_cancelJob (s : State) (number : Nat) (reason : CancelReason) :
    (s.cancelJob number reason).token number = s.token number ∨
      (s.cancelJob number reason).token number = ((s.token number).cancel reason).2 := by
  simp only [token, cancelJob, List.getElem?_modify]
  cases s.tokens[number]? <;> simp

/-- A job that is not there yet has a fresh token as well. -/
theorem getD_append_fresh (tokens : List CancelToken) (number : Nat) :
    (tokens ++ [.fresh])[number]?.getD .fresh = tokens[number]?.getD .fresh := by
  rcases Nat.lt_trichotomy number tokens.length with h | h | h
  · rw [List.getElem?_append_left h]
  · simp [h]
  · rw [List.getElem?_eq_none (by simp; omega), List.getElem?_eq_none (Nat.le_of_lt h)]

end State

namespace Step

variable {s next : State} {a : Action} {event? : Option Event}

/-- The token of a job changes only when the owner asks the job to stop, and when the watchdog stops
this very job. -/
theorem token_eq (hs : Step s a next event?) (number : Nat) :
    next.token number = s.token number ∨
      next.token number = ((s.token number).cancel .requested).2 ∨
      event? = some (.fired number) ∧
        next.token number = ((s.token number).cancel .deadline).2 := by
  cases hs with
  | submit => exact .inl (State.getD_append_fresh s.tokens number)
  | @cancel asked =>
    by_cases h : asked = number
    · subst h
      exact (s.token_cancelJob asked .requested).imp_right .inl
    · exact .inl (s.token_cancelJob_of_ne h _)
  | @fire late =>
    by_cases h : late = number
    · subst h
      exact (s.token_cancelJob late .deadline).imp_right fun ht => .inr ⟨rfl, ht⟩
    · exact .inl (s.token_cancelJob_of_ne h _)
  | _ => exact .inl rfl

/-- The first reason to stop stays. -/
theorem token_eq_of_isCancelled (hs : Step s a next event?) {number : Nat}
    (h : (s.token number).isCancelled = true) : next.token number = s.token number := by
  rcases hs.token_eq number with same | asked | ⟨-, late⟩
  · exact same
  · rw [asked, CancelToken.cancel_of_isCancelled h]
  · rw [late, CancelToken.cancel_of_isCancelled h]

/-- A deadline is only set by the watchdog when it stops this very job. -/
theorem fired_of_deadline (hs : Step s a next event?) {number : Nat}
    (hnext : (next.token number).reason? = some .deadline)
    (h : (s.token number).reason? ≠ some .deadline) : event? = some (.fired number) := by
  rcases hs.token_eq number with same | asked | ⟨fired, -⟩
  · exact absurd (same ▸ hnext) h
  · rw [asked, CancelToken.cancel] at hnext
    split at hnext
    · cases hnext
    · exact absurd hnext h
  · exact fired

theorem expired_of_fired {number : Nat} (hs : Step s a next (some (.fired number))) :
    s.watchdog = .expired number := by
  cases hs with
  | fire expired => exact expired

end Step

/-- What the watchdog has to do with the jobs, at every moment of a run. -/
structure Watched (c : Chronicle) : Prop where
  heeding : ∃ awaited ahead, Heeding c awaited ahead
  /-- It only stops jobs that it was armed for. -/
  fires : ∀ number ∈ c.fires, number ∈ c.arms
  /-- Nobody else sets a deadline. -/
  deadlines : ∀ number, (c.state.token number).reason? = some .deadline → number ∈ c.fires

namespace Watched

variable {c : Chronicle} {a : Action} {next : State} {event? : Option Event}

theorem step_fires (h : Watched c) (hs : Step c.state a next event?) :
    ∀ number ∈ (c.after next event?).fires, number ∈ (c.after next event?).arms := by
  have hfires := h.fires
  obtain ⟨_, _, heeding⟩ := h.heeding
  cases hs with
  | fire expired =>
    have last := List.mem_of_getLast? (heeding.last_arm expired)
    simpa using fun number => Or.rec (hfires number) (fun same => same ▸ last)
  | heedArm => simpa using fun number hmem => .inl (hfires number hmem)
  | _ => simpa using hfires

theorem step_deadlines (h : Watched c) (hs : Step c.state a next event?) :
    ∀ number, (next.token number).reason? = some .deadline →
      number ∈ (c.after next event?).fires := by
  intro number hnext
  rw [Chronicle.fires_after, List.mem_append]
  by_cases before : (c.state.token number).reason? = some .deadline
  · exact .inl (h.deadlines number before)
  · rw [hs.fired_of_deadline hnext before]
    exact .inr (List.mem_singleton_self number)

theorem step (h : Watched c) (hs : Step c.state a next event?) : Watched (c.after next event?) where
  heeding :=
    have ⟨_, _, heeding⟩ := h.heeding
    heeding.step hs
  fires := h.step_fires hs
  deadlines := h.step_deadlines hs

/-- Whoever sets a deadline is the watchdog, and it sets it for the job that it was armed for last.
That job has begun. -/
theorem last_arm (h : Watched c) (hs : Step c.state a next event?) {number : Nat}
    (hnext : (next.token number).reason? = some .deadline)
    (before : (c.state.token number).reason? ≠ some .deadline) :
    event? = some (.fired number) ∧ c.arms.getLast? = some number ∧ number ∈ c.begins := by
  obtain ⟨_, _, heeding⟩ := h.heeding
  have fired := hs.fired_of_deadline hnext before
  subst fired
  have last := heeding.last_arm hs.expired_of_fired
  exact ⟨rfl, last, heeding.mem_begins (List.mem_of_getLast? last)⟩

end Watched

theorem Chronicle.watched_run (buffer : TransferBuffer) (actions : List Action) :
    Watched ((start buffer).run actions) := by
  refine run_induction (fun h hs => h.step hs) ⟨⟨[], [], .rested, rfl, rfl⟩, nofun, ?_⟩ actions
  intro number h
  simp [start, State.start, State.token, CancelToken.fresh] at h

end UsbDisplay.Parties
