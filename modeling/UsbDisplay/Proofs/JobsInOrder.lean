import UsbDisplay.Proofs.PartySteps

/-!
Jobs pass through the queues in the order of their submits. For each place that a job comes to, the
jobs that have come there, followed by those that are still on their way, are the jobs of all
submits (`Parties.InOrder`). There is one buffer, so at most one job is on its way
(`Parties.Chronicle.placed_run`), and no sender ever waits for room.
-/

namespace UsbDisplay.Parties

/-! ### What the history tells -/

namespace Event

@[simp] def submitted? : Event → Option Job
  | submitted job => some job
  | _ => none

@[simp] def begun? : Event → Option Nat
  | begun number => some number
  | _ => none

@[simp] def returned? : Event → Option (Nat × Except TransportError Nat)
  | returned number result => some (number, result)
  | _ => none

@[simp] def judged? : Event → Option Completion
  | judged c => some c
  | _ => none

@[simp] def received? : Event → Option Completion
  | received c => some c
  | _ => none

@[simp] def isReleased : Event → Bool
  | released => true
  | _ => false

end Event

namespace Chronicle

/-- The jobs of all submits, in order. -/
def submits (c : Chronicle) : List Job := c.history.filterMap Event.submitted?

/-- The numbers of the jobs whose execution has begun, in order. -/
def begins (c : Chronicle) : List Nat := c.history.filterMap Event.begun?

/-- What the bulk calls have returned, in order, each with the number of its job. -/
def returns (c : Chronicle) : List (Nat × Except TransportError Nat) :=
  c.history.filterMap Event.returned?

/-- The completions that the worker has made, in order. -/
def verdicts (c : Chronicle) : List Completion := c.history.filterMap Event.judged?

/-- The completions that the owner has taken, in order. -/
def receipts (c : Chronicle) : List Completion := c.history.filterMap Event.received?

/-- How often the buffer was given up for good. -/
def releases (c : Chronicle) : Nat := c.history.countP Event.isReleased

section After

variable (c : Chronicle) (next : State) (event? : Option Event)

@[simp] theorem state_after : (c.after next event?).state = next := rfl

theorem filterMap_history_after {β : Type} (f : Event → Option β) :
    (c.after next event?).history.filterMap f =
      c.history.filterMap f ++ (event?.bind f).toList := by
  rw [after, List.filterMap_append]
  cases event? with
  | none => rfl
  | some e => cases h : f e <;> simp [h]

@[simp] theorem submits_after :
    (c.after next event?).submits = c.submits ++ (event?.bind Event.submitted?).toList :=
  c.filterMap_history_after next event? _

@[simp] theorem begins_after :
    (c.after next event?).begins = c.begins ++ (event?.bind Event.begun?).toList :=
  c.filterMap_history_after next event? _

@[simp] theorem returns_after :
    (c.after next event?).returns = c.returns ++ (event?.bind Event.returned?).toList :=
  c.filterMap_history_after next event? _

@[simp] theorem verdicts_after :
    (c.after next event?).verdicts = c.verdicts ++ (event?.bind Event.judged?).toList :=
  c.filterMap_history_after next event? _

@[simp] theorem receipts_after :
    (c.after next event?).receipts = c.receipts ++ (event?.bind Event.received?).toList :=
  c.filterMap_history_after next event? _

@[simp] theorem releases_after :
    (c.after next event?).releases = c.releases + event?.toList.countP Event.isReleased :=
  List.countP_append

end After

end Chronicle

/-- What goes with a job from its submit to its completion. -/
def Job.freight (j : Job) : Nat × TransferBuffer := (j.number, j.buffer)

def Completion.freight (c : Completion) : Nat × TransferBuffer := (c.number, c.buffer)

/-! ### What is on its way -/

namespace Worker

/-- The job that the worker has not begun. -/
def unbegun : Worker → List Job
  | taken job => [job]
  | _ => []

/-- The job whose bulk call has not returned. -/
def unreturned : Worker → List Job
  | taken job | calling job => [job]
  | _ => []

/-- The job that the worker has made no completion of. -/
def unjudged : Worker → List Job
  | taken job | calling job | returned job _ | disarmed job _ => [job]
  | _ => []

/-- The completion that the worker has not sent. -/
def unsent : Worker → List Completion
  | finished c => [c]
  | _ => []

/-- How many jobs the worker has in its hands. -/
def load (w : Worker) : Nat := w.unjudged.length + w.unsent.length

@[simp] theorem load_waiting : waiting.load = 0 := rfl
@[simp] theorem load_taken (job : Job) : (taken job).load = 1 := rfl
@[simp] theorem load_calling (job : Job) : (calling job).load = 1 := rfl
@[simp] theorem load_returned (job : Job) (result : Except TransportError Nat) :
    (returned job result).load = 1 := rfl
@[simp] theorem load_disarmed (job : Job) (result : Except TransportError Nat) :
    (disarmed job result).load = 1 := rfl
@[simp] theorem load_finished (c : Completion) : (finished c).load = 1 := rfl
@[simp] theorem load_gone : gone.load = 0 := rfl

end Worker

namespace State

/-- The jobs that no completion was made of. -/
def outbound (s : State) : List Job := s.worker.unjudged ++ s.jobs

/-- The completions that the owner has not taken. -/
def inbound (s : State) : List Completion := s.completions ++ s.worker.unsent

/-- The numbers of the jobs that have not come back to the owner, in order. -/
def aloft (s : State) : List Nat :=
  s.inbound.map Completion.number ++ s.outbound.map Job.number

/-- In how many places the buffer is. -/
def holders (s : State) : Nat := s.owner.buffer?.toList.length + s.aloft.length

theorem holders_eq (s : State) :
    s.holders = s.owner.buffer?.toList.length +
      (s.jobs.length + s.worker.load + s.completions.length) := by
  simp only [holders, aloft, inbound, outbound, Worker.load, List.length_append, List.length_map]
  omega

theorem aloft_eq_nil_iff {s : State} : s.aloft = [] ↔ s.inbound = [] ∧ s.outbound = [] := by
  rw [aloft, List.append_eq_nil_iff, List.map_eq_nil_iff, List.map_eq_nil_iff]

theorem number_mem_aloft {s : State} {job : Job} (hmem : job ∈ s.outbound) :
    job.number ∈ s.aloft :=
  List.mem_append_right _ (List.mem_map_of_mem hmem)

/-- While the owner has the only buffer, nothing is on its way. -/
theorem aloft_eq_nil {s : State} {buffer : TransferBuffer} (h : s.holders ≤ 1)
    (held : s.owner.buffer? = some buffer) : s.aloft = [] := by
  rw [holders, held, Option.toList_some, List.length_singleton] at h
  exact List.eq_nil_of_length_eq_zero (by omega)

@[simp] theorem length_tokens_cancelJob (s : State) (number : Nat) (reason : CancelReason) :
    (s.cancelJob number reason).tokens.length = s.tokens.length := List.length_modify ..

@[simp] theorem worker_cancelJob (s : State) (number : Nat) (reason : CancelReason) :
    (s.cancelJob number reason).worker = s.worker := rfl

@[simp] theorem jobs_cancelJob (s : State) (number : Nat) (reason : CancelReason) :
    (s.cancelJob number reason).jobs = s.jobs := rfl

@[simp] theorem completions_cancelJob (s : State) (number : Nat) (reason : CancelReason) :
    (s.cancelJob number reason).completions = s.completions := rfl

@[simp] theorem notices_cancelJob (s : State) (number : Nat) (reason : CancelReason) :
    (s.cancelJob number reason).notices = s.notices := rfl

@[simp] theorem watchdog_cancelJob (s : State) (number : Nat) (reason : CancelReason) :
    (s.cancelJob number reason).watchdog = s.watchdog := rfl

@[simp] theorem owner_cancelJob (s : State) (number : Nat) (reason : CancelReason) :
    (s.cancelJob number reason).owner = s.owner := rfl

end State

/-- Jobs come to each place in the order of their numbers, which is that of their submits. -/
structure InOrder (c : Chronicle) : Prop where
  submits : c.submits.map Job.number = List.range c.state.tokens.length
  begins : c.begins ++ (c.state.worker.unbegun ++ c.state.jobs).map Job.number =
    List.range c.state.tokens.length
  returns : c.returns.map Prod.fst ++ (c.state.worker.unreturned ++ c.state.jobs).map Job.number =
    List.range c.state.tokens.length
  verdicts : c.verdicts.map Completion.freight ++ c.state.outbound.map Job.freight =
    c.submits.map Job.freight
  receipts : c.state.owner.isThere = true → c.receipts ++ c.state.inbound = c.verdicts
  /-- Also when the owner takes no completions any more. -/
  receipts_prefix : c.receipts <+: c.verdicts

/-- The buffer is in one place until it is given up, and that only happens after a close. -/
structure Placed (c : Chronicle) : Prop where
  holders : c.state.holders + c.releases = 1
  closed_of_released : 0 < c.releases → c.state.owner.isOpen = false
  closed_of_left : c.state.owner.isThere = false → c.state.owner.isOpen = false
  closed_of_gone : c.state.worker = .gone → c.state.owner.isOpen = false
  inFlight : ∀ number ∈ c.state.aloft, c.state.owner.inFlight? = some number

section Steps

variable {c : Chronicle} {a : Action} {next : State} {event? : Option Event}

namespace InOrder

theorem step_submits (hs : Step c.state a next event?)
    (h : c.submits.map Job.number = List.range c.state.tokens.length) :
    (c.after next event?).submits.map Job.number = List.range next.tokens.length := by
  cases hs with
  | submit => simp [h, List.range_succ]
  | _ => simpa using h

theorem step_begins (hs : Step c.state a next event?)
    (h : c.begins ++ (c.state.worker.unbegun ++ c.state.jobs).map Job.number =
      List.range c.state.tokens.length) :
    (c.after next event?).begins ++ (next.worker.unbegun ++ next.jobs).map Job.number =
      List.range next.tokens.length := by
  cases hs with
  | submit => simp [List.range_succ, ← h]
  | take worker queued => simpa [Worker.unbegun, worker, queued] using h
  | arm worker | finishCall _ worker | disarm worker | judge worker | report _ worker
    | reportInVain _ worker | quit _ worker _ => simpa [Worker.unbegun, worker] using h
  | _ => simpa using h

theorem step_returns (hs : Step c.state a next event?)
    (h : c.returns.map Prod.fst ++ (c.state.worker.unreturned ++ c.state.jobs).map Job.number =
      List.range c.state.tokens.length) :
    (c.after next event?).returns.map Prod.fst ++
      (next.worker.unreturned ++ next.jobs).map Job.number = List.range next.tokens.length := by
  cases hs with
  | submit => simp [List.range_succ, ← h]
  | take worker queued => simpa [Worker.unreturned, worker, queued] using h
  | arm worker | finishCall _ worker | disarm worker | judge worker | report _ worker
    | reportInVain _ worker | quit _ worker _ => simpa [Worker.unreturned, worker] using h
  | _ => simpa using h

theorem step_verdicts (hs : Step c.state a next event?)
    (h : c.verdicts.map Completion.freight ++ c.state.outbound.map Job.freight =
      c.submits.map Job.freight) :
    (c.after next event?).verdicts.map Completion.freight ++ next.outbound.map Job.freight =
      (c.after next event?).submits.map Job.freight := by
  unfold State.outbound at *
  cases hs with
  | submit => simp [← h]
  | take worker queued => simpa [Worker.unjudged, worker, queued] using h
  | judge worker => simpa [Worker.unjudged, worker, Job.freight, Completion.freight] using h
  | arm worker | finishCall _ worker | disarm worker | report _ worker
    | reportInVain _ worker | quit _ worker _ => simpa [Worker.unjudged, worker] using h
  | _ => simpa using h

theorem step_receipts (hs : Step c.state a next event?)
    (h : c.state.owner.isThere = true → c.receipts ++ c.state.inbound = c.verdicts)
    (there : next.owner.isThere = true) :
    (c.after next event?).receipts ++ next.inbound = (c.after next event?).verdicts := by
  unfold State.inbound at *
  cases hs with
  | part | abandon => cases there
  | receive _ _ arrived => simpa [arrived] using h there
  | take worker | arm worker | finishCall _ worker | disarm worker | report _ worker
    | quit _ worker _ =>
    have := h there
    rw [worker] at this
    simpa [Worker.unsent] using this
  | judge worker =>
    have := h there
    rw [worker] at this
    simp [Worker.unsent, ← this]
  | reportInVain left worker => exact absurd there (by simp [left])
  | _ => simpa using h there

theorem step_receipts_prefix (hs : Step c.state a next event?)
    (hreceipts : c.state.owner.isThere = true → c.receipts ++ c.state.inbound = c.verdicts)
    (h : c.receipts <+: c.verdicts) :
    (c.after next event?).receipts <+: (c.after next event?).verdicts := by
  unfold State.inbound at *
  cases hs with
  | receive there _ arrived =>
    exact ⟨_, by simpa [arrived] using hreceipts there⟩
  | judge => simpa using h.trans (List.prefix_append ..)
  | _ => simpa using h

theorem step (h : InOrder c) (hs : Step c.state a next event?) : InOrder (c.after next event?) where
  submits := step_submits hs h.submits
  begins := step_begins hs h.begins
  returns := step_returns hs h.returns
  verdicts := step_verdicts hs h.verdicts
  receipts := step_receipts hs h.receipts
  receipts_prefix := step_receipts_prefix hs h.receipts h.receipts_prefix

end InOrder

theorem Step.holders_add {s : State} (hs : Step s a next event?) (h : s.holders ≤ 1) :
    next.holders + event?.toList.countP Event.isReleased = s.holders := by
  simp only [State.holders_eq] at h ⊢
  cases hs with
  | fill buffer held => simp [held]
  | submit held =>
    simp [held]
    omega
  | receive there away arrived =>
    simp [away, arrived]
    omega
  | close away => simp [away]
  | giveUp held =>
    simp [held]
    omega
  | part _ away none_arrived => simp [away, none_arrived]
  | abandon _ left =>
    have released : [Event.released].countP Event.isReleased = 1 := rfl
    cases held : s.owner.buffer? with
    | some buffer =>
      simp only [held, released, Option.toList_none, Option.toList_some, List.length_nil,
        List.length_singleton] at h ⊢
      omega
    | none =>
      have arrived := List.length_pos_iff.2 (left held)
      simp only [held, released, Option.toList_none, Option.toList_some, List.length_nil] at h ⊢
      omega
  | take worker queued =>
    simp [worker, queued]
  | arm worker | finishCall _ worker | disarm worker | judge worker | quit _ worker =>
    simp [worker]
  | report _ worker | reportInVain _ worker =>
    simp [worker]
    omega
  | _ => simp

namespace Placed

theorem holders_le_one (h : Placed c) : c.state.holders ≤ 1 := by
  have := h.holders
  omega

theorem step_holders (h : Placed c) (hs : Step c.state a next event?) :
    next.holders + (c.after next event?).releases = 1 := by
  have hstep := hs.holders_add h.holders_le_one
  have hc := h.holders
  rw [Chronicle.releases_after]
  omega

theorem step_inFlight (h : Placed c) (hs : Step c.state a next event?) :
    ∀ number ∈ next.aloft, next.owner.inFlight? = some number := by
  have hnext : next.holders ≤ 1 := by
    have := step_holders h hs
    omega
  cases hs with
  | submit held =>
    obtain ⟨none_back, none_out⟩ :=
      State.aloft_eq_nil_iff.1 (State.aloft_eq_nil h.holders_le_one held)
    simp only [State.inbound, State.outbound, List.append_eq_nil_iff] at none_back none_out
    simp [State.aloft, State.inbound, State.outbound, none_back, none_out]
  | receive => simp [State.aloft_eq_nil hnext rfl]
  | part | abandon =>
    refine fun number hmem => h.inFlight number ?_
    simp only [State.aloft, State.inbound, List.map_append, List.append_assoc] at hmem ⊢
    exact List.mem_append_right _ hmem
  | take worker queued =>
    simpa [State.aloft, State.inbound, State.outbound, Worker.unjudged, Worker.unsent, worker,
      queued] using h.inFlight
  | arm worker | finishCall _ worker | disarm worker | judge worker | report _ worker
    | quit _ worker =>
    simpa [State.aloft, State.inbound, State.outbound, Worker.unjudged, Worker.unsent, worker]
      using h.inFlight
  | reportInVain _ worker =>
    refine fun number hmem => h.inFlight number ?_
    simp only [State.aloft, State.inbound, State.outbound, worker, Worker.unsent, Worker.unjudged,
      List.map_append, List.map_nil, List.append_nil, List.mem_append] at hmem ⊢
    exact hmem.imp_left .inl
  | _ => exact h.inFlight

theorem step (h : Placed c) (hs : Step c.state a next event?) : Placed (c.after next event?) where
  holders := step_holders h hs
  closed_of_released := by
    cases hs with
    | close | giveUp => exact fun _ => rfl
    | part closed | abandon closed => exact fun _ => closed
    | reportInVain left => exact fun _ => h.closed_of_left left
    | _ => simpa using h.closed_of_released
  closed_of_left := by
    cases hs with
    | close | giveUp => exact fun _ => rfl
    | part closed | abandon closed => exact fun _ => closed
    | _ => exact h.closed_of_left
  closed_of_gone := by
    cases hs with
    | close | giveUp => exact fun _ => rfl
    | part closed | abandon closed | quit closed => exact fun _ => closed
    | reportInVain left => exact fun _ => h.closed_of_left left
    | take | arm | finishCall | disarm | judge | report => exact fun gone => nomatch gone
    | _ => exact h.closed_of_gone
  inFlight := step_inFlight h hs

/-- The queue to the worker has room for the buffer that the owner has. -/
theorem submit_isSome (h : Placed c) {buffer : TransferBuffer}
    (there : c.state.owner.isThere = true) (held : c.state.owner.buffer? = some buffer)
    (isOpen : c.state.owner.isOpen = true) {length : Nat} (fits : length ≤ buffer.capacity) :
    (c.state.step (.owner (.submit length))).isSome = true := by
  have working : c.state.worker.isGone = false := by
    rw [Bool.eq_false_iff, ne_eq, Worker.isGone_iff]
    exact fun gone => Bool.noConfusion (isOpen.symm.trans (h.closed_of_gone gone))
  have room : c.state.jobs.length < queueLimit := by
    have := h.holders_le_one
    rw [State.holders_eq, held] at this
    simp only [Option.toList_some, List.length_singleton] at this
    rw [queueLimit]
    omega
  simp [State.step, State.ownerStep, there, held, isOpen, fits, working, room]

/-- The queue to the owner has room for the completion that the worker has. -/
theorem report_isSome (h : Placed c) {done : Completion}
    (finished : c.state.worker = .finished done) :
    (c.state.step (.worker .report)).isSome = true := by
  have room : c.state.completions.length < queueLimit := by
    have := h.holders_le_one
    rw [State.holders_eq, finished, Worker.load_finished] at this
    rw [queueLimit]
    omega
  cases there : c.state.owner.isThere with
  | true => simp [State.step, State.workerStep, there, finished, room]
  | false => simp [State.step, State.workerStep, there, finished]

end Placed

end Steps

namespace Chronicle

theorem inOrder_run (buffer : TransferBuffer) (actions : List Action) :
    InOrder ((start buffer).run actions) :=
  run_induction (fun h hs => h.step hs) ⟨rfl, rfl, rfl, rfl, fun _ => rfl, List.prefix_rfl⟩ actions

theorem placed_run (buffer : TransferBuffer) (actions : List Action) :
    Placed ((start buffer).run actions) := by
  refine run_induction (fun h hs => h.step hs) ?_ actions
  exact ⟨rfl, nofun, nofun, nofun, nofun⟩

end Chronicle

end UsbDisplay.Parties
