import UsbDisplay.Proofs.WatchdogInStep

/-!
What holds of the parties behind a slot at every moment, in whatever order they take their steps
(`Parties.InStep`). Jobs, notices and completions never get mixed up: the end of a job ends the
watchdog's wait for this job, a deadline hits the job that it was meant for, and every completion
brings back the buffer of its own job with the outcome that the job's own call and token decide.
-/

namespace UsbDisplay.Parties

/-- What the bulk call of the worker's job has returned. -/
def Worker.result? : Worker → Option (Nat × Except TransportError Nat)
  | returned job result | disarmed job result => some (job.number, result)
  | _ => none

/-- The outcome of a completion is decided by what the call of its job returned, and by the token of
its job at some moment; what the token had to say then is what it says now. -/
def Decided (c : Chronicle) (done : Completion) : Prop :=
  ∃ result token, (done.number, result) ∈ c.returns ∧ done.outcome = .ofResult result token ∧
    (token = .fresh ∨ token = c.state.token done.number)

/-- Every completion has the outcome of its own job. -/
structure Judged (c : Chronicle) : Prop where
  result : ∀ r ∈ c.state.worker.result?, r ∈ c.returns
  verdicts : ∀ done ∈ c.verdicts, Decided c done

section Steps

variable {c : Chronicle} {a : Action} {next : State} {event? : Option Event}

theorem Decided.step {done : Completion} (h : Decided c done) (hs : Step c.state a next event?) :
    Decided (c.after next event?) done := by
  obtain ⟨result, token, hmem, houtcome, htoken⟩ := h
  refine ⟨result, token, ?_, houtcome, ?_⟩
  · rw [Chronicle.returns_after]
    exact List.mem_append_left _ hmem
  · cases hcancelled : token.isCancelled with
    | false =>
      obtain ⟨_ | _⟩ := token
      · exact .inl rfl
      · cases hcancelled
    | true =>
      refine htoken.imp_right fun same => ?_
      rw [Chronicle.state_after, hs.token_eq_of_isCancelled (same ▸ hcancelled)]
      exact same

namespace Judged

theorem step (h : Judged c) (hs : Step c.state a next event?) : Judged (c.after next event?) where
  result := by
    have hresult := h.result
    cases hs with
    | take worker | arm worker | judge worker | report _ worker | reportInVain _ worker
      | quit _ worker => exact nofun
    | finishCall result worker => simp [Worker.result?]
    | disarm worker => simpa [Worker.result?, worker] using hresult
    | _ => simpa using hresult
  verdicts := by
    intro done hmem
    rw [Chronicle.verdicts_after, List.mem_append] at hmem
    rcases hmem with old | new
    · exact (h.verdicts done old).step hs
    · cases hs with
      | @judge job result worker =>
        cases List.mem_singleton.1 new
        have returned := h.result (job.number, result) (by simp [worker, Worker.result?])
        exact ⟨result, _, by simpa using returned, rfl, .inr rfl⟩
      | _ => cases new

end Judged

end Steps

theorem Chronicle.judged_run (buffer : TransferBuffer) (actions : List Action) :
    Judged ((start buffer).run actions) :=
  run_induction (fun h hs => h.step hs) ⟨nofun, nofun⟩ actions

/-! ### At every moment -/

/-- The completions of the worker, in order, bring back what was submitted, each job at most once.
-/
theorem InOrder.verdicts_prefix {c : Chronicle} (h : InOrder c) :
    c.verdicts.map Completion.freight <+: c.submits.map Job.freight :=
  ⟨_, h.verdicts⟩

theorem InOrder.verdicts_nodup {c : Chronicle} (h : InOrder c) :
    (c.verdicts.map Completion.number).Nodup := by
  have numbers : c.verdicts.map Completion.number <+: List.range c.state.tokens.length := by
    rw [← h.submits]
    simpa [Function.comp_def, Completion.freight, Job.freight] using
      h.verdicts_prefix.map Prod.fst
  exact List.nodup_range.sublist numbers.sublist

/-- What holds of the parties behind a slot. -/
structure InStep (c : Chronicle) : Prop where
  /-- The notice that ends the watchdog's wait for a job is the one that this job has ended. -/
  wait_ended : ∀ number first rest, c.state.watchdog = .armed number →
    c.state.notices = first :: rest → first = .disarm number
  /-- The watchdog was armed for each job that has begun, in order, or will be: the notices to arm
  that it has not taken are all in the queue. -/
  arms : c.arms ++ c.state.notices.filterMap Notice.arm? = c.begins
  /-- A step that sets a deadline on the token of a job is the watchdog's, which was armed for this
  job last; and the job has begun. -/
  deadline : ∀ a next event? number, c.state.step a = some (next, event?) →
    (next.token number).reason? = some .deadline →
    (c.state.token number).reason? ≠ some .deadline →
    event? = some (.fired number) ∧ c.arms.getLast? = some number ∧ number ∈ c.begins
  /-- At most one job is in the queue to the worker, with the worker or in the queue back. -/
  one_job : c.state.jobs.length + c.state.worker.load + c.state.completions.length ≤ 1
  /-- The owner never waits for room when it submits. -/
  submit_room : ∀ buffer length, c.state.owner.isThere = true →
    c.state.owner.buffer? = some buffer → c.state.owner.isOpen = true →
    length ≤ buffer.capacity → (c.state.step (.owner (.submit length))).isSome = true
  /-- The worker never waits for room when it reports. -/
  report_room : ∀ done, c.state.worker = .finished done →
    (c.state.step (.worker .report)).isSome = true
  /-- The buffer is in one place until it is given up. -/
  one_place : c.state.owner.buffer?.toList.length +
    (c.state.jobs.length + c.state.worker.load + c.state.completions.length) + c.releases = 1
  /-- It is only given up after the slot was shut down. -/
  given_up : 0 < c.releases → c.state.owner.isOpen = false
  /-- Completions bring back the buffers that were submitted, in order. -/
  own_buffer : c.verdicts.map Completion.freight <+: c.submits.map Job.freight
  once : (c.verdicts.map Completion.number).Nodup
  own_outcome : ∀ done ∈ c.verdicts, Decided c done
  /-- A job that has timed out was stopped by the watchdog. -/
  timed_out : ∀ done ∈ c.verdicts, done.outcome = .timedOut → done.number ∈ c.fires
  /-- The owner gets the completions in order. -/
  receipts : c.receipts <+: c.verdicts
  /-- A completion in the queue is of the job that the owner waits for. -/
  awaited : ∀ done ∈ c.state.completions, c.state.owner.inFlight? = some done.number

theorem reason_of_ofResult {result : Except TransportError Nat} {token : CancelToken}
    (h : Outcome.ofResult result token = .timedOut) : token.reason? = some .deadline := by
  cases result with
  | ok bytes => cases h
  | error cause => rcases token with ⟨_ | _ | _⟩ <;> first | rfl | cases h

theorem Decided.reason_of_timedOut {c : Chronicle} {done : Completion} (h : Decided c done)
    (timedOut : done.outcome = .timedOut) :
    (c.state.token done.number).reason? = some .deadline := by
  obtain ⟨result, token, -, houtcome, htoken⟩ := h
  have reason := reason_of_ofResult (houtcome.symm.trans timedOut)
  rcases htoken with fresh | same
  · rw [fresh] at reason
    cases reason
  · rwa [← same]

/-- Whatever the parties do, in whatever order, they stay in step. -/
theorem Chronicle.inStep_run (buffer : TransferBuffer) (actions : List Action) :
    InStep ((start buffer).run actions) := by
  have order := inOrder_run buffer actions
  have placed := placed_run buffer actions
  have watched := watched_run buffer actions
  have judged := judged_run buffer actions
  obtain ⟨awaited, ahead, heeding⟩ := watched.heeding
  have one_place := placed.holders
  rw [State.holders_eq] at one_place
  exact {
    wait_ended := fun _ _ _ armed hnext => heeding.eq_disarm armed hnext
    arms := heeding.arms_append
    deadline := fun _ _ _ _ hstep hnext before =>
      watched.last_arm (State.step_of_eq_some hstep) hnext before
    one_job := by omega
    submit_room := fun _ _ there held isOpen fits => placed.submit_isSome there held isOpen fits
    report_room := fun _ finished => placed.report_isSome finished
    one_place := one_place
    given_up := placed.closed_of_released
    own_buffer := order.verdicts_prefix
    once := order.verdicts_nodup
    own_outcome := judged.verdicts
    timed_out := fun done hmem timedOut =>
      watched.deadlines _ ((judged.verdicts done hmem).reason_of_timedOut timedOut)
    receipts := order.receipts_prefix
    awaited := fun done hmem => placed.inFlight _
      (List.mem_append_left _ (List.mem_map_of_mem (List.mem_append_left _ hmem))) }

/-- The worker comes back from its first job before the watchdog does what it has made up its mind
to do, and has begun the second one by then. -/
def lateWatchdog : List Action :=
  [.owner (.submit 0), .worker .take, .worker .arm, .watchdog .notice, .watchdog .expire,
    .worker (.finishCall (.ok 0)), .worker .disarm, .worker .judge, .worker .report,
    .owner .poll, .owner (.submit 0), .worker .take, .worker .arm, .watchdog .fire]

example : ((Chronicle.start ⟨.empty, #[]⟩).run lateWatchdog).state.tokens =
    [⟨some .deadline⟩, .fresh] := by
  decide

end UsbDisplay.Parties
