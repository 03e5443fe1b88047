import UsbDisplay.Proofs.JobsInOrder

/-!
The jobs of one slot do not meddle with each other. What a job was asked is kept in its token, which
nobody looks at but the worker, and that only to decide on the outcome of this job. So a run goes on
as before if a job is cancelled in it, or if its deadline passes: all that differs is the token and
the outcome of this job (`Chronicle.blur_runAll_congr`, with `blur_cancel` and `blur_fire`).
-/

namespace UsbDisplay.Parties

variable {k : Nat}

/-! ### What is left without the outcome of a job -/

/-- A completion, without its outcome if it is of job `k`. -/
def Completion.blur (k : Nat) (done : Completion) : Completion :=
  if done.number = k then { done with outcome := .cancelled } else done

def Worker.blur (k : Nat) : Worker → Worker
  | finished done => finished (done.blur k)
  | w => w

/-- An event, without the outcome of job `k`; nothing is left of what asks this job to stop. -/
def Event.blur? (k : Nat) : Event → Option Event
  | judged done => some (judged (done.blur k))
  | received done => some (received (done.blur k))
  | cancelled number => if number = k then none else some (cancelled number)
  | fired number => if number = k then none else some (fired number)
  | e => some e

/-- A state without what job `k` was asked, without its outcome, and without what the owner shows. -/
def State.blur (k : Nat) (s : State) : State :=
  { s with
    owner := { s.owner with lastOutcome := none }
    worker := s.worker.blur k
    completions := s.completions.map (Completion.blur k)
    tokens := s.tokens.set k .fresh }

/-- What a step has come to, without all this. -/
def blurStep (k : Nat) : State × Option Event → State × Option Event :=
  Prod.map (State.blur k) (·.bind (Event.blur? k))

namespace Completion

@[simp] theorem number_blur (done : Completion) : (done.blur k).number = done.number := by
  rw [blur]
  split <;> rfl

@[simp] theorem buffer_blur (done : Completion) : (done.blur k).buffer = done.buffer := by
  rw [blur]
  split <;> rfl

theorem blur_of_ne {done : Completion} (h : done.number ≠ k) : done.blur k = done := if_neg h

@[simp] theorem blur_blur (done : Completion) : (done.blur k).blur k = done.blur k := by
  by_cases h : done.number = k
  · simp [blur, h]
  · rw [blur_of_ne h, blur_of_ne h]

@[simp] theorem blur_comp_blur : blur k ∘ blur k = blur k := funext blur_blur

/-- The completions of all other jobs can be made out. -/
theorem filter_map_blur (l : List Completion) :
    (l.map (blur k)).filter (·.number ≠ k) = l.filter (·.number ≠ k) := by
  have hsame : (fun done : Completion => decide (done.number ≠ k)) ∘ blur k =
      fun done => decide (done.number ≠ k) := funext fun done => by simp
  rw [List.filter_map, hsame]
  refine (List.map_congr_left fun done hmem => ?_).trans (List.map_id _)
  exact blur_of_ne (of_decide_eq_true (List.mem_filter.1 hmem).2)

end Completion

namespace Worker

@[simp] theorem isGone_blur (w : Worker) : (w.blur k).isGone = w.isGone := by
  cases w <;> rfl

@[simp] theorem blur_blur (w : Worker) : (w.blur k).blur k = w.blur k := by
  cases w <;> simp [blur]

end Worker

namespace State

@[simp] theorem blur_blur (s : State) : (s.blur k).blur k = s.blur k := by
  simp [blur]

theorem blur_cancelJob (s : State) (number : Nat) (reason : CancelReason) :
    ((s.blur k).cancelJob number reason).blur k = (s.cancelJob number reason).blur k := by
  simp only [blur, cancelJob, State.mk.injEq, true_and]
  refine ⟨?_, ?_, ?_⟩
  · simp
  · simp
  · refine List.ext_getElem? fun j => ?_
    simp only [List.getElem?_set, List.getElem?_modify, List.length_set, List.length_modify]
    by_cases h : k = j <;> simp [h]

theorem blur_cancelJob_self (s : State) (reason : CancelReason) :
    (s.cancelJob k reason).blur k = s.blur k := by
  simp only [blur, cancelJob, State.mk.injEq, true_and]
  refine List.ext_getElem? fun j => ?_
  by_cases h : k = j <;> simp [List.getElem?_set, h]

theorem token_blur_of_ne {s : State} {number : Nat} (h : number ≠ k) :
    (s.blur k).token number = s.token number := by
  simp [token, blur, Ne.symm h]

theorem set_concat_set (tokens : List CancelToken) :
    (tokens.set k .fresh ++ [CancelToken.fresh]).set k .fresh =
      (tokens ++ [CancelToken.fresh]).set k .fresh := by
  rw [List.set_append, List.set_append, List.length_set, List.set_set]
  split
  · rfl
  next h => rw [List.set_eq_of_length_le (by omega)]

theorem ownerStep_blur (s : State) (a : OwnerAction) :
    ((s.blur k).ownerStep a).map (blurStep k) = (s.ownerStep a).map (blurStep k) := by
  cases there : s.owner.isThere with
  | false => simp [ownerStep, blur, there]
  | true =>
    cases a with
    | fill buffer =>
      cases held : s.owner.buffer? with
      | none => simp [ownerStep, blur, there, held]
      | some old =>
        simp only [ownerStep, blur, there, held, if_true]
        split <;> simp [blurStep, blur]
    | submit length =>
      cases held : s.owner.buffer? with
      | none => simp [ownerStep, blur, there, held]
      | some old =>
        simp only [ownerStep, blur, there, held, if_true, Worker.isGone_blur, List.length_set]
        split
        · simp [blurStep, blur, set_concat_set]
        · rfl
    | cancel =>
      have hblurred : (s.blur k).ownerStep .cancel = s.owner.inFlight?.map fun number =>
          ((s.blur k).cancelJob number .requested, some (.cancelled number)) := if_pos there
      have hsharp : s.ownerStep .cancel = s.owner.inFlight?.map fun number =>
          (s.cancelJob number .requested, some (.cancelled number)) := if_pos there
      rw [hblurred, hsharp, Option.map_map, Option.map_map]
      congr 1
      funext number
      simp [blurStep, blur_cancelJob]
    | poll =>
      cases held : s.owner.buffer? with
      | some buffer => simp [ownerStep, blur, there, held, blurStep]
      | none =>
        cases arrived : s.completions with
        | cons done rest => simp [ownerStep, blur, there, held, arrived, blurStep, Event.blur?]
        | nil =>
          cases gone : s.worker.isGone <;>
            simp [ownerStep, blur, there, held, arrived, gone, blurStep]
    | close => simp [ownerStep, blur, there, blurStep]
    | leave => cases closed : s.owner.isOpen <;> simp [ownerStep, blur, there, closed, blurStep]

theorem blur_judge (s : State) (job : Job) (result : Except TransportError Nat) :
    Completion.blur k ⟨job.number, job.buffer, .ofResult result ((s.blur k).token job.number)⟩ =
      Completion.blur k ⟨job.number, job.buffer, .ofResult result (s.token job.number)⟩ := by
  by_cases h : job.number = k
  · simp [Completion.blur, h]
  · rw [token_blur_of_ne h]

theorem blur_withWorker (s : State) {w w' : Worker} (h : w.blur k = w'.blur k) :
    State.blur k { s.blur k with worker := w } = State.blur k { s with worker := w' } := by
  simp [blur, h]

theorem workerStep_blur (s : State) (a : WorkerAction) :
    ((s.blur k).workerStep a).map (blurStep k) = (s.workerStep a).map (blurStep k) := by
  cases a with
  | take =>
    cases hworker : s.worker <;> cases hjobs : s.jobs <;>
      simp [workerStep, blur, hworker, hjobs, Worker.blur, blurStep]
  | arm => cases hworker : s.worker <;> simp [workerStep, blur, hworker, Worker.blur, blurStep]
  | finishCall result =>
    cases hworker : s.worker <;> simp [workerStep, blur, hworker, Worker.blur, blurStep]
  | disarm => cases hworker : s.worker <;> simp [workerStep, blur, hworker, Worker.blur, blurStep]
  | judge =>
    cases hworker : s.worker with
    | disarmed job result =>
      have hblurred : (s.blur k).worker = .disarmed job result := congrArg (Worker.blur k) hworker
      have hjudged := s.blur_judge (k := k) job result
      simp only [workerStep, hworker, hblurred, Option.map_some]
      refine congrArg some (Prod.ext ?_ (congrArg (some ∘ Event.judged) hjudged))
      exact s.blur_withWorker (congrArg Worker.finished hjudged)
    | _ => simp [workerStep, blur, hworker, Worker.blur]
  | report =>
    cases hworker : s.worker with
    | finished done =>
      cases there : s.owner.isThere <;>
        simp [workerStep, blur, hworker, there, Worker.blur, blurStep]
    | _ => simp [workerStep, blur, hworker, Worker.blur]
  | leave =>
    cases hworker : s.worker <;> cases hjobs : s.jobs <;> cases closed : s.owner.isOpen <;>
      simp [workerStep, blur, hworker, hjobs, closed, Worker.blur, blurStep]

theorem watchdogStep_blur (s : State) (a : WatchdogAction) :
    ((s.blur k).watchdogStep a).map (blurStep k) = (s.watchdogStep a).map (blurStep k) := by
  cases a with
  | notice =>
    cases hwatchdog : s.watchdog <;> rcases hnotices : s.notices with _ | ⟨_ | _, _⟩ <;>
      simp [watchdogStep, blur, hwatchdog, hnotices, blurStep]
  | expire =>
    cases hwatchdog : s.watchdog <;> cases hnotices : s.notices <;>
      simp [watchdogStep, blur, hwatchdog, hnotices, blurStep]
  | fire =>
    cases hwatchdog : s.watchdog with
    | expired number =>
      have hblurred : (s.blur k).watchdog = .expired number := hwatchdog
      have hcancel := congrArg ({ · with watchdog := .idle })
        (s.blur_cancelJob (k := k) number .deadline)
      simp only [watchdogStep, hwatchdog, hblurred, Option.map_some, blurStep, Prod.map]
      exact congrArg (fun next => some (next, _)) hcancel
    | _ => simp [watchdogStep, blur, hwatchdog]
  | leave =>
    simp only [watchdogStep, blur]
    cases s.worker <;> cases s.watchdog <;> cases s.notices <;> simp [Worker.blur, blurStep, blur]

/-- What job `k` was asked makes no difference to a step but to the outcome of this job. -/
theorem step_blur (s : State) (a : Action) :
    ((s.blur k).step a).map (blurStep k) = (s.step a).map (blurStep k) := by
  cases a with
  | owner a => exact s.ownerStep_blur a
  | worker a => exact s.workerStep_blur a
  | watchdog a => exact s.watchdogStep_blur a

end State

namespace Event

@[simp] theorem bind_blur? (e : Event) : (e.blur? k).bind (blur? k) = e.blur? k := by
  cases e with
  | cancelled number | fired number => by_cases h : number = k <;> simp [blur?, h]
  | _ => simp [blur?]

theorem bind_submitted? (e : Event) : (e.blur? k).bind submitted? = e.submitted? := by
  cases e with
  | cancelled number | fired number => by_cases h : number = k <;> simp [blur?, h]
  | _ => simp [blur?]

theorem bind_judged? (e : Event) :
    (e.blur? k).bind judged? = e.judged?.map (Completion.blur k) := by
  cases e with
  | cancelled number | fired number => by_cases h : number = k <;> simp [blur?, h]
  | _ => simp [blur?]

theorem bind_received? (e : Event) :
    (e.blur? k).bind received? = e.received?.map (Completion.blur k) := by
  cases e with
  | cancelled number | fired number => by_cases h : number = k <;> simp [blur?, h]
  | _ => simp [blur?]

end Event

namespace Chronicle

/-- A slot without what job `k` was asked, and without its outcome. -/
def blur (k : Nat) (c : Chronicle) : Chronicle :=
  ⟨c.state.blur k, c.history.filterMap (Event.blur? k)⟩

theorem blur_after (c : Chronicle) (next : State) (event? : Option Event) :
    (c.after next event?).blur k =
      (c.blur k).after (next.blur k) (event?.bind (Event.blur? k)) := by
  cases event? with
  | none => simp [after, blur]
  | some e => cases h : e.blur? k <;> simp [after, blur, h]

@[simp] theorem blur_blur (c : Chronicle) : (c.blur k).blur k = c.blur k := by
  simp [blur, List.filterMap_filterMap]

theorem blur_act (c : Chronicle) (a : Action) : ((c.blur k).act a).blur k = (c.act a).blur k := by
  have hstep := c.state.step_blur (k := k) a
  have hstate : (c.blur k).state = c.state.blur k := rfl
  rw [act, act, hstate]
  cases hsharp : c.state.step a with
  | none =>
    rw [hsharp, Option.map_none, Option.map_eq_none_iff] at hstep
    simp only [hstep, blur_blur]
  | some result =>
    rw [hsharp, Option.map_some, Option.map_eq_some_iff] at hstep
    obtain ⟨blurred, hblurred, hsame⟩ := hstep
    obtain ⟨hnext, hevent⟩ := Prod.mk.inj hsame
    simp only [hblurred, blur_after, blur_blur, hnext, hevent]

theorem blur_die (c : Chronicle) : (c.blur k).die.blur k = c.die.blur k := by
  have hblurred : (c.blur k).state.worker = c.state.worker.blur k := rfl
  cases hworker : c.state.worker with
  | calling job =>
    simp only [die, hblurred, hworker, Worker.blur]
    simp [after, blur, State.blur, Worker.blur, List.filterMap_filterMap]
  | _ => simp [die, hblurred, hworker, Worker.blur]

theorem blur_runAll (c : Chronicle) (happenings : List Happening) :
    ((c.blur k).runAll happenings).blur k = (c.runAll happenings).blur k := by
  induction happenings generalizing c with
  | nil => exact c.blur_blur
  | cons e rest ih =>
    have hhappen : ((c.blur k).happen e).blur k = (c.happen e).blur k := by
      cases e with
      | step a => exact c.blur_act a
      | death => exact c.blur_die
    -- both runs go on as the run from the one blurred state
    have hrest := ih ((c.blur k).happen e)
    rw [hhappen] at hrest
    exact hrest.symm.trans (ih (c.happen e))

/-- What cannot be told apart at first cannot be told apart later. -/
theorem blur_runAll_congr {c c' : Chronicle} (h : c'.blur k = c.blur k)
    (happenings : List Happening) :
    (c'.runAll happenings).blur k = (c.runAll happenings).blur k := by
  rw [← blur_runAll, h, blur_runAll]

theorem submits_blur (c : Chronicle) : (c.blur k).submits = c.submits := by
  simp only [submits, blur, List.filterMap_filterMap, Event.bind_submitted?]

theorem verdicts_blur (c : Chronicle) :
    (c.blur k).verdicts = c.verdicts.map (Completion.blur k) := by
  simp only [verdicts, blur, List.filterMap_filterMap, List.map_filterMap, Event.bind_judged?]

theorem receipts_blur (c : Chronicle) :
    (c.blur k).receipts = c.receipts.map (Completion.blur k) := by
  simp only [receipts, blur, List.filterMap_filterMap, List.map_filterMap, Event.bind_received?]

theorem filter_of_blur_eq {c c' : Chronicle} (h : c'.blur k = c.blur k) :
    c'.verdicts.filter (·.number ≠ k) = c.verdicts.filter (·.number ≠ k) ∧
      c'.receipts.filter (·.number ≠ k) = c.receipts.filter (·.number ≠ k) := by
  constructor
  · rw [← Completion.filter_map_blur, ← verdicts_blur, h, verdicts_blur, Completion.filter_map_blur]
  · rw [← Completion.filter_map_blur, ← receipts_blur, h, receipts_blur, Completion.filter_map_blur]

/-! ### What asks a job to stop -/

/-- The watchdog lets the job be that it was armed for. -/
def letBe (c : Chronicle) : Chronicle := { c with state := { c.state with watchdog := .idle } }

theorem blur_after_ask (c : Chronicle) {next : State} {e : Event}
    (hnext : next.blur k = c.state.blur k) (he : e.blur? k = none) :
    (c.after next (some e)).blur k = c.blur k := by
  rw [blur_after, Option.bind_some, he, hnext]
  simp [after, blur]

/-- A cancel of a job changes nothing but what this job was asked. -/
theorem blur_cancel {c : Chronicle} (h : c.state.owner.inFlight? = some k) :
    (c.act (.owner .cancel)).blur k = c.blur k := by
  cases there : c.state.owner.isThere with
  | false => simp [act, State.step, State.ownerStep, there]
  | true =>
    have hstep : c.state.step (.owner .cancel) =
        some (c.state.cancelJob k .requested, some (.cancelled k)) := by
      simp [State.step, State.ownerStep, there, h]
    rw [act, hstep]
    exact c.blur_after_ask (State.blur_cancelJob_self ..) (if_pos rfl)

/-- A deadline changes nothing but what its job was asked; otherwise the watchdog might as well have
let the job be. -/
theorem blur_fire {c : Chronicle} (h : c.state.watchdog = .expired k) :
    (c.act (.watchdog .fire)).blur k = c.letBe.blur k := by
  have hstep : c.state.step (.watchdog .fire) =
      some ({ c.state.cancelJob k .deadline with watchdog := .idle }, some (.fired k)) := by
    simp [State.step, State.watchdogStep, h]
  rw [act, hstep]
  refine c.letBe.blur_after_ask ?_ (if_pos rfl)
  exact congrArg ({ · with watchdog := .idle }) (c.state.blur_cancelJob_self (k := k) .deadline)

end Chronicle

end UsbDisplay.Parties
