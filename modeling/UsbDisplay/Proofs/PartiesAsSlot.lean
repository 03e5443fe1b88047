import UsbDisplay.Proofs.WatchdogInStep
import UsbDisplay.Transfer.Slot

/-!
The parties behind a slot as the owner of the slot sees them. As long as the owner takes
completions, a step of a party is an operation of the slot, or an event that happens to it, or
nothing that the slot would know of (`Parties.State.move?`); and what the slot tells its owner is
what the parties have (`Parties.Chronicle.shownBy_run`). A job anywhere on its way is a transfer
that is running, and a completion anywhere on its way back is one that has ended.
-/

namespace UsbDisplay.Parties

/-- What a slot makes of a step of a party. -/
inductive SlotMove where
  | fill (buffer : TransferBuffer)
  | submit (length : Nat)
  | cancel
  | poll
  | release
  | event (e : Slot.Event)

def SlotMove.apply (slot : Slot) : SlotMove → Slot
  | fill buffer => slot.putBuffer buffer
  | submit length =>
    match slot.submit length with
    | .ok next => next
    | .error _ => slot
  | cancel => slot.cancel.2
  | poll => slot.poll.2
  | release => slot.release.2
  | event e => slot.react e

namespace State

/-- What a step of a party is for the slot. When the worker decides on an outcome, the bulk call
returns for the slot. A slot does not notice when the watchdog stops a transfer that has ended. -/
def move? (s : State) : Action → Option SlotMove
  | .owner (.fill buffer) => some (.fill buffer)
  | .owner (.submit length) => some (.submit length)
  | .owner .cancel => some .cancel
  | .owner .poll =>
    -- what the slot has already may still be on its way through the queue
    if s.owner.buffer?.isNone && s.completions.isEmpty && !s.worker.isGone then none
    else some .poll
  | .owner .close => some .release
  | .owner .leave => none
  | .worker .judge =>
    match s.worker with
    | .disarmed _ result => some (.event (.returned result))
    | _ => none
  | .worker _ => none
  | .watchdog .fire =>
    match s.watchdog with
    | .expired number =>
      if number ∈ s.outbound.map Job.number then some (.event .deadline) else none
    | _ => none
  | .watchdog _ => none

/-- Where a slot has its buffer, while the parties are in this state. The token of a transfer that
has ended may be behind, because the watchdog may stop it late. -/
inductive Place (s : State) : Slot.State → Prop where
  | idle {buffer : TransferBuffer} (held : s.owner.buffer? = some buffer) : Place s (.idle buffer)
  | running {t : Transfer} {job : Job} (only : s.outbound = [job]) (buffer : t.buffer = job.buffer)
    (length : t.length = job.length) (token : t.token = s.token job.number) : Place s (.running t)
  | ended {done : Completion} {token : CancelToken} (only : s.inbound = [done]) :
    Place s (.ended done.buffer done.outcome token)
  | released (away : s.owner.buffer? = none) (none_aloft : s.aloft = []) : Place s .released

/-- A slot tells its owner what the parties have. -/
structure ShownBy (s : State) (slot : Slot) : Prop where
  place : s.Place slot.state
  lastOutcome : slot.lastOutcome = s.owner.lastOutcome
  isOpen : slot.isOpen = s.owner.isOpen
  workerLost : slot.workerLost = s.owner.workerLost

variable {s next : State} {slot : Slot}

theorem token_cancelJob_of_lt {number : Nat} (h : number < s.tokens.length)
    (reason : CancelReason) :
    (s.cancelJob number reason).token number = ((s.token number).cancel reason).2 := by
  simp [token, cancelJob, h]

section OneBuffer

variable (one : s.holders ≤ 1) {job : Job} {done : Completion}

include one

theorem length_aloft_le : s.inbound.length + s.outbound.length ≤ 1 := by
  have : s.aloft.length ≤ 1 := by
    rw [holders] at one
    omega
  rwa [aloft, List.length_append, List.length_map, List.length_map] at this

theorem inbound_eq_nil (out : s.outbound = [job]) : s.inbound = [] := by
  have := length_aloft_le one
  rw [out, List.length_singleton] at this
  exact List.eq_nil_of_length_eq_zero (by omega)

theorem outbound_eq_singleton {rest : List Job} (out : s.outbound = job :: rest) :
    s.outbound = [job] := by
  have := length_aloft_le one
  rw [out, List.length_cons] at this
  rw [out, List.eq_nil_of_length_eq_zero (l := rest) (by omega)]

theorem inbound_eq_singleton {rest : List Completion} (back : s.inbound = done :: rest) :
    s.inbound = [done] := by
  have := length_aloft_le one
  rw [back, List.length_cons] at this
  rw [back, List.eq_nil_of_length_eq_zero (l := rest) (by omega)]

end OneBuffer

/-! ### Where the buffer is -/

namespace Place

variable {state : Slot.State} (h : s.Place state) (one : s.holders ≤ 1)

include h one

theorem eq_idle {buffer : TransferBuffer} (held : s.owner.buffer? = some buffer) :
    state = .idle buffer := by
  obtain ⟨none_in, none_out⟩ := aloft_eq_nil_iff.1 (aloft_eq_nil one held)
  cases h with
  | idle held' => rw [Option.some.inj (held'.symm.trans held)]
  | running only => exact nomatch none_out.symm.trans only
  | ended only => exact nomatch none_in.symm.trans only
  | released away => exact nomatch held.symm.trans away

theorem exists_running {job : Job} (only : s.outbound = [job]) :
    ∃ t : Transfer, state = .running t ∧ t.buffer = job.buffer ∧ t.length = job.length ∧
      t.token = s.token job.number := by
  cases h with
  | idle held =>
    have none_out := (aloft_eq_nil_iff.1 (aloft_eq_nil one held)).2
    exact nomatch none_out.symm.trans only
  | running only' buffer length token =>
    cases only'.symm.trans only
    exact ⟨_, rfl, buffer, length, token⟩
  | ended only' => exact nomatch (inbound_eq_nil one only).symm.trans only'
  | released _ none_aloft => exact nomatch (aloft_eq_nil_iff.1 none_aloft).2.symm.trans only

theorem exists_ended {done : Completion} (only : s.inbound = [done]) :
    ∃ token, state = .ended done.buffer done.outcome token := by
  cases h with
  | idle held =>
    have none_in := (aloft_eq_nil_iff.1 (aloft_eq_nil one held)).1
    exact nomatch none_in.symm.trans only
  | running only' => exact nomatch (inbound_eq_nil one only').symm.trans only
  | ended only' =>
    cases only'.symm.trans only
    exact ⟨_, rfl⟩
  | released _ none_aloft => exact nomatch (aloft_eq_nil_iff.1 none_aloft).1.symm.trans only

omit one in
theorem eq_released (away : s.owner.buffer? = none) (none_aloft : s.aloft = []) :
    state = .released := by
  obtain ⟨none_in, none_out⟩ := aloft_eq_nil_iff.1 none_aloft
  cases h with
  | idle held => exact nomatch held.symm.trans away
  | running only => exact nomatch none_out.symm.trans only
  | ended only => exact nomatch none_in.symm.trans only
  | released => rfl

omit one in
/-- A step that moves no buffer and stops no running transfer is nothing that the slot would know
of. -/
theorem congr (held : next.owner.buffer? = s.owner.buffer?) (out : next.outbound = s.outbound)
    (back : next.inbound = s.inbound)
    (token : ∀ job ∈ s.outbound, next.token job.number = s.token job.number) :
    next.Place state := by
  cases h with
  | idle away => exact .idle (held.trans away)
  | running only buffer length same =>
    have htoken := token _ (only ▸ List.mem_singleton_self _)
    exact .running (out.trans only) buffer length (same.trans htoken.symm)
  | ended only => exact .ended (back.trans only)
  | released away none_aloft =>
    refine .released (held.trans away) ?_
    rw [aloft_eq_nil_iff, back, out]
    exact aloft_eq_nil_iff.1 none_aloft

end Place

namespace ShownBy

theorem of_place (h : s.ShownBy slot) (owner : next.owner = s.owner)
    (place : next.Place slot.state) : next.ShownBy slot where
  place := place
  lastOutcome := h.lastOutcome.trans (owner ▸ rfl)
  isOpen := h.isOpen.trans (owner ▸ rfl)
  workerLost := h.workerLost.trans (owner ▸ rfl)

theorem buffer?_eq (h : s.ShownBy slot) (one : s.holders ≤ 1) :
    slot.buffer? = s.owner.buffer? := by
  cases held : s.owner.buffer? with
  | some buffer => rw [Slot.buffer?, h.place.eq_idle one held]
  | none =>
    rw [Slot.buffer?]
    split
    next buffer hstate =>
      have place := h.place
      rw [hstate] at place
      cases place with
      | idle held' => exact nomatch held'.symm.trans held
    next => rfl

theorem fill (h : s.ShownBy slot) (one : s.holders ≤ 1) {old : TransferBuffer}
    (buffer : TransferBuffer) (held : s.owner.buffer? = some old) :
    ShownBy { s with owner := { s.owner with buffer? := some buffer } }
      (slot.putBuffer buffer) := by
  have hstate := h.place.eq_idle one held
  simp only [Slot.putBuffer, hstate]
  exact ⟨.idle rfl, h.lastOutcome, h.isOpen, h.workerLost⟩

theorem submit (h : s.ShownBy slot) (one : s.holders ≤ 1) {buffer : TransferBuffer} {length : Nat}
    (held : s.owner.buffer? = some buffer) (isOpen : s.owner.isOpen = true)
    (fits : length ≤ buffer.capacity) :
    ShownBy
      { s with
        owner := { s.owner with
          buffer? := none, inFlight? := some s.tokens.length, lastOutcome := none }
        jobs := s.jobs ++ [⟨s.tokens.length, buffer, length⟩]
        tokens := s.tokens ++ [.fresh] }
      (SlotMove.apply slot (.submit length)) := by
  have hstate := h.place.eq_idle one held
  have none_out := (aloft_eq_nil_iff.1 (aloft_eq_nil one held)).2
  simp only [SlotMove.apply, Slot.submit, hstate, fits, h.isOpen, isOpen, dite_true, if_true]
  refine ⟨@Place.running _ _ ⟨s.tokens.length, buffer, length⟩ ?_ rfl rfl ?_, rfl, rfl,
    h.workerLost⟩
  · rw [outbound, ← List.append_assoc]
    exact congrArg (· ++ _) none_out
  · simp [token]

/-- A transfer is stopped, by its owner or by the watchdog, and no other one is running. -/
theorem stop (h : s.ShownBy slot) {number : Nat}
    (only_this : ∀ job ∈ s.outbound, job.number = number ∧ number < s.tokens.length) :
    ShownBy (s.cancelJob number .requested) slot.cancel.2 ∧
      ShownBy (s.cancelJob number .deadline) (slot.react .deadline) := by
  obtain ⟨index, state, last, isOpen, lost⟩ := slot
  obtain ⟨place, hlast, hopen, hlost⟩ := h
  cases place with
  | idle held => exact ⟨⟨.idle held, hlast, hopen, hlost⟩, .idle held, hlast, hopen, hlost⟩
  | @running t job only buffer length token =>
    obtain ⟨rfl, lt⟩ := only_this job (only ▸ List.mem_singleton_self job)
    have stopped (reason : CancelReason) : (s.cancelJob job.number reason).Place
        (.running { t with token := (t.token.cancel reason).2 }) :=
      .running only buffer length (by rw [token_cancelJob_of_lt lt, token])
    exact ⟨⟨stopped _, hlast, hopen, hlost⟩, stopped _, hlast, hopen, hlost⟩
  | ended only => exact ⟨⟨.ended only, hlast, hopen, hlost⟩, .ended only, hlast, hopen, hlost⟩
  | released away none_aloft =>
    exact ⟨⟨.released away none_aloft, hlast, hopen, hlost⟩, .released away none_aloft, hlast,
      hopen, hlost⟩

theorem receive (h : s.ShownBy slot) (one : s.holders ≤ 1) {done : Completion}
    {rest : List Completion} (arrived : s.completions = done :: rest) :
    ShownBy
      { s with
        owner := { s.owner with
          buffer? := some done.buffer, inFlight? := none, lastOutcome := some done.outcome }
        completions := rest }
      slot.poll.2 := by
  have alone : s.inbound = [done] :=
    inbound_eq_singleton one (congrArg (· ++ s.worker.unsent) arrived)
  obtain ⟨token, hstate⟩ := h.place.exists_ended one alone
  simp only [Slot.poll, hstate]
  exact ⟨.idle rfl, rfl, h.isOpen, h.workerLost⟩

theorem lose (h : s.ShownBy slot) (away : s.owner.buffer? = none) (none_aloft : s.aloft = []) :
    ShownBy { s with owner := { s.owner with workerLost := true } } slot.poll.2 := by
  have hstate := h.place.eq_released away none_aloft
  simp only [Slot.poll, hstate]
  exact ⟨.released away none_aloft, h.lastOutcome, h.isOpen, rfl⟩

theorem find (h : s.ShownBy slot) (one : s.holders ≤ 1) {buffer : TransferBuffer}
    (held : s.owner.buffer? = some buffer) : s.ShownBy slot.poll.2 := by
  have hstate := h.place.eq_idle one held
  simp only [Slot.poll, hstate]
  exact h

theorem close (h : s.ShownBy slot) (away : s.owner.buffer? = none) :
    ShownBy { s with owner := { s.owner with buffer? := none, isOpen := false } }
      slot.release.2 := by
  obtain ⟨index, state, last, isOpen, lost⟩ := slot
  obtain ⟨place, hlast, hopen, hlost⟩ := h
  cases place with
  | idle held => exact nomatch held.symm.trans away
  | running only buffer length token =>
    exact ⟨.running only buffer length token, hlast, rfl, hlost⟩
  | ended only => exact ⟨.ended only, hlast, rfl, hlost⟩
  | released _ none_aloft => exact ⟨.released rfl none_aloft, hlast, rfl, hlost⟩

theorem giveUp (h : s.ShownBy slot) (one : s.holders ≤ 1) {buffer : TransferBuffer}
    (held : s.owner.buffer? = some buffer) :
    ShownBy { s with owner := { s.owner with buffer? := none, isOpen := false } }
      slot.release.2 := by
  have hstate := h.place.eq_idle one held
  have none_aloft := aloft_eq_nil one held
  simp only [Slot.release, hstate]
  exact ⟨.released rfl none_aloft, h.lastOutcome, rfl, h.workerLost⟩

theorem judge (h : s.ShownBy slot) (one : s.holders ≤ 1) {job : Job}
    {result : Except TransportError Nat} (disarmed : s.worker = .disarmed job result) :
    ShownBy
      { s with
        worker := .finished ⟨job.number, job.buffer, .ofResult result (s.token job.number)⟩ }
      (slot.react (.returned result)) := by
  have out : s.outbound = job :: s.jobs := by
    rw [outbound, disarmed]
    rfl
  have alone := outbound_eq_singleton one out
  have none_back := (List.append_eq_nil_iff.1 (inbound_eq_nil one alone)).1
  obtain ⟨t, hstate, buffer, length, token⟩ := h.place.exists_running one alone
  simp only [Slot.react, hstate, buffer, token]
  refine ⟨@Place.ended _ ⟨job.number, job.buffer, _⟩ _ ?_, h.lastOutcome, h.isOpen, h.workerLost⟩
  exact congrArg (· ++ _) none_back

end ShownBy

end State

/-! ### Runs -/

theorem InOrder.number_lt {c : Chronicle} (h : InOrder c) {job : Job}
    (hmem : job ∈ c.state.outbound) : job.number < c.state.tokens.length := by
  have submitted : job.freight ∈ c.submits.map Job.freight := by
    rw [← h.verdicts]
    exact List.mem_append_right _ (List.mem_map_of_mem hmem)
  obtain ⟨same, hsame, heq⟩ := List.mem_map.1 submitted
  have hnumber : same.number = job.number := congrArg Prod.fst heq
  rw [← List.mem_range, ← h.submits, ← hnumber]
  exact List.mem_map_of_mem hsame

/-- What the parties have to keep for a slot to show them. -/
structure Tracked (c : Chronicle) (slot : Slot) : Prop where
  order : InOrder c
  placed : Placed c
  none_queued : c.state.worker = .gone → c.state.jobs = []
  shown : c.state.owner.isThere = true → c.state.ShownBy slot

namespace Tracked

variable {c : Chronicle} {a : Action} {next : State} {event? : Option Event} {slot : Slot}

/-- The job on its way is the one that the owner waits for. -/
theorem outbound_eq (h : Tracked c slot) {number : Nat}
    (aloft : c.state.owner.inFlight? = some number) :
    ∀ job ∈ c.state.outbound, job.number = number ∧ number < c.state.tokens.length := by
  intro job hmem
  have waits := h.placed.inFlight job.number (State.number_mem_aloft hmem)
  have same : job.number = number := Option.some.inj (waits.symm.trans aloft)
  exact ⟨same, same ▸ h.order.number_lt hmem⟩

theorem step_none_queued (h : Tracked c slot) (hs : Step c.state a next event?)
    (gone : next.worker = .gone) : next.jobs = [] := by
  cases hs with
  | submit _ isOpen => exact nomatch isOpen.symm.trans (h.placed.closed_of_gone gone)
  | take | arm | finishCall | disarm | judge | report => exact nomatch gone
  | @reportInVain done _ finished =>
    have := State.length_aloft_le h.placed.holders_le_one
    simp only [State.inbound, State.outbound, finished, Worker.unsent, List.length_append,
      List.length_singleton] at this
    have none_queued : c.state.jobs.length = 0 := by omega
    exact List.eq_nil_of_length_eq_zero none_queued
  | quit _ _ none_queued => exact none_queued
  | _ => exact h.none_queued gone

theorem step_look (h : Tracked c slot)
    (nothing_new : c.state.owner.buffer? = none →
      c.state.completions = [] ∧ c.state.worker ≠ .gone)
    (there : c.state.owner.isThere = true) :
    c.state.ShownBy ((c.state.move? (.owner .poll)).toList.foldl SlotMove.apply slot) := by
  cases held : c.state.owner.buffer? with
  | none =>
    obtain ⟨none_arrived, working⟩ := nothing_new held
    have hmove : c.state.move? (.owner .poll) = none := by
      simp [State.move?, held, none_arrived, Worker.isGone_iff, working]
    rw [hmove]
    exact h.shown there
  | some buffer =>
    have hmove : c.state.move? (.owner .poll) = some .poll := by simp [State.move?, held]
    rw [hmove]
    exact (h.shown there).find h.placed.holders_le_one held

theorem step_fire (h : Tracked c slot) {number : Nat} (expired : c.state.watchdog = .expired number)
    (there : c.state.owner.isThere = true) :
    State.ShownBy { c.state.cancelJob number .deadline with watchdog := .idle }
      ((c.state.move? (.watchdog .fire)).toList.foldl SlotMove.apply slot) := by
  have shown := h.shown there
  by_cases mine : number ∈ c.state.outbound.map Job.number
  · have hmove : c.state.move? (.watchdog .fire) = some (.event .deadline) := by
      simp only [State.move?, expired, if_pos mine]
    have aloft := h.placed.inFlight number (List.mem_append_right _ mine)
    have stopped := (shown.stop (h.outbound_eq aloft)).2
    rw [hmove]
    exact stopped.of_place rfl (stopped.place.congr rfl rfl rfl fun _ _ => rfl)
  · have hmove : c.state.move? (.watchdog .fire) = none := by
      simp only [State.move?, expired, if_neg mine]
    rw [hmove]
    -- the watchdog is late, and the running transfer, if any, is another one
    refine shown.of_place rfl (shown.place.congr rfl rfl rfl fun job hmem => ?_)
    refine c.state.token_cancelJob_of_ne (fun same => mine ?_) _
    rw [same]
    exact List.mem_map_of_mem hmem

theorem step_shown (h : Tracked c slot) (hs : Step c.state a next event?)
    (there : next.owner.isThere = true) :
    next.ShownBy ((c.state.move? a).toList.foldl SlotMove.apply slot) := by
  have one := h.placed.holders_le_one
  cases hs with
  | fill buffer held => exact (h.shown there).fill one buffer held
  | submit held isOpen fits => exact (h.shown there).submit one held isOpen fits
  | cancel aloft => exact ((h.shown there).stop (h.outbound_eq aloft)).1
  | look nothing_new => exact h.step_look nothing_new there
  | receive _ away arrived =>
    have hmove : c.state.move? (.owner .poll) = some .poll := by simp [State.move?, arrived]
    rw [hmove]
    exact (h.shown there).receive one arrived
  | lose gone away none_arrived =>
    have hmove : c.state.move? (.owner .poll) = some .poll := by
      simp [State.move?, gone, Worker.isGone]
    have none_aloft : c.state.aloft = [] := by
      simp [State.aloft, State.inbound, State.outbound, none_arrived, gone, h.none_queued gone,
        Worker.unsent, Worker.unjudged]
    rw [hmove]
    exact (h.shown there).lose away none_aloft
  | close away => exact (h.shown there).close away
  | giveUp held => exact (h.shown there).giveUp one held
  | part | abandon => cases there
  | @judge _ result disarmed =>
    have hmove : c.state.move? (.worker .judge) = some (.event (.returned result)) := by
      simp only [State.move?, disarmed]
    rw [hmove]
    exact (h.shown there).judge one disarmed
  | fire expired => exact h.step_fire expired there
  | reportInVain left => cases left.symm.trans there
  | take worker queued =>
    refine (h.shown there).of_place rfl ((h.shown there).place.congr rfl ?_ ?_ fun _ _ => rfl)
    · simp [State.outbound, worker, queued, Worker.unjudged]
    · simp [State.inbound, worker, Worker.unsent]
  | arm worker | finishCall _ worker | disarm worker | report _ worker | quit _ worker =>
    refine (h.shown there).of_place rfl ((h.shown there).place.congr rfl ?_ ?_ fun _ _ => rfl)
    · simp [State.outbound, worker, Worker.unjudged]
    · simp [State.inbound, worker, Worker.unsent]
  | _ => exact (h.shown there).of_place rfl ((h.shown there).place.congr rfl rfl rfl fun _ _ => rfl)

theorem step (h : Tracked c slot) (hs : Step c.state a next event?) :
    Tracked (c.after next event?) ((c.state.move? a).toList.foldl SlotMove.apply slot) where
  order := h.order.step hs
  placed := h.placed.step hs
  none_queued := h.step_none_queued hs
  shown := h.step_shown hs

theorem act (h : Tracked c slot) (a : Action) :
    Tracked (c.act a)
      ((if (c.state.step a).isSome then (c.state.move? a).toList else []).foldl SlotMove.apply
        slot) := by
  rw [Chronicle.act]
  cases hstep : c.state.step a with
  | none => exact h
  | some stepped => exact h.step (State.step_of_eq_some hstep)

/-- The parties refuse a submit when the slot does. -/
theorem submit_iff (h : Tracked c slot) (there : c.state.owner.isThere = true) (length : Nat) :
    (c.state.step (.owner (.submit length))).isSome = true ↔
      ∃ next, slot.submit length = .ok next := by
  have shown := h.shown there
  have one := h.placed.holders_le_one
  constructor
  · intro taken
    obtain ⟨⟨next, event?⟩, hstep⟩ := Option.isSome_iff_exists.1 taken
    cases State.step_of_eq_some hstep with
    | submit held isOpen fits =>
      have hstate := shown.place.eq_idle one held
      have hopen := shown.isOpen.trans isOpen
      simp only [Slot.submit, hstate, fits, hopen, dite_true, if_true]
      exact ⟨_, rfl⟩
  · rintro ⟨next, hsubmit⟩
    rw [Slot.submit] at hsubmit
    split at hsubmit
    next buffer hstate =>
      have held : c.state.owner.buffer? = some buffer := by
        rw [← shown.buffer?_eq one, Slot.buffer?, hstate]
      split at hsubmit
      next fits =>
        split at hsubmit
        next isOpen =>
          exact h.placed.submit_isSome there held (shown.isOpen.symm.trans isOpen) fits
        · cases hsubmit
      · cases hsubmit
    · cases hsubmit

end Tracked

namespace Chronicle

/-- What the steps of a run are for the slot. -/
def moves (c : Chronicle) : List Action → List SlotMove
  | [] => []
  | a :: rest =>
    (if (c.state.step a).isSome then (c.state.move? a).toList else []) ++ (c.act a).moves rest

theorem tracked_run {c : Chronicle} {slot : Slot} (h : Tracked c slot) (actions : List Action) :
    Tracked (c.run actions) ((c.moves actions).foldl SlotMove.apply slot) := by
  induction actions generalizing c slot with
  | nil => exact h
  | cons a rest ih =>
    rw [moves, List.foldl_append]
    exact ih (h.act a)

/-- A run of the parties is a run of a slot, in the eyes of its owner: the slot has the buffer when
the owner has it, and tells it the same about the latest transfer and the worker. -/
theorem shownBy_run (index : Nat) (buffer : TransferBuffer) (actions : List Action)
    (there : ((start buffer).run actions).state.owner.isThere = true) :
    let parties := ((start buffer).run actions).state
    let slot := ((start buffer).moves actions).foldl SlotMove.apply
      { index := index, state := .idle buffer }
    parties.ShownBy slot ∧ slot.buffer? = parties.owner.buffer? ∧
      ∀ length, (parties.step (.owner (.submit length))).isSome = true ↔
        ∃ next, slot.submit length = .ok next := by
  intro parties slot
  have begun : Tracked (start buffer) { index := index, state := .idle buffer } :=
    ⟨inOrder_run buffer [], placed_run buffer [], nofun, fun _ => ⟨.idle rfl, rfl, rfl, rfl⟩⟩
  have tracked := tracked_run begun actions
  have shown := tracked.shown there
  exact ⟨shown, shown.buffer?_eq tracked.placed.holders_le_one, tracked.submit_iff there⟩

end Chronicle

end UsbDisplay.Parties
