import UsbDisplay.Proofs.JointOperations

/-!
How the owner of a slot finds out that its worker is gone. It looks for a buffer that cannot come
back, and remembers that for good. The buffer may be with a worker that has died; but a slot that
was shut down in good order has given its buffer up, and a look at it counts as the loss of a worker
as well, although none has died (`SchedulerStage.released_counts_as_lost`). Otherwise the memory is
right (`SchedulerStage.workerLost_run`).
-/

namespace UsbDisplay

namespace Slot

/-- The buffer does not come back: its worker has died, or it was given up. -/
def isStuck (s : Slot) : Bool :=
  match s.state with
  | .lost _ | .released => true
  | _ => false

/-- Neither a stuck slot nor what its owner remembers changes; and the owner comes to remember the
loss of a worker only in a stuck slot. -/
structure Latches (s s' : Slot) : Prop where
  stuck : s.isStuck = true → s'.isStuck = true
  kept : s.workerLost = true → s'.workerLost = true
  cause : s'.workerLost = true → s.workerLost = true ∨ s'.isStuck = true

variable {s s' s'' : Slot}

theorem Latches.refl (s : Slot) : s.Latches s := ⟨id, id, .inl⟩

theorem Latches.trans (h : s.Latches s') (h' : s'.Latches s'') : s.Latches s'' where
  stuck := h'.stuck ∘ h.stuck
  kept := h'.kept ∘ h.kept
  cause hlost := by
    rcases h'.cause hlost with hbefore | hstuck
    · exact (h.cause hbefore).imp_right h'.stuck
    · exact .inr hstuck

/-- What a slot that is not stuck makes of itself without looking. -/
theorem Latches.of_not_stuck (hstuck : s.isStuck = false) (hlost : s'.workerLost = s.workerLost) :
    s.Latches s' where
  stuck h := by
    rw [hstuck] at h
    cases h
  kept h := hlost.trans h
  cause h := .inl (hlost.symm.trans h)

/-- What leaves a stuck slot stuck without looking. -/
theorem Latches.of_stuck (hstuck : s'.isStuck = true) (hlost : s'.workerLost = s.workerLost) :
    s.Latches s' where
  stuck _ := hstuck
  kept h := hlost.trans h
  cause h := .inl (hlost.symm.trans h)

theorem latches_react (s : Slot) (e : Event) : s.Latches (s.react e) := by
  rcases s with ⟨_, _ | _ | _ | _ | _, _, _, _⟩
  case running => cases e <;> exact .of_not_stuck rfl rfl
  all_goals exact .refl _

theorem latches_reactAll (s : Slot) (events : List Event) : s.Latches (s.reactAll events) := by
  induction events generalizing s with
  | nil => exact .refl s
  | cons e rest ih => exact (s.latches_react e).trans (ih _)

theorem latches_poll (s : Slot) : s.Latches s.poll.2 := by
  rcases s with ⟨_, _ | _ | _ | _ | _, _, _, _⟩
  case lost => exact ⟨id, fun _ => rfl, fun _ => .inr rfl⟩
  case released => exact ⟨id, fun _ => rfl, fun _ => .inr rfl⟩
  all_goals exact .of_not_stuck rfl rfl

theorem latches_cancel (s : Slot) : s.Latches s.cancel.2 := by
  rcases s with ⟨_, _ | _ | _ | _ | _, _, _, _⟩
  case lost => exact .of_stuck rfl rfl
  case released => exact .of_stuck rfl rfl
  all_goals exact .of_not_stuck rfl rfl

theorem latches_release (s : Slot) : s.Latches s.release.2 := by
  rcases s with ⟨_, _ | _ | _ | _ | _, _, _, _⟩
  case lost => exact .of_stuck rfl rfl
  case released => exact .of_stuck rfl rfl
  all_goals exact .of_not_stuck rfl rfl

theorem latches_putBuffer (s : Slot) (buffer : TransferBuffer) :
    s.Latches (s.putBuffer buffer) := by
  rcases s with ⟨_, _ | _ | _ | _ | _, _, _, _⟩
  case idle => exact .of_not_stuck rfl rfl
  all_goals exact .refl _

theorem latches_shutdown (s : Slot) (meanwhile : Slot → List Event) :
    s.Latches (s.shutdown meanwhile).2 := by
  cases hfound : s.poll.1 with
  | true =>
    rw [shutdown_of_found hfound]
    exact s.latches_poll.trans (latches_release _)
  | false =>
    rw [shutdown_of_not_found hfound]
    exact ((s.latches_poll.trans (latches_cancel _)).trans
      ((latches_reactAll _ _).trans (latches_poll _))).trans (latches_release _)

theorem workerLost_of_create {index : Nat} {config : Config} (h : create index config = .ok s) :
    s.workerLost = false := by
  rw [create] at h
  split at h
  · cases h
  · cases h
    rfl

/-- A look at a stuck slot finds nothing, and is remembered. -/
theorem poll_of_stuck (h : s.isStuck = true) : s.poll = (false, { s with workerLost := true }) := by
  rcases s with ⟨_, _ | _ | _ | _ | _, _, _, _⟩ <;> first | rfl | cases h

theorem running?_of_stuck (h : s.isStuck = true) : s.running? = none := by
  rcases s with ⟨_, _ | _ | _ | _ | _, _, _, _⟩ <;> first | rfl | cases h

theorem buffer_of_stuck (h : s.isStuck = true) : s.buffer = .error (.slotBusy s.index) := by
  rcases s with ⟨_, _ | _ | _ | _ | _, _, _, _⟩ <;> first | rfl | cases h

theorem submit_of_stuck (h : s.isStuck = true) (length : Nat) :
    s.submit length = .error (.slotBusy s.index) := by
  rcases s with ⟨_, _ | _ | _ | _ | _, _, _, _⟩ <;> first | rfl | cases h

namespace Fits

variable {b : Backstage}

/-- The buffer of a worker that has died is lost. -/
theorem isStuck_of_gone (h : s.Fits b) (hgone : b.worker = .gone) : s.isStuck = true := by
  cases h with
  | lost hstate _ _ => rw [isStuck, hstate]
  | running _ hunderway _ =>
    obtain ⟨job, -, hworker | hworker⟩ := hunderway.worker <;> cases hgone.symm.trans hworker
  | idle _ hworker _ => cases hgone.symm.trans hworker
  | ended _ hworker _ _ _ _ => cases hgone.symm.trans hworker
  | released _ hworker _ => cases hgone.symm.trans hworker

theorem gone_or_released (h : s.Fits b) (hstuck : s.isStuck = true) :
    b.worker = .gone ∨ s.state = .released := by
  cases h with
  | lost _ hworker _ => exact .inl hworker
  | released hstate _ _ => exact .inr hstate
  | idle hstate _ _ => simp [isStuck, hstate] at hstuck
  | running hstate _ _ => simp [isStuck, hstate] at hstuck
  | ended hstate _ _ _ _ _ => simp [isStuck, hstate] at hstuck

end Fits

end Slot

namespace SlotStage

variable {p : SlotStage}

theorem latches_act (p : SlotStage) (a : Action) : p.slot.Latches (p.act a).slot := by
  cases a with
  | change f =>
    rw [SlotStage.act, Slot.change]
    split
    · exact .refl _
    · exact p.slot.latches_putBuffer _
  | encode fb r =>
    rw [SlotStage.act, Slot.encode_eq]
    split
    · exact .refl _
    split
    · exact .refl _
    · exact p.slot.latches_putBuffer _
  | submit length =>
    rw [SlotStage.act]
    split
    · exact .refl _
    next slot hsubmit =>
      obtain ⟨buffer, hle, hstate, -, rfl⟩ := Slot.of_submit hsubmit
      have hfree : p.slot.isStuck = false := by rw [Slot.isStuck, hstate]
      split <;> exact .of_not_stuck hfree rfl
  | poll => exact p.slot.latches_poll
  | wait meanwhile => exact (p.slot.latches_reactAll _).trans (Slot.latches_poll _)
  | cancel => exact p.slot.latches_cancel
  | shutdown meanwhile => exact p.slot.latches_shutdown _
  | move m => exact p.slot.latches_reactAll _

theorem latches_run (p : SlotStage) (actions : List Action) :
    p.slot.Latches (p.run actions).slot := by
  induction actions generalizing p with
  | nil => exact .refl _
  | cons a rest ih => exact (p.latches_act a).trans (ih (p.act a))

/-- A slot is stuck with a worker that has died, or after a shutdown that got its buffer back. -/
theorem Sound.cause_of_stuck (h : p.Sound) (hstuck : p.slot.isStuck = true) :
    p.behind.worker = .gone ∨ p.isShut = true ∧ p.slot.state = .released := by
  refine (h.fits.gone_or_released hstuck).imp_right fun hreleased => ⟨?_, hreleased⟩
  cases hshut : p.isShut with
  | true => rfl
  | false => exact absurd hreleased (h.kept hshut)

end SlotStage

namespace SchedulerStage

variable {p : SchedulerStage}

theorem latches_run (p : SchedulerStage) (ops : List Operation) (i : SlotId) :
    (p.scheduler.slot i).Latches ((p.run ops).scheduler.slot i) := by
  have hlatches := (p.stage i).latches_run (ops.flatMap (·.view i))
  rwa [← stage_run] at hlatches

theorem latches_performAll (p : SchedulerStage) (calls : List Call) (i : SlotId) :
    (p.scheduler.slot i).Latches ((p.performAll calls).scheduler.slot i) := by
  obtain ⟨ops, hops⟩ := p.exists_performAll_eq_run calls
  rw [hops]
  exact p.latches_run ops i

/-- The first look after the death of a worker; it may have died in the wait before that look. -/
theorem Sound.look_of_gone (h : p.Sound) {i : SlotId} (meanwhile : List (SlotId × Move))
    (hgone : ((p.act (.wait i meanwhile)).behind.get i).worker = .gone) :
    (p.scheduler.wait i fun _ => (play p.behind meanwhile).1).1 = false ∧
      ((p.act (.wait i meanwhile)).scheduler.slot i).workerLost = true := by
  obtain ⟨hevents, hbehind⟩ := play_eq p.behind meanwhile i
  have hstuck := ((h.stage i).fits.play (ofSlot i meanwhile)).isStuck_of_gone (hbehind ▸ hgone)
  rw [show (p.stage i).behind = p.behind.get i from rfl, ← hevents,
    show (p.stage i).slot = p.scheduler.slot i from rfl, ← slot_reactAll] at hstuck
  have hpoll := Slot.poll_of_stuck hstuck
  constructor
  · exact congrArg Prod.fst hpoll
  · show (((p.scheduler.reactAll (play p.behind meanwhile).1).poll i).2.slot i).workerLost = true
    rw [Scheduler.slot_poll, if_pos rfl, hpoll]

/-- Whatever is done with two slots and whatever happens behind them: if the owner of a slot takes
its worker for lost, the worker has died with the buffer, or a shutdown has got the buffer back. The
first look after a death finds nothing and is remembered, and so is a wait in which the worker dies.
What is remembered stays so: no look and no wait finds the buffer any more, and it cannot be written
to or sent. The other slot goes on by itself. -/
theorem workerLost_run {config : Config} {s : Scheduler} (h : Scheduler.create config = .ok s)
    (calls : List Call) :
    let p := performAll { scheduler := s } calls
    (∀ i, (p.scheduler.slot i).workerLost = true → (p.behind.get i).worker = .gone ∨
      p.isShut.get i = true ∧ (p.scheduler.slot i).state = .released) ∧
    (∀ i, (p.behind.get i).worker = .gone → (p.scheduler.poll i).1 = false ∧
      ((p.act (.poll i)).scheduler.slot i).workerLost = true) ∧
    (∀ i meanwhile, ((p.act (.wait i meanwhile)).behind.get i).worker = .gone →
      (p.scheduler.wait i fun _ => (play p.behind meanwhile).1).1 = false ∧
        ((p.act (.wait i meanwhile)).scheduler.slot i).workerLost = true) ∧
    (∀ i, (p.scheduler.slot i).workerLost = true → ∀ after,
      let r := p.performAll after
      (r.scheduler.slot i).workerLost = true ∧ (r.scheduler.poll i).1 = false ∧
        (∀ events, (r.scheduler.wait i fun _ => events).1 = false) ∧
        (r.scheduler.slot i).buffer = .error (.slotBusy (r.scheduler.slot i).index) ∧
        ∀ length, r.scheduler.submit i length = .error (.slotBusy (r.scheduler.slot i).index)) ∧
    ∀ i, (p.scheduler.slot i).workerLost = true → ∀ j, j ≠ i →
      (∀ op, op.target = i → ofSlot j op.moves = [] → (p.act op).stage j = p.stage j) ∧
        ∀ ops, (p.run ops).stage j = (p.stage j).run (ops.flatMap (·.view j)) := by
  intro p
  have hstart : Sound { scheduler := s } := .of_create h
  have hp : p.Sound := hstart.performAll calls
  -- a slot begins without the memory of a loss
  have hstuck : ∀ i, (p.scheduler.slot i).workerLost = true →
      (p.scheduler.slot i).isStuck = true := by
    intro i hlost
    refine ((latches_performAll _ calls i).cause hlost).resolve_left ?_
    obtain ⟨hfirst, hsecond⟩ := Scheduler.slots_of_create h
    cases i with
    | first => exact Slot.workerLost_of_create hfirst ▸ Bool.false_ne_true
    | second => exact Slot.workerLost_of_create hsecond ▸ Bool.false_ne_true
  refine ⟨fun i hlost => (hp.stage i).cause_of_stuck (hstuck i hlost),
    fun i hgone => hp.look_of_gone [] hgone, fun i meanwhile => hp.look_of_gone meanwhile, ?_, ?_⟩
  · intro i hlost after r
    have hlatches := p.latches_performAll after i
    have hrstuck : (r.scheduler.slot i).isStuck = true := hlatches.stuck (hstuck i hlost)
    refine ⟨hlatches.kept hlost, congrArg Prod.fst (Slot.poll_of_stuck hrstuck), fun events => ?_,
      Slot.buffer_of_stuck hrstuck, fun length => ?_⟩
    · have hslot : (r.scheduler.reactAll events).slot i = r.scheduler.slot i := by
        rw [slot_reactAll, Slot.reactAll_of_not_running (Slot.running?_of_stuck hrstuck)]
      show ((r.scheduler.reactAll events).slot i).poll.1 = false
      rw [hslot, Slot.poll_of_stuck hrstuck]
    · rw [Scheduler.submit, Slot.submit_of_stuck hrstuck]
  · intro i _ j hne
    refine ⟨fun op htarget hnone => ?_, fun ops => p.stage_run ops j⟩
    rw [p.stage_act_of_ne op (htarget ▸ hne.symm), hnone]
    rfl

/-- The worker of the first slot dies in its bulk call, and the owner looks. -/
def diedFirst : List Call :=
  [.single (.submit .first 2), .single (.move .first .call), .single (.move .first .died),
    .single (.poll .first)]

theorem workerLost_run_diedFirst :
    ∃ s, Scheduler.create .oneColumn = .ok s ∧
      let p := performAll { scheduler := s } diedFirst
      (p.scheduler.slot .first).workerLost = true ∧
        (p.behind.get .first).worker = .gone ∧ (p.scheduler.poll .first).1 = false ∧
        ((p.performAll [.shutdown ⟨[], []⟩]).scheduler.submit .first 2) = .error (.slotBusy 0) ∧
        (p.act (.submit .first 2)).stage .second = p.stage .second := by
  have hcreate : Scheduler.create .oneColumn = .ok _ := rfl
  refine ⟨_, hcreate, ?_⟩
  obtain ⟨-, hlooks, -, hkept, hother⟩ := workerLost_run hcreate diedFirst
  obtain ⟨-, -, -, -, hsubmit⟩ := hkept .first rfl [.shutdown ⟨[], []⟩]
  exact ⟨rfl, rfl, (hlooks .first rfl).1, hsubmit 2,
    (hother .first rfl .second (SlotId.other_ne .first)).1 (.submit .first 2) rfl rfl⟩

/-- A slot is shut down in good order before it has sent anything, and its owner looks. -/
def releasedFirst : List Call := [.single (.shutdown .first []), .single (.poll .first)]

/-- No worker has died, but the owner takes it for lost. -/
theorem released_counts_as_lost :
    ∃ s, Scheduler.create .oneColumn = .ok s ∧
      let p := performAll { scheduler := s } releasedFirst
      (p.scheduler.slot .first).workerLost = true ∧ (p.behind.get .first).worker = .waiting ∧
        p.stories .first = [] := ⟨_, rfl, rfl, rfl, rfl⟩

end SchedulerStage

end UsbDisplay
