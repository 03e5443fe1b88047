import UsbDisplay.Transfer.Scheduler

/-!
What single steps do to a slot. Of a slot the owner has to know how far its latest transfer has come
(`Slot.progress`) and which bytes a worker still sends (`Slot.packet?`). Events change the first as
`Slot.Progress.react` says, whatever the token of the transfer; looking at a slot and asking it to
stop change neither.
-/

namespace UsbDisplay

namespace SlotId

theorem eq_other_of_ne {i j : SlotId} (h : i ≠ j) : i = j.other := by
  cases i <;> cases j <;> first | rfl | exact absurd rfl h

theorem ofIndex_succ (n : Nat) : ofIndex (n + 1) = (ofIndex n).other := by
  simp only [ofIndex]
  split <;> split <;> first | rfl | omega

end SlotId

theorem PerSlot.set_get {α : Type} (p : PerSlot α) (i : SlotId) : p.set i (p.get i) = p := by
  cases i <;> rfl

/-- How far the latest transfer of a slot has come. -/
inductive Slot.Progress where
  /-- There was none. -/
  | unused
  /-- Its bulk call has not returned. -/
  | running
  /-- Its buffer never comes back. -/
  | lost
  /-- It has ended without success. -/
  | failed
  /-- It has ended with success. -/
  | settled
  deriving DecidableEq, Repr

namespace Slot

/-- The outcome of the latest transfer once it has ended, whether the owner has seen it or not. -/
def outcome? (s : Slot) : Option Outcome :=
  match s.state with
  | .idle _ => s.lastOutcome
  | .ended _ outcome _ => some outcome
  | _ => none

namespace Progress

def ofOutcome : Option Outcome → Progress
  | none => unused
  | some outcome => if outcome.isSuccess then settled else failed

def isInFlight : Progress → Bool
  | running | lost => true
  | unused | failed | settled => false

/-- Whether there is a transfer that has not ended with success. -/
def isUndelivered : Progress → Bool
  | running | lost | failed => true
  | unused | settled => false

/-- What an event makes of the progress. -/
def react : Progress → Event → Progress
  | running, .returned (.ok _) => settled
  | running, .returned (.error _) => failed
  | running, .died => lost
  | p, _ => p

theorem react_of_not_inFlight {p : Progress} (h : p.isInFlight = false) (e : Event) :
    p.react e = p := by
  cases p with
  | running => cases h
  | lost => cases h
  | unused => rfl
  | failed => rfl
  | settled => rfl

theorem eq_running_of_react {p : Progress} {e : Event} (h : p.react e = running) : p = running := by
  cases p with
  | running => rfl
  | _ => cases h

theorem isUndelivered_react {p : Progress} (h : p.isUndelivered = true) (e : Event) :
    (p.react e).isUndelivered = true ∨ p = running ∧ p.react e = settled := by
  cases p with
  | running =>
    cases e with
    | returned result =>
      cases result with
      | ok bytes => exact .inr ⟨rfl, rfl⟩
      | error cause => exact .inl rfl
    | deadline => exact .inl rfl
    | died => exact .inl rfl
  | lost => exact .inl h
  | failed => exact .inl h
  | unused => cases h
  | settled => cases h

theorem eq_failed {p : Progress} (h : p.isUndelivered = true) (hflight : p.isInFlight = false) :
    p = failed := by
  cases p with
  | failed => rfl
  | running => cases hflight
  | lost => cases hflight
  | unused => cases h
  | settled => cases h

theorem ofOutcome_ofResult (result : Except TransportError Nat) (token : CancelToken) :
    ofOutcome (some (.ofResult result token)) = running.react (.returned result) := by
  cases result with
  | ok bytes => rfl
  | error cause => rcases token with ⟨_ | _ | _⟩ <;> rfl

theorem isInFlight_ofOutcome (o : Option Outcome) : (ofOutcome o).isInFlight = false := by
  cases o with
  | none => rfl
  | some o => cases o <;> rfl

theorem ofOutcome_ne_running (o : Option Outcome) : ofOutcome o ≠ running := by
  intro h
  have hflight := isInFlight_ofOutcome o
  rw [h] at hflight
  cases hflight

theorem ofOutcome_eq_settled_iff (o : Option Outcome) :
    ofOutcome o = settled ↔ o.any Outcome.isSuccess = true := by
  cases o with
  | none => simp [ofOutcome]
  | some o => cases o <;> simp [ofOutcome, Outcome.isSuccess]

end Progress

/-- How far the latest transfer of a slot has come. -/
def progress (s : Slot) : Progress :=
  match s.state with
  | .running _ => .running
  | .lost _ | .released => .lost
  | .idle _ | .ended .. => .ofOutcome s.outcome?

/-- The bytes of the transfer whose bulk call has not returned. -/
def packet? (s : Slot) : Option ByteArray := s.running?.map Transfer.packet

variable {s : Slot}

theorem progress_of_idle {b : TransferBuffer} (h : s.state = .idle b) :
    s.progress = .ofOutcome s.lastOutcome := by
  simp only [progress, outcome?, h]

/-- A transfer has ended with success if its outcome says so. -/
theorem progress_eq_settled_iff :
    s.progress = .settled ↔ s.outcome?.any Outcome.isSuccess = true := by
  rcases s with ⟨_, _ | _ | _ | _ | _, _, _, _⟩
  case idle => exact Progress.ofOutcome_eq_settled_iff _
  case ended b outcome token => exact Progress.ofOutcome_eq_settled_iff (some outcome)
  all_goals simp [progress, outcome?]

theorem packet?_isSome : s.packet?.isSome = true ↔ s.progress = .running := by
  rcases s with ⟨_, _ | _ | _ | _ | _, _, _, _⟩ <;>
    simp [packet?, running?, progress, Progress.ofOutcome_ne_running]

@[simp] theorem progress_react (s : Slot) (e : Event) :
    (s.react e).progress = s.progress.react e := by
  rcases s with ⟨_, _ | t | _ | _ | _, _, _, _⟩
  case running =>
    cases e with
    | returned result => exact Progress.ofOutcome_ofResult result t.token
    | deadline => rfl
    | died => rfl
  case idle last _ _ b =>
    exact (Progress.react_of_not_inFlight (Progress.isInFlight_ofOutcome last) e).symm
  case ended b outcome token =>
    exact (Progress.react_of_not_inFlight (Progress.isInFlight_ofOutcome (some outcome)) e).symm
  case lost => cases e <;> rfl
  case released => cases e <;> rfl

@[simp] theorem packet?_react (s : Slot) (e : Event) :
    (s.react e).packet? = if s.progress.react e = .running then s.packet? else none := by
  rcases s with ⟨_, _ | t | _ | _ | _, _, _, _⟩
  case running =>
    cases e with
    | returned result => cases result <;> rfl
    | deadline => rfl
    | died => rfl
  all_goals simp [react, packet?, running?]

theorem react_of_idle {b : TransferBuffer} (h : s.state = .idle b) (e : Event) : s.react e = s := by
  simp only [react, h]

@[simp] theorem progress_poll (s : Slot) : s.poll.2.progress = s.progress := by
  rcases s with ⟨_, _ | _ | _ | _ | _, _, _, _⟩ <;> rfl

@[simp] theorem packet?_poll (s : Slot) : s.poll.2.packet? = s.packet? := by
  rcases s with ⟨_, _ | _ | _ | _ | _, _, _, _⟩ <;> rfl

/-- A slot is found idle exactly if its latest transfer has ended. -/
@[simp] theorem poll_fst (s : Slot) : s.poll.1 = !s.progress.isInFlight := by
  rcases s with ⟨_, _ | _ | _ | _ | _, _, _, _⟩
  case idle => simp [poll, progress, Progress.isInFlight_ofOutcome]
  case ended => simp [poll, progress, Progress.isInFlight_ofOutcome]
  all_goals rfl

theorem poll_of_idle {b : TransferBuffer} (h : s.state = .idle b) : s.poll = (true, s) := by
  simp only [poll, h]

theorem idle_of_poll (h : s.progress.isInFlight = false) : ∃ b, s.poll.2.state = .idle b := by
  rcases s with ⟨_, b | _ | b | _ | _, _, _, _⟩
  case idle => exact ⟨b, rfl⟩
  case ended => exact ⟨b, rfl⟩
  all_goals cases h

@[simp] theorem progress_cancel (s : Slot) : s.cancel.2.progress = s.progress := by
  rcases s with ⟨_, _ | _ | _ | _ | _, _, _, _⟩ <;> rfl

@[simp] theorem packet?_cancel (s : Slot) : s.cancel.2.packet? = s.packet? := by
  rcases s with ⟨_, _ | _ | _ | _ | _, _, _, _⟩ <;> rfl

theorem cancel_of_idle {b : TransferBuffer} (h : s.state = .idle b) : s.cancel = (false, s) := by
  simp only [cancel, h]

/-! ### Slots that take transfers -/

/-- The buffer, wherever it is, unless it never comes back. -/
def held? (s : Slot) : Option TransferBuffer :=
  match s.state with
  | .idle buffer => some buffer
  | .running t => some t.buffer
  | .ended buffer _ _ => some buffer
  | .lost _ | .released => none

/-! No event, look or request gives a slot another buffer. -/

theorem held?_of_react {e : Event} {b : TransferBuffer} (h : (s.react e).held? = some b) :
    s.held? = some b := by
  rcases s with ⟨_, _ | _ | _ | _ | _, _, _, _⟩ <;> cases e <;> first | exact h | cases h

theorem held?_of_poll {b : TransferBuffer} (h : s.poll.2.held? = some b) : s.held? = some b := by
  rcases s with ⟨_, _ | _ | _ | _ | _, _, _, _⟩ <;> exact h

theorem held?_of_cancel {b : TransferBuffer} (h : s.cancel.2.held? = some b) :
    s.held? = some b := by
  rcases s with ⟨_, _ | _ | _ | _ | _, _, _, _⟩ <;> exact h

/-- A slot that takes transfers and has a buffer of the configured size. -/
structure Sound (config : Config) (s : Slot) : Prop where
  isOpen : s.isOpen = true
  capacity : ∀ b, s.held? = some b → b.capacity = config.bufferCapacity
  lineCapacity : ∀ b, s.held? = some b → b.lineCapacity = config.lineCapacity

variable {config : Config}

theorem Sound.of_held {s' : Slot} (h : s.Sound config) (hopen : s'.isOpen = s.isOpen)
    (hheld : ∀ b, s'.held? = some b → s.held? = some b) : s'.Sound config :=
  ⟨hopen.trans h.isOpen, fun b hb => h.capacity b (hheld b hb),
    fun b hb => h.lineCapacity b (hheld b hb)⟩

theorem Sound.react (h : s.Sound config) (e : Event) : (s.react e).Sound config := by
  refine h.of_held ?_ fun b hb => held?_of_react hb
  rcases s with ⟨_, _ | _ | _ | _ | _, _, _, _⟩ <;> cases e <;> rfl

theorem Sound.poll (h : s.Sound config) : s.poll.2.Sound config := by
  refine h.of_held ?_ fun b hb => held?_of_poll hb
  rcases s with ⟨_, _ | _ | _ | _ | _, _, _, _⟩ <;> rfl

theorem Sound.cancel (h : s.Sound config) : s.cancel.2.Sound config := by
  refine h.of_held ?_ fun b hb => held?_of_cancel hb
  rcases s with ⟨_, _ | _ | _ | _ | _, _, _, _⟩ <;> rfl

theorem sound_of_create {index : Nat} (h : Slot.create index config = .ok s) :
    s.Sound config ∧ (∃ b, s.state = .idle b) ∧ s.lastOutcome = none := by
  simp only [create, TransferBuffer.allocate] at h
  split at h
  · cases h
  next b hb =>
  cases h
  split at hb
  · cases hb
  split at hb
  · cases hb
  cases hb
  have hcapacity : ∀ (n : Nat), (ByteArray.mk (Array.replicate n 0)).size = n := by
    intro n
    rw [← ByteArray.size_data, Array.size_replicate]
  refine ⟨⟨rfl, ?_, ?_⟩, ⟨_, rfl⟩, rfl⟩ <;> intro b hb <;> cases hb
  · exact hcapacity _
  · exact Array.size_replicate

end Slot

namespace Scheduler

variable {s : Scheduler} {config : Config} {i : SlotId}

theorem slot_setSlot (s : Scheduler) (i j : SlotId) (slot : Slot) :
    (s.setSlot i slot).slot j = if j = i then slot else s.slot j := by
  cases i <;> cases j <;> rfl

@[simp] theorem setSlot_slot (s : Scheduler) (i : SlotId) : s.setSlot i (s.slot i) = s := by
  cases i <;> rfl

@[simp] theorem setSlot_setSlot (s : Scheduler) (i : SlotId) (a b : Slot) :
    (s.setSlot i a).setSlot i b = s.setSlot i b := by
  cases i <;> rfl

/-- An operation on one slot leaves the other alone. -/
theorem slot_setSlot_apply (s : Scheduler) (i j : SlotId) (f : Slot → Slot) :
    (s.setSlot i (f (s.slot i))).slot j = if j = i then f (s.slot j) else s.slot j := by
  rw [slot_setSlot]
  split
  next h => rw [h]
  next => rfl

theorem slot_react (s : Scheduler) (e : Event) (j : SlotId) :
    (s.react e).slot j = if j = e.1 then (s.slot j).react e.2 else s.slot j :=
  s.slot_setSlot_apply e.1 j (·.react e.2)

theorem slots_of_create (h : create config = .ok s) :
    Slot.create 0 config = .ok (s.slot .first) ∧ Slot.create 1 config = .ok (s.slot .second) := by
  rw [create] at h
  split at h
  next hfirst hsecond =>
    cases h
    exact ⟨hfirst, hsecond⟩
  · cases h
  · cases h

/-- Both slots take transfers and have buffers of the configured size. -/
def Sound (config : Config) (s : Scheduler) : Prop := ∀ i, (s.slot i).Sound config

theorem Sound.setSlot (h : s.Sound config) {slot : Slot} (hslot : slot.Sound config) :
    (s.setSlot i slot).Sound config := by
  intro j
  rw [slot_setSlot]
  split
  · exact hslot
  · exact h j

theorem Sound.react (h : s.Sound config) (e : Event) : (s.react e).Sound config :=
  h.setSlot ((h e.1).react e.2)

theorem Sound.poll (h : s.Sound config) : (s.poll i).2.Sound config := h.setSlot (h i).poll

theorem Sound.cancel (h : s.Sound config) : (s.cancel i).2.Sound config := h.setSlot (h i).cancel

@[simp] theorem poll_fst (s : Scheduler) (i : SlotId) :
    (s.poll i).1 = !(s.slot i).progress.isInFlight := (s.slot i).poll_fst

theorem poll_of_idle {b : TransferBuffer} (h : (s.slot i).state = .idle b) :
    s.poll i = (true, s) := by
  simp only [poll, Slot.poll_of_idle h, setSlot_slot]

theorem slot_poll (s : Scheduler) (i j : SlotId) :
    (s.poll i).2.slot j = if j = i then (s.slot j).poll.2 else s.slot j :=
  s.slot_setSlot_apply i j (·.poll.2)

theorem idle_of_poll (h : (s.poll i).1 = true) : ∃ b, ((s.poll i).2.slot i).state = .idle b := by
  rw [poll_fst, Bool.not_eq_true'] at h
  rw [slot_poll, if_pos rfl]
  exact Slot.idle_of_poll h

theorem idle_of_wait {meanwhile : Scheduler → List Event} (h : (s.wait i meanwhile).1 = true) :
    ∃ b, ((s.wait i meanwhile).2.slot i).state = .idle b := idle_of_poll h

theorem slot_cancel (s : Scheduler) (i j : SlotId) :
    (s.cancel i).2.slot j = if j = i then (s.slot j).cancel.2 else s.slot j :=
  s.slot_setSlot_apply i j (·.cancel.2)

theorem slot_release (s : Scheduler) (i j : SlotId) :
    (s.release i).2.slot j = if j = i then (s.slot j).release.2 else s.slot j :=
  s.slot_setSlot_apply i j (·.release.2)

theorem held?_of_reactAll {events : List Event} {j : SlotId} {b : TransferBuffer}
    (h : ((s.reactAll events).slot j).held? = some b) : (s.slot j).held? = some b := by
  induction events generalizing s with
  | nil => exact h
  | cons e rest ih =>
    have hstep := ih (s := s.react e) h
    rw [slot_react] at hstep
    split at hstep
    · exact Slot.held?_of_react hstep
    · exact hstep

theorem held?_of_poll {j : SlotId} {b : TransferBuffer}
    (h : ((s.poll i).2.slot j).held? = some b) : (s.slot j).held? = some b := by
  rw [slot_poll] at h
  split at h
  · exact Slot.held?_of_poll h
  · exact h

@[simp] theorem progress_poll (s : Scheduler) (i j : SlotId) :
    ((s.poll i).2.slot j).progress = (s.slot j).progress := by
  rw [slot_poll]
  split <;> simp

@[simp] theorem packet?_poll (s : Scheduler) (i j : SlotId) :
    ((s.poll i).2.slot j).packet? = (s.slot j).packet? := by
  rw [slot_poll]
  split <;> simp

@[simp] theorem progress_cancel (s : Scheduler) (i j : SlotId) :
    ((s.cancel i).2.slot j).progress = (s.slot j).progress := by
  rw [slot_cancel]
  split <;> simp

@[simp] theorem packet?_cancel (s : Scheduler) (i j : SlotId) :
    ((s.cancel i).2.slot j).packet? = (s.slot j).packet? := by
  rw [slot_cancel]
  split <;> simp

end Scheduler

end UsbDisplay
