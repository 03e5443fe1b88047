import UsbDisplay.Proofs.DeviceRuns
import UsbDisplay.Proofs.WorkerInStep

/-!
Who has the buffer of a slot. The slot never has it while a transfer is under way, and until it is
shut down it has one or the other. A submit is refused for a fixed reason and then changes nothing;
every accepted one makes the worker send the bytes that were handed over, once; and the buffer comes
back as it was handed over (`SlotStage.ownership_run`).
-/

namespace UsbDisplay

namespace Slot

variable {s : Slot}

theorem not_buffer_and_token (s : Slot) : ¬(s.buffer?.isSome = true ∧ s.token?.isSome = true) := by
  rcases s with ⟨_, _ | _ | _ | _ | _, _, _, _⟩ <;> simp [Slot.buffer?, Slot.token?]

theorem buffer_or_token (h : s.state ≠ .released) :
    s.buffer?.isSome = true ∨ s.token?.isSome = true := by
  rcases s with ⟨_, _ | _ | _ | _ | _, _, _, _⟩
  case idle => exact .inl rfl
  case released => exact absurd rfl h
  all_goals exact .inr rfl

theorem buffer_eq_ok_iff {buffer : TransferBuffer} :
    s.buffer = .ok buffer ↔ s.buffer? = some buffer := by
  rcases s with ⟨_, _ | _ | _ | _ | _, _, _, _⟩ <;> simp [Slot.buffer, Slot.buffer?]

theorem buffer_of_away (h : s.buffer? = none) : s.buffer = .error (.slotBusy s.index) := by
  rcases s with ⟨_, _ | _ | _ | _ | _, _, _, _⟩ <;> first | rfl | cases h

theorem buffer?_react (s : Slot) (e : Event) : (s.react e).buffer? = s.buffer? := by
  rcases s with ⟨_, _ | _ | _ | _ | _, _, _, _⟩ <;> cases e <;> rfl

@[simp] theorem buffer?_reactAll (s : Slot) (events : List Event) :
    (s.reactAll events).buffer? = s.buffer? := by
  induction events generalizing s with
  | nil => rfl
  | cons e rest ih => exact (ih _).trans (s.buffer?_react e)

@[simp] theorem buffer?_cancel (s : Slot) : s.cancel.2.buffer? = s.buffer? := by
  rcases s with ⟨_, _ | _ | _ | _ | _, _, _, _⟩ <;> rfl

@[simp] theorem buffer?_shutdown (s : Slot) (meanwhile : Slot → List Event) :
    (s.shutdown meanwhile).2.buffer? = none := by
  have hrelease : ∀ s : Slot, s.release.2.buffer? = none := by
    rintro ⟨_, _ | _ | _ | _ | _, _, _, _⟩ <;> rfl
  rw [shutdown]
  split <;> exact hrelease _

/-- A buffer that is found when the owner looks is the one that was handed over last. -/
theorem Fits.found {b : Backstage} (h : s.Fits b) (haway : s.buffer? = none)
    {buffer : TransferBuffer} (hfound : s.poll.2.buffer? = some buffer) :
    b.handed.getLast?.map Prod.fst = some buffer := by
  cases h with
  | idle hstate _ _ =>
    rw [Slot.buffer?, hstate] at haway
    cases haway
  | @ended _ _ _ story hstate _ hlatest hreturned _ _ =>
    simp only [Slot.poll, hstate, Slot.buffer?, Option.some.injEq] at hfound
    rw [Backstage.latest?] at hlatest
    rw [Backstage.handed, List.getLast?_map, hlatest, ← hfound, ← hreturned]
    rfl
  | running hstate _ _ =>
    simp only [Slot.poll, hstate, Slot.buffer?] at hfound
    cases hfound
  | lost hstate _ _ =>
    simp only [Slot.poll, hstate, Slot.buffer?] at hfound
    cases hfound
  | released hstate _ _ =>
    simp only [Slot.poll, hstate, Slot.buffer?] at hfound
    cases hfound

end Slot

namespace SlotStage

variable {p : SlotStage}

/-- Why a submit of this length is refused, if it is. The buffer comes first, then the length, then
the shutdown. -/
def refusal? (p : SlotStage) (length : Nat) : Option Error :=
  match p.slot.buffer? with
  | none => some (.slotBusy p.slot.index)
  | some buffer =>
    if buffer.capacity < length then some (.lengthExceedsBuffer length buffer.capacity)
    else if p.isShut then some (.workerGone p.slot.index)
    else none

theorem Sound.submit_eq_error_iff (h : p.Sound) {length : Nat} {e : Error} :
    p.slot.submit length = .error e ↔ p.refusal? length = some e := by
  have hopen := h.isOpen
  rw [refusal?, Slot.submit, Slot.buffer?]
  cases p.slot.state with
  | idle buffer =>
    simp only [hopen]
    by_cases hle : length ≤ buffer.capacity
    · rw [dif_pos hle, if_neg (Nat.not_lt.2 hle)]
      cases p.isShut <;> simp
    · rw [dif_neg hle, if_pos (Nat.lt_of_not_le hle)]
      simp
  | running t => simp
  | ended buffer outcome token => simp
  | lost token => simp
  | released => simp

/-- A submit that is accepted hands over the buffer that the owner has. -/
theorem handed_submit {length : Nat} {slot : Slot} (h : p.slot.submit length = .ok slot) :
    ∃ buffer, p.slot.buffer? = some buffer ∧
      (p.act (.submit length)).behind.handed = p.behind.handed ++ [(buffer, length)] := by
  obtain ⟨buffer, hle, hstate, -, rfl⟩ := Slot.of_submit h
  have hbuffer : p.slot.buffer? = some buffer := by rw [Slot.buffer?, hstate]
  refine ⟨buffer, hbuffer, ?_⟩
  simp [act, h, hbuffer, Slot.running?, Backstage.handed, Backstage.give]

/-- The worker sends what it has to send as soon as it takes its next step. -/
theorem Sound.calls_call (h : p.Sound) : (p.act (.move .call)).behind.calls = p.behind.packets := by
  have hdue := h.due
  rw [Backstage.due] at hdue
  simp only [SlotStage.act, Backstage.play, Backstage.move]
  split
  next number job hw =>
    rw [hw] at hdue
    exact hdue
  next hnot =>
    rw [← hdue]
    cases hw : p.behind.worker with
    | given number job => exact absurd hw (hnot number job)
    | waiting => exact (List.append_nil _).symm
    | calling number job => exact (List.append_nil _).symm
    | gone => exact (List.append_nil _).symm

/-- While the worker has no job, the owner finds the buffer when it looks. -/
theorem Sound.found (h : p.Sound) (hshut : p.isShut = false) (hworker : p.behind.worker = .waiting) :
    p.slot.poll.2.buffer?.isSome = true := by
  cases h.fits with
  | idle hstate _ _ => simp [Slot.poll, hstate, Slot.buffer?]
  | ended hstate _ _ _ _ _ => simp [Slot.poll, hstate, Slot.buffer?]
  | running _ hunderway _ =>
    obtain ⟨job, -, hw | hw⟩ := hunderway.worker
    · cases hworker.symm.trans hw
    · cases hworker.symm.trans hw
  | lost _ hgone _ => cases hworker.symm.trans hgone
  | released hstate _ _ => exact absurd hstate (h.kept hshut)

/-- The owner gets a buffer back only as it was handed over last. -/
theorem Sound.returned (h : p.Sound) (a : Action) {buffer : TransferBuffer}
    (haway : p.slot.buffer? = none) (hback : (p.act a).slot.buffer? = some buffer) :
    p.behind.handed.getLast?.map Prod.fst = some buffer := by
  have hbusy := Slot.buffer_of_away haway
  have hstays : p.slot.buffer? = some buffer → p.behind.handed.getLast?.map Prod.fst = some buffer :=
    fun hhere => by cases haway.symm.trans hhere
  cases a with
  | change f =>
    simp only [SlotStage.act, Slot.change, hbusy] at hback
    exact hstays hback
  | encode fb r =>
    simp only [SlotStage.act, Slot.encode_eq, hbusy] at hback
    exact hstays hback
  | submit length =>
    have hrefused : p.slot.submit length = .error (.slotBusy p.slot.index) := by
      rw [h.submit_eq_error_iff, refusal?, haway]
    simp only [SlotStage.act, hrefused] at hback
    exact hstays hback
  | poll => exact h.fits.found haway hback
  | wait meanwhile =>
    obtain ⟨-, hhanded⟩ := p.behind.due_play meanwhile
    have hfound := (h.fits.play meanwhile).found (by simpa using haway) hback
    rwa [hhanded] at hfound
  | cancel =>
    simp only [SlotStage.act, Slot.buffer?_cancel] at hback
    exact hstays hback
  | shutdown meanwhile =>
    simp only [SlotStage.act, Slot.buffer?_shutdown] at hback
    cases hback
  | move m =>
    simp only [SlotStage.act, Slot.buffer?_reactAll] at hback
    exact hstays hback

/-- Whatever the owner of a slot does and whatever goes on behind it, the buffer has one owner at a
time, every accepted submit is sent once and as it was handed over, and refused ones change nothing.
-/
theorem ownership_run {index : Nat} {config : Config} {s : Slot}
    (h : Slot.create index config = .ok s) (actions : List Action) :
    let p := run { slot := s } actions
    ¬(p.slot.buffer?.isSome = true ∧ p.slot.token?.isSome = true) ∧
      (p.isShut = false → p.slot.buffer?.isSome = true ∨ p.slot.token?.isSome = true) ∧
      (p.isShut = false → p.behind.worker = .waiting → p.slot.poll.2.buffer?.isSome = true) ∧
      (∀ buffer, p.slot.buffer = .ok buffer ↔ p.slot.buffer? = some buffer) ∧
      (∀ length e, p.slot.submit length = .error e ↔ p.refusal? length = some e) ∧
      (∀ length e, p.slot.submit length = .error e → p.act (.submit length) = p) ∧
      (∀ length slot, p.slot.submit length = .ok slot →
        ∃ buffer, p.slot.buffer? = some buffer ∧
          (p.act (.submit length)).behind.handed = p.behind.handed ++ [(buffer, length)]) ∧
      p.behind.calls ++ p.behind.worker.queued = p.behind.handed.map (fun h => h.1.first h.2) ∧
      (p.act (.move .call)).behind.calls = p.behind.handed.map (fun h => h.1.first h.2) ∧
      (∀ a buffer, p.slot.buffer? = none → (p.act a).slot.buffer? = some buffer →
        p.behind.handed.getLast?.map Prod.fst = some buffer) := by
  intro p
  have hp : p.Sound := (Sound.of_create h).run actions
  refine ⟨p.slot.not_buffer_and_token, fun hshut => Slot.buffer_or_token (hp.kept hshut),
    hp.found, fun buffer => Slot.buffer_eq_ok_iff, fun length e => hp.submit_eq_error_iff, ?_,
    fun length slot => handed_submit, hp.due, hp.calls_call,
    fun a buffer haway hback => hp.returned a haway hback⟩
  intro length e herror
  simp only [act, herror]

/-- A shutdown that comes while the call of a transfer of two bytes lasts, and waits in vain. -/
def abandoned : List Action :=
  [.change (·.write 0 ⟨#[1, 2, 3]⟩), .submit 2, .move .call, .shutdown []]

theorem ownership_run_abandoned :
    ∃ s, Slot.create 0 .oneColumn = .ok s ∧
      (run { slot := s } abandoned).slot.submit 2 = .error (.slotBusy 0) ∧
      (run { slot := s } abandoned).behind.calls =
        (run { slot := s } abandoned).behind.handed.map (fun h => h.1.first h.2) ∧
      ∃ buffer, ((run { slot := s } abandoned).act (.wait [.returned (.ok 2)])).slot.buffer? =
          some buffer ∧
        (run { slot := s } abandoned).behind.handed.getLast?.map Prod.fst = some buffer := by
  have hcreate : Slot.create 0 .oneColumn = .ok _ := rfl
  refine ⟨_, hcreate, ?_⟩
  obtain ⟨-, -, -, -, hrefused, -, -, hcalls, -, hback⟩ := ownership_run hcreate abandoned
  exact ⟨(hrefused 2 _).2 rfl, (List.append_nil _).symm.trans hcalls, _, rfl,
    hback (.wait [.returned (.ok 2)]) _ rfl rfl⟩

end SlotStage

end UsbDisplay
