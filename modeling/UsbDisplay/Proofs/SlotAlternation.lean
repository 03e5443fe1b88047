import UsbDisplay.Proofs.SingleTransfer

/-!
The two slots of a device act as one. At any time the active slot is idle and only the other one may
have a transfer in flight, so the device is a machine with one outstanding transfer: this relation
(`Device.Models`) is kept by every event, every look at a slot, every wait and every submit, and a
submit gives the machine's answer (`Device.Models.submitFrame`).
-/

namespace UsbDisplay

namespace Scheduler

variable {s : Scheduler} {j : SlotId}

/-- Nothing happens to a slot whose latest transfer has ended. -/
theorem progress_reactAll_of_ended (h : (s.slot j).progress.isInFlight = false)
    (events : List Event) : ((s.reactAll events).slot j).progress = (s.slot j).progress := by
  induction events generalizing s with
  | nil => rfl
  | cons e rest ih =>
    have hstep : ((s.react e).slot j).progress = (s.slot j).progress := by
      rw [slot_react]
      split
      · rw [Slot.progress_react, Slot.Progress.react_of_not_inFlight h]
      · rfl
    exact (ih (hstep ▸ h)).trans hstep

theorem progress_wait_of_ended (h : (s.slot j).progress.isInFlight = false) (i : SlotId)
    (meanwhile : Scheduler → List Event) :
    ((s.wait i meanwhile).2.slot j).progress = (s.slot j).progress := by
  rw [wait, progress_poll, progress_reactAll_of_ended h]

end Scheduler

namespace Device

/-- The active slot is idle, and the other one has the transfer of the machine. A failed transfer
whose damage was handed back is left in the slot without damage. -/
structure Models (d : Device) (m : SingleTransfer) : Prop where
  config : d.config = m.config
  pending : d.pending = m.pending
  lastSend : d.lastSend = m.lastSend
  active : d.active = m.nextSlot
  sound : d.scheduler.Sound d.config
  idle : ∃ b, (d.scheduler.slot d.active).state = .idle b
  progress : (d.scheduler.slot d.active.other).progress = m.status ∨
    (d.scheduler.slot d.active.other).progress = .failed ∧ m.status = .settled ∧
      d.inFlightDamage.get d.active.other = Rect.empty
  damage : m.status ≠ .settled → d.inFlightDamage.get d.active.other = m.rect
  packet : m.status = .running → (d.scheduler.slot d.active.other).packet? = m.sent.getLast?

variable {d : Device} {m : SingleTransfer}

theorem Models.isInFlight (h : d.Models m) :
    (d.scheduler.slot d.active.other).progress.isInFlight = m.status.isInFlight := by
  rcases h.progress with hp | ⟨hp, hm, -⟩
  · rw [hp]
  · rw [hp, hm]
    rfl

theorem Models.progress_eq (h : d.Models m) (hm : m.status ≠ .settled) :
    (d.scheduler.slot d.active.other).progress = m.status := by
  rcases h.progress with hp | ⟨-, hsettled, -⟩
  · exact hp
  · exact absurd hsettled hm

theorem Models.isBusy (h : d.Models m) (i : SlotId) :
    (d.scheduler.slot i).progress.isInFlight = m.isBusy i := by
  rw [SingleTransfer.isBusy, ← h.active, ← h.isInFlight]
  by_cases hi : i = d.active.other
  · rw [hi, decide_eq_true rfl, Bool.and_true]
  · have hactive : i = d.active := by
      rw [SlotId.eq_other_of_ne hi, SlotId.other_other]
    obtain ⟨b, hb⟩ := h.idle
    rw [hactive, Slot.progress_of_idle hb, Slot.Progress.isInFlight_ofOutcome,
      decide_eq_false (SlotId.other_ne d.active).symm, Bool.and_false]

/-- A worker sends the packet of the last frame, and no other. -/
theorem Models.of_packet (h : d.Models m) {i : SlotId} {packet : ByteArray}
    (hpacket : (d.scheduler.slot i).packet? = some packet) :
    i = m.nextSlot.other ∧ m.status = .running ∧ m.sent.getLast? = some packet := by
  have hrunning : (d.scheduler.slot i).progress = .running := by
    rw [← Slot.packet?_isSome, hpacket]
    rfl
  have hbusy := h.isBusy i
  rw [hrunning, SingleTransfer.isBusy] at hbusy
  obtain ⟨hflight, hi⟩ := Bool.and_eq_true_iff.1 hbusy.symm
  have hi := of_decide_eq_true hi
  rw [hi, ← h.active] at hrunning hpacket
  have hstatus : m.status = .running := by
    rw [← h.progress_eq ?_, hrunning]
    intro hsettled
    rw [hsettled] at hflight
    cases hflight
  exact ⟨hi, hstatus, by rw [← h.packet hstatus, hpacket]⟩

theorem Models.of_running (h : d.Models m) {i : SlotId} {t : Transfer}
    (ht : (d.scheduler.slot i).running? = some t) :
    i = m.nextSlot.other ∧ m.status = .running ∧ m.sent.getLast? = some t.packet := by
  refine h.of_packet ?_
  rw [Slot.packet?, ht]
  rfl

/-- The relation looks at the other slot only through its progress and its packet. -/
theorem Models.of_slots (h : d.Models m) {s : Scheduler} (hsound : s.Sound d.config)
    (hactive : s.slot d.active = d.scheduler.slot d.active)
    (hprogress : (s.slot d.active.other).progress = (d.scheduler.slot d.active.other).progress)
    (hpacket : (s.slot d.active.other).packet? = (d.scheduler.slot d.active.other).packet?) :
    { d with scheduler := s }.Models m where
  config := h.config
  pending := h.pending
  lastSend := h.lastSend
  active := h.active
  sound := hsound
  idle := hactive.symm ▸ h.idle
  progress := hprogress.symm ▸ h.progress
  damage := h.damage
  packet hm := hpacket.trans (h.packet hm)

theorem Models.poll (h : d.Models m) (i : SlotId) :
    { d with scheduler := (d.scheduler.poll i).2 }.Models m := by
  refine h.of_slots h.sound.poll ?_ (by simp) (by simp)
  obtain ⟨b, hb⟩ := h.idle
  rw [Scheduler.slot_poll, Slot.poll_of_idle hb, ite_self]

theorem Models.cancel (h : d.Models m) (i : SlotId) :
    { d with scheduler := (d.scheduler.cancel i).2 }.Models m := by
  refine h.of_slots h.sound.cancel ?_ (by simp) (by simp)
  obtain ⟨b, hb⟩ := h.idle
  rw [Scheduler.slot_cancel, Slot.cancel_of_idle hb, ite_self]

theorem Models.react_other (h : d.Models m) {e : Scheduler.Event} (he : e.1 = d.active.other) :
    { d with scheduler := d.scheduler.react e }.Models { m with status := m.status.react e.2 } := by
  obtain ⟨b, hb⟩ := h.idle
  have hactive : (d.scheduler.react e).slot d.active = d.scheduler.slot d.active := by
    rw [Scheduler.slot_react, Slot.react_of_idle hb, ite_self]
  have hother : (d.scheduler.react e).slot d.active.other =
      (d.scheduler.slot d.active.other).react e.2 := by
    rw [Scheduler.slot_react, if_pos he.symm]
  refine ⟨h.config, h.pending, h.lastSend, h.active, h.sound.react e, ⟨b, hactive ▸ hb⟩, ?_, ?_, ?_⟩
  · show ((d.scheduler.react e).slot d.active.other).progress = m.status.react e.2 ∨
      ((d.scheduler.react e).slot d.active.other).progress = .failed ∧
        m.status.react e.2 = .settled ∧ _
    rw [hother, Slot.progress_react]
    rcases h.progress with hp | ⟨hp, hm, hr⟩
    · exact .inl (congrArg (Slot.Progress.react · e.2) hp)
    · rw [hp, hm]
      exact .inr ⟨rfl, rfl, hr⟩
  · intro hne
    refine h.damage fun hm => hne ?_
    show m.status.react e.2 = _
    rw [hm]
    rfl
  · -- no event starts a transfer, so a transfer that runs is the one from before
    intro hrun
    have hstill : m.status.react e.2 = .running := hrun
    have hm : m.status = .running := Slot.Progress.eq_running_of_react hstill
    have hp := h.progress_eq (by rw [hm]; decide)
    show ((d.scheduler.react e).slot d.active.other).packet? = _
    rw [hother, Slot.packet?_react, hp, if_pos hstill, h.packet hm]

theorem Models.react (h : d.Models m) (e : Scheduler.Event) :
    { d with scheduler := d.scheduler.react e }.Models (m.react e) := by
  by_cases he : e.1 = d.active.other
  · rw [SingleTransfer.react, if_pos (by rw [he, h.active])]
    exact h.react_other he
  · obtain ⟨b, hb⟩ := h.idle
    have hactive : e.1 = d.active := by
      rw [SlotId.eq_other_of_ne he, SlotId.other_other]
    rw [SingleTransfer.react, if_neg (by rwa [← h.active]), Scheduler.react, hactive,
      Slot.react_of_idle hb, Scheduler.setSlot_slot]
    exact h

theorem Models.reactAll (h : d.Models m) (events : List Scheduler.Event) :
    { d with scheduler := d.scheduler.reactAll events }.Models (m.reactAll events) := by
  induction events generalizing d m with
  | nil => exact h
  | cons e rest ih => exact ih (h.react e)

theorem Models.wait (h : d.Models m) (i : SlotId) (events : List Scheduler.Event) :
    { d with scheduler := (d.scheduler.wait i fun _ => events).2 }.Models (m.reactAll events) :=
  (h.reactAll events).poll i

theorem Models.wait_fst (h : d.Models m) (i : SlotId) (events : List Scheduler.Event) :
    (d.scheduler.wait i fun _ => events).1 = !(m.reactAll events).isBusy i := by
  rw [Scheduler.wait, Scheduler.poll_fst, ← (h.reactAll events).isBusy]

/-- A wait for both slots ends as the machine's does. -/
theorem Models.waitIdle (h : d.Models m) (events : PerSlot (List Scheduler.Event)) :
    (d.waitIdle fun i _ => events.get i).1 = (m.waitIdle events).1 ∧
      (d.waitIdle fun i _ => events.get i).2.Models (m.waitIdle events).2 := by
  have hfirst := h.wait .first events.first
  have hfirstBusy := h.wait_fst .first events.first
  simp only [Device.waitIdle, Scheduler.waitIdle, SingleTransfer.waitIdle, PerSlot.get]
  generalize (d.scheduler.wait .first fun _ => events.first) = waited at *
  obtain ⟨ended, s⟩ := waited
  cases hbusy : (m.reactAll events.first).isBusy .first with
  | true =>
    obtain rfl : ended = false := by simpa [hbusy] using hfirstBusy
    exact ⟨rfl, hfirst⟩
  | false =>
    obtain rfl : ended = true := by simpa [hbusy] using hfirstBusy
    exact ⟨hfirst.wait_fst .second events.second, hfirst.wait .second events.second⟩

/-! ### Handing damage back -/

theorem takeLost_eq (d : Device) (i : SlotId) :
    ∃ lost damage, d.takeLost i = (lost, { d with inFlightDamage := damage }) := by
  rw [takeLost]
  split
  · exact ⟨_, _, rfl⟩
  · exact ⟨_, d.inFlightDamage, rfl⟩

theorem hasFailed_of_idle {i : SlotId} {b : TransferBuffer}
    (hidle : (d.scheduler.slot i).state = .idle b) :
    d.hasFailed i = decide ((d.scheduler.slot i).progress = .failed) := by
  rw [Slot.progress_of_idle hidle, hasFailed]
  cases (d.scheduler.slot i).lastOutcome with
  | none => rfl
  | some outcome => cases outcome <;> rfl

/-- An idle slot hands back what the machine has lost. -/
theorem Models.takeLost (h : d.Models m) {b : TransferBuffer}
    (hidle : (d.scheduler.slot d.active.other).state = .idle b) :
    ∃ damage, d.takeLost d.active.other = (m.lost, { d with inFlightDamage := damage }) ∧
      { d with inFlightDamage := damage }.Models m.handBack := by
  rw [Device.takeLost, hasFailed_of_idle hidle]
  by_cases hp : (d.scheduler.slot d.active.other).progress = .failed
  · refine ⟨d.inFlightDamage.set d.active.other Rect.empty, ?_, ?_⟩
    · simp only [hp, decide_true, if_true, Prod.mk.injEq, and_true]
      rcases h.progress with hm | ⟨-, hm, hr⟩
      · rw [SingleTransfer.lost, if_pos (hm ▸ hp)]
        exact h.damage (by rw [← hm, hp]; decide)
      · rw [hr, SingleTransfer.lost_of_ne_failed (by rw [hm]; decide)]
    · have hback : m.handBack.status = .settled := by
        rw [SingleTransfer.handBack]
        split
        next => rfl
        next hne =>
          rcases h.progress with hm | ⟨-, hm, -⟩
          · exact absurd (hm ▸ hp) hne
          · exact hm
      have hrest : m.handBack.config = m.config ∧ m.handBack.pending = m.pending ∧
          m.handBack.lastSend = m.lastSend ∧ m.handBack.nextSlot = m.nextSlot := by
        rw [SingleTransfer.handBack]
        split <;> exact ⟨rfl, rfl, rfl, rfl⟩
      exact {
        config := h.config.trans hrest.1.symm
        pending := h.pending.trans hrest.2.1.symm
        lastSend := h.lastSend.trans hrest.2.2.1.symm
        active := h.active.trans hrest.2.2.2.symm
        sound := h.sound
        idle := h.idle
        progress := .inr ⟨hp, hback, PerSlot.get_set_self ..⟩
        damage := fun hne => absurd hback hne
        packet := fun hm => by rw [hback] at hm; cases hm }
  · have hne : m.status ≠ .failed := by
      intro hm
      rcases h.progress with heq | ⟨heq, -, -⟩
      · exact hp (heq.trans hm)
      · exact hp heq
    rw [SingleTransfer.handBack_of_ne_failed hne, SingleTransfer.lost_of_ne_failed hne]
    refine ⟨d.inFlightDamage, ?_, h⟩
    simp only [hp, decide_false, Bool.false_eq_true, if_false]

/-! ### Sending -/

theorem Models.send_of_error (h : d.Models m) {fb : Framebuffer} {rect : Rect} {e : Error}
    (he : fb.headerFor rect d.config.bufferCapacity d.config.lineCapacity = .error e) :
    d.send fb rect d.active = (.error e, d) := by
  obtain ⟨b, hb⟩ := h.idle
  have hsound := h.sound d.active
  have hheld : (d.scheduler.slot d.active).held? = some b := by simp only [Slot.held?, hb]
  rw [← hsound.capacity b hheld, ← hsound.lineCapacity b hheld] at he
  have hpoll := Scheduler.poll_of_idle hb
  have hbuffer : (d.scheduler.slot d.active).buffer = .ok b := by simp only [Slot.buffer, hb]
  have hencode : fb.encode rect b = .error e := by simp only [Framebuffer.encode, he]
  simp only [send_eq, hpoll, hbuffer, hencode, handOver]

/-- The active slot takes every rectangle that has a header, and a worker gets its packet. -/
theorem Models.send_of_ok (h : d.Models m) {fb : Framebuffer} {rect : Rect} {header : UpdateHeader}
    (hok : fb.headerFor rect d.config.bufferCapacity d.config.lineCapacity = .ok header) :
    ∃ slot : Slot, d.send fb rect d.active =
        (.ok (), { d with scheduler := d.scheduler.setSlot d.active slot }) ∧
      slot.Sound d.config ∧ slot.packet? = some (fb.update header).packet := by
  obtain ⟨b, hb⟩ := h.idle
  have hsound := h.sound d.active
  have hheld : (d.scheduler.slot d.active).held? = some b := by simp only [Slot.held?, hb]
  have hcapacity := hsound.capacity b hheld
  have hline := hsound.lineCapacity b hheld
  rw [← hcapacity, ← hline] at hok
  obtain ⟨hn, hrect, -, hcap, hwidth⟩ := Framebuffer.headerFor_eq_ok_iff.1 hok
  have hmod := (UpdateHeader.OnColumns.of_nameable (hrect ▸ hn)).width_mod
  have hsize := fb.size_packet_update (h := header) (by omega)
  have hfits : (fb.update header).packet.size ≤ b.capacity := by
    rwa [hsize, ← Update.packetLength_eq]
  generalize hpacket : (fb.update header).packet = packet at hfits
  generalize hrow : fb.span header.x.toNat (header.y.toNat + header.height.toNat - 1)
    header.width.toNat = row
  have hrowSize : row.size ≤ (b.write 0 packet).lineCapacity := by
    rw [← hrow, Framebuffer.size_span, TransferBuffer.lineCapacity_write]
    exact hwidth
  have hencode : fb.encode rect b = .ok (packet.size, (b.write 0 packet).writeLine row) :=
    Framebuffer.encode_eq_ok_iff.2 ⟨header, hok, by rw [hpacket], by rw [hpacket, hrow]⟩
  have hfilled : ((b.write 0 packet).writeLine row).capacity = b.capacity :=
    TransferBuffer.capacity_write b (by omega)
  have hpoll := Scheduler.poll_of_idle hb
  have hbuffer : (d.scheduler.slot d.active).buffer = .ok b := by simp only [Slot.buffer, hb]
  have hput : ∀ b', (d.scheduler.slot d.active).putBuffer b' =
      { d.scheduler.slot d.active with state := .idle b' } := by
    intro b'
    simp only [Slot.putBuffer, hb]
  have hlength : packet.size ≤ ((b.write 0 packet).writeLine row).capacity := by omega
  refine ⟨{ d.scheduler.slot d.active with
    state := .running ⟨(b.write 0 packet).writeLine row, packet.size, .fresh, hlength⟩
    lastOutcome := none }, ?_, ⟨hsound.isOpen, ?_, ?_⟩, ?_⟩
  · simp only [send_eq, hpoll, hbuffer, hencode, handOver, hput, Scheduler.submit, Slot.submit,
      Scheduler.slot_setSlot_self, hlength, dite_true, hsound.isOpen, if_true,
      Scheduler.setSlot_setSlot]
  · intro b' hb'
    obtain rfl : (b.write 0 packet).writeLine row = b' := Option.some.inj hb'
    rw [hfilled, hcapacity]
  · intro b' hb'
    obtain rfl : (b.write 0 packet).writeLine row = b' := Option.some.inj hb'
    rw [TransferBuffer.lineCapacity_writeLine _ hrowSize, TransferBuffer.lineCapacity_write, hline]
  · exact congrArg some (TransferBuffer.first_write_zero hfits)

/-! ### Submits -/

theorem Models.setPending (h : d.Models m) (r : Rect) :
    { d with pending := r }.Models { m with pending := r } where
  config := h.config
  pending := rfl
  lastSend := h.lastSend
  active := h.active
  sound := h.sound
  idle := h.idle
  progress := h.progress
  damage := h.damage
  packet := h.packet

/-- With the other slot idle, a submit sends what it was given and what was lost. -/
theorem Models.submitMerged (h : d.Models m) {b : TransferBuffer}
    (hidle : (d.scheduler.slot d.active.other).state = .idle b) (fb : Framebuffer) (merged : Rect)
    (now : Duration) :
    (d.submitMerged fb merged now).1 = (m.send fb (merged ∪ m.lost) now).1 ∧
      (d.submitMerged fb merged now).2.Models (m.send fb (merged ∪ m.lost) now).2 := by
  obtain ⟨damage, htake, hback⟩ := h.takeLost hidle
  simp only [submitMerged_eq, htake, SingleTransfer.send, ← h.config]
  generalize merged ∪ m.lost = merged
  generalize hrect : merged.align fb.width fb.height = rect
  cases hheader : fb.headerFor rect d.config.bufferCapacity d.config.lineCapacity with
  | error e =>
    have hsend := hback.send_of_error hheader
    simp only at hsend
    rw [hsend]
    exact ⟨rfl, hback.setPending merged⟩
  | ok header =>
    obtain ⟨slot, hsend, hsound, hpacket⟩ := hback.send_of_ok hheader
    simp only at hsend
    rw [hsend]
    refine ⟨rfl, rfl, rfl, rfl, ?_, hback.sound.setSlot hsound, ⟨b, ?_⟩, .inl ?_, fun _ => ?_,
      fun _ => ?_⟩
    · show d.active.other = SlotId.ofIndex (m.sent ++ [(fb.update header).packet]).length
      rw [List.length_append, List.length_singleton, SlotId.ofIndex_succ, h.active]
      rfl
    · show ((d.scheduler.setSlot d.active slot).slot d.active.other).state = .idle b
      rw [Scheduler.slot_setSlot_other, hidle]
    · show ((d.scheduler.setSlot d.active slot).slot d.active.other.other).progress = .running
      rw [SlotId.other_other, Scheduler.slot_setSlot_self, ← Slot.packet?_isSome, hpacket]
      rfl
    · show (damage.set d.active rect).get d.active.other.other = rect
      rw [SlotId.other_other, PerSlot.get_set_self]
    · show ((d.scheduler.setSlot d.active slot).slot d.active.other.other).packet? =
        (m.sent ++ [(fb.update header).packet]).getLast?
      rw [SlotId.other_other, Scheduler.slot_setSlot_self, hpacket, List.getLast?_concat]

theorem Models.isThrottled (h : d.Models m) (now : Duration) :
    d.isThrottled now = m.isThrottled now := by
  rw [Device.isThrottled, SingleTransfer.isThrottled, h.lastSend, h.config]
  cases m.lastSend <;> rfl

theorem submitFrom_of_busy {n : Type → Type} [Monad n] (source : FrameSource n) (damage : Rect)
    {now : Duration} (meanwhile : Scheduler → List Scheduler.Event) {s : Scheduler}
    (hpace : d.isThrottled now = false) (hpoll : d.scheduler.poll d.active.other = (false, s)) :
    d.submitFrom source damage now meanwhile =
      { d with scheduler := s }.submitGatheredFrom source (d.pending ∪ damage) now meanwhile := by
  simp only [submitFrom, hpace, hpoll, Bool.false_eq_true, if_false]

theorem submitFrom_of_idle {n : Type → Type} [Monad n] (source : FrameSource n) (damage : Rect)
    {now : Duration} (meanwhile : Scheduler → List Scheduler.Event) {s : Scheduler} {lost : Rect}
    {inFlight : PerSlot Rect}
    (hpace : d.isThrottled now = false) (hpoll : d.scheduler.poll d.active.other = (true, s))
    (htake : { d with scheduler := s }.takeLost d.active.other =
      (lost, { d with scheduler := s, inFlightDamage := inFlight })) :
    d.submitFrom source damage now meanwhile =
      { d with scheduler := s, inFlightDamage := inFlight }.submitGatheredFrom source
        ((d.pending ∪ damage) ∪ lost) now meanwhile := by
  simp only [submitFrom, hpace, hpoll, htake, Bool.false_eq_true, if_false, if_true]

theorem submitFrame_of_busy (fb : Framebuffer) (damage : Rect) {now : Duration}
    (meanwhile : Scheduler → List Scheduler.Event) {s : Scheduler}
    (hpace : d.isThrottled now = false) (hpoll : d.scheduler.poll d.active.other = (false, s)) :
    d.submitFrame fb damage now meanwhile =
      { d with scheduler := s }.submitGathered fb (d.pending ∪ damage) now meanwhile :=
  congrArg Id.run (submitFrom_of_busy fb.source damage meanwhile hpace hpoll)

theorem submitFrame_of_idle (fb : Framebuffer) (damage : Rect) {now : Duration}
    (meanwhile : Scheduler → List Scheduler.Event) {s : Scheduler} {lost : Rect}
    {inFlight : PerSlot Rect}
    (hpace : d.isThrottled now = false) (hpoll : d.scheduler.poll d.active.other = (true, s))
    (htake : { d with scheduler := s }.takeLost d.active.other =
      (lost, { d with scheduler := s, inFlightDamage := inFlight })) :
    d.submitFrame fb damage now meanwhile =
      { d with scheduler := s, inFlightDamage := inFlight }.submitGathered fb
        ((d.pending ∪ damage) ∪ lost) now meanwhile :=
  congrArg Id.run (submitFrom_of_idle fb.source damage meanwhile hpace hpoll htake)

theorem Models.submitGathered (h : d.Models m) (fb : Framebuffer) (merged : Rect) (now : Duration)
    (events : List Scheduler.Event) (hrect : (merged.align fb.width fb.height).isEmpty = false) :
    let answer := if (m.reactAll events).status.isInFlight then
        (.ok .dropped, { m.reactAll events with pending := merged })
      else (m.reactAll events).send fb (merged ∪ (m.reactAll events).lost) now
    (d.submitGathered fb merged now fun _ => events).1 = answer.1 ∧
      (d.submitGathered fb merged now fun _ => events).2.Models answer.2 := by
  have hwait := h.wait d.active.other events
  have hfst : (d.scheduler.wait d.active.other fun _ => events).1 =
      !(m.reactAll events).status.isInFlight := by
    rw [Scheduler.wait, Scheduler.poll_fst, ← (h.reactAll events).isInFlight]
  have hidle := @Scheduler.idle_of_wait d.scheduler d.active.other fun _ => events
  simp only [Device.submitGathered_eq, hrect, Bool.false_eq_true, if_false]
  generalize (d.scheduler.wait d.active.other fun _ => events) = waited at *
  obtain ⟨ended, s⟩ := waited
  cases hflight : (m.reactAll events).status.isInFlight with
  | true =>
    obtain rfl : ended = false := by simpa [hflight] using hfst
    exact ⟨rfl, hwait.setPending merged⟩
  | false =>
    obtain rfl : ended = true := by simpa [hflight] using hfst
    obtain ⟨b, hb⟩ := hidle rfl
    exact hwait.submitMerged hb fb merged now

theorem Models.merged_eq (h : d.Models m) (damage : Rect) :
    m.merged damage = (d.pending ∪ damage) ∪ m.lost := by
  rw [SingleTransfer.merged, h.pending]

theorem Models.poll_eq (h : d.Models m) :
    d.scheduler.poll d.active.other =
      (!m.status.isInFlight, (d.scheduler.poll d.active.other).2) := by
  refine Prod.ext ?_ rfl
  rw [Scheduler.poll_fst, h.isInFlight]

/-- A submit that finds the transfer in flight. Whatever is lost then is lost during the wait. -/
theorem Models.submitFrame_of_inFlight (h : d.Models m) (fb : Framebuffer) (damage : Rect)
    {now : Duration} (events : List Scheduler.Event) (hpace : d.isThrottled now = false)
    (hflight : m.status.isInFlight = true) :
    (d.submitFrame fb damage now fun _ => events).1 = (m.submit fb damage now events).1 ∧
      (d.submitFrame fb damage now fun _ => events).2.Models
        (m.submit fb damage now events).2 := by
  have hne := SingleTransfer.ne_failed_of_inFlight hflight
  have hpolled := h.poll d.active.other
  have hpoll := h.poll_eq
  rw [hflight] at hpoll
  rw [submitFrame_of_busy fb damage _ hpace hpoll, SingleTransfer.submit, ← h.isThrottled, hpace,
    h.merged_eq, SingleTransfer.handBack_of_ne_failed hne, SingleTransfer.lost_of_ne_failed hne,
    Rect.align_union_empty]
  simp only [Bool.false_eq_true, if_false]
  cases hrect : ((d.pending ∪ damage).align fb.width fb.height).isEmpty with
  | true =>
    simp only [Device.submitGathered_eq, hrect, if_true]
    exact ⟨trivial, hpolled.setPending _⟩
  | false =>
    have hsubmit := hpolled.submitGathered fb (d.pending ∪ damage) now events hrect
    have hmerged : (m.reactAll events).merged damage =
        (d.pending ∪ damage) ∪ (m.reactAll events).lost := (h.reactAll events).merged_eq damage
    simp only [Bool.false_eq_true, if_false, SingleTransfer.conclude, hmerged]
    cases hafter : (m.reactAll events).status.isInFlight with
    | true =>
      have hlost := SingleTransfer.lost_of_ne_failed (SingleTransfer.ne_failed_of_inFlight hafter)
      -- nothing is lost while the transfer is in flight, so merging again adds nothing
      have hfresh := Rect.isEmpty_eq_false_of_align hrect
      simp only [hafter, if_true] at hsubmit ⊢
      rw [hlost, Rect.union_empty_of_nonempty hfresh]
      exact hsubmit
    | false =>
      simp only [hafter, Bool.false_eq_true, if_false] at hsubmit ⊢
      exact hsubmit

/-- A submit that finds the other slot idle takes back what was lost before its wait, which is
over at once. -/
theorem Models.submitFrame_of_not_inFlight (h : d.Models m) (fb : Framebuffer) (damage : Rect)
    {now : Duration} (events : List Scheduler.Event) (hpace : d.isThrottled now = false)
    (hflight : m.status.isInFlight = false) :
    (d.submitFrame fb damage now fun _ => events).1 = (m.submit fb damage now events).1 ∧
      (d.submitFrame fb damage now fun _ => events).2.Models
        (m.submit fb damage now events).2 := by
  have hpoll := h.poll_eq
  rw [hflight] at hpoll
  obtain ⟨b, hb⟩ := Slot.idle_of_poll (h.isInFlight.trans hflight)
  have hidle : ((d.scheduler.poll d.active.other).2.slot d.active.other).state = .idle b := by
    rw [Scheduler.slot_poll, if_pos rfl, hb]
  obtain ⟨inFlight, htake, hback⟩ := (h.poll d.active.other).takeLost hidle
  rw [submitFrame_of_idle fb damage _ hpace hpoll htake, SingleTransfer.submit, ← h.isThrottled,
    hpace, h.merged_eq, SingleTransfer.reactAll_of_not_inFlight hflight]
  simp only [Bool.false_eq_true, if_false]
  cases hrect : ((d.pending ∪ damage ∪ m.lost).align fb.width fb.height).isEmpty with
  | true =>
    simp only [Device.submitGathered_eq, hrect, if_true]
    exact ⟨trivial, hback.setPending _⟩
  | false =>
    -- what was handed back is not handed back a second time after the wait
    have hsubmit := hback.submitGathered fb _ now events hrect
    have hnot := m.isInFlight_handBack.trans hflight
    have hlost := SingleTransfer.lost_of_ne_failed m.status_handBack_ne_failed
    have hall := Rect.isEmpty_eq_false_of_align hrect
    simp only [SingleTransfer.reactAll_of_not_inFlight hnot, hnot, hlost,
      Rect.union_empty_of_nonempty hall, SingleTransfer.send_handBack, Bool.false_eq_true,
      if_false] at hsubmit
    simp only [Bool.false_eq_true, if_false, SingleTransfer.conclude, hflight, h.merged_eq]
    exact hsubmit

/-- A submit gives the machine's answer. -/
theorem Models.submitFrame (h : d.Models m) (fb : Framebuffer) (damage : Rect) (now : Duration)
    (events : List Scheduler.Event) :
    (d.submitFrame fb damage now fun _ => events).1 = (m.submit fb damage now events).1 ∧
      (d.submitFrame fb damage now fun _ => events).2.Models
        (m.submit fb damage now events).2 := by
  cases hpace : d.isThrottled now with
  | true =>
    rw [submitFrame_of_throttled d fb damage _ hpace, SingleTransfer.submit, ← h.isThrottled,
      hpace, ← h.pending]
    exact ⟨rfl, h.setPending _⟩
  | false =>
    cases hflight : m.status.isInFlight with
    | true => exact h.submitFrame_of_inFlight fb damage events hpace hflight
    | false => exact h.submitFrame_of_not_inFlight fb damage events hpace hflight

/-! ### The other slot after a submit -/

theorem slot_handOver_other (d : Device) (i : SlotId)
    (encoded : Except Error (Nat × TransferBuffer)) :
    (d.handOver i encoded).2.scheduler.slot i.other = d.scheduler.slot i.other := by
  unfold handOver
  split
  · rfl
  simp only
  split
  · exact Scheduler.slot_setSlot_other ..
  next hsubmit =>
    rw [Scheduler.submit] at hsubmit
    split at hsubmit
    · cases hsubmit
    · cases hsubmit
      exact (Scheduler.slot_setSlot_other ..).trans (Scheduler.slot_setSlot_other ..)

theorem slot_send_other (d : Device) (fb : Framebuffer) (rect : Rect) (i : SlotId) :
    (d.send fb rect i).2.scheduler.slot i.other = d.scheduler.slot i.other := by
  have hpolled : (d.scheduler.poll i).2.slot i.other = d.scheduler.slot i.other := by
    rw [Scheduler.slot_poll, if_neg (SlotId.other_ne i)]
  rw [send_eq]
  generalize d.scheduler.poll i = polled at *
  obtain ⟨_ | _, s⟩ := polled
  · exact hpolled
  simp only
  split
  · exact hpolled
  · exact (slot_handOver_other ..).trans hpolled

theorem slot_submitMerged_other (d : Device) (fb : Framebuffer) (merged : Rect) (now : Duration) :
    (d.submitMerged fb merged now).2.scheduler.slot d.active.other =
      d.scheduler.slot d.active.other := by
  obtain ⟨lost, damage, htake⟩ := d.takeLost_eq d.active.other
  have hsend := slot_send_other { d with inFlightDamage := damage } fb
    ((merged ∪ lost).align fb.width fb.height) d.active
  rw [submitMerged_eq]
  simp only [htake, book]
  split
  next heq => rw [heq] at hsend; exact hsend
  next heq => rw [heq] at hsend; exact hsend

/-- Slot and machine keep pace with each other. -/
theorem progress_reactAll {s : Scheduler} (h : (s.slot m.nextSlot.other).progress = m.status)
    (events : List Scheduler.Event) :
    ((s.reactAll events).slot m.nextSlot.other).progress = (m.reactAll events).status := by
  induction events generalizing s m with
  | nil => exact h
  | cons e rest ih =>
    have hslot : (m.react e).nextSlot = m.nextSlot := m.nextSlot_reactAll [e]
    have hstep : ((s.react e).slot (m.react e).nextSlot.other).progress = (m.react e).status := by
      rw [hslot, Scheduler.slot_react, SingleTransfer.react]
      by_cases he : e.1 = m.nextSlot.other
      · rw [if_pos he.symm, if_pos he, Slot.progress_react, h]
      · rw [if_neg (Ne.symm he), if_neg he, h]
    have hrest := ih hstep
    rw [hslot] at hrest
    exact hrest

/-- A transfer that runs when a submit comes to its wait is, afterwards, where the wait left it. -/
theorem Models.progress_submitFrame (h : d.Models m) (fb : Framebuffer) (damage : Rect)
    (now : Duration) (events : List Scheduler.Event) (hwaits : m.waits fb damage now = true)
    (hrunning : m.status = .running) :
    ((d.submitFrame fb damage now fun _ => events).2.scheduler.slot d.active.other).progress =
      (m.reactAll events).status := by
  have hflight : m.status.isInFlight = true := by rw [hrunning]; rfl
  simp only [SingleTransfer.waits, Bool.and_eq_true, Bool.not_eq_true'] at hwaits
  obtain ⟨hpace, hrect⟩ := hwaits
  rw [SingleTransfer.merged, SingleTransfer.lost_of_ne_failed
    (SingleTransfer.ne_failed_of_inFlight hflight), Rect.align_union_empty, ← h.pending] at hrect
  have hpoll := h.poll_eq
  rw [hflight] at hpoll
  rw [submitFrame_of_busy fb damage _ ((h.isThrottled now).trans hpace) hpoll,
    Device.submitGathered_eq, hrect]
  have hstart :
      ((d.scheduler.poll d.active.other).2.slot m.nextSlot.other).progress = m.status := by
    rw [Scheduler.progress_poll, ← h.active]
    exact h.progress_eq (by rw [hrunning]; decide)
  have hafter := progress_reactAll hstart events
  rw [← h.active, ← Scheduler.progress_poll _ d.active.other] at hafter
  simp only [Bool.false_eq_true, if_false, Scheduler.wait]
  generalize ((d.scheduler.poll d.active.other).2.reactAll events).poll d.active.other =
    waited at *
  obtain ⟨_ | _, s⟩ := waited
  · exact hafter
  · exact (congrArg Slot.progress (slot_submitMerged_other ..)).trans hafter

end Device

end UsbDisplay
