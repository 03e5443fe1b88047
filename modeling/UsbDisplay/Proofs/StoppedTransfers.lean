import UsbDisplay.Proofs.PictureShown

/-!
Transfers that have been asked to stop. An adapter that heeds this paints nothing of them, whatever
else happens on its line. A shutdown asks all transfers to stop before it waits for any, and starts
none (`Station.shutdown`), so all it can leave behind are transfers that were running and that will
not be painted.
-/

namespace UsbDisplay

/-! ### Slots and schedulers -/

/-- A slot goes on without a new transfer: what runs afterwards has been running, with the same
packet, and is asked to stop if it was so before. -/
def Slot.Wanes (s s' : Slot) : Prop :=
  ∀ t', s'.running? = some t' → ∃ t, s.running? = some t ∧ t'.packet = t.packet ∧
    (t.token.isCancelled = true → t'.token.isCancelled = true)

namespace Slot

variable {s s' s'' : Slot}

theorem Wanes.refl (s : Slot) : s.Wanes s := fun t h => ⟨t, h, rfl, id⟩

theorem Wanes.trans (h : s.Wanes s') (h' : s'.Wanes s'') : s.Wanes s'' := by
  intro t'' ht''
  obtain ⟨t', ht', hpacket', hasked'⟩ := h' t'' ht''
  obtain ⟨t, ht, hpacket, hasked⟩ := h t' ht'
  exact ⟨t, ht, hpacket'.trans hpacket, hasked' ∘ hasked⟩

/-- A slot without a running transfer. -/
theorem Wanes.of_none (h : s'.running? = none) : s.Wanes s' := by
  intro t' ht'
  rw [h] at ht'
  cases ht'

theorem wanes_react (s : Slot) (e : Event) : s.Wanes (s.react e) := by
  rcases s with ⟨_, _ | t | _ | _ | _, _, _, _⟩
  case running =>
    cases e with
    | deadline =>
      rintro _ ⟨⟩
      exact ⟨t, rfl, rfl, fun _ => t.token.isCancelled_cancel .deadline⟩
    | returned result => exact .of_none rfl
    | died => exact .of_none rfl
  all_goals exact .refl _

theorem wanes_poll (s : Slot) : s.Wanes s.poll.2 := by
  rcases s with ⟨_, _ | _ | _ | _ | _, _, _, _⟩
  case running => exact .refl _
  all_goals exact .of_none rfl

theorem wanes_cancel (s : Slot) : s.Wanes s.cancel.2 := by
  rcases s with ⟨_, _ | t | _ | _ | _, _, _, _⟩
  case running =>
    rintro _ ⟨⟩
    exact ⟨t, rfl, rfl, fun _ => t.token.isCancelled_cancel .requested⟩
  all_goals exact .of_none rfl

theorem wanes_release (s : Slot) : s.Wanes s.release.2 := by
  rcases s with ⟨_, _ | t | _ | _ | _, _, _, _⟩
  case running => exact fun t' h => ⟨t', h, rfl, id⟩
  all_goals exact .of_none rfl

/-- The transfer that runs, if any, has been asked to stop. -/
def AskedToStop (s : Slot) : Prop := ∀ t, s.running? = some t → t.token.isCancelled = true

theorem AskedToStop.of_wanes (h : s.AskedToStop) (hwanes : s.Wanes s') : s'.AskedToStop := by
  intro t' ht'
  obtain ⟨t, ht, -, hasked⟩ := hwanes t' ht'
  exact hasked (h t ht)

theorem askedToStop_cancel (s : Slot) : s.cancel.2.AskedToStop := by
  rcases s with ⟨_, _ | t | _ | _ | _, _, _, _⟩
  case running =>
    rintro _ ⟨⟩
    exact t.token.isCancelled_cancel .requested
  all_goals exact fun t' h => by cases h

end Slot

namespace Scheduler

variable {s s' s'' : Scheduler} {i : SlotId}

def Wanes (s s' : Scheduler) : Prop := ∀ i, (s.slot i).Wanes (s'.slot i)

theorem Wanes.refl (s : Scheduler) : s.Wanes s := fun _ => .refl _

theorem Wanes.trans (h : s.Wanes s') (h' : s'.Wanes s'') : s.Wanes s'' :=
  fun i => (h i).trans (h' i)

theorem wanes_setSlot {slot : Slot} (h : (s.slot i).Wanes slot) : s.Wanes (s.setSlot i slot) := by
  intro j
  rw [slot_setSlot]
  split
  next hj => exact hj ▸ h
  next => exact .refl _

theorem wanes_react (s : Scheduler) (e : Event) : s.Wanes (s.react e) :=
  wanes_setSlot (Slot.wanes_react _ _)

theorem wanes_reactAll (s : Scheduler) (events : List Event) : s.Wanes (s.reactAll events) := by
  induction events generalizing s with
  | nil => exact .refl s
  | cons e rest ih => exact (s.wanes_react e).trans (ih _)

theorem wanes_poll (s : Scheduler) (i : SlotId) : s.Wanes (s.poll i).2 :=
  wanes_setSlot (Slot.wanes_poll _)

theorem wanes_cancel (s : Scheduler) (i : SlotId) : s.Wanes (s.cancel i).2 :=
  wanes_setSlot (Slot.wanes_cancel _)

theorem wanes_release (s : Scheduler) (i : SlotId) : s.Wanes (s.release i).2 :=
  wanes_setSlot (Slot.wanes_release _)

theorem wanes_wait (s : Scheduler) (i : SlotId) (meanwhile : Scheduler → List Event) :
    s.Wanes (s.wait i meanwhile).2 :=
  (s.wanes_reactAll _).trans (wanes_poll _ i)

theorem wanes_shutdownSlot (s : Scheduler) (i : SlotId) (meanwhile : Scheduler → List Event) :
    s.Wanes (s.shutdownSlot i meanwhile).2 := by
  have hpoll := s.wanes_poll i
  rw [shutdownSlot]
  generalize s.poll i = polled at *
  obtain ⟨_ | _, s'⟩ := polled
  · exact ((hpoll.trans (s'.wanes_cancel i)).trans (wanes_wait _ i meanwhile)).trans
      (wanes_release _ i)
  · exact hpoll.trans (s'.wanes_release i)

/-- All running transfers have been asked to stop. -/
def AskedToStop (s : Scheduler) : Prop := ∀ i, (s.slot i).AskedToStop

theorem AskedToStop.of_wanes (h : s.AskedToStop) (hwanes : s.Wanes s') : s'.AskedToStop :=
  fun i => (h i).of_wanes (hwanes i)

theorem wanes_cancelAll (s : Scheduler) : s.Wanes s.cancelAll :=
  (s.wanes_cancel .first).trans (wanes_cancel _ .second)

theorem askedToStop_cancelAll (s : Scheduler) : s.cancelAll.AskedToStop := by
  intro i
  cases i with
  | first => exact (s.slot .first).askedToStop_cancel
  | second => exact (s.slot .second).askedToStop_cancel

/-- A shutdown asks all transfers to stop before it waits for any. -/
theorem wanes_shutdown (s : Scheduler) (meanwhile : SlotId → Scheduler → List Event) :
    s.cancelAll.Wanes (s.shutdown meanwhile).2 :=
  (wanes_shutdownSlot _ .first _).trans (wanes_shutdownSlot _ .second _)

end Scheduler

/-! ### Adapters -/

/-- After this move the adapter heeds requests to stop if it did so before. -/
def LineMove.heeds : LineMove → Bool
  | .faults f => !f.ignoreCancel
  | _ => true

namespace Adapter

variable {a : Adapter}

theorem bulkOut_of_stopped (ha : a.heedsCancel = true) (packet : ByteArray) :
    (a.bulkOut packet true).2 = a := by
  rw [bulkOut]
  split
  · rfl
  · rw [ha]
    rfl

theorem resume_of_stopped (ha : a.heedsCancel = true) (call : BulkCall)
    (hcall : call.isCancelled = true) : (a.resume call).2 = a := by
  rw [resume, hcall, ha]
  rfl

/-- Nothing of a transfer that was asked to stop is painted: only the faults of the adapter change.
-/
theorem move_of_stopped {s : Scheduler} (hs : s.AskedToStop) (ha : a.heedsCancel = true)
    {m : LineMove} (hm : m.heeds = true) :
    ∃ faults, (a.move s m).2 = { a with faults := faults } ∧
      (a.move s m).2.heedsCancel = true := by
  cases m with
  | call i =>
    rw [move]
    split
    · exact ⟨a.faults, rfl, ha⟩
    next t ht =>
      refine ⟨a.faults, ?_⟩
      rw [returning, hs i t ht, bulkOut_of_stopped ha]
      exact ⟨rfl, ha⟩
  | resume i =>
    rw [move]
    split
    · exact ⟨a.faults, rfl, ha⟩
    next t ht =>
      refine ⟨a.faults, ?_⟩
      rw [returning, resume_of_stopped ha _ (hs i t ht)]
      exact ⟨rfl, ha⟩
  | deadline i => exact ⟨a.faults, rfl, ha⟩
  | faults f => exact ⟨f, rfl, hm⟩

theorem play_of_stopped {s : Scheduler} (hs : s.AskedToStop) (ha : a.heedsCancel = true)
    {moves : List LineMove} (hmoves : ∀ m ∈ moves, m.heeds = true) :
    ∃ faults, (a.play s moves).2 = { a with faults := faults } ∧
      (a.play s moves).2.heedsCancel = true := by
  induction moves generalizing a s with
  | nil => exact ⟨a.faults, rfl, ha⟩
  | cons m rest ih =>
    obtain ⟨hm, hrest⟩ := List.forall_mem_cons.1 hmoves
    obtain ⟨faults, hmove, hheeds⟩ := move_of_stopped hs ha hm
    rw [play]
    generalize a.move s m = r at *
    obtain ⟨_ | e, a'⟩ := r
    · obtain ⟨faults', hplay, hheeds'⟩ := ih hs hheeds hrest
      exact ⟨faults', hplay.trans (by rw [hmove]), hheeds'⟩
    · obtain ⟨faults', hplay, hheeds'⟩ := ih (hs.of_wanes (s.wanes_react e)) hheeds hrest
      exact ⟨faults', hplay.trans (by rw [hmove]), hheeds'⟩

/-- The events that fall into the wait of a shutdown of one slot, and the adapter after it. There is
no wait if the buffer is found. -/
def playShutdown (a : Adapter) (s : Scheduler) (i : SlotId) (moves : List LineMove) :
    List Scheduler.Event × Adapter :=
  if (s.poll i).1 then ([], a) else a.play ((s.poll i).2.cancel i).2 moves

theorem playShutdown_of_stopped {s : Scheduler} (hs : s.AskedToStop) (ha : a.heedsCancel = true)
    (i : SlotId) {moves : List LineMove} (hmoves : ∀ m ∈ moves, m.heeds = true) :
    ∃ faults, (a.playShutdown s i moves).2 = { a with faults := faults } ∧
      (a.playShutdown s i moves).2.heedsCancel = true := by
  rw [playShutdown]
  split
  · exact ⟨a.faults, rfl, ha⟩
  · exact play_of_stopped (hs.of_wanes ((s.wanes_poll i).trans (Scheduler.wanes_cancel _ i))) ha
      hmoves

end Adapter

/-! ### Shutting a display down -/

namespace Station

/-- Shuts a display down. What happens on its line falls into the waits for the two slots. -/
def shutdown (s : Station) (meanwhile : PerSlot (List LineMove)) : Station :=
  let asked := s.device.scheduler.cancelAll
  let first := s.adapter.playShutdown asked .first meanwhile.first
  let half := (asked.shutdownSlot .first fun _ => first.1).2
  let second := first.2.playShutdown half .second meanwhile.second
  let after := s.device.scheduler.shutdown fun i _ => PerSlot.get ⟨first.1, second.1⟩ i
  { device := { s.device with scheduler := after.2 }, adapter := second.2 }

variable (s : Station) (meanwhile : PerSlot (List LineMove))

/-- A shutdown concerns nothing of a display but its slots. -/
theorem exists_shutdown_eq : ∃ events, (s.shutdown meanwhile).device =
    { s.device with scheduler := (s.device.scheduler.shutdown events).2 } := ⟨_, rfl⟩

/-- All that runs after a shutdown was running before and has been asked to stop. -/
theorem running_shutdown {i : SlotId} {t' : Transfer}
    (h : ((s.shutdown meanwhile).device.scheduler.slot i).running? = some t') :
    t'.token.isCancelled = true ∧
      ∃ t, (s.device.scheduler.slot i).running? = some t ∧ t'.packet = t.packet := by
  obtain ⟨events, hdevice⟩ := s.exists_shutdown_eq meanwhile
  rw [hdevice] at h
  have hwanes := s.device.scheduler.wanes_shutdown events
  have hasked := s.device.scheduler.askedToStop_cancelAll.of_wanes hwanes
  obtain ⟨t, ht, hpacket, -⟩ := s.device.scheduler.wanes_cancelAll.trans hwanes i t' h
  exact ⟨hasked i t' h, t, ht, hpacket⟩

/-- If the adapter heeds requests to stop, it paints nothing while a display is shut down. -/
theorem adapter_shutdown (ha : s.adapter.heedsCancel = true)
    (hmoves : ∀ i, ∀ m ∈ meanwhile.get i, m.heeds = true) :
    ∃ faults, (s.shutdown meanwhile).adapter = { s.adapter with faults := faults } ∧
      (s.shutdown meanwhile).adapter.heedsCancel = true := by
  have hasked := s.device.scheduler.askedToStop_cancelAll
  have hmoves' : ∀ m ∈ meanwhile.first, m.heeds = true := hmoves .first
  obtain ⟨faults, hfirst, hheeds⟩ := Adapter.playShutdown_of_stopped hasked ha .first hmoves'
  simp only [shutdown]
  generalize s.adapter.playShutdown s.device.scheduler.cancelAll .first meanwhile.first = first
    at *
  obtain ⟨faults', hsecond, hheeds'⟩ := Adapter.playShutdown_of_stopped
    (hasked.of_wanes (Scheduler.wanes_shutdownSlot _ .first fun _ => first.1)) hheeds .second
    (hmoves .second)
  exact ⟨faults', hsecond.trans (by rw [hfirst]), hheeds'⟩

end Station

end UsbDisplay
