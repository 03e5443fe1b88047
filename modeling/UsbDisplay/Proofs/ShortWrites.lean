import UsbDisplay.Proofs.DeviceRuns

/-!
What becomes of the damage of a transfer when its bulk call returns. If the call has failed, the
next frame shows the damage again. If it has returned a number of bytes, the transfer counts as
delivered, whatever the number (`Device.sent_after_return`), and no later answer tells one number
from another (`Device.answers_of_count`). So a call that stops short of the end of its packet loses
what it has not sent.
-/

namespace UsbDisplay

open Device (Action Answer)

/-- A transfer counts as delivered when its call has returned a number of bytes, whatever the
number. -/
theorem Slot.isSuccess_returned_iff {s : Slot} {packet : ByteArray}
    (hpacket : s.packet? = some packet) (result : Except TransportError Nat) :
    (s.react (.returned result)).outcome?.any Outcome.isSuccess = true ↔ ∃ n, result = .ok n := by
  have hrunning : s.progress = .running := packet?_isSome.1 (by rw [hpacket]; rfl)
  rw [← progress_eq_settled_iff, progress_react, hrunning]
  cases result <;> simp [Progress.react]

namespace SingleTransfer

/-- Without a transfer in flight, a frame shows all damage that is merged. -/
theorem rect_of_sent {m : SingleTransfer} (hflight : m.status.isInFlight = false)
    {fb : Framebuffer} {damage rect : Rect} {now : Duration} {events : List Scheduler.Event}
    (h : (m.submit fb damage now events).1 = .ok (.sent rect)) :
    rect = (m.merged damage).align fb.width fb.height := by
  revert h
  refine submit_cases (P := fun r => r.1 = .ok (.sent rect) → rect = _) m fb damage now events
    ?throttled ?nothing ?dropped ?refused ?sent
  case throttled => exact nofun
  case nothing => exact nofun
  case dropped => exact fun _ _ _ _ => nofun
  case refused => exact fun _ _ _ _ _ _ => nofun
  case sent =>
    rintro - waited rect' header rfl - rfl - h
    cases h
    rw [reactAll_of_not_inFlight hflight]

/-- The machine does not look at the number of bytes. -/
theorem answers_of_count {σ : Type} (m : SingleTransfer) (before after : List (Action σ))
    (i : SlotId) (n n' : Nat) :
    (m.run (before ++ .event (i, .returned (.ok n)) :: after)).1 =
      (m.run (before ++ .event (i, .returned (.ok n')) :: after)).1 := by
  induction before generalizing m with
  | nil =>
    have hreact : m.react (i, .returned (.ok n)) = m.react (i, .returned (.ok n')) := by
      rcases m with ⟨_, _, _, _, _ | _, _⟩ <;> rfl
    show Answer.none :: ((m.react _).run after).1 = Answer.none :: ((m.react _).run after).1
    rw [hreact]
  | cons a rest ih => exact congrArg (List.cons (m.act a).1) (ih _)

end SingleTransfer

/-- The settings of a display for framebuffers of three columns and one row. -/
def Config.threeColumns : Config := { maxWidth := 48, maxHeight := 1 }

namespace Device

variable {σ : Type} [ControlTransport σ] {id socket : Nat} {config : Config} {line line' : σ}
  {d : Device}

/-- When the bulk call of a transfer has returned, the transfer counts as delivered if the call has
returned a number of bytes, be it smaller than the packet; its damage goes into the next frame that
is sent if the call has failed, and only then. -/
theorem sent_after_return (h : attach id socket config line = (.ok d, line'))
    (actions : List (Action σ)) {i : SlotId} {packet : ByteArray}
    (hpacket : ((d.run actions).2.scheduler.slot i).packet? = some packet)
    (result : Except TransportError Nat) :
    let reached := (d.run actions).2
    let returned := (reached.act (.event (i, .returned result) : Action σ)).2
    ((returned.scheduler.slot i).outcome?.any Outcome.isSuccess = true ↔ ∃ n, result = .ok n) ∧
      ∀ (fb : Framebuffer) (damage rect : Rect) (now : Duration)
        (meanwhile : List Scheduler.Event),
        (returned.submitFrame fb damage now fun _ => meanwhile).1 = .ok (.sent rect) →
          rect = ((reached.pending ∪ damage) ∪
            match result with
            | .ok _ => Rect.empty
            | .error _ => reached.inFlightDamage.get i).align fb.width fb.height := by
  intro reached returned
  have hreached : reached.Models _ := ((Models.of_attach h).run actions).2
  generalize (SingleTransfer.run { config := config } actions).2 = m at hreached
  obtain ⟨hslot, hrunning, -⟩ := hreached.of_packet hpacket
  have hother : reached.active.other = i := by rw [hreached.active, hslot]
  have hrect : reached.inFlightDamage.get i = m.rect := by
    rw [← hother]
    exact hreached.damage (by rw [hrunning]; decide)
  have hmachine : returned.Models { m with status := m.status.react (.returned result) } :=
    hreached.react_other hother.symm
  rw [hrunning] at hmachine
  refine ⟨?_, fun fb damage rect now meanwhile hsent => ?_⟩
  · have hslot :
        returned.scheduler.slot i = (reached.scheduler.slot i).react (.returned result) := by
      show (reached.scheduler.react (i, .returned result)).slot i = _
      rw [Scheduler.slot_react, if_pos rfl]
    rw [hslot]
    exact Slot.isSuccess_returned_iff hpacket result
  · rw [(hmachine.submitFrame fb damage now meanwhile).1] at hsent
    cases result with
    | ok n =>
      rw [SingleTransfer.rect_of_sent rfl hsent, hreached.pending]
      rfl
    | error cause =>
      rw [SingleTransfer.rect_of_sent rfl hsent, hreached.pending, hrect]
      rfl

/-- A framebuffer of three columns whose first column is damaged. -/
def leftColumn : Action Adapter := .submit (.black 48 1) ⟨0, 0, 16, 1⟩ .zero []

/-- The same framebuffer when its last column is damaged, a second later. -/
def rightColumn : Action Adapter := .submit (.black 48 1) ⟨32, 0, 48, 1⟩ (.ofSeconds 1) []

def leftPacket : ByteArray := ((Framebuffer.black 48 1).update ⟨0, 0, 16, 1⟩).packet

theorem size_leftPacket : leftPacket.size = 48 := Framebuffer.size_packet_update _ rfl

theorem running_leftColumn : ∃ d line, attach 0 0 .threeColumns ({} : Adapter) = (.ok d, line) ∧
    ((d.run [leftColumn]).2.scheduler.slot .first).packet? = some leftPacket := by
  obtain ⟨d, line, hattach⟩ :
      ∃ d line, attach 0 0 .threeColumns ({} : Adapter) = (.ok d, line) := ⟨_, _, rfl⟩
  have hreached := ((Models.of_attach hattach).run [leftColumn]).2
  have hpacket := hreached.packet rfl
  rw [hreached.active] at hpacket
  exact ⟨d, line, hattach, hpacket⟩

theorem sent_after_return_leftColumn :
    ∃ d line, attach 0 0 .threeColumns ({} : Adapter) = (.ok d, line) ∧
      let reached := (d.run [leftColumn]).2
      (reached.scheduler.slot .first).packet? = some leftPacket ∧
      let stalled := (reached.act (.event (.first, .returned (.error .stall)) : Action Adapter)).2
      (stalled.submitFrame (.black 48 1) ⟨32, 0, 48, 1⟩ (.ofSeconds 1) fun _ => []).1 =
          .ok (.sent ⟨0, 0, 48, 1⟩) ∧
        (⟨0, 0, 48, 1⟩ : Rect) = ((reached.pending ∪ ⟨32, 0, 48, 1⟩) ∪
          reached.inFlightDamage.get .first).align 48 1 := by
  obtain ⟨d, line, hattach, hpacket⟩ := running_leftColumn
  have hstalled := (((Models.of_attach hattach).run [leftColumn]).2.act
    (.event (.first, .returned (.error .stall)) : Action Adapter)).2
  have hsent := (hstalled.submitFrame (.black 48 1) ⟨32, 0, 48, 1⟩ (.ofSeconds 1) []).1.trans
    (show _ = .ok (.sent ⟨0, 0, 48, 1⟩) from rfl)
  have hrect := (sent_after_return hattach [leftColumn] hpacket (.error .stall)).2 (.black 48 1)
    ⟨32, 0, 48, 1⟩ ⟨0, 0, 48, 1⟩ (.ofSeconds 1) [] hsent
  exact ⟨d, line, hattach, hpacket, hsent, hrect⟩

/-- A call that has sent 10 bytes of 48 counts as delivered, and the next frame leaves out the
column that it carried. -/
theorem short_write_lost : ∃ d line, attach 0 0 .threeColumns ({} : Adapter) = (.ok d, line) ∧
    ((d.run [leftColumn]).2.scheduler.slot .first).packet? = some leftPacket ∧
    10 < leftPacket.size ∧
    let short : List (Action Adapter) := [leftColumn, .event (.first, .returned (.ok 10))]
    ((d.run short).2.scheduler.slot .first).outcome?.any Outcome.isSuccess = true ∧
      (d.run (short ++ [rightColumn])).1 =
        [.frame (.ok (.sent ⟨0, 0, 16, 1⟩)), .none, .frame (.ok (.sent ⟨32, 0, 48, 1⟩))] := by
  obtain ⟨d, line, hattach, hpacket⟩ := running_leftColumn
  refine ⟨d, line, hattach, hpacket, by rw [size_leftPacket]; decide, ?_, ?_⟩
  · exact (Slot.isSuccess_returned_iff hpacket (.ok 10)).2 ⟨10, rfl⟩
  · exact ((Models.of_attach hattach).run _).1.trans rfl

/-- The number of bytes that a call returns makes no difference to any later answer. -/
theorem answers_of_count (h : attach id socket config line = (.ok d, line'))
    (before after : List (Action σ)) (i : SlotId) (n n' : Nat) :
    (d.run (before ++ .event (i, .returned (.ok n)) :: after)).1 =
      (d.run (before ++ .event (i, .returned (.ok n')) :: after)).1 := by
  rw [((Models.of_attach h).run _).1, ((Models.of_attach h).run _).1]
  exact SingleTransfer.answers_of_count _ before after i n n'

end Device

end UsbDisplay
