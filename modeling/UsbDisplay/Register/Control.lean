import UsbDisplay.Error

/-!
The control channel of a device: short exchanges that the device answers at once. What stands behind
the channel is left open; it is any state that can take an outgoing packet and fill an incoming one.
-/

namespace UsbDisplay

/-- The head of a control exchange. -/
structure ControlRequest where
  request : UInt8
  value : UInt16
  index : UInt16
  timeout : Duration
  deriving DecidableEq, Repr

namespace ControlRequest

/-- A feature report goes to the device. -/
def setReport (timeout : Duration) : ControlRequest := ⟨0x09, 0x0300, 0, timeout⟩

/-- A feature report comes from the device. -/
def getReport (timeout : Duration) : ControlRequest := ⟨0x01, 0x0300, 0, timeout⟩

end ControlRequest

/-- Anything that can answer control exchanges, with the state it has after each. -/
class ControlTransport (σ : Type) where
  /-- Sends bytes and tells how many were taken. -/
  send : ControlRequest → List UInt8 → σ → Except TransportError Nat × σ
  /-- Fills a buffer and tells how many bytes came, with the buffer as it is then. -/
  receive : ControlRequest → List UInt8 → σ → Except TransportError Nat × List UInt8 × σ

end UsbDisplay
