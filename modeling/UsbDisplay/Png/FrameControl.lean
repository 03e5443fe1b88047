import UsbDisplay.Png.Header

/-!
Frames of an animated picture. What is said of a frame comes before its data: a number, by which all
that belongs to frames is kept in order, and the rectangle of the picture that the frame fills. Of
the rectangle only its size matters, for no more than one frame is shown.
-/

namespace UsbDisplay.Png

structure FrameControl where
  /-- The place of this piece among all that belong to frames. -/
  number : UInt32
  width : UInt32
  height : UInt32
  deriving DecidableEq, Repr

namespace FrameControl

/-- The greatest code of what is done with a frame when the next one comes. -/
def maxDisposal : UInt8 := 2

/-- The greatest code of how a frame is laid over what is there. -/
def maxBlending : UInt8 := 1

/-- Whether `size` places from `start` on are some, and lie among `total`. -/
def fits (start size total : UInt32) : Bool :=
  size != 0 && decide (start.toNat + size.toNat ≤ total.toNat)

/-- Reads what is said of a frame; it has to have the number that is due. Bytes past those that are
looked at do not matter. -/
def parse? (h : Header) (due : UInt32) (bytes : ByteArray) : Option FrameControl := do
  let number ← Word.read32? bytes 0
  let width ← Word.read32? bytes 4
  let height ← Word.read32? bytes 8
  let left ← Word.read32? bytes 12
  let top ← Word.read32? bytes 16
  let disposal ← bytes[24]?
  let blending ← bytes[25]?
  guard (number = due ∧ disposal ≤ maxDisposal ∧ blending ≤ maxBlending)
  guard (fits left width h.width && fits top height h.height)
  return ⟨number, width, height⟩

end FrameControl

end UsbDisplay.Png
