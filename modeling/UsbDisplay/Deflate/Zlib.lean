import UsbDisplay.Checksum
import UsbDisplay.Deflate.Inflate
import UsbDisplay.Deflate.Stored

/-!
Deflated bytes in their wrapping: two bytes in front that name the method, and a checksum behind.
The checksum has to be there, but nothing is done about a wrong one; what follows it is ignored.
-/

namespace UsbDisplay.Zlib

/-- Whether two bytes name the method, without a preset dictionary. -/
def isHeader (method flags : UInt8) : Bool :=
  method % 16 == 8 && decide (method / 16 ≤ 7) && flags / 32 % 2 == 0 &&
    (Word.ofBytes method flags).toNat % 31 == 0

def decode? (bytes : ByteArray) : Option ByteArray :=
  match bytes[0]?, bytes[1]? with
  | some method, some flags =>
    if isHeader method flags then
      match Inflate.inflate? ⟨bytes, 16⟩ with
      | none => none
      | some (out, s) => (s.bytes? 4).map fun _ => out
    else none
  | _, _ => none

/-- Wraps a run without compressing it. -/
def encode (bytes : ByteArray) : ByteArray :=
  [0x78, 0x01].toByteArray ++ Stored.deflate bytes ++
    (Word.bytes32 (Checksum.adler32 bytes)).toByteArray

end UsbDisplay.Zlib
