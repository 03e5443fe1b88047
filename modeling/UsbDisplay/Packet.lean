import UsbDisplay.Packet.Header

/-!
Update packets: a header, the packed lines of the rectangle that it names, and a trailer of eight
fixed bytes. The header alone fixes the length, so a packet can be cut from a longer run of bytes in
one way only.
-/

namespace UsbDisplay

/-- The number of bytes of a packet for a rectangle of this size. -/
def packetLength (width height : Nat) : Nat :=
  8 + width * 2 * height + 8

def packetTrailer : List UInt8 :=
  [0xFF, 0xC0, 0x00, 0x00, 0x00, 0x00, 0x00, 0x00]

@[simp] theorem length_packetTrailer : packetTrailer.length = 8 := rfl

/-- An update: where it goes and the packed lines that go there. -/
structure Update where
  header : UpdateHeader
  payload : ByteArray

namespace Update

def packet (u : Update) : ByteArray :=
  u.header.bytes.toByteArray ++ u.payload ++ packetTrailer.toByteArray

def decode (packet : ByteArray) : Except PacketFault Update :=
  match UpdateHeader.parse packet with
  | .error fault => .error fault
  | .ok header =>
    let expected := packetLength header.width.toNat header.height.toNat
    if packet.size ≠ expected then .error .badLength
    else if (packet.extract (expected - 8) expected).data.toList ≠ packetTrailer then
      .error .badTrailer
    else .ok ⟨header, packet.extract 8 (expected - 8)⟩

/-- The number of packed lines in the payload; an update without columns has none. -/
def lineCount (u : Update) : Nat :=
  u.payload.size / max u.header.lineLength 1

/-- Packed line `i` of the payload. -/
def line (u : Update) (i : Nat) : ByteArray :=
  u.payload.extract (i * u.header.lineLength) ((i + 1) * u.header.lineLength)

/-- The packed lines of the payload, from the top. -/
def lines (u : Update) : List ByteArray :=
  (List.range u.lineCount).map u.line

@[simp] theorem length_lines (u : Update) : u.lines.length = u.lineCount := by
  simp [lines]

end Update

end UsbDisplay
