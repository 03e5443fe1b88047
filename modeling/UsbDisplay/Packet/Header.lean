import UsbDisplay.Rect.Align
import UsbDisplay.Word

/-!
The head of an update packet: eight bytes that name the rectangle to be replaced. After the marker
`FF 00` come the left column, the top row (two bytes, high byte first), the number of columns and
the number of rows (again two bytes). A column is 16 pixels wide and has one byte, so a rectangle
can be named only if its left bound and its width are multiples of 16 below 4096.
-/

namespace UsbDisplay

/-- What can be wrong with an update packet or with the rectangle it is to name. -/
inductive PacketFault where
  | emptyOrNegative
  | offColumn
  | beyondColumns
  | beyondRows
  | truncated
  | badMarker
  | badLength
  | badTrailer
  deriving DecidableEq, Repr

def PacketFault.message : PacketFault → String
  | emptyOrNegative => "empty or negative update rect"
  | offColumn => "x and width must be multiples of 16"
  | beyondColumns => "x or width exceeds header range"
  | beyondRows => "y or height exceeds header range"
  | truncated => "truncated header"
  | badMarker => "bad header marker"
  | badLength => "length does not match header geometry"
  | badTrailer => "bad trailer"

/-- The geometry of an update, in pixels. -/
structure UpdateHeader where
  x : UInt16
  y : UInt16
  width : UInt16
  height : UInt16
  deriving DecidableEq, Repr, Inhabited

namespace UpdateHeader

def length : Nat := 8

/-- The header that names a rectangle. Of several faults the first in this order is reported. -/
def ofRect (r : Rect) : Except PacketFault UpdateHeader :=
  if r.isEmpty || decide (r.x1 < 0) || decide (r.y1 < 0) then .error .emptyOrNegative
  else if r.x1 % 16 ≠ 0 ∨ r.width % 16 ≠ 0 then .error .offColumn
  else if 255 < r.x1 / 16 ∨ 255 < r.width / 16 then .error .beyondColumns
  else if 65535 < r.y1 ∨ 65535 < r.height then .error .beyondRows
  else .ok
    { x := UInt16.ofNat r.x1.toNat
      y := UInt16.ofNat r.y1.toNat
      width := UInt16.ofNat r.width
      height := UInt16.ofNat r.height }

/-- The bytes of a header. Of the left bound and the width only the whole columns are written,
modulo 256. -/
def bytes (h : UpdateHeader) : List UInt8 :=
  [0xFF, 0x00, (h.x / 16).toUInt8, Word.high h.y, Word.low h.y, (h.width / 16).toUInt8,
    Word.high h.height, Word.low h.height]

@[simp] theorem length_bytes (h : UpdateHeader) : h.bytes.length = length := rfl

/-- Reads the header at the start of a packet. -/
def parse (packet : ByteArray) : Except PacketFault UpdateHeader :=
  if h : packet.size < length then .error .truncated
  else
    have : 8 ≤ packet.size := Nat.le_of_not_lt h
    if packet[0] ≠ 0xFF ∨ packet[1] ≠ 0x00 then .error .badMarker
    else .ok
      { x := packet[2].toUInt16 * 16
        y := Word.ofBytes packet[3] packet[4]
        width := packet[5].toUInt16 * 16
        height := Word.ofBytes packet[6] packet[7] }

def rect (h : UpdateHeader) : Rect :=
  ⟨h.x.toNat, h.y.toNat, h.x.toNat + h.width.toNat, h.y.toNat + h.height.toNat⟩

def lineLength (h : UpdateHeader) : Nat := h.width.toNat * 2

end UpdateHeader

end UsbDisplay
