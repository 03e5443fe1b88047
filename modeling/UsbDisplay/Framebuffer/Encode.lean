import UsbDisplay.Framebuffer
import UsbDisplay.Packet
import UsbDisplay.Transfer.Buffer

/-!
From a framebuffer to an update packet. The rectangle is first clipped to the rows of the
framebuffer; its columns must already lie inside. The packet is built line by line and put at the
start of a transfer buffer, whose line holds the last row afterwards. If the rectangle cannot be
sent the buffer stays as it was.
-/

namespace UsbDisplay

/-- A rectangle without the rows below a framebuffer of this height. -/
def Rect.clipRows (r : Rect) (height : Nat) : Rect :=
  { r with y2 := min r.y2 (coordinateOfSize height) }

/-- The header for a rectangle of a framebuffer of this size, if a buffer of that capacity can take
its packet. -/
def UpdateHeader.within (width height : Nat) (r : Rect) (capacity lineCapacity : Nat) :
    Except Error UpdateHeader :=
  let r := r.clipRows height
  if r.isEmpty || decide (Rect.coordinateOfSize width < r.x2) then
    .error (.invalidFramebuffer .outside)
  else
    match ofRect r with
    | .error fault => .error (.malformedPacket fault)
    | .ok h =>
      let needed := packetLength h.width.toNat h.height.toNat
      if capacity < needed ∨ lineCapacity < h.width.toNat then
        .error (.rectTooLarge r needed capacity)
      else .ok h

namespace Framebuffer

/-- The packed lines of the rows of an update, from the top. -/
def payload (fb : Framebuffer) (h : UpdateHeader) : ByteArray :=
  h.height.toNat.fold
    (fun i _ out => Scanline.push out (fb.span h.x.toNat (h.y.toNat + i) h.width.toNat))
    (ByteArray.emptyWithCapacity (h.lineLength * h.height.toNat))

/-- The update that brings the part of the framebuffer that a header names to the adapter. -/
def update (fb : Framebuffer) (h : UpdateHeader) : Update :=
  ⟨h, fb.payload h⟩

def clipRows (fb : Framebuffer) (r : Rect) : Rect := r.clipRows fb.height

def headerFor (fb : Framebuffer) (r : Rect) (capacity lineCapacity : Nat) :
    Except Error UpdateHeader :=
  UpdateHeader.within fb.width fb.height r capacity lineCapacity

/-- Writes the packet for a rectangle at the start of a buffer and gives its length. -/
def encode (fb : Framebuffer) (r : Rect) (out : TransferBuffer) :
    Except Error (Nat × TransferBuffer) :=
  match fb.headerFor r out.capacity out.lineCapacity with
  | .error e => .error e
  | .ok h =>
    let packet := (fb.update h).packet
    let lastRow := fb.span h.x.toNat (h.y.toNat + h.height.toNat - 1) h.width.toNat
    .ok (packet.size, (out.write 0 packet).writeLine lastRow)

end Framebuffer

end UsbDisplay
