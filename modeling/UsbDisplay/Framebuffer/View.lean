import UsbDisplay.Framebuffer.Encode
import UsbDisplay.Pieces

/-!
Pictures in memory as they are handed in. The sizes are machine words, and so are the places that
are computed from them: a sum or a product that is too great for a word wraps around. The test for
room is no exception, so a view can be made whose rows do not lie in its bytes. Every slice is
looked up before it is read, and encoding breaks off at the first that is not there.
-/

namespace UsbDisplay

/-- The bytes from the start of the first row to the end of the last one, as a word. -/
def FrameView.extent (width height : UInt32) (pitch : UInt64) : UInt64 :=
  if height = 0 then 0 else pitch * (height.toUInt64 - 1) + width.toUInt64 * 4

/-- A picture in memory that has passed the test for room. -/
structure FrameView where
  width : UInt32
  height : UInt32
  pitch : UInt64
  data : ByteArray
  row_le_pitch : width.toUInt64 * 4 ≤ pitch
  extent_le_size : (FrameView.extent width height pitch).toNat ≤ data.size

namespace FrameView

def ofBytes (width height : UInt32) (pitch : UInt64) (data : ByteArray) : Except Error FrameView :=
  if hrow : width.toUInt64 * 4 ≤ pitch then
    if hextent : (extent width height pitch).toNat ≤ data.size then
      .ok ⟨width, height, pitch, data, hrow, hextent⟩
    else .error (.invalidFramebuffer .shortBuffer)
  else .error (.invalidFramebuffer .shortPitch)

/-- A view of pixels that follow each other without a gap. -/
def ofPixels (width height : UInt32) (pixels : Array Pixel) : Except Error FrameView :=
  ofBytes width height (width.toUInt64 * 4) (Pixel.bytes pixels)

def fullRect (v : FrameView) : Rect := .full v.width.toNat v.height.toNat

/-- Where the pixel in column `x` of row `y` starts, as a word. -/
def offset (v : FrameView) (x y : Nat) : UInt64 := .ofNat y * v.pitch + .ofNat x * 4

/-- `n` pixels of row `y` from column `x` on, if their slice is there. -/
def span? (v : FrameView) (x y n : Nat) : Option (Array Pixel) := do
  let start := v.offset x y
  let bytes ← slice? v.data start.toNat (start + .ofNat n * 4).toNat
  return Array.ofFn fun i : Fin n => Pixel.read bytes (4 * i)

/-- The packed lines of the rows of an update, from the top. -/
def payload? (v : FrameView) (h : UpdateHeader) : Option ByteArray :=
  (List.range h.height.toNat).foldlM
    (fun out i => return Scanline.push out (← v.span? h.x.toNat (h.y.toNat + i) h.width.toNat))
    (ByteArray.emptyWithCapacity (h.lineLength * h.height.toNat))

/-- Writes the packet for a rectangle at the start of a buffer and gives its length. It breaks off
with `none` at a slice that is not there. -/
def encode? (v : FrameView) (r : Rect) (out : TransferBuffer) :
    Option (Except Error (Nat × TransferBuffer)) :=
  match UpdateHeader.within v.width.toNat v.height.toNat r out.capacity out.lineCapacity with
  | .error e => some (.error e)
  | .ok h => do
    let packet := (Update.mk h (← v.payload? h)).packet
    let lastRow ← v.span? h.x.toNat (h.y.toNat + h.height.toNat - 1) h.width.toNat
    return .ok (packet.size, (out.write 0 packet).writeLine lastRow)

end FrameView

/-- Where a frame comes from: its size, and an encoder that may break off. -/
structure FrameSource (m : Type → Type) where
  width : Nat
  height : Nat
  encode : Rect → TransferBuffer → m (Except Error (Nat × TransferBuffer))

/-- A picture that lies in memory as a whole never breaks off. -/
def Framebuffer.source (fb : Framebuffer) : FrameSource Id where
  width := fb.width
  height := fb.height
  encode r out := pure (fb.encode r out)

def FrameView.source (v : FrameView) : FrameSource Option where
  width := v.width.toNat
  height := v.height.toNat
  encode := v.encode?

end UsbDisplay
