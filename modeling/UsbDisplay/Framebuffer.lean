import UsbDisplay.Error
import UsbDisplay.Scanline

/-!
Framebuffers: rows of pixels in a run of bytes, each pixel four bytes with its low byte first, the
rows a fixed number of bytes apart. A framebuffer can only be made if the rows do not overlap and
the last one ends inside the bytes, so that every pixel of it can be read. Sizes and places are
numbers here, however great; where they are machine words, a picture is a `FrameView`.
-/

namespace UsbDisplay

/-- The four bytes of a pixel, low byte first. -/
@[inline] def Pixel.push (out : ByteArray) (p : Pixel) : ByteArray :=
  (((out.push p.toUInt8).push (p / 256).toUInt8).push (p / 65536).toUInt8).push
    (p / 16777216).toUInt8

@[simp] theorem Pixel.size_push (out : ByteArray) (p : Pixel) :
    (Pixel.push out p).size = out.size + 4 := by
  simp [Pixel.push]

/-- The pixel whose four bytes start at `i`; zero if they are not all there. -/
@[inline] def Pixel.read (bytes : ByteArray) (i : Nat) : Pixel :=
  if h : i + 4 ≤ bytes.size then
    bytes[i].toUInt32 + bytes[i + 1].toUInt32 * 256 + bytes[i + 2].toUInt32 * 65536 +
      bytes[i + 3].toUInt32 * 16777216
  else 0

def Pixel.bytes (pixels : Array Pixel) : ByteArray :=
  pixels.foldl Pixel.push (ByteArray.emptyWithCapacity (4 * pixels.size))

/-- The bytes from the start of the first row to the end of the last one. -/
def Framebuffer.extent (width height pitch : Nat) : Nat :=
  if height = 0 then 0 else pitch * (height - 1) + 4 * width

/-- A picture that lies in memory as a whole. Row `y` starts at byte `y * pitch`. -/
structure Framebuffer where
  width : Nat
  height : Nat
  pitch : Nat
  data : ByteArray
  row_le_pitch : 4 * width ≤ pitch
  extent_le_size : Framebuffer.extent width height pitch ≤ data.size

namespace Framebuffer

/-- A framebuffer on rows that follow each other without a gap, if all of them are there. -/
def dense (width height : Nat) (data : ByteArray) : Except Error Framebuffer :=
  let pitch := 4 * width
  if hextent : extent width height pitch ≤ data.size then
    .ok ⟨width, height, pitch, data, Nat.le_refl pitch, hextent⟩
  else .error (.invalidFramebuffer .shortBuffer)

@[inline] def offset (fb : Framebuffer) (x y : Nat) : Nat := y * fb.pitch + 4 * x

@[inline] def pixel (fb : Framebuffer) (x y : Nat) : Pixel := Pixel.read fb.data (fb.offset x y)

/-- `n` pixels of row `y` from column `x` on. -/
def span (fb : Framebuffer) (x y n : Nat) : Array Pixel :=
  n.fold (fun j _ line => line.push (fb.pixel (x + j) y)) (Array.emptyWithCapacity n)

@[simp] theorem size_span (fb : Framebuffer) (x y n : Nat) : (fb.span x y n).size = n := by
  induction n with
  | zero => simp [span]
  | succ n ih =>
    have key : ∀ (start : Array Pixel), start.size = 0 →
        (n.fold (fun j _ line => line.push (fb.pixel (x + j) y)) start).size = n := by
      intro start hs
      clear ih
      induction n with
      | zero => simpa using hs
      | succ n ih => simp [ih]
    simp [span, key]

end Framebuffer

end UsbDisplay
