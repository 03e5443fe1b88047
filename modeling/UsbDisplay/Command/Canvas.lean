import UsbDisplay.Framebuffer
import UsbDisplay.Picture
import UsbDisplay.Pieces

/-!
What the command draws. A canvas is kept row by row. Every frame damages a band of rows, which moves
down from frame to frame and starts again at the top; a gradient is drawn anew in that band, each
time a little further to the left, and a still picture stays as it is.
-/

namespace UsbDisplay.Command

/-- A framebuffer in the making: the bytes of each row. -/
structure Canvas where
  width : Nat
  height : Nat
  rows : Array ByteArray

/-- Rows from `top` on, without `bottom`. -/
structure Band where
  top : Nat
  bottom : Nat
  deriving DecidableEq, Repr

namespace Band

def rowsPerBand : Nat := 64

/-- The band of a frame; it ends where the canvas ends. -/
def ofFrame (height frame : Nat) : Band :=
  let top := frame * rowsPerBand / 2 % max height 1
  ⟨top, min (top + rowsPerBand) height⟩

/-- A band over the whole width. -/
def rect (b : Band) (width : Nat) : Rect :=
  ⟨0, Rect.coordinateOfSize b.top, Rect.coordinateOfSize width, Rect.coordinateOfSize b.bottom⟩

end Band

namespace Canvas

def gradientColor (phase x y : Nat) : Rgb :=
  ⟨UInt8.ofNat (x + phase), UInt8.ofNat y, UInt8.ofNat ((x + y) / 4)⟩

def gradientRow (width phase y : Nat) : ByteArray :=
  width.fold (fun x _ out => Pixel.push out (gradientColor phase x y).pixel)
    (ByteArray.emptyWithCapacity (4 * width))

/-- How far the gradient has moved in a frame. -/
def phaseOfFrame (frame : Nat) : Nat := 4 * frame

/-- The gradient before it has moved. -/
def gradient (width height : Nat) : Canvas :=
  ⟨width, height, Array.ofFn fun y : Fin height => gradientRow width 0 y⟩

def ofPicture (p : Picture) : Canvas :=
  ⟨p.width, p.height, Array.ofFn fun y : Fin p.height =>
    Pixel.bytes (p.pixels.extract (y * p.width) ((y + 1) * p.width))⟩

def redraw (c : Canvas) (band : Band) (phase : Nat) : Canvas :=
  { c with
    rows := (List.range' band.top (band.bottom - band.top)).foldl
      (fun rows y => rows.setIfInBounds y (gradientRow c.width phase y)) c.rows }

def framebuffer (c : Canvas) : Except Error Framebuffer :=
  Framebuffer.dense c.width c.height (Pieces.join c.rows.toList)

end Canvas

/-- A canvas and whether it moves. -/
structure Scene where
  canvas : Canvas
  isMoving : Bool

namespace Scene

def draw (s : Scene) (frame : Nat) : Scene :=
  if s.isMoving then
    { s with
      canvas := s.canvas.redraw (Band.ofFrame s.canvas.height frame) (Canvas.phaseOfFrame frame) }
  else s

def damage (s : Scene) (frame : Nat) : Rect :=
  (Band.ofFrame s.canvas.height frame).rect s.canvas.width

end Scene

end UsbDisplay.Command
