import UsbDisplay.Picture
import UsbDisplay.Pieces
import UsbDisplay.Png.Header

/-!
Pictures as a decoder hands them over: samples of eight bits, row behind row. Of a run of samples no
more rows are taken than the picture is high, and of a row no more pixels than it is wide; opacity
is dropped.
-/

namespace UsbDisplay.Png

structure Samples where
  width : Nat
  height : Nat
  channels : Channels
  /-- The bytes of a row. -/
  rowSize : Nat
  bytes : ByteArray

namespace Samples

/-- The colour of the pixel whose samples begin at a place of a row. -/
def color (s : Samples) (row : ByteArray) (i : Nat) : Rgb :=
  match s.channels with
  | .gray | .grayAlpha =>
    let v := row[i]?.getD 0
    ⟨v, v, v⟩
  | .rgb | .rgba => ⟨row[i]?.getD 0, row[i + 1]?.getD 0, row[i + 2]?.getD 0⟩

/-- Appends the pixels of a row of which all samples are there. -/
def pushRow (s : Samples) (out : Array Pixel) (row : ByteArray) : Array Pixel :=
  (min s.width (row.size / s.channels.count)).fold
    (fun x _ out => out.push (s.color row (x * s.channels.count)).pixel) out

def picture (s : Samples) : Picture where
  width := s.width
  height := s.height
  pixels := ((Pieces.pieces s.rowSize s.bytes).take s.height).foldl s.pushRow
    (Array.emptyWithCapacity (s.width * s.height))

end Samples

/-- A way to write and to read picture files. -/
structure Codec where
  /-- The file for red, green, blue and opacity bytes, row by row. -/
  encode : (width height : UInt32) → (rgba : ByteArray) → Option ByteArray
  decode : (file : ByteArray) → Option Samples

end UsbDisplay.Png
