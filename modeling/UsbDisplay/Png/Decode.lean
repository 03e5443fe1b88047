import UsbDisplay.Deflate.Zlib
import UsbDisplay.Png.Filter
import UsbDisplay.Png.ImageData
import UsbDisplay.Png.Interlace
import UsbDisplay.Png.Samples

/-!
From a picture file to samples of eight bits: fewer bits are spread over the whole range, and of
sixteen the high byte is taken. A palette entry that is not there is black, and opaque. Of an
animated picture the frame that comes first is shown, without the picture around it.
-/

namespace UsbDisplay.Png

/-- The eight bytes that begin every picture file. -/
def signature : List UInt8 := [0x89, 0x50, 0x4E, 0x47, 0x0D, 0x0A, 0x1A, 0x0A]

/-! ### Samples -/

/-- Sample `i` of a row, as it is. -/
def sample (depth : Nat) (row : ByteArray) (i : Nat) : Nat :=
  if depth = 16 then (row[2 * i]?.getD 0).toNat * 256 + (row[2 * i + 1]?.getD 0).toNat
  else
    let bit := i * depth
    (row[bit / 8]?.getD 0).toNat >>> (8 - depth - bit % 8) % Nat.pow 2 depth

/-- A sample brought to eight bits. -/
def byte (depth value : Nat) : UInt8 :=
  if depth < 8 then UInt8.ofNat (value * 255 / (Nat.pow 2 depth - 1))
  else if depth = 16 then UInt8.ofNat (value / 256)
  else UInt8.ofNat value

def paletteColor (palette : ByteArray) (i : Nat) : Rgb :=
  match palette[3 * i]?, palette[3 * i + 1]?, palette[3 * i + 2]? with
  | some r, some g, some b => ⟨r, g, b⟩
  | _, _, _ => ⟨0, 0, 0⟩

/-- Sample `k` of the colour that is transparent. -/
def transparentSample (depth : Nat) (transparency : ByteArray) (k : Nat) : Nat :=
  let low := (transparency[2 * k + 1]?.getD 0).toNat
  if depth = 16 then (transparency[2 * k]?.getD 0).toNat * 256 + low else low

/-- The opacity of a colour with these samples. -/
def colorOpacity (depth : Nat) (transparency : ByteArray) (values : List Nat) : UInt8 :=
  if values.zipIdx.all fun (v, k) => v == transparentSample depth transparency k then 0 else 255

/-- Appends an opacity, if transparency was said of the picture. -/
def pushOpacity (m : Metadata) (out : ByteArray) (opacity : ByteArray → UInt8) : ByteArray :=
  match m.transparency? with
  | none => out
  | some transparency => out.push (opacity transparency)

/-- Appends pixel `x` of a row. -/
def pushPixel (m : Metadata) (row : ByteArray) (x : Nat) (out : ByteArray) : ByteArray :=
  let depth := m.header.depth
  let value := fun k => sample depth row (x * m.header.layout.samples + k)
  let color := fun (out : ByteArray) =>
    ((out.push (byte depth (value 0))).push (byte depth (value 1))).push (byte depth (value 2))
  match m.header.layout with
  | .gray =>
    pushOpacity m (out.push (byte depth (value 0))) (colorOpacity depth · [value 0])
  | .rgb => pushOpacity m (color out) (colorOpacity depth · [value 0, value 1, value 2])
  | .indexed =>
    let c := paletteColor (m.palette?.getD .empty) (value 0)
    pushOpacity m (((out.push c.red).push c.green).push c.blue) fun opacities =>
      opacities[value 0]?.getD 255
  | .grayAlpha => (out.push (byte depth (value 0))).push (byte depth (value 1))
  | .rgba => (color out).push (byte depth (value 3))

/-! ### Passes -/

/-- The passes in which the pixels of a picture come. -/
def passes (h : Header) : List Pass :=
  if h.isInterlaced then Pass.interlaced else [Pass.whole]

/-- A pass and its rows. -/
structure PassRows where
  pass : Pass
  rows : Array ByteArray

/-- The rows of each pass, read one pass after the other from an offset on; a pass without pixels
takes no bytes. -/
def passRows? (m : Metadata) (bytes : ByteArray) : List Pass → (start : Nat) →
    Option (List PassRows)
  | [], _ => some []
  | p :: rest, start =>
    let columns := p.columns m.width
    let count := if columns = 0 then 0 else p.rows m.height
    let size := m.header.rowBytes columns
    match rows? m.header.pixelStride size bytes count start #[] with
    | none => none
    | some rows =>
      (passRows? m bytes rest (start + count * (size + 1))).map (⟨p, rows⟩ :: ·)

/-- The row of a pass that has a place, and the number of the pixel in it. -/
def place? (m : Metadata) (passes : List PassRows) (x y : Nat) : Option (ByteArray × Nat) := do
  guard (x < m.width)
  let r ← passes.find? fun r => r.pass.Has x y
  let row ← r.rows[(y - r.pass.top) / r.pass.rowStep]?
  return (row, (x - r.pass.left) / r.pass.columnStep)

/-- Appends the pixel at a place; where there is none, its samples are zero. -/
def pushPlace (m : Metadata) (passes : List PassRows) (x y : Nat) (out : ByteArray) : ByteArray :=
  match place? m passes x y with
  | none => m.channels.count.fold (fun _ _ out => out.push 0) out
  | some (row, x) => pushPixel m row x out

/-- How many places apart the rows of pixels are. Passes are laid on a canvas that is as wide as the
whole picture; what is smaller than the picture is then taken from the canvas as if it were the
whole. -/
def rowDistance (m : Metadata) : Nat :=
  if m.header.isInterlaced then m.header.width.toNat else m.width

def assemble (m : Metadata) (passes : List PassRows) : Samples where
  width := m.width
  height := m.height
  channels := m.channels
  rowSize := m.rowSamples
  bytes := (m.width * m.height).fold
    (fun i _ out => pushPlace m passes (i % rowDistance m) (i / rowDistance m) out)
    (ByteArray.emptyWithCapacity (m.rowSamples * m.height))

/-! ### Files -/

/-- Reads a picture file; `none` if it is not one. -/
def decode? (file : ByteArray) : Option Samples := do
  guard ((file.extract 0 signature.length).data.toList = signature)
  let (m, chunks) ← Metadata.read? none (Chunk.split file signature.length)
  guard m.isShowable
  let wrapped ← ImageData.wrapped? m chunks
  let bytes ← Zlib.decode? wrapped
  let rows ← passRows? m bytes (passes m.header) 0
  return assemble m rows

end UsbDisplay.Png
