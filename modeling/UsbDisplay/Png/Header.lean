import UsbDisplay.Png.Chunk

/-!
The header of a picture file: the size of the picture, how a pixel is made up of samples, and
whether the rows come interlaced. Only some depths go with each kind of pixel.
-/

namespace UsbDisplay

namespace Png

/-- What the samples of a pixel are once colours are looked up and opacity is made explicit. -/
inductive Channels where
  | gray
  | grayAlpha
  | rgb
  | rgba
  deriving DecidableEq, Repr

def Channels.count : Channels → Nat
  | gray => 1
  | grayAlpha => 2
  | rgb => 3
  | rgba => 4

/-- What the samples of a pixel are. -/
inductive SampleLayout where
  | gray
  | rgb
  | indexed
  | grayAlpha
  | rgba
  deriving DecidableEq, Repr

namespace SampleLayout

def ofCode? : UInt8 → Option SampleLayout
  | 0 => some gray
  | 2 => some rgb
  | 3 => some indexed
  | 4 => some grayAlpha
  | 6 => some rgba
  | _ => none

def code : SampleLayout → UInt8
  | gray => 0
  | rgb => 2
  | indexed => 3
  | grayAlpha => 4
  | rgba => 6

@[simp] theorem ofCode?_code (l : SampleLayout) : ofCode? l.code = some l := by cases l <;> rfl

def samples : SampleLayout → Nat
  | gray => 1
  | rgb => 3
  | indexed => 1
  | grayAlpha => 2
  | rgba => 4

/-- What becomes of the samples of a pixel, in a picture of which transparency was said or not. -/
def expanded (l : SampleLayout) (hasTransparency : Bool) : Channels :=
  match l with
  | gray => if hasTransparency then .grayAlpha else .gray
  | rgb | indexed => if hasTransparency then .rgba else .rgb
  | grayAlpha => .grayAlpha
  | rgba => .rgba

def depths : SampleLayout → List Nat
  | gray => [1, 2, 4, 8, 16]
  | indexed => [1, 2, 4, 8]
  | rgb | grayAlpha | rgba => [8, 16]

end SampleLayout

structure Header where
  width : UInt32
  height : UInt32
  /-- The bits of a sample. -/
  depth : Nat
  layout : SampleLayout
  isInterlaced : Bool
  deriving DecidableEq, Repr

namespace Header

def pixelBits (h : Header) : Nat := h.depth * h.layout.samples

def rowBytes (h : Header) (n : Nat) : Nat := (n * h.pixelBits + 7) / 8

/-- How far back the byte to the left is: a whole pixel, and one byte at least. -/
def pixelStride (h : Header) : Nat := max 1 (h.pixelBits / 8)

/-- The samples of the whole picture once colours are looked up. -/
def expandedSize (h : Header) : Nat :=
  h.width.toNat * (h.layout.expanded false).count * h.height.toNat

def length : Nat := 13

def bytes (h : Header) : List UInt8 :=
  Word.bytes32 h.width ++ Word.bytes32 h.height ++
    [UInt8.ofNat h.depth, h.layout.code, 0, 0, if h.isInterlaced then 1 else 0]

@[simp] theorem length_bytes (h : Header) : h.bytes.length = length := rfl

/-- Reads the contents of a header chunk; bytes past the thirteenth do not matter. -/
def parse? : List UInt8 → Option Header
  | w0 :: w1 :: w2 :: w3 :: h0 :: h1 :: h2 :: h3 :: depth :: code :: method :: filter ::
      interlace :: _ =>
    match SampleLayout.ofCode? code with
    | none => none
    | some layout =>
      let width := Word.ofBytes32 w0 w1 w2 w3
      let height := Word.ofBytes32 h0 h1 h2 h3
      if width ≠ 0 ∧ height ≠ 0 ∧ layout.depths.contains depth.toNat ∧ method = 0 ∧ filter = 0 ∧
          interlace ≤ 1 then
        some ⟨width, height, depth.toNat, layout, interlace == 1⟩
      else none
  | _ => none

end Header

end Png

end UsbDisplay
