import UsbDisplay.Png.Decode

/-!
From opaque or translucent pixels to a picture file: four samples of eight bits for each pixel, no
interlacing, no filter and no compression. The image data is cut into chunks of moderate size, so
that a picture of any size can be written.
-/

namespace UsbDisplay.Png

/-- The header of a picture with four samples of eight bits for each pixel. -/
def rgbaHeader (width height : UInt32) : Header := ⟨width, height, 8, .rgba, false⟩

/-- The most bytes of image data that are put into one chunk. -/
def maxImageData : Nat := 65536

/-- Rows of `size` bytes each, with the number of the empty filter before every row. -/
def unfilteredRows (size count : Nat) (bytes : ByteArray) : ByteArray :=
  count.fold (fun y _ out => out.push 0 ++ bytes.extract (y * size) ((y + 1) * size))
    (ByteArray.emptyWithCapacity (count * (size + 1)))

def rgbaChunks (width height : UInt32) (rgba : ByteArray) : List Chunk :=
  let wrapped := Zlib.encode (unfilteredRows (4 * width.toNat) height.toNat rgba)
  ⟨Chunk.header, (rgbaHeader width height).bytes.toByteArray⟩ ::
    ((Pieces.pieces maxImageData wrapped).map fun p => ⟨Chunk.imageData, p⟩) ++
    [⟨Chunk.imageEnd, .empty⟩]

/-- The picture file for red, green, blue and opacity bytes, row by row. A picture without pixels,
or with bytes missing or left over, has none. -/
def encodeRgba? (width height : UInt32) (rgba : ByteArray) : Option ByteArray :=
  if width ≠ 0 ∧ height ≠ 0 ∧ rgba.size = 4 * width.toNat * height.toNat then
    some (Pieces.join (signature.toByteArray :: (rgbaChunks width height rgba).map Chunk.bytes))
  else none

def codec : Codec := ⟨encodeRgba?, decode?⟩

end UsbDisplay.Png
