import UsbDisplay.Checksum
import UsbDisplay.Word

/-!
Chunks, of which a picture file is made: a size, four letters that tell the kind, the contents, and
a checksum of kind and contents. A file is split into its chunks without asking what they mean; the
last one may break off.
-/

namespace UsbDisplay

structure Chunk where
  kind : UInt32
  data : ByteArray

namespace Chunk

/-! ### Kinds -/

/-- The letters `IHDR`. -/
def header : UInt32 := 0x49484452

/-- The letters `PLTE`. -/
def palette : UInt32 := 0x504C5445

/-- The letters `IDAT`. -/
def imageData : UInt32 := 0x49444154

/-- The letters `IEND`. -/
def imageEnd : UInt32 := 0x49454E44

/-- The letters `tRNS`. -/
def transparency : UInt32 := 0x74524E53

/-- The letters `gAMA`. -/
def gamma : UInt32 := 0x67414D41

/-- The letters `cHRM`. -/
def chromaticities : UInt32 := 0x6348524D

/-- The letters `sRGB`. -/
def renderingIntent : UInt32 := 0x73524742

/-- The letters `pHYs`. -/
def pixelSize : UInt32 := 0x70485973

/-- The letters `tEXt`. -/
def text : UInt32 := 0x74455874

/-- The letters `zTXt`. -/
def compressedText : UInt32 := 0x7A545874

/-- The letters `iTXt`. -/
def internationalText : UInt32 := 0x69545874

/-- The letters `acTL`. -/
def animation : UInt32 := 0x6163544C

/-- The letters `fcTL`. -/
def frameControl : UInt32 := 0x6663544C

/-- The letters `fdAT`. -/
def frameData : UInt32 := 0x66644154

/-- Whether a picture cannot be read without knowing chunks of this kind: the first letter is a
capital. -/
def isCritical (kind : UInt32) : Bool :=
  kind / 0x20000000 % 2 == 0

/-! ### Chunks in files -/

def checksum (c : Chunk) : UInt32 :=
  Checksum.crc32 ((Word.bytes32 c.kind).toByteArray ++ c.data)

def bytes (c : Chunk) : ByteArray :=
  (Word.bytes32 (UInt32.ofNat c.data.size) ++ Word.bytes32 c.kind).toByteArray ++ c.data ++
    (Word.bytes32 c.checksum).toByteArray

/-- The bytes that a chunk needs besides its contents. -/
def overhead : Nat := 12

/-- A chunk that was found in a file. -/
structure Found extends Chunk where
  /-- The size that it announces; there is less only where the file breaks off. -/
  size : Nat
  /-- The checksum behind it, unless the file breaks off before. -/
  sum? : Option UInt32

/-- Whether a chunk is whole, and its checksum right if its kind is critical. -/
def Found.isSound (c : Found) : Bool :=
  c.sum?.any fun sum => !isCritical c.kind || sum == c.checksum

def read? (file : ByteArray) (start : Nat) : Option Found :=
  match Word.read32? file start, Word.read32? file (start + 4) with
  | some size, some kind =>
    let stop := start + 8 + size.toNat
    some
      { kind
        data := file.extract (start + 8) stop
        size := size.toNat
        sum? := Word.read32? file stop }
  | _, _ => none

def split (file : ByteArray) (start : Nat) : List Found :=
  if file.size ≤ start then []
  else
    match read? file start with
    | none => []
    | some c => c :: split file (start + overhead + c.size)
termination_by file.size - start
decreasing_by
  simp only [overhead]
  omega

end Chunk

end UsbDisplay
