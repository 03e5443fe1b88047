import UsbDisplay.Pieces
import UsbDisplay.Png.Metadata

/-!
The image data of a file: the contents of a run of chunks of one kind, which are either those of the
picture or those of its first frame. The run ends where a chunk of another kind begins; nothing is
asked of that chunk, nor of what comes later.
-/

namespace UsbDisplay.Png.ImageData

/-- The contents of a chunk of image data; data of a frame have their number in front, which has to
be the one that is due. -/
def contents? (due : UInt32) (c : Chunk) : Option ByteArray :=
  if c.kind = Chunk.frameData then
    if Word.read32? c.data 0 = some due then some (c.data.extract 4 c.data.size) else none
  else some c.data

/-- The run of chunks of a kind, of which the first piece of a frame has the number that is due. -/
def run? (kind : UInt32) : (due : UInt32) → List Chunk.Found → Option (List ByteArray)
  | _, [] => none
  | due, c :: rest =>
    if c.kind ≠ kind then some []
    else if !c.isSound then none
    else
      match contents? due c.toChunk, run? kind (due + 1) rest with
      | some piece, some pieces => some (piece :: pieces)
      | _, _ => none

/-- The image data that begin with the first of some chunks. Those of a frame come only after
something was said of it. -/
def wrapped? (m : Metadata) : List Chunk.Found → Option ByteArray
  | [] => none
  | c :: rest =>
    if c.kind = Chunk.frameData ∧ m.frame?.isNone then none
    else (run? c.kind m.nextNumber (c :: rest)).map Pieces.join

end UsbDisplay.Png.ImageData
