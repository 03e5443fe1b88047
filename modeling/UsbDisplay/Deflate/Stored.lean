import UsbDisplay.Pieces
import UsbDisplay.Word

/-!
Deflation without compression: a run of bytes as blocks that hold them as they are. The size of a
block is a word of 16 bits, low byte first, and comes a second time inverted.
-/

namespace UsbDisplay.Stored

def maxBlock : Nat := 65535

/-- The five bytes before the contents of a block. -/
def blockHead (isLast : Bool) (size : UInt16) : List UInt8 :=
  [if isLast then 1 else 0, Word.low size, Word.high size, Word.low (65535 - size),
    Word.high (65535 - size)]

def block (isLast : Bool) (contents : ByteArray) : ByteArray :=
  (blockHead isLast (UInt16.ofNat contents.size)).toByteArray ++ contents

/-- One block for each piece, the last one marked. -/
def blocks : List ByteArray → List ByteArray
  | [] => []
  | [last] => [block true last]
  | piece :: rest => block false piece :: blocks rest

def deflate (bytes : ByteArray) : ByteArray :=
  Pieces.join (blocks (Pieces.pieces maxBlock bytes))

end UsbDisplay.Stored
