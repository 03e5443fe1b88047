import UsbDisplay.Word

/-!
Register packets. A read names its register high byte first, a write low byte first; a write carries
six bytes of data.
-/

namespace UsbDisplay.Register

abbrev Payload := Vector UInt8 6

/-- The first byte of a read packet. -/
def readMark : UInt8 := 0xB5

/-- The first byte of a write packet. -/
def writeMark : UInt8 := 0xA6

def readPacket (address : UInt16) : List UInt8 :=
  [readMark, Word.high address, Word.low address, 0, 0, 0, 0, 0]

def writePacket (address : UInt16) (data : Payload) : List UInt8 :=
  [writeMark, Word.low address, Word.high address] ++ data.toList ++ [0]

@[simp] theorem length_readPacket (address : UInt16) : (readPacket address).length = 8 := rfl

@[simp] theorem length_writePacket (address : UInt16) (data : Payload) :
    (writePacket address data).length = 10 := by
  simp [writePacket]

/-- What a device finds in an outgoing packet; bytes past the last one it needs do not matter. -/
inductive Request where
  | read (address : UInt16)
  | write (address : UInt16) (data : Payload)
  deriving DecidableEq, Repr

def Request.parse? : List UInt8 → Option Request
  | mark :: a :: b :: rest =>
    if mark = readMark then some (.read (Word.ofBytes a b))
    else if mark = writeMark then
      match rest with
      | d0 :: d1 :: d2 :: d3 :: d4 :: d5 :: _ =>
        some (.write (Word.ofBytes b a) #v[d0, d1, d2, d3, d4, d5])
      | _ => none
    else none
  | _ => none

@[simp] theorem parse?_readPacket (address : UInt16) :
    Request.parse? (readPacket address) = some (.read address) := by
  simp [Request.parse?, readPacket]

end UsbDisplay.Register
