import UsbDisplay.Error
import UsbDisplay.Pixel

/-!
Transfer buffers: the bytes that a bulk transfer sends from, and room for one line of pixels. Their
sizes are fixed when a buffer is made and every write keeps them.
-/

namespace UsbDisplay

/-- Bytes to send from, and one line of pixels. -/
structure TransferBuffer where
  data : ByteArray
  line : Array Pixel

namespace TransferBuffer

/-- The most bytes that one block of memory can have. -/
def maxAllocation : Nat := 9223372036854775807

/-- A buffer of zeros. A block that is too large is refused with its size in bytes, which is a word
of 64 bits; the bytes are tried before the line. -/
def allocate (capacity linePixels : Nat) : Except Error TransferBuffer :=
  if maxAllocation < capacity then .error (.allocation capacity)
  else if maxAllocation < linePixels * 4 then
    .error (.allocation (linePixels * 4 % 18446744073709551616))
  else .ok ⟨⟨Array.replicate capacity 0⟩, Array.replicate linePixels 0⟩

def capacity (b : TransferBuffer) : Nat := b.data.size

/-- The number of pixels of the line. -/
def lineCapacity (b : TransferBuffer) : Nat := b.line.size

/-- Puts `bytes` at offset `start`; what would lie beyond the end is dropped. -/
def write (b : TransferBuffer) (start : Nat) (bytes : ByteArray) : TransferBuffer :=
  { b with data := (b.data.extract 0 start ++ bytes ++
      b.data.extract (start + bytes.size) b.data.size).extract 0 b.data.size }

/-- Puts a line at the start of the buffer's line. -/
def writeLine (b : TransferBuffer) (line : Array Pixel) : TransferBuffer :=
  { b with line := (line ++ b.line.extract line.size b.line.size).extract 0 b.line.size }

def first (b : TransferBuffer) (n : Nat) : ByteArray := b.data.extract 0 n

@[simp] theorem data_writeLine (b : TransferBuffer) (line : Array Pixel) :
    (b.writeLine line).data = b.data := rfl

@[simp] theorem line_write (b : TransferBuffer) (start : Nat) (bytes : ByteArray) :
    (b.write start bytes).line = b.line := rfl

@[simp] theorem capacity_writeLine (b : TransferBuffer) (line : Array Pixel) :
    (b.writeLine line).capacity = b.capacity := rfl

@[simp] theorem lineCapacity_write (b : TransferBuffer) (start : Nat) (bytes : ByteArray) :
    (b.write start bytes).lineCapacity = b.lineCapacity := rfl

theorem capacity_write (b : TransferBuffer) {start : Nat} {bytes : ByteArray}
    (h : start + bytes.size ≤ b.capacity) : (b.write start bytes).capacity = b.capacity := by
  simp only [capacity, write, ByteArray.size_extract, ByteArray.size_append] at *
  omega

theorem lineCapacity_writeLine (b : TransferBuffer) {line : Array Pixel}
    (h : line.size ≤ b.lineCapacity) : (b.writeLine line).lineCapacity = b.lineCapacity := by
  simp only [lineCapacity, writeLine, Array.size_extract, Array.size_append] at *
  omega

end TransferBuffer

end UsbDisplay
