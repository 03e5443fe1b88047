/-!
Checksums of runs of bytes. The cyclic redundancy check takes the bytes as one long polynomial over
two elements, low bits first, and keeps the remainder by a fixed one of degree 32; a table holds the
remainders of single bytes. The other checksum keeps the sum of the bytes and the sum of those sums,
both modulo a prime.
-/

namespace UsbDisplay.Checksum

/-- One bit of polynomial division. -/
def divideBit (r : UInt32) : UInt32 :=
  if r % 2 = 1 then r / 2 ^^^ 0xEDB88320 else r / 2

def divideByte (b : UInt32) : UInt32 :=
  Nat.repeat divideBit 8 b

def remainders : Vector UInt32 256 :=
  Vector.ofFn fun i => divideByte (UInt32.ofNat i)

@[inline] def crcStep (r : UInt32) (b : UInt8) : UInt32 :=
  let low := r.toUInt8 ^^^ b
  have := low.toNat_lt
  remainders[low.toNat] ^^^ (r / 256)

/-- The cyclic redundancy check of a run of bytes. -/
def crc32 (bytes : ByteArray) : UInt32 :=
  bytes.foldl crcStep 0xFFFFFFFF ^^^ 0xFFFFFFFF

def adlerModulus : UInt32 := 65521

/-- The two running sums, starting from one and nothing. -/
def adlerSums (bytes : ByteArray) : UInt32 × UInt32 :=
  bytes.foldl
    (fun (a, b) x =>
      let a := (a + x.toUInt32) % adlerModulus
      (a, (b + a) % adlerModulus))
    (1, 0)

/-- Both sums in one word, the sum of sums in its high half. -/
def adler32 (bytes : ByteArray) : UInt32 :=
  let (a, b) := adlerSums bytes
  b * 65536 + a

end UsbDisplay.Checksum
