/-!
Words of 16 bits as two bytes, and words of 32 bits as four. A word is put together again from its
bytes, and the bytes of a word that was put together are those that went in.
-/

namespace UsbDisplay.Word

@[inline] def high (w : UInt16) : UInt8 := (w / 256).toUInt8

@[inline] def low (w : UInt16) : UInt8 := w.toUInt8

@[inline] def ofBytes (high low : UInt8) : UInt16 := high.toUInt16 * 256 + low.toUInt16

theorem toNat_high (w : UInt16) : (high w).toNat = w.toNat / 256 := by
  have := w.toNat_lt
  simp [high]
  omega

theorem toNat_low (w : UInt16) : (low w).toNat = w.toNat % 256 := by
  simp [low]

theorem toNat_ofBytes (h l : UInt8) : (ofBytes h l).toNat = h.toNat * 256 + l.toNat := by
  have := h.toNat_lt
  have := l.toNat_lt
  simp [ofBytes]
  omega

@[simp] theorem ofBytes_high_low (w : UInt16) : ofBytes (high w) (low w) = w := by
  rw [← UInt16.toNat_inj, toNat_ofBytes, toNat_high, toNat_low]
  omega

@[simp] theorem high_ofBytes (h l : UInt8) : high (ofBytes h l) = h := by
  have := l.toNat_lt
  rw [← UInt8.toNat_inj, toNat_high, toNat_ofBytes]
  omega

@[simp] theorem low_ofBytes (h l : UInt8) : low (ofBytes h l) = l := by
  have := l.toNat_lt
  rw [← UInt8.toNat_inj, toNat_low, toNat_ofBytes]
  omega

/-- The bytes of a word of 32 bits, highest first. -/
def bytes32 (w : UInt32) : List UInt8 :=
  [(w / 16777216).toUInt8, (w / 65536).toUInt8, (w / 256).toUInt8, w.toUInt8]

@[simp] theorem length_bytes32 (w : UInt32) : (bytes32 w).length = 4 := rfl

/-- The word of 32 bits with these bytes, highest first. -/
def ofBytes32 (a b c d : UInt8) : UInt32 :=
  a.toUInt32 * 16777216 + b.toUInt32 * 65536 + c.toUInt32 * 256 + d.toUInt32

theorem toNat_ofBytes32 (a b c d : UInt8) : (ofBytes32 a b c d).toNat =
    a.toNat * 16777216 + b.toNat * 65536 + c.toNat * 256 + d.toNat := by
  have := a.toNat_lt
  have := b.toNat_lt
  have := c.toNat_lt
  have := d.toNat_lt
  simp [ofBytes32]
  omega

@[simp] theorem ofBytes32_bytes32 (w : UInt32) :
    ofBytes32 (w / 16777216).toUInt8 (w / 65536).toUInt8 (w / 256).toUInt8 w.toUInt8 = w := by
  have := w.toNat_lt
  rw [← UInt32.toNat_inj, toNat_ofBytes32]
  simp
  omega

/-- The word of 32 bits whose bytes start at offset `i`. -/
def read32? (bytes : ByteArray) (i : Nat) : Option UInt32 :=
  if h : i + 3 < bytes.size then some (ofBytes32 bytes[i] bytes[i + 1] bytes[i + 2] bytes[i + 3])
  else none

end UsbDisplay.Word
