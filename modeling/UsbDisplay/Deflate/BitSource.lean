/-!
Bytes read bit by bit, from the low end of each byte. Every read says how much is left afterwards:
`n` bits make the rest `n` shorter (`remaining_take?`).
-/

namespace UsbDisplay

/-- A place in a run of bytes, counted in bits. -/
structure BitSource where
  bytes : ByteArray
  position : Nat

namespace BitSource

def remaining (s : BitSource) : Nat := 8 * s.bytes.size - s.position

def bit? (s : BitSource) : Option (Nat × BitSource) :=
  if h : s.position / 8 < s.bytes.size then
    some (s.bytes[s.position / 8].toNat >>> (s.position % 8) % 2,
      { s with position := s.position + 1 })
  else none

theorem remaining_bit? {s t : BitSource} {b : Nat} (h : s.bit? = some (b, t)) :
    t.remaining + 1 = s.remaining := by
  unfold bit? at h
  split at h
  · simp only [Option.some.injEq, Prod.mk.injEq] at h
    obtain ⟨-, rfl⟩ := h
    simp only [remaining]
    omega
  · cases h

/-- The next `n` bits as a number, the first bit lowest. -/
def take? : (n : Nat) → BitSource → Option (Nat × BitSource)
  | 0, s => some (0, s)
  | n + 1, s =>
    match s.bit? with
    | none => none
    | some (b, s) =>
      match take? n s with
      | none => none
      | some (v, s) => some (b + 2 * v, s)

theorem remaining_take? {n : Nat} {s t : BitSource} {v : Nat} (h : take? n s = some (v, t)) :
    t.remaining + n = s.remaining := by
  induction n generalizing s v with
  | zero =>
    simp only [take?, Option.some.injEq, Prod.mk.injEq] at h
    rw [h.2]
    rfl
  | succ n ih =>
    simp only [take?] at h
    split at h
    · cases h
    · rename_i b s₁ hb
      split at h
      · cases h
      · rename_i v₁ s₂ hv
        simp only [Option.some.injEq, Prod.mk.injEq] at h
        obtain ⟨-, rfl⟩ := h
        have := remaining_bit? hb
        have := ih hv
        omega

/-- The first byte of which no bit has been read. -/
def nextByte (s : BitSource) : Nat := (s.position + 7) / 8

/-- The next `n` whole bytes; what is left of a byte that was begun is skipped. -/
def bytes? (n : Nat) (s : BitSource) : Option (ByteArray × BitSource) :=
  if s.nextByte + n ≤ s.bytes.size then
    some (s.bytes.extract s.nextByte (s.nextByte + n), { s with position := 8 * (s.nextByte + n) })
  else none

end BitSource

end UsbDisplay
