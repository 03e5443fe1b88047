/-!
How much a file may take while it is read. The contents of chunks go through a buffer, which is
doubled until it holds them; what is kept of them counts besides. Both come out of one allowance,
and a file that needs more is refused.
-/

namespace UsbDisplay.Png

structure Allowance where
  /-- The bytes that may still be taken. -/
  left : Nat := 67108864
  /-- The size of the buffer; at first it comes for nothing. -/
  buffer : Nat := 32768
  deriving DecidableEq, Repr

namespace Allowance

def take? (a : Allowance) (n : Nat) : Option Allowance :=
  if n ≤ a.left then some { a with left := a.left - n } else none

/-- Makes the buffer large enough for contents of a size. It does not grow beyond what is left. -/
def hold? (a : Allowance) (size : Nat) : Option Allowance :=
  if size ≤ a.buffer then some a
  else
    let more := min (a.left - a.buffer) a.buffer
    if more = 0 then none else hold? ⟨a.left - more, a.buffer + more⟩ size
termination_by size - a.buffer
decreasing_by omega

end Allowance

end UsbDisplay.Png
