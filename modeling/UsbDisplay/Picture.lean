import UsbDisplay.Pixel

/-!
Pictures in memory: a size, and the pixels row by row from the top.
-/

namespace UsbDisplay

structure Picture where
  width : Nat
  height : Nat
  pixels : Array Pixel
  deriving DecidableEq, Repr

end UsbDisplay
