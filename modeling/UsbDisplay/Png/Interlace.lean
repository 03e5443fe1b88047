/-!
Interlacing. A picture comes in passes, each of which holds every pixel of a grid; the grids of the
seven passes of an interlaced picture share no pixel and together hold all of them. A picture that
is not interlaced comes in one pass.
-/

namespace UsbDisplay.Png

/-- The pixels whose column is `left` plus a multiple of `columnStep`, and whose row is `top` plus a
multiple of `rowStep`. -/
structure Pass where
  left : Nat
  top : Nat
  columnStep : Nat
  rowStep : Nat
  deriving DecidableEq, Repr

namespace Pass

def whole : Pass := ⟨0, 0, 1, 1⟩

def interlaced : List Pass :=
  [⟨0, 0, 8, 8⟩, ⟨4, 0, 8, 8⟩, ⟨0, 4, 4, 8⟩, ⟨2, 0, 4, 4⟩, ⟨0, 2, 2, 4⟩, ⟨1, 0, 2, 2⟩, ⟨0, 1, 1, 2⟩]

def columns (p : Pass) (width : Nat) : Nat := (width + p.columnStep - 1 - p.left) / p.columnStep

def rows (p : Pass) (height : Nat) : Nat := (height + p.rowStep - 1 - p.top) / p.rowStep

/-- Whether a pixel is in a pass. -/
def Has (p : Pass) (x y : Nat) : Bool :=
  decide (p.left ≤ x) && decide (p.top ≤ y) && (x - p.left) % p.columnStep == 0 &&
    (y - p.top) % p.rowStep == 0

end Pass

end UsbDisplay.Png
