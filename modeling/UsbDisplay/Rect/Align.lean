import UsbDisplay.Rect

/-!
Alignment of damage to what the adapter can update: columns of 16 pixels. The left bound goes down
to a column, the right bound goes up to one but never past the last whole column of the framebuffer,
so a framebuffer whose width is no multiple of 16 loses its last few pixels. The other bounds are
only clipped. Every sum is capped at the greatest coordinate, and the cap never shows, since the
last whole column lies below it.
-/

namespace UsbDisplay.Rect

def columnWidth : Int := 16

/-- The greatest multiple of the column width that is not above `x`. -/
def alignDown (x : Int) : Int :=
  x - x % columnWidth

/-- The least multiple of the column width that is not below `x`, as far as coordinates go. -/
def alignUp (x : Int) : Int :=
  alignDown (min (x + (columnWidth - 1)) maxCoordinate)

/-- The right end of the last whole column of a framebuffer. -/
def lastColumn (width : Nat) : Int :=
  alignDown (min (width : Int) maxCoordinate)

/-- The lower end of a framebuffer. -/
def lastRow (height : Nat) : Int :=
  min (height : Int) maxCoordinate

/-- The whole columns of a framebuffer that a rectangle touches, clipped to the framebuffer;
`Rect.empty` if nothing remains. -/
def align (r : Rect) (width height : Nat) : Rect :=
  if r.isEmpty then Rect.empty
  else
    let aligned : Rect :=
      ⟨alignDown (max r.x1 0), max r.y1 0, min (alignUp r.x2) (lastColumn width),
        min r.y2 (lastRow height)⟩
    if aligned.isEmpty then Rect.empty else aligned

@[simp] theorem align_of_isEmpty {r : Rect} (h : r.isEmpty = true) (width height : Nat) :
    r.align width height = Rect.empty := by
  simp [align, h]

end UsbDisplay.Rect
