import UsbDisplay.Packet
import UsbDisplay.Scanline

/-!
The picture that an adapter shows. It has a size and one pixel at every place inside; painting an
update replaces the pixels that lie both in the update's rectangle and in the picture, and no
others.
-/

namespace UsbDisplay

/-- A picture, row by row from the top. -/
structure Frame where
  width : Nat
  height : Nat
  rows : Vector (Vector Pixel width) height

namespace Frame

def blank (width height : Nat) : Frame :=
  ⟨width, height, Vector.replicate height (Vector.replicate width 0)⟩

def pixel? (f : Frame) (x y : Nat) : Option Pixel :=
  if h : x < f.width ∧ y < f.height then
    have := h.1
    have := h.2
    some f.rows[y][x]
  else none

@[simp] theorem pixel?_isSome (f : Frame) (x y : Nat) :
    (f.pixel? x y).isSome = true ↔ x < f.width ∧ y < f.height := by
  unfold pixel?
  split <;> simp_all

@[simp] theorem pixel?_blank (width height x y : Nat) :
    (blank width height).pixel? x y = if x < width ∧ y < height then some 0 else none := by
  simp [pixel?, blank]

/-- A row with the pixels of a line laid over it from column `x` on. -/
def overlay {width : Nat} (row : Vector Pixel width) (x : Nat) (pixels : Array Pixel) :
    Vector Pixel width :=
  Vector.ofFn fun i =>
    if h : x ≤ i.val ∧ i.val - x < pixels.size then
      have := h.2
      pixels[i.val - x]
    else row[i]

/-- A picture with a line laid over one of its rows. -/
def paintLine (f : Frame) (x y : Nat) (line : Array Pixel) : Frame :=
  if h : y < f.height then
    { f with rows := f.rows.set y (overlay f.rows[y] x line) }
  else f

@[simp] theorem width_paintLine (f : Frame) (x y : Nat) (line : Array Pixel) :
    (f.paintLine x y line).width = f.width := by
  unfold paintLine
  split <;> rfl

@[simp] theorem height_paintLine (f : Frame) (x y : Nat) (line : Array Pixel) :
    (f.paintLine x y line).height = f.height := by
  unfold paintLine
  split <;> rfl

def paintLines (f : Frame) (u : Update) (n : Nat) : Frame :=
  n.fold
    (fun i _ f =>
      f.paintLine u.header.x.toNat (u.header.y.toNat + i) (Scanline.pixels (u.line i))) f

/-- Paints an update; its lines below the picture are left out. -/
def paint (f : Frame) (u : Update) : Frame :=
  f.paintLines u (min u.lineCount (f.height - u.header.y.toNat))

/-- Opaque red, green, blue and alpha bytes, row by row. -/
def rgba (f : Frame) : ByteArray :=
  f.rows.foldl
    (fun out row => row.foldl
      (fun out p =>
        let c := Pixel.rgb p
        (((out.push c.red).push c.green).push c.blue).push 0xFF) out)
    (ByteArray.emptyWithCapacity (f.width * f.height * 4))

end Frame

end UsbDisplay
