/-!
Damage rectangles: the part of a framebuffer that has changed. The left and top bounds belong to a
rectangle, the right and bottom bounds do not. Coordinates are integers of 32 bits with sign
(`Rect.Representable`); every operation keeps them so. A rectangle without area is empty, whatever
its bounds, and an empty operand adds nothing to a union.
-/

namespace UsbDisplay

/-- A place in a framebuffer, counted from its top left corner. -/
structure Point where
  x : Int
  y : Int
  deriving DecidableEq, Repr

/-- A rectangle of points, `x2` and `y2` exclusive. -/
structure Rect where
  x1 : Int
  y1 : Int
  x2 : Int
  y2 : Int
  deriving DecidableEq, Repr

namespace Rect

def maxCoordinate : Int := 2147483647

def minCoordinate : Int := -2147483648

/-- All four bounds are coordinates. -/
def Representable (r : Rect) : Prop :=
  (minCoordinate ≤ r.x1 ∧ r.x1 ≤ maxCoordinate) ∧ (minCoordinate ≤ r.y1 ∧ r.y1 ≤ maxCoordinate) ∧
    (minCoordinate ≤ r.x2 ∧ r.x2 ≤ maxCoordinate) ∧ (minCoordinate ≤ r.y2 ∧ r.y2 ≤ maxCoordinate)

instance (r : Rect) : Decidable r.Representable := by
  unfold Representable
  infer_instance

/-- A size of 32 bits without sign, taken as a coordinate: from 2147483648 on it turns negative. -/
def coordinateOfSize (size : Nat) : Int :=
  Int.bmod size 4294967296

theorem coordinateOfSize_of_lt {size : Nat} (h : size < 2147483648) :
    coordinateOfSize size = size := by
  unfold coordinateOfSize
  exact Int.bmod_eq_of_le (by omega) (by omega)

instance : Membership Point Rect where
  mem r p := r.x1 ≤ p.x ∧ p.x < r.x2 ∧ r.y1 ≤ p.y ∧ p.y < r.y2

theorem mem_iff {p : Point} {r : Rect} :
    p ∈ r ↔ r.x1 ≤ p.x ∧ p.x < r.x2 ∧ r.y1 ≤ p.y ∧ p.y < r.y2 := Iff.rfl

instance (p : Point) (r : Rect) : Decidable (p ∈ r) :=
  decidable_of_iff _ mem_iff.symm

/-- The rectangle that nothing has been added to: its lower bounds lie above its upper bounds. -/
protected def empty : Rect := ⟨maxCoordinate, maxCoordinate, 0, 0⟩

/-- The whole of a framebuffer of this size. -/
def full (width height : Nat) : Rect :=
  ⟨0, 0, coordinateOfSize width, coordinateOfSize height⟩

def isEmpty (r : Rect) : Bool :=
  decide (r.x2 ≤ r.x1) || decide (r.y2 ≤ r.y1)

theorem isEmpty_iff {r : Rect} : r.isEmpty = true ↔ r.x2 ≤ r.x1 ∨ r.y2 ≤ r.y1 := by
  simp [isEmpty]

theorem isEmpty_eq_false_iff {r : Rect} : r.isEmpty = false ↔ r.x1 < r.x2 ∧ r.y1 < r.y2 := by
  simp [isEmpty]

@[simp] theorem isEmpty_empty : Rect.empty.isEmpty = true := rfl

theorem not_mem_of_isEmpty {r : Rect} (h : r.isEmpty = true) (p : Point) : p ∉ r := by
  rw [isEmpty_iff] at h
  rw [mem_iff]
  omega

/-- Columns of a rectangle; an empty one has none. -/
def width (r : Rect) : Nat :=
  if r.isEmpty then 0 else (r.x2 - r.x1).toNat

/-- Rows of a rectangle; an empty one has none. -/
def height (r : Rect) : Nat :=
  if r.isEmpty then 0 else (r.y2 - r.y1).toNat

/-- The bounding box of two rectangles; an empty operand gives way to the other. -/
def union (r s : Rect) : Rect :=
  if r.isEmpty then s
  else if s.isEmpty then r
  else ⟨min r.x1 s.x1, min r.y1 s.y1, max r.x2 s.x2, max r.y2 s.y2⟩

instance : Union Rect := ⟨union⟩

theorem union_of_isEmpty_left {r : Rect} (h : r.isEmpty = true) (s : Rect) : r ∪ s = s := by
  change union r s = s
  simp [union, h]

theorem union_of_isEmpty_right {r s : Rect} (hr : r.isEmpty = false) (hs : s.isEmpty = true) :
    r ∪ s = r := by
  change union r s = r
  simp [union, hr, hs]

theorem union_of_nonempty {r s : Rect} (hr : r.isEmpty = false) (hs : s.isEmpty = false) :
    r ∪ s = ⟨min r.x1 s.x1, min r.y1 s.y1, max r.x2 s.x2, max r.y2 s.y2⟩ := by
  change union r s = _
  simp [union, hr, hs]

@[simp] theorem empty_union (r : Rect) : Rect.empty ∪ r = r :=
  union_of_isEmpty_left isEmpty_empty r

theorem mem_union_left {p : Point} {r : Rect} (s : Rect) (h : p ∈ r) : p ∈ r ∪ s := by
  cases hr : r.isEmpty
  · cases hs : s.isEmpty
    · rw [union_of_nonempty hr hs, mem_iff]
      rw [mem_iff] at h
      simp only
      omega
    · rwa [union_of_isEmpty_right hr hs]
  · exact absurd h (not_mem_of_isEmpty hr p)

theorem mem_union_right {p : Point} (r : Rect) {s : Rect} (h : p ∈ s) : p ∈ r ∪ s := by
  cases hr : r.isEmpty
  · cases hs : s.isEmpty
    · rw [union_of_nonempty hr hs, mem_iff]
      rw [mem_iff] at h
      simp only
      omega
    · exact absurd h (not_mem_of_isEmpty hs p)
  · rwa [union_of_isEmpty_left hr]

/-- Whether `s` lies inside `r`; an empty rectangle lies inside every other. -/
def contains (r s : Rect) : Bool :=
  s.isEmpty || (!r.isEmpty && decide (r.x1 ≤ s.x1) && decide (r.y1 ≤ s.y1) &&
    decide (s.x2 ≤ r.x2) && decide (s.y2 ≤ r.y2))

/-- The union of a list of rectangles, taken from its front, starting with nothing. -/
def unionAll (rects : List Rect) : Rect :=
  rects.foldl (· ∪ ·) Rect.empty

end Rect

end UsbDisplay
