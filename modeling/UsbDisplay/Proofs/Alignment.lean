import UsbDisplay.Rect.Align

/-!
What alignment keeps of a rectangle. The usable part of a framebuffer is its whole columns; a usable
point of a rectangle is in the aligned rectangle (`mem_align`), and with it all points of its row
that belong to the same column (`mem_align_of_column`). So no damage that can be shown is lost by
alignment, and both pixels of a pair are sent together.
-/

namespace UsbDisplay.Rect

theorem exists_mem_of_nonempty {r : Rect} (h : r.isEmpty = false) : ∃ p : Point, p ∈ r := by
  obtain ⟨hx, hy⟩ := isEmpty_eq_false_iff.1 h
  refine ⟨⟨r.x1, r.y1⟩, mem_iff.2 ?_⟩
  exact ⟨Int.le_refl _, hx, Int.le_refl _, hy⟩

theorem isEmpty_eq_false_of_mem {r : Rect} {p : Point} (h : p ∈ r) : r.isEmpty = false := by
  cases hr : r.isEmpty with
  | false => rfl
  | true => exact absurd h (not_mem_of_isEmpty hr p)

theorem contains_iff_of_nonempty {r s : Rect} (hs : s.isEmpty = false) :
    r.contains s = true ↔ r.x1 ≤ s.x1 ∧ r.y1 ≤ s.y1 ∧ s.x2 ≤ r.x2 ∧ s.y2 ≤ r.y2 := by
  simp only [contains, hs, Bool.false_or, Bool.and_eq_true, Bool.not_eq_true', decide_eq_true_eq,
    and_assoc, and_iff_right_iff_imp]
  rw [isEmpty_eq_false_iff] at hs ⊢
  omega

theorem contains_of_isEmpty {r s : Rect} (hs : s.isEmpty = true) : r.contains s = true := by
  simp only [contains, hs, Bool.true_or]

/-- The part of a framebuffer of this size that can be shown: its whole columns. -/
def usable (width height : Nat) : Rect :=
  ⟨0, 0, lastColumn width, lastRow height⟩

theorem lastColumn_of_lt {width : Nat} (h : width < 2147483648) :
    lastColumn width = ((width - width % 16 : Nat) : Int) := by
  simp only [lastColumn, alignDown, columnWidth, maxCoordinate]
  omega

theorem lastRow_of_lt {height : Nat} (h : height < 2147483648) : lastRow height = height := by
  simp only [lastRow, maxCoordinate]
  omega

theorem lastColumn_mod (width : Nat) : lastColumn width % 16 = 0 := by
  simp only [lastColumn, alignDown, columnWidth]
  omega

theorem mem_usable_iff {width height x y : Nat} (hwidth : width < 2147483648)
    (hheight : height < 2147483648) :
    (⟨x, y⟩ : Point) ∈ usable width height ↔ x < width - width % 16 ∧ y < height := by
  rw [mem_iff, usable, lastColumn_of_lt hwidth, lastRow_of_lt hheight]
  simp only
  omega

/-- Membership in an aligned rectangle, without its test for emptiness: what that test turns into
the empty rectangle has no points. -/
theorem mem_align_iff {r : Rect} {width height : Nat} {p : Point} :
    p ∈ r.align width height ↔ r.isEmpty = false ∧
      alignDown (max r.x1 0) ≤ p.x ∧ p.x < min (alignUp r.x2) (lastColumn width) ∧
        max r.y1 0 ≤ p.y ∧ p.y < min r.y2 (lastRow height) := by
  cases hr : r.isEmpty with
  | true =>
    rw [align_of_isEmpty hr]
    exact iff_of_false (not_mem_of_isEmpty isEmpty_empty p) (by simp)
  | false =>
    simp only [align, hr, Bool.false_eq_true, if_false, true_and]
    split
    next hempty =>
      exact iff_of_false (not_mem_of_isEmpty isEmpty_empty p) (not_mem_of_isEmpty hempty p)
    next => exact mem_iff

/-- Alignment keeps the usable points of a rectangle. -/
theorem mem_align {r : Rect} {width height : Nat} {p : Point} (hr : p ∈ r)
    (husable : p ∈ usable width height) : p ∈ r.align width height := by
  have hempty := isEmpty_eq_false_of_mem hr
  simp only [mem_iff, usable] at hr husable
  refine mem_align_iff.2 ⟨hempty, ?_⟩
  -- a right bound that saturates still has every usable column to its left
  simp only [alignUp, alignDown, columnWidth, lastColumn, maxCoordinate] at husable ⊢
  omega

/-- A point is in an aligned rectangle together with its whole column, as far as its row goes. -/
theorem mem_align_of_column {r : Rect} {width height : Nat} {p q : Point}
    (h : p ∈ r.align width height) (hcolumn : q.x / 16 = p.x / 16) (hrow : q.y = p.y) :
    q ∈ r.align width height := by
  obtain ⟨hempty, h1, h2, h3, h4⟩ := mem_align_iff.1 h
  refine mem_align_iff.2 ⟨hempty, ?_⟩
  have hlast := lastColumn_mod width
  simp only [alignUp, alignDown, columnWidth] at h1 h2 ⊢
  omega

theorem mem_usable_of_column {width height : Nat} {p q : Point} (h : p ∈ usable width height)
    (hcolumn : q.x / 16 = p.x / 16) (hrow : q.y = p.y) : q ∈ usable width height := by
  have hlast := lastColumn_mod width
  simp only [mem_iff, usable] at h ⊢
  omega

/-- Alignment of a rectangle that reaches further reaches at least as far. -/
theorem mem_align_of_le {r s : Rect} {width height : Nat} {p : Point}
    (h : p ∈ r.align width height) (hs : s.isEmpty = false) (hx1 : s.x1 ≤ r.x1) (hy1 : s.y1 ≤ r.y1)
    (hx2 : r.x2 ≤ s.x2) (hy2 : r.y2 ≤ s.y2) : p ∈ s.align width height := by
  obtain ⟨-, h1, h2, h3, h4⟩ := mem_align_iff.1 h
  refine mem_align_iff.2 ⟨hs, ?_⟩
  simp only [alignUp, alignDown, columnWidth] at h1 h2 ⊢
  omega

theorem isEmpty_union {r s : Rect} (hr : r.isEmpty = false) (hs : s.isEmpty = false) :
    (r ∪ s).isEmpty = false := by
  rw [union_of_nonempty hr hs]
  rw [isEmpty_eq_false_iff] at hr hs ⊢
  simp only
  omega

theorem mem_align_union_left {r : Rect} (s : Rect) {width height : Nat} {p : Point}
    (h : p ∈ r.align width height) : p ∈ (r ∪ s).align width height := by
  have hr := (mem_align_iff.1 h).1
  cases hs : s.isEmpty with
  | true => rwa [union_of_isEmpty_right hr hs]
  | false =>
    have hunion := isEmpty_union hr hs
    rw [union_of_nonempty hr hs] at hunion ⊢
    exact mem_align_of_le h hunion (Int.min_le_left ..) (Int.min_le_left ..)
      (Int.le_max_left ..) (Int.le_max_left ..)

theorem mem_align_union_right (r : Rect) {s : Rect} {width height : Nat} {p : Point}
    (h : p ∈ s.align width height) : p ∈ (r ∪ s).align width height := by
  have hs := (mem_align_iff.1 h).1
  cases hr : r.isEmpty with
  | true => rwa [union_of_isEmpty_left hr]
  | false =>
    have hunion := isEmpty_union hr hs
    rw [union_of_nonempty hr hs] at hunion ⊢
    exact mem_align_of_le h hunion (Int.min_le_right ..) (Int.min_le_right ..)
      (Int.le_max_right ..) (Int.le_max_right ..)

/-- What is added to a rectangle does not take away what can be shown of it. -/
theorem isEmpty_align_union {r : Rect} (s : Rect) {width height : Nat}
    (h : (r.align width height).isEmpty = false) :
    ((r ∪ s).align width height).isEmpty = false := by
  obtain ⟨p, hp⟩ := exists_mem_of_nonempty h
  exact isEmpty_eq_false_of_mem (mem_align_union_left s hp)

theorem y2_align_le (r : Rect) (width height : Nat) : (r.align width height).y2 ≤ height := by
  simp only [align]
  split
  · exact Int.natCast_nonneg _
  split
  · exact Int.natCast_nonneg _
  · simp only [lastRow]
    omega

/-- An aligned rectangle that is not empty was made from one that is not empty. -/
theorem isEmpty_eq_false_of_align {r : Rect} {width height : Nat}
    (h : (r.align width height).isEmpty = false) : r.isEmpty = false := by
  cases hr : r.isEmpty with
  | false => rfl
  | true => rw [align_of_isEmpty hr, isEmpty_empty] at h; exact absurd h (by decide)

theorem align_of_nonempty {r : Rect} {width height : Nat}
    (h : (r.align width height).isEmpty = false) :
    r.align width height =
      ⟨alignDown (max r.x1 0), max r.y1 0, min (alignUp r.x2) (lastColumn width),
        min r.y2 (lastRow height)⟩ := by
  have hr := isEmpty_eq_false_of_align h
  simp only [align, hr, Bool.false_eq_true, if_false] at h ⊢
  split
  next hempty =>
    rw [if_pos hempty] at h
    cases h
  next => rfl

theorem union_empty_of_nonempty {r : Rect} (h : r.isEmpty = false) : r ∪ Rect.empty = r :=
  union_of_isEmpty_right h isEmpty_empty

theorem align_union_empty (r : Rect) (width height : Nat) :
    (r ∪ Rect.empty).align width height = r.align width height := by
  cases hr : r.isEmpty with
  | true => rw [union_of_isEmpty_left hr, align_of_isEmpty isEmpty_empty, align_of_isEmpty hr]
  | false => rw [union_empty_of_nonempty hr]

end UsbDisplay.Rect
