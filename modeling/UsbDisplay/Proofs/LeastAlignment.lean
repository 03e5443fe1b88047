import Mathlib.Data.Set.Basic
import Mathlib.Order.Bounds.Defs
import UsbDisplay.Proofs.Alignment

/-!
Alignment is the best that whole columns allow. Of all rectangles with both ends on whole columns
that cover what a framebuffer can show of a rectangle, the aligned one is the least
(`Rect.align_least`), and it reaches no further up or down than what it covers. Alignment in
coordinates of 32 bits, with a look at the range after every step (`Rect.align?`), never leaves the
range.
-/

namespace UsbDisplay.Rect

/-! ### Arithmetic of coordinates -/

/-- A number as a coordinate; `none` is an overflow. -/
def coordinate? (x : Int) : Option Int :=
  if minCoordinate ≤ x ∧ x ≤ maxCoordinate then some x else none

/-- The sum of two coordinates, stopped at the ends of the range. -/
def cappedSum (x y : Int) : Int :=
  max minCoordinate (min (x + y) maxCoordinate)

def alignDown? (x : Int) : Option Int := do
  let rest ← coordinate? (x % columnWidth)
  coordinate? (x - rest)

def alignUp? (x : Int) : Option Int :=
  alignDown? (cappedSum x (columnWidth - 1))

/-- Alignment step by step; `none` if one of the steps overflows. -/
def align? (r : Rect) (width height : Nat) : Option Rect :=
  if r.isEmpty then some Rect.empty
  else do
    let right ← alignDown? (← coordinate? (min width maxCoordinate))
    let bottom ← coordinate? (min height maxCoordinate)
    let x1 ← alignDown? (max r.x1 0)
    let x2 ← alignUp? r.x2
    let aligned : Rect := ⟨x1, max r.y1 0, min x2 right, min r.y2 bottom⟩
    return if aligned.isEmpty then Rect.empty else aligned

theorem coordinate?_eq {x : Int} (h : minCoordinate ≤ x ∧ x ≤ maxCoordinate) :
    coordinate? x = some x :=
  if_pos h

/-- Going down to a column stays in the range, because its lower end is on a column. -/
theorem alignDown?_eq {x : Int} (h : minCoordinate ≤ x ∧ x ≤ maxCoordinate) :
    alignDown? x = some (alignDown x) := by
  simp only [minCoordinate, maxCoordinate] at h
  have hrest : coordinate? (x % columnWidth) = some (x % columnWidth) := by
    refine coordinate?_eq ?_
    simp only [columnWidth, minCoordinate, maxCoordinate]
    omega
  rw [alignDown?, hrest, Option.bind_eq_bind, Option.bind_some, alignDown]
  refine coordinate?_eq ?_
  simp only [columnWidth, minCoordinate, maxCoordinate]
  omega

theorem alignUp?_eq {x : Int} (h : minCoordinate ≤ x ∧ x ≤ maxCoordinate) :
    alignUp? x = some (alignUp x) := by
  have hsum : cappedSum x (columnWidth - 1) = min (x + (columnWidth - 1)) maxCoordinate := by
    simp only [cappedSum, columnWidth, minCoordinate, maxCoordinate] at h ⊢
    omega
  rw [alignUp?, hsum, alignDown?_eq, alignUp]
  simp only [columnWidth, minCoordinate, maxCoordinate] at h ⊢
  omega

theorem align?_eq {r : Rect} (hr : r.Representable) (width height : Nat) :
    r.align? width height = some (r.align width height) := by
  obtain ⟨hx1, -, hx2, -⟩ := hr
  have hsize : ∀ n : Nat, minCoordinate ≤ min (n : Int) maxCoordinate ∧
      min (n : Int) maxCoordinate ≤ maxCoordinate := by
    intro n
    simp only [minCoordinate, maxCoordinate]
    omega
  have hleft : minCoordinate ≤ max r.x1 0 ∧ max r.x1 0 ≤ maxCoordinate := by
    simp only [minCoordinate, maxCoordinate] at hx1 ⊢
    omega
  rw [align?, align]
  split
  · rfl
  · simp only [coordinate?_eq (hsize _), alignDown?_eq (hsize _), alignDown?_eq hleft,
      alignUp?_eq hx2, Option.bind_eq_bind, Option.bind_some, lastColumn, lastRow]
    rfl

/-! ### What is covered -/

/-- The points of a rectangle that a framebuffer of this size can show: those in its whole columns.
-/
def visible (r : Rect) (width height : Nat) : Set Point :=
  { p | p ∈ r ∧ 0 ≤ p.x ∧ p.x < (min width 2147483647 / 16 * 16 : Nat) ∧
    0 ≤ p.y ∧ p.y < (min height 2147483647 : Nat) }

/-- A rectangle with both ends on whole columns that covers a set of points and lies inside every
other one that does. It begins in the row of the highest point and ends with that of the lowest. -/
structure LeastCover (s : Rect) (points : Set Point) : Prop where
  left_mod : s.x1 % 16 = 0
  right_mod : s.x2 % 16 = 0
  covers : ∀ p ∈ points, p ∈ s
  least : ∀ t : Rect, t.x1 % 16 = 0 → t.x2 % 16 = 0 → (∀ p ∈ points, p ∈ t) →
    t.contains s = true
  top : IsLeast (Point.y '' points) s.y1
  bottom : IsGreatest (Point.y '' points) (s.y2 - 1)

variable {r s : Rect} {width height : Nat}

theorem align_eq_empty_of_isEmpty (h : (r.align width height).isEmpty = true) :
    r.align width height = Rect.empty := by
  simp only [align] at h ⊢
  split
  · rfl
  next hr =>
  rw [if_neg hr] at h
  split
  · rfl
  next haligned => rw [if_neg haligned] at h; exact absurd h haligned

theorem mem_visible_iff {p : Point} : p ∈ r.visible width height ↔
    max r.x1 0 ≤ p.x ∧ p.x < min r.x2 (lastColumn width) ∧
      max r.y1 0 ≤ p.y ∧ p.y < min r.y2 (lastRow height) := by
  rw [visible, Set.mem_ofPred_eq, mem_iff]
  simp only [lastColumn, lastRow, alignDown, columnWidth, maxCoordinate]
  omega

/-- What can be shown of a rectangle is itself a rectangle, of which two corners lie farthest out.
-/
theorem corners_mem_visible (h : (r.visible width height).Nonempty) :
    ⟨max r.x1 0, max r.y1 0⟩ ∈ r.visible width height ∧
      ⟨min r.x2 (lastColumn width) - 1, min r.y2 (lastRow height) - 1⟩ ∈
        r.visible width height := by
  obtain ⟨p, hp⟩ := h
  simp only [mem_visible_iff] at hp ⊢
  omega

theorem isEmpty_align_iff : (r.align width height).isEmpty = false ↔
    (r.visible width height).Nonempty := by
  constructor
  · intro h
    obtain ⟨hcolumns, hrows⟩ := isEmpty_eq_false_iff.1 h
    have hr := isEmpty_eq_false_iff.1 (isEmpty_eq_false_of_align h)
    rw [align_of_nonempty h] at hcolumns hrows
    refine ⟨⟨max r.x1 0, max r.y1 0⟩, mem_visible_iff.2 ?_⟩
    simp only [alignDown, alignUp, columnWidth, lastColumn] at hcolumns hrows ⊢
    omega
  · rintro ⟨p, hp⟩
    have hmem : p ∈ r ∧ p ∈ usable width height := by
      simp only [mem_visible_iff, mem_iff, usable] at hp ⊢
      omega
    exact isEmpty_eq_false_of_mem (mem_align hmem.1 hmem.2)

/-- What can be shown of a rectangle has the aligned one as its least cover. -/
theorem leastCover_align (h : (r.visible width height).Nonempty) :
    (r.align width height).LeastCover (r.visible width height) := by
  have hnonempty := isEmpty_align_iff.2 h
  obtain ⟨hfirst, hlast⟩ := corners_mem_visible h
  have hright := lastColumn_mod width
  rw [align_of_nonempty hnonempty]
  refine ⟨?_, ?_, ?_, ?_, ⟨⟨_, hfirst, rfl⟩, ?_⟩, ⟨⟨_, hlast, rfl⟩, ?_⟩⟩
  · simp only [alignDown, columnWidth]
    omega
  · simp only [alignUp, alignDown, columnWidth]
    omega
  · intro p hp
    rw [mem_visible_iff] at hp
    simp only [mem_iff, alignUp, alignDown, lastColumn, columnWidth, maxCoordinate] at hp ⊢
    omega
  · -- a cover on whole columns has both corners, and so the whole columns that they are in
    intro t htleft htright ht
    have htfirst := ht _ hfirst
    have htlast := ht _ hlast
    rw [align_of_nonempty hnonempty] at hnonempty
    rw [contains_iff_of_nonempty hnonempty]
    simp only [mem_iff, alignUp, alignDown, columnWidth] at htfirst htlast ⊢
    omega
  · rintro _ ⟨p, hp, rfl⟩
    exact (mem_visible_iff.1 hp).2.2.1
  · rintro _ ⟨p, hp, rfl⟩
    exact Int.le_sub_one_of_lt (mem_visible_iff.1 hp).2.2.2

/-- An aligned rectangle lies in the whole columns of the framebuffer. -/
theorem align_inside (h : (r.align width height).isEmpty = false) :
    0 ≤ (r.align width height).x1 ∧
      (r.align width height).x2 ≤ (min width 2147483647 / 16 * 16 : Nat) ∧
      0 ≤ (r.align width height).y1 ∧
      (r.align width height).y2 ≤ (min height 2147483647 : Nat) := by
  rw [align_of_nonempty h]
  simp only [alignDown, lastColumn, lastRow, columnWidth, maxCoordinate]
  omega

theorem align_align (r : Rect) (width height : Nat) :
    (r.align width height).align width height = r.align width height := by
  cases hempty : (r.align width height).isEmpty with
  | true => rw [align_eq_empty_of_isEmpty hempty, align_of_isEmpty isEmpty_empty]
  | false =>
    obtain ⟨hleft, hright, htop, hbottom⟩ := align_inside hempty
    have hvisible : ((r.align width height).visible width height).Nonempty := by
      obtain ⟨p, hp⟩ := exists_mem_of_nonempty hempty
      rw [mem_iff] at hp
      exact ⟨p, by rw [visible, Set.mem_ofPred_eq, mem_iff]; omega⟩
    have hcover := leastCover_align (isEmpty_align_iff.1 hempty)
    rw [align_of_nonempty (isEmpty_align_iff.2 hvisible)]
    generalize r.align width height = s at *
    obtain ⟨hleftMod, hrightMod, -⟩ := hcover
    rcases s with ⟨x1, y1, x2, y2⟩
    simp only [alignUp, alignDown, lastColumn, lastRow, columnWidth, maxCoordinate, mk.injEq] at *
    omega

/-- Alignment of a rectangle inside another one stays inside the alignment of that. -/
theorem contains_align_of_contains (h : r.contains s = true) (width height : Nat) :
    (r.align width height).contains (s.align width height) = true := by
  cases hs : (s.align width height).isEmpty with
  | true => exact contains_of_isEmpty hs
  | false =>
    obtain ⟨hx1, hy1, hx2, hy2⟩ := (contains_iff_of_nonempty (isEmpty_eq_false_of_align hs)).1 h
    obtain ⟨p, hp⟩ := isEmpty_align_iff.1 hs
    have hvisible : ∀ p ∈ s.visible width height, p ∈ r.visible width height := by
      intro p hp
      simp only [mem_visible_iff] at hp ⊢
      omega
    have hcover := leastCover_align ⟨p, hvisible p hp⟩
    exact (leastCover_align ⟨p, hp⟩).least _ hcover.left_mod hcover.right_mod fun q hq =>
      hcover.covers q (hvisible q hq)

/-- Alignment finds the least rectangle on whole columns that covers what can be shown, or nothing
if there is nothing to show, and no step on its way leaves the range of coordinates. So aligning
again changes nothing, and less damage has no more to align. -/
theorem align_least (hr : r.Representable) (width height : Nat) :
    r.align? width height = some (r.align width height) ∧
      (r.align width height = Rect.empty ↔ r.visible width height = ∅) ∧
      ((r.visible width height).Nonempty →
        (r.align width height).LeastCover (r.visible width height) ∧
          0 ≤ (r.align width height).x1 ∧
          (r.align width height).x2 ≤ (min width 2147483647 / 16 * 16 : Nat) ∧
          0 ≤ (r.align width height).y1 ∧
          (r.align width height).y2 ≤ (min height 2147483647 : Nat)) ∧
      (r.align width height).align width height = r.align width height ∧
      ∀ s : Rect, r.contains s = true →
        (r.align width height).contains (s.align width height) = true := by
  refine ⟨align?_eq hr width height, ?_, fun h => ?_, align_align r width height, fun s hs => ?_⟩
  · rw [← Set.not_nonempty_iff_eq_empty, ← isEmpty_align_iff, Bool.not_eq_false]
    exact ⟨fun h => h ▸ isEmpty_empty, align_eq_empty_of_isEmpty⟩
  · exact ⟨leastCover_align h, align_inside (isEmpty_align_iff.2 h)⟩
  · exact contains_align_of_contains hs width height

/-- Damage up to the greatest coordinate, on a framebuffer whose last six pixels of a row are no
whole column. -/
theorem align_least_partialColumn :
    let r : Rect := ⟨-5, 700, 2147483647, 2147483647⟩
    r.Representable ∧ r.align? 1366 768 = some ⟨0, 700, 1360, 768⟩ ∧
      (⟨0, 700, 1360, 768⟩ : Rect).LeastCover (r.visible 1366 768) := by
  intro r
  have hr : r.Representable := by decide
  have haligned : r.align 1366 768 = ⟨0, 700, 1360, 768⟩ := by decide
  have hvisible : (r.visible 1366 768).Nonempty := ⟨⟨0, 700⟩, by decide, by decide⟩
  obtain ⟨hsteps, -, hcover, -⟩ := align_least hr 1366 768
  rw [haligned] at hsteps hcover
  exact ⟨hr, hsteps, (hcover hvisible).1⟩

end UsbDisplay.Rect
