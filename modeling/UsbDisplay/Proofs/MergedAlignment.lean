import Mathlib.Data.List.Forall2
import Mathlib.Order.MinMax
import UsbDisplay.Proofs.LeastAlignment

/-!
Alignment of merged damage. Rounding to columns and clipping never put two bounds into the other
order, so they can be done before or after the bounding box is taken (`Rect.align_union`). Only a
rectangle that disappears in alignment makes a difference: it stretches a bounding box from outside
of the framebuffer, and adds nothing once it is aligned. Where no member of a list disappears, it
does not matter which of them have been aligned before they are merged
(`Rect.align_unionAll_exchange`).
-/

namespace UsbDisplay.Rect

variable {r s t : Rect} {width height : Nat}

/-! ### What a union contains -/

theorem contains_self (r : Rect) : r.contains r = true := by
  cases hr : r.isEmpty with
  | true => exact contains_of_isEmpty hr
  | false =>
    rw [contains_iff_of_nonempty hr]
    exact ⟨Int.le_refl _, Int.le_refl _, Int.le_refl _, Int.le_refl _⟩

theorem contains_trans (hrs : r.contains s = true) (hst : s.contains t = true) :
    r.contains t = true := by
  cases ht : t.isEmpty with
  | true => exact contains_of_isEmpty ht
  | false =>
    have hbounds := (contains_iff_of_nonempty ht).1 hst
    have hs : s.isEmpty = false := by
      rw [isEmpty_eq_false_iff] at ht ⊢
      omega
    rw [contains_iff_of_nonempty hs] at hrs
    rw [contains_iff_of_nonempty ht]
    omega

theorem contains_union_left (r s : Rect) : (r ∪ s).contains r = true := by
  cases hr : r.isEmpty with
  | true => exact contains_of_isEmpty hr
  | false =>
    cases hs : s.isEmpty with
    | true => rw [union_of_isEmpty_right hr hs, contains_self]
    | false =>
      rw [union_of_nonempty hr hs, contains_iff_of_nonempty hr]
      exact ⟨Int.min_le_left .., Int.min_le_left .., Int.le_max_left .., Int.le_max_left ..⟩

theorem contains_union_right (r s : Rect) : (r ∪ s).contains s = true := by
  cases hs : s.isEmpty with
  | true => exact contains_of_isEmpty hs
  | false =>
    cases hr : r.isEmpty with
    | true => rw [union_of_isEmpty_left hr, contains_self]
    | false =>
      rw [union_of_nonempty hr hs, contains_iff_of_nonempty hs]
      exact ⟨Int.min_le_right .., Int.min_le_right .., Int.le_max_right .., Int.le_max_right ..⟩

theorem contains_foldl_union (rects : List Rect) (start : Rect) :
    (rects.foldl (· ∪ ·) start).contains start = true := by
  induction rects generalizing start with
  | nil => exact contains_self start
  | cons r rest ih => exact contains_trans (ih (start ∪ r)) (contains_union_left start r)

/-- The union of a list contains each of its members. -/
theorem contains_unionAll {rects : List Rect} (h : r ∈ rects) :
    (unionAll rects).contains r = true := by
  suffices ∀ start : Rect, (rects.foldl (· ∪ ·) start).contains r = true from this Rect.empty
  intro start
  induction rects generalizing start with
  | nil => cases h
  | cons s rest ih =>
    rcases List.mem_cons.1 h with rfl | h
    · exact contains_trans (contains_foldl_union rest _) (contains_union_right start r)
    · exact ih h (start ∪ s)

/-! ### Two rectangles -/

theorem alignDown_le_alignDown {x y : Int} (h : x ≤ y) : alignDown x ≤ alignDown y := by
  simp only [alignDown, columnWidth]
  omega

theorem alignUp_le_alignUp {x y : Int} (h : x ≤ y) : alignUp x ≤ alignUp y := by
  apply alignDown_le_alignDown
  exact min_le_min_right _ (Int.add_le_add_right h _)

/-- A rectangle of which alignment leaves something, unless it is empty from the start. -/
def Remains (r : Rect) (width height : Nat) : Prop :=
  r.isEmpty = false → (r.align width height).isEmpty = false

/-- The bounding box of two rectangles can be aligned as a whole or in its parts. -/
theorem align_union (hr : r.Remains width height) (hs : s.Remains width height) :
    (r ∪ s).align width height = r.align width height ∪ s.align width height := by
  cases hrEmpty : r.isEmpty with
  | true =>
    rw [union_of_isEmpty_left hrEmpty, align_of_isEmpty hrEmpty, empty_union]
  | false =>
    have hr := hr hrEmpty
    cases hsEmpty : s.isEmpty with
    | true =>
      rw [union_of_isEmpty_right hrEmpty hsEmpty, align_of_isEmpty hsEmpty,
        union_empty_of_nonempty hr]
    | false =>
      have hs := hs hsEmpty
      have hunion := isEmpty_align_union s hr
      have hdown : Monotone alignDown := fun _ _ => alignDown_le_alignDown
      have hup : Monotone alignUp := fun _ _ => alignUp_le_alignUp
      have hleft : Monotone fun x => alignDown (max x 0) :=
        hdown.comp (monotone_id.max monotone_const)
      have htop : Monotone fun y : Int => max y 0 := monotone_id.max monotone_const
      have hright : Monotone fun x => min (alignUp x) (lastColumn width) :=
        hup.min monotone_const
      have hbottom : Monotone fun y : Int => min y (lastRow height) :=
        monotone_id.min monotone_const
      rw [union_of_nonempty hr hs, align_of_nonempty hunion, align_of_nonempty hr,
        align_of_nonempty hs, union_of_nonempty hrEmpty hsEmpty]
      -- each bound of the box is a monotone image of the same bound of its parts
      congr 1
      · exact hleft.map_min
      · exact htop.map_min
      · exact hright.map_max
      · exact hbottom.map_max

theorem Remains.union (hr : r.Remains width height) (hs : s.Remains width height) :
    (r ∪ s).Remains width height := by
  intro hunion
  cases hrEmpty : r.isEmpty with
  | true =>
    rw [union_of_isEmpty_left hrEmpty] at hunion ⊢
    exact hs hunion
  | false => exact isEmpty_align_union s (hr hrEmpty)

/-! ### Lists -/

variable {rects mixed : List Rect}

theorem align_foldl_union {start : Rect} (hstart : start.Remains width height)
    (h : ∀ r ∈ rects, r.Remains width height) :
    (rects.foldl (· ∪ ·) start).align width height =
      (rects.map (·.align width height)).foldl (· ∪ ·) (start.align width height) := by
  induction rects generalizing start with
  | nil => rfl
  | cons r rest ih =>
    have hr := h r List.mem_cons_self
    rw [List.foldl_cons, List.map_cons, List.foldl_cons, ← align_union hstart hr]
    apply ih (hstart.union hr)
    exact fun s hs => h s (List.mem_cons_of_mem r hs)

/-- Merged damage can be aligned as a whole or in its parts, if no part disappears. -/
theorem align_unionAll (h : ∀ r ∈ rects, r.Remains width height) :
    (unionAll rects).align width height = unionAll (rects.map (·.align width height)) := by
  have hempty : Rect.empty.Remains width height := by
    intro hnonempty
    rw [isEmpty_empty] at hnonempty
    cases hnonempty
  have hfold := align_foldl_union hempty h
  rwa [align_of_isEmpty isEmpty_empty] at hfold

-- Damage below a framebuffer of 768 rows, which alignment lets disappear, stretches the box.
example :
    let rects : List Rect := [⟨0, 0, 16, 4⟩, ⟨0, 900, 16, 901⟩]
    (unionAll rects).align 16 768 = ⟨0, 0, 16, 768⟩ ∧
      unionAll (rects.map (·.align 16 768)) = ⟨0, 0, 16, 4⟩ := by decide

/-- `mixed` is the list `rects`, with any of its members aligned. -/
def PartlyAligned (width height : Nat) (rects mixed : List Rect) : Prop :=
  List.Forall₂ (fun r s => s = r ∨ s = r.align width height) rects mixed

/-- Aligning all members makes up for those that were aligned before. -/
theorem PartlyAligned.map_align (h : PartlyAligned width height rects mixed) :
    mixed.map (·.align width height) = rects.map (·.align width height) := by
  induction h with
  | nil => rfl
  | cons hmember _ ih =>
    rw [List.map_cons, List.map_cons, ih]
    rcases hmember with rfl | rfl
    · rfl
    · rw [align_align]

theorem PartlyAligned.remains (h : PartlyAligned width height rects mixed)
    (hrects : ∀ r ∈ rects, (r.align width height).isEmpty = false) :
    ∀ s ∈ mixed, s.Remains width height := by
  intro s hs _
  have haligned : s.align width height ∈ rects.map (·.align width height) := by
    rw [← h.map_align]
    exact List.mem_map_of_mem hs
  obtain ⟨r, hr, heq⟩ := List.mem_map.1 haligned
  exact heq ▸ hrects r hr

/-- The aligned union of a list covers the aligned members. If none of these is empty, it is their
union, and it stays the same when any of the members are aligned before they are merged. -/
theorem align_unionAll_exchange (rects : List Rect) (width height : Nat) :
    (∀ r ∈ rects,
      ((unionAll rects).align width height).contains (r.align width height) = true) ∧
    ((∀ r ∈ rects, (r.align width height).isEmpty = false) →
      (unionAll rects).align width height = unionAll (rects.map (·.align width height)) ∧
      ∀ mixed, PartlyAligned width height rects mixed →
        (unionAll mixed).align width height = (unionAll rects).align width height) := by
  refine ⟨fun r hr => contains_align_of_contains (contains_unionAll hr) width height, ?_⟩
  intro hrects
  have hall : (unionAll rects).align width height = unionAll (rects.map (·.align width height)) :=
    align_unionAll fun r hr _ => hrects r hr
  refine ⟨hall, fun mixed hmixed => ?_⟩
  calc (unionAll mixed).align width height
      = unionAll (mixed.map (·.align width height)) := align_unionAll (hmixed.remains hrects)
    _ = unionAll (rects.map (·.align width height)) := by rw [hmixed.map_align]
    _ = (unionAll rects).align width height := hall.symm

/-- Damage beyond three edges of a framebuffer, and damage that came back after it was aligned. -/
theorem align_unionAll_exchange_cameBack :
    let rects : List Rect := [⟨-5, 700, 20, 2147483647⟩, ⟨1350, 3, 2147483647, 9⟩]
    let mixed : List Rect := [⟨-5, 700, 20, 2147483647⟩, ⟨1344, 3, 1360, 9⟩]
    (∀ r ∈ rects, (r.align 1366 768).isEmpty = false) ∧ PartlyAligned 1366 768 rects mixed ∧
      unionAll (rects.map (·.align 1366 768)) = ⟨0, 3, 1360, 768⟩ ∧
      (unionAll rects).align 1366 768 = ⟨0, 3, 1360, 768⟩ ∧
      (unionAll mixed).align 1366 768 = ⟨0, 3, 1360, 768⟩ := by
  intro rects mixed
  have hrects : ∀ r ∈ rects, (r.align 1366 768).isEmpty = false := by decide
  have hmixed : PartlyAligned 1366 768 rects mixed :=
    .cons (.inl rfl) (.cons (.inr (by decide)) .nil)
  have haligned : unionAll (rects.map (·.align 1366 768)) = ⟨0, 3, 1360, 768⟩ := by decide
  obtain ⟨-, hexchange⟩ := align_unionAll_exchange rects 1366 768
  obtain ⟨hall, hsome⟩ := hexchange hrects
  have hunion := hall.trans haligned
  exact ⟨hrects, hmixed, haligned, hunion, (hsome mixed hmixed).trans hunion⟩

end UsbDisplay.Rect
