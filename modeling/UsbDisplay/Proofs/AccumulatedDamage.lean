import UsbDisplay.Proofs.MergedAlignment

/-!
Accumulated damage is the least rectangle that contains it. Two rectangles that contain each other
are the same unless they are empty, so a least bound is decided by what it bounds: neither the order
of the members matters, nor how often one of them comes, nor which of them are merged before the
others (`Rect.unionAll_least`). Damage without area has many forms, and which of them is left over
does depend on the order.
-/

namespace UsbDisplay.Rect

variable {r s t : Rect} {rects others : List Rect}

/-! ### Least bounds -/

theorem isEmpty_of_contains (h : r.contains s = true) (hr : r.isEmpty = true) :
    s.isEmpty = true := by
  simpa only [contains, hr, Bool.not_true, Bool.false_and, Bool.or_false] using h

/-- Containment is antisymmetric on rectangles with area. -/
theorem eq_of_contains (hr : r.isEmpty = false) (hrs : r.contains s = true)
    (hsr : s.contains r = true) : r = s := by
  cases hs : s.isEmpty with
  | true => exact absurd (isEmpty_of_contains hsr hs) (by rw [hr]; exact Bool.false_ne_true)
  | false =>
    have hinner := (contains_iff_of_nonempty hs).1 hrs
    have houter := (contains_iff_of_nonempty hr).1 hsr
    rcases r with ⟨x1, y1, x2, y2⟩
    rcases s with ⟨u1, v1, u2, v2⟩
    simp only [mk.injEq] at hinner houter ⊢
    omega

theorem contains_union (hr : t.contains r = true) (hs : t.contains s = true) :
    t.contains (r ∪ s) = true := by
  cases hrEmpty : r.isEmpty with
  | true => rwa [union_of_isEmpty_left hrEmpty]
  | false =>
    cases hsEmpty : s.isEmpty with
    | true => rwa [union_of_isEmpty_right hrEmpty hsEmpty]
    | false =>
      rw [contains_iff_of_nonempty hrEmpty] at hr
      rw [contains_iff_of_nonempty hsEmpty] at hs
      rw [contains_iff_of_nonempty (isEmpty_union hrEmpty hsEmpty),
        union_of_nonempty hrEmpty hsEmpty]
      simp only
      omega

/-- A rectangle contains the members of a list, and lies inside every other one that does. -/
structure LeastBound (s : Rect) (rects : List Rect) : Prop where
  contains_mem : ∀ r ∈ rects, s.contains r = true
  least : ∀ t : Rect, (∀ r ∈ rects, t.contains r = true) → t.contains s = true

namespace LeastBound

/-- What bounds nothing but rectangles without area lies inside the empty rectangle. -/
theorem isEmpty_iff (h : LeastBound s rects) :
    s.isEmpty = true ↔ ∀ r ∈ rects, r.isEmpty = true := by
  constructor
  · exact fun hs r hr => isEmpty_of_contains (h.contains_mem r hr) hs
  · intro hall
    have hempty : Rect.empty.contains s = true :=
      h.least Rect.empty fun r hr => contains_of_isEmpty (hall r hr)
    exact isEmpty_of_contains hempty isEmpty_empty

theorem nonempty (h : LeastBound s rects) (hr : r ∈ rects) (hrEmpty : r.isEmpty = false) :
    s.isEmpty = false := by
  rw [← Bool.not_eq_true, h.isEmpty_iff]
  intro hall
  rw [hall r hr] at hrEmpty
  cases hrEmpty

theorem nil : LeastBound Rect.empty [] :=
  ⟨fun _ hr => absurd hr List.not_mem_nil, fun _ _ => contains_of_isEmpty isEmpty_empty⟩

theorem single (r : Rect) : LeastBound r [r] where
  contains_mem := by
    intro s hs
    rw [List.mem_singleton.1 hs]
    exact contains_self r
  least _ ht := ht r (List.mem_singleton_self r)

theorem union (hr : LeastBound r rects) (hs : LeastBound s others) :
    LeastBound (r ∪ s) (rects ++ others) where
  contains_mem := by
    intro t ht
    rcases List.mem_append.1 ht with ht | ht
    · exact contains_trans (contains_union_left r s) (hr.contains_mem t ht)
    · exact contains_trans (contains_union_right r s) (hs.contains_mem t ht)
  least t ht := by
    have hfirst := hr.least t fun q hq => ht q (List.mem_append_left others hq)
    have hsecond := hs.least t fun q hq => ht q (List.mem_append_right rects hq)
    exact contains_union hfirst hsecond

/-- A least bound depends on which rectangles there are, and on nothing else. -/
theorem congr (h : LeastBound s rects) (same : ∀ r, r ∈ others ↔ r ∈ rects) :
    LeastBound s others where
  contains_mem r hr := h.contains_mem r ((same r).1 hr)
  least t ht := h.least t fun r hr => ht r ((same r).2 hr)

theorem unique (hs : LeastBound s rects) (ht : LeastBound t rects) (hsEmpty : s.isEmpty = false) :
    s = t :=
  eq_of_contains hsEmpty (ht.least s hs.contains_mem) (hs.least t ht.contains_mem)

end LeastBound

/-! ### Ways to merge -/

theorem Representable.union (hr : r.Representable) (hs : s.Representable) :
    (r ∪ s).Representable := by
  cases hrEmpty : r.isEmpty with
  | true => rwa [union_of_isEmpty_left hrEmpty]
  | false =>
    cases hsEmpty : s.isEmpty with
    | true => rwa [union_of_isEmpty_right hrEmpty hsEmpty]
    | false =>
      rw [union_of_nonempty hrEmpty hsEmpty]
      simp only [Representable] at hr hs ⊢
      omega

/-- A way to merge rectangles two at a time. -/
inductive Merging where
  | nothing
  | single (r : Rect)
  | merge (first second : Merging)

namespace Merging

/-- The rectangles that are merged, from left to right. -/
def members : Merging → List Rect
  | nothing => []
  | single r => [r]
  | merge first second => first.members ++ second.members

/-- What the rectangles are merged into. -/
def total : Merging → Rect
  | nothing => Rect.empty
  | single r => r
  | merge first second => first.total ∪ second.total

theorem leastBound_total (m : Merging) : LeastBound m.total m.members := by
  induction m with
  | nothing => exact .nil
  | single r => exact .single r
  | merge first second hfirst hsecond => exact hfirst.union hsecond

/-- Coordinates of 32 bits are enough for whatever is merged. -/
theorem representable_total {m : Merging} (h : ∀ r ∈ m.members, r.Representable) :
    m.total.Representable := by
  induction m with
  | nothing =>
    rw [total]
    decide
  | single r => exact h r (List.mem_singleton_self r)
  | merge first second hfirst hsecond =>
    have hleft := hfirst fun r hr => h r (List.mem_append_left _ hr)
    have hright := hsecond fun r hr => h r (List.mem_append_right _ hr)
    exact hleft.union hright

/-- Each rectangle is merged with all that came before it. -/
def inTurn (rects : List Rect) : Merging :=
  rects.foldl (fun m r => .merge m (.single r)) .nothing

theorem members_inTurn (rects : List Rect) : (inTurn rects).members = rects := by
  suffices ∀ m : Merging,
      (rects.foldl (fun m r => .merge m (.single r)) m).members = m.members ++ rects from
    this .nothing
  intro m
  induction rects generalizing m with
  | nil => exact (List.append_nil _).symm
  | cons r rest ih => rw [List.foldl_cons, ih, members, members, List.append_assoc]; rfl

theorem total_inTurn (rects : List Rect) : (inTurn rects).total = unionAll rects := by
  suffices ∀ m : Merging,
      (rects.foldl (fun m r => .merge m (.single r)) m).total = rects.foldl (· ∪ ·) m.total from
    this .nothing
  intro m
  induction rects generalizing m with
  | nil => rfl
  | cons r rest ih => exact ih (.merge m (.single r))

end Merging

theorem leastBound_unionAll (rects : List Rect) : LeastBound (unionAll rects) rects := by
  have h := (Merging.inTurn rects).leastBound_total
  rwa [Merging.total_inTurn, Merging.members_inTurn] at h

/-- The union of a list contains its members, lies inside everything else that does, and is empty
exactly if they all are. However the same rectangles are ordered and grouped, they are merged into
this very rectangle if one of them has area, and into an empty one if none has, in coordinates of 32
bits if theirs are. -/
theorem unionAll_least (rects : List Rect) :
    (∀ r ∈ rects, (unionAll rects).contains r = true) ∧
      (∀ t : Rect, (∀ r ∈ rects, t.contains r = true) → t.contains (unionAll rects) = true) ∧
      ((unionAll rects).isEmpty = true ↔ ∀ r ∈ rects, r.isEmpty = true) ∧
      (∀ others : List Rect, others.Perm rects →
        ((∃ r ∈ rects, r.isEmpty = false) → unionAll others = unionAll rects) ∧
          ((∀ r ∈ rects, r.isEmpty = true) → (unionAll others).isEmpty = true)) ∧
      ∀ m : Merging, m.members.Perm rects →
        ((∃ r ∈ rects, r.isEmpty = false) → m.total = unionAll rects) ∧
          ((∀ r ∈ rects, r.isEmpty = true) → m.total.isEmpty = true) ∧
          ((∀ r ∈ rects, r.Representable) → m.total.Representable) := by
  have hbound := leastBound_unionAll rects
  have hmerged : ∀ m : Merging, m.members.Perm rects →
      ((∃ r ∈ rects, r.isEmpty = false) → m.total = unionAll rects) ∧
        ((∀ r ∈ rects, r.isEmpty = true) → m.total.isEmpty = true) := by
    intro m hm
    have htotal : LeastBound m.total rects :=
      m.leastBound_total.congr fun _ => hm.mem_iff.symm
    refine ⟨?_, htotal.isEmpty_iff.2⟩
    rintro ⟨r, hr, hrEmpty⟩
    exact htotal.unique hbound (htotal.nonempty hr hrEmpty)
  refine ⟨hbound.contains_mem, hbound.least, hbound.isEmpty_iff, fun others hothers => ?_,
    fun m hm => ?_⟩
  · have hturn := hmerged (.inTurn others) (by rwa [Merging.members_inTurn])
    rwa [Merging.total_inTurn] at hturn
  · obtain ⟨hsame, hempty⟩ := hmerged m hm
    refine ⟨hsame, hempty, fun hrects => ?_⟩
    exact Merging.representable_total fun r hr => hrects r (hm.mem_iff.1 hr)

/-- Four rectangles, two of them without area, merged from the right in pairs. -/
theorem unionAll_least_pairs :
    let rects : List Rect :=
      [⟨5, 5, 5, 10⟩, ⟨10, 20, 30, 2147483647⟩, ⟨40, 3, 2, 1⟩, ⟨-7, 35, 25, 100⟩]
    let m : Merging := .merge (.merge (.single ⟨-7, 35, 25, 100⟩) (.single ⟨40, 3, 2, 1⟩))
      (.merge (.single ⟨10, 20, 30, 2147483647⟩) (.merge .nothing (.single ⟨5, 5, 5, 10⟩)))
    m.members.Perm rects ∧ (∃ r ∈ rects, r.isEmpty = false) ∧ (∀ r ∈ rects, r.Representable) ∧
      m.total = unionAll rects ∧ unionAll rects = ⟨-7, 20, 30, 2147483647⟩ ∧
      unionAll rects.reverse = unionAll rects ∧
      (⟨-8, 20, 30, 2147483647⟩ : Rect).contains (unionAll rects) = true ∧
      m.total.Representable := by
  intro rects m
  have hperm : m.members.Perm rects := by decide
  have hsome : ∃ r ∈ rects, r.isEmpty = false := ⟨⟨-7, 35, 25, 100⟩, by decide, by decide⟩
  have hrects : ∀ r ∈ rects, r.Representable := by decide
  obtain ⟨-, hleast, -, hothers, hmerged⟩ := unionAll_least rects
  obtain ⟨hsame, -, hrepresentable⟩ := hmerged m hperm
  exact ⟨hperm, hsome, hrects, hsame hsome, by decide,
    (hothers rects.reverse (List.reverse_perm rects)).1 hsome, hleast _ (by decide),
    hrepresentable hrects⟩

-- Of rectangles without area the last one is left over.
example : unionAll [⟨5, 5, 5, 10⟩, ⟨40, 3, 2, 1⟩] = ⟨40, 3, 2, 1⟩ ∧
    unionAll [⟨40, 3, 2, 1⟩, ⟨5, 5, 5, 10⟩] = ⟨5, 5, 5, 10⟩ := by decide

end UsbDisplay.Rect
