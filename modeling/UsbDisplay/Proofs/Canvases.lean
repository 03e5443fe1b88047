import UsbDisplay.Command.Canvas
import UsbDisplay.Proofs.CheckedEncoding

/-!
Canvases and scenes, pixel by pixel. The rows of a canvas make a framebuffer with the pixels that
were drawn. The bands of the first frames are all rows above some row (`Band.exists_mem_iff`), and
in a scene that moves a row looks as the last frame has drawn it whose band it lay in
(`Scene.pixel_drawn`).
-/

namespace UsbDisplay

namespace Pieces

variable {pieces : List ByteArray} {size : Nat}

theorem size_join (h : ∀ p ∈ pieces, p.size = size) :
    (join pieces).size = pieces.length * size := by
  induction pieces with
  | nil => simp
  | cons p rest ih =>
    rw [join_cons, ByteArray.size_append, h p List.mem_cons_self,
      ih fun q hq => h q (List.mem_cons_of_mem _ hq), List.length_cons, Nat.succ_mul, Nat.add_comm]

/-- Pieces of one size are found again at multiples of that size. -/
theorem extract_join (h : ∀ p ∈ pieces, p.size = size) {i : Nat} (hi : i < pieces.length) :
    (join pieces).extract (i * size) (i * size + size) = pieces[i] := by
  induction pieces generalizing i with
  | nil => cases hi
  | cons p rest ih =>
    obtain rfl := h p List.mem_cons_self
    rw [join_cons]
    cases i with
    | zero =>
      rw [Nat.zero_mul, Nat.zero_add, ByteArray.extract_append_eq_left rfl]
      rfl
    | succ i =>
      have hrest := ih (fun q hq => h q (List.mem_cons_of_mem _ hq)) (Nat.lt_of_succ_lt_succ hi)
      rw [Nat.succ_mul, Nat.add_comm _ p.size, Nat.add_assoc,
        ByteArray.extract_append_size_add, hrest]
      rfl

end Pieces

namespace Pixel

theorem push_eq_append (out : ByteArray) (p : Pixel) : push out p = out ++ push .empty p := by
  apply ByteArray.ext
  apply Array.ext'
  simp [push]

theorem read_push_empty (p : Pixel) : read (push .empty p) 0 = p := by
  have hbytes : (push .empty p).data = #[p.toUInt8, (p / 256).toUInt8, (p / 65536).toUInt8,
    (p / 16777216).toUInt8] := rfl
  have hword := p.toNat_lt
  rw [read, dif_pos (by simp)]
  simp only [ByteArray.getElem_eq_getElem_data, hbytes]
  rw [← UInt32.toNat_inj]
  simp
  omega

theorem foldl_push (pixels : List Pixel) (out : ByteArray) :
    pixels.foldl push out = out ++ Pieces.join (pixels.map (push .empty)) := by
  induction pixels generalizing out with
  | nil => simp
  | cons p rest ih =>
    rw [List.foldl_cons, ih, push_eq_append, ByteArray.append_assoc, List.map_cons,
      Pieces.join_cons]

theorem bytes_eq_join (pixels : Array Pixel) :
    bytes pixels = Pieces.join (pixels.toList.map (push .empty)) := by
  rw [bytes, ← Array.foldl_toList, foldl_push]
  exact ByteArray.empty_append

theorem size_of_mem_words {pixels : Array Pixel} :
    ∀ w ∈ pixels.toList.map (push .empty), w.size = 4 := by
  intro w hw
  obtain ⟨p, -, rfl⟩ := List.mem_map.1 hw
  simp

theorem size_bytes (pixels : Array Pixel) : (bytes pixels).size = 4 * pixels.size := by
  rw [bytes_eq_join, Pieces.size_join size_of_mem_words, List.length_map, Array.length_toList,
    Nat.mul_comm]

theorem read_bytes {pixels : Array Pixel} {i : Nat} (hi : i < pixels.size) :
    read (bytes pixels) (4 * i) = pixels[i] := by
  have hlt : i < (pixels.toList.map (push .empty)).length := by simpa using hi
  have hword := Pieces.extract_join size_of_mem_words hlt
  rw [← bytes_eq_join] at hword
  have hstop : i * 4 + 4 ≤ (bytes pixels).size := by
    rw [size_bytes]
    omega
  have hread := Framebuffer.read_extract (i := 0) hstop (Nat.le_refl _)
  rw [hword, Nat.add_zero, Nat.mul_comm] at hread
  rw [← hread, List.getElem_map, Array.getElem_toList, read_push_empty]

end Pixel

namespace Command

open Canvas

theorem Canvas.gradientRow_eq (width phase y : Nat) :
    gradientRow width phase y =
      Pixel.bytes (Array.ofFn fun x : Fin width => (gradientColor phase x y).pixel) := by
  have hpixels : (List.ofFn fun x : Fin width => (gradientColor phase x y).pixel) =
      (List.finRange width).map fun x => (gradientColor phase x.val y).pixel := by
    rw [List.finRange, List.map_ofFn]
    rfl
  rw [gradientRow, Nat.fold_eq_finRange_foldl, Pixel.bytes, ← Array.foldl_toList,
    Array.toList_ofFn, Array.size_ofFn, hpixels, List.foldl_map]

namespace Band

instance : Membership Nat Band := ⟨fun b y => b.top ≤ y ∧ y < b.bottom⟩

theorem mem_iff {b : Band} {y : Nat} : y ∈ b ↔ b.top ≤ y ∧ y < b.bottom := Iff.rfl

instance (y : Nat) (b : Band) : Decidable (y ∈ b) := decidable_of_iff _ mem_iff.symm

theorem mem_ofFrame_iff {height frame y : Nat} : y ∈ ofFrame height frame ↔
    32 * frame % max height 1 ≤ y ∧ y < 32 * frame % max height 1 + 64 ∧ y < height := by
  rw [mem_iff, ofFrame, rowsPerBand, show frame * 64 / 2 = 32 * frame by omega]
  simp only
  omega

/-- The rows that the first frames damage. -/
def rowsDamaged (height frames : Nat) : Nat :=
  if frames = 0 then 0 else min height (32 * frames + 32)

/-- The bands of the first frames leave no row out above the lowest. -/
theorem exists_mem_iff {height frames y : Nat} :
    (∃ k < frames, y ∈ ofFrame height k) ↔ y < rowsDamaged height frames := by
  simp only [mem_ofFrame_iff, rowsDamaged]
  constructor
  · rintro ⟨k, hk, -, hbottom, hheight⟩
    have htop := Nat.mod_le (32 * k) (max height 1)
    rw [if_neg (by omega)]
    omega
  · intro hy
    split at hy
    · omega
    -- the band of this frame starts at or above the row, so it has not started again at the top
    refine ⟨min (y / 32) (frames - 1), by omega, ?_⟩
    rw [Nat.mod_eq_of_lt (by omega)]
    omega

theorem rowsDamaged_le_succ (height frames : Nat) :
    rowsDamaged height frames ≤ rowsDamaged height (frames + 1) := by
  simp only [rowsDamaged, Nat.succ_ne_zero, if_false]
  split <;> omega

theorem lt_rowsDamaged_succ {height frames y : Nat} :
    y < rowsDamaged height (frames + 1) ↔
      y < rowsDamaged height frames ∨ y ∈ ofFrame height frames := by
  simp only [← exists_mem_iff, Nat.lt_succ_iff_lt_or_eq]
  constructor
  · rintro ⟨k, hk | rfl, hmem⟩
    · exact .inl ⟨k, hk, hmem⟩
    · exact .inr hmem
  · rintro (⟨k, hk, hmem⟩ | hmem)
    · exact ⟨k, .inl hk, hmem⟩
    · exact ⟨frames, .inr rfl, hmem⟩

/-- The last of the first frames whose band has a row. -/
def lastFrame? (height y : Nat) : (frames : Nat) → Option Nat
  | 0 => none
  | frames + 1 =>
    if y ∈ ofFrame height frames then some frames else lastFrame? height y frames

theorem lastFrame?_eq_some_iff {height y frames k : Nat} :
    lastFrame? height y frames = some k ↔ k < frames ∧ y ∈ ofFrame height k ∧
      ∀ j, k < j → j < frames → y ∉ ofFrame height j := by
  induction frames with
  | zero => simp [lastFrame?]
  | succ frames ih =>
    rw [lastFrame?]
    split
    next hmem =>
      rw [Option.some.injEq]
      constructor
      · rintro rfl
        exact ⟨Nat.lt_succ_self _, hmem, by omega⟩
      · rintro ⟨hk, -, hlast⟩
        rcases Nat.lt_succ_iff_lt_or_eq.1 hk with hk | rfl
        · exact absurd hmem (hlast frames hk (Nat.lt_succ_self _))
        · rfl
    next hmem =>
      rw [ih]
      constructor
      · rintro ⟨hk, hin, hlast⟩
        refine ⟨by omega, hin, fun j hkj hj => ?_⟩
        rcases Nat.lt_succ_iff_lt_or_eq.1 hj with hj | rfl
        · exact hlast j hkj hj
        · exact hmem
      · rintro ⟨hk, hin, hlast⟩
        have hne : k ≠ frames := by
          rintro rfl
          exact hmem hin
        exact ⟨by omega, hin, fun j hkj hj => hlast j hkj (by omega)⟩

theorem lastFrame?_eq_none_iff {height y frames : Nat} :
    lastFrame? height y frames = none ↔ ∀ k < frames, y ∉ ofFrame height k := by
  induction frames with
  | zero => simp [lastFrame?]
  | succ frames ih =>
    rw [lastFrame?]
    split
    next hmem => exact ⟨fun h => (by cases h), fun h => absurd hmem (h frames (Nat.lt_succ_self _))⟩
    next hmem =>
      rw [ih]
      refine ⟨fun h k hk => ?_, fun h k hk => h k (Nat.lt_succ_of_lt hk)⟩
      rcases Nat.lt_succ_iff_lt_or_eq.1 hk with hk | rfl
      · exact h k hk
      · exact hmem

end Band

namespace Canvas

/-- A canvas that has all of its rows, each with all of its bytes. -/
structure Filled (c : Canvas) : Prop where
  height : c.rows.size = c.height
  width : ∀ row ∈ c.rows, row.size = 4 * c.width

def pixel (c : Canvas) (x y : Nat) : Pixel := Pixel.read (c.rows[y]?.getD .empty) (4 * x)

variable {c : Canvas}

theorem Filled.framebuffer (h : c.Filled) :
    ∃ fb, c.framebuffer = .ok fb ∧ fb.width = c.width ∧ fb.height = c.height ∧
      ∀ x y, x < c.width → y < c.height → fb.pixel x y = c.pixel x y := by
  have hrows : ∀ row ∈ c.rows.toList, row.size = 4 * c.width :=
    fun row hrow => h.width row (Array.mem_toList_iff.1 hrow)
  have hsize : (Pieces.join c.rows.toList).size = c.height * (4 * c.width) := by
    rw [Pieces.size_join hrows, Array.length_toList, h.height]
  have hextent : Framebuffer.extent c.width c.height (4 * c.width) ≤
      (Pieces.join c.rows.toList).size := by
    rw [hsize, Nat.mul_comm c.height]
    exact Framebuffer.extent_dense_le ..
  refine ⟨⟨c.width, c.height, 4 * c.width, Pieces.join c.rows.toList, Nat.le_refl _, hextent⟩,
    ?_, rfl, rfl, ?_⟩
  · rw [Canvas.framebuffer, Framebuffer.dense, dif_pos hextent]
  · intro x y hx hy
    have hlt : y < c.rows.toList.length := by simpa [h.height] using hy
    have hrow := Pieces.extract_join hrows hlt
    have hstop : y * (4 * c.width) + 4 * c.width ≤ (Pieces.join c.rows.toList).size := by
      rw [hsize, ← Nat.succ_mul]
      exact Nat.mul_le_mul_right _ hy
    have hread := Framebuffer.read_extract hstop
      (show y * (4 * c.width) + 4 * x + 4 ≤ y * (4 * c.width) + 4 * c.width by omega)
    rw [hrow] at hread
    rw [Framebuffer.pixel, Framebuffer.offset, ← hread, Canvas.pixel,
      Array.getElem?_eq_getElem (h.height ▸ hy)]
    rfl

theorem Filled.of_framebuffer (h : c.Filled) {fb : Framebuffer} (hfb : c.framebuffer = .ok fb) :
    fb.width = c.width ∧ fb.height = c.height ∧
      ∀ x y, x < c.width → y < c.height → fb.pixel x y = c.pixel x y := by
  obtain ⟨fb', hfb', hpixels⟩ := h.framebuffer
  rw [hfb] at hfb'
  cases hfb'
  exact hpixels

theorem size_gradientRow (width phase y : Nat) : (gradientRow width phase y).size = 4 * width := by
  rw [gradientRow_eq, Pixel.size_bytes, Array.size_ofFn]

theorem read_gradientRow {width x : Nat} (hx : x < width) (phase y : Nat) :
    Pixel.read (gradientRow width phase y) (4 * x) = (gradientColor phase x y).pixel := by
  rw [gradientRow_eq, Pixel.read_bytes (by simpa using hx), Array.getElem_ofFn]

theorem getElem?_foldl_setIfInBounds (draw : Nat → ByteArray) (ys : List Nat)
    (rows : Array ByteArray) (y : Nat) :
    (ys.foldl (fun rows y => rows.setIfInBounds y (draw y)) rows)[y]? =
      if y ∈ ys then rows[y]?.map fun _ => draw y else rows[y]? := by
  induction ys generalizing rows with
  | nil => simp
  | cons first rest ih =>
    rw [List.foldl_cons, ih, Array.getElem?_setIfInBounds]
    by_cases hfirst : first = y
    · subst hfirst
      by_cases hlt : first < rows.size <;> simp [hlt]
    · simp [hfirst, Ne.symm hfirst]

/-- The rows of a band are drawn anew, as far as they are there, and the others stay. -/
theorem getElem?_rows_redraw (c : Canvas) (band : Band) (phase y : Nat) :
    (c.redraw band phase).rows[y]? =
      if y ∈ band then c.rows[y]?.map fun _ => gradientRow c.width phase y else c.rows[y]? := by
  have hmem : y ∈ List.range' band.top (band.bottom - band.top) ↔ y ∈ band := by
    rw [List.mem_range'_1, Band.mem_iff]
    omega
  rw [redraw, getElem?_foldl_setIfInBounds]
  simp only [hmem]

theorem size_rows_redraw (c : Canvas) (band : Band) (phase : Nat) :
    (c.redraw band phase).rows.size = c.rows.size := by
  simp only [redraw]
  generalize c.rows = rows
  generalize List.range' band.top (band.bottom - band.top) = ys
  induction ys generalizing rows with
  | nil => rfl
  | cons y rest ih =>
    rw [List.foldl_cons, ih, Array.size_setIfInBounds]

theorem Filled.redraw (h : c.Filled) (band : Band) (phase : Nat) :
    (c.redraw band phase).Filled := by
  refine ⟨(c.size_rows_redraw band phase).trans h.height, fun row hrow => ?_⟩
  obtain ⟨y, hy⟩ := Array.mem_iff_getElem?.1 hrow
  rw [getElem?_rows_redraw] at hy
  split at hy
  · obtain ⟨_, -, rfl⟩ := Option.map_eq_some_iff.1 hy
    exact size_gradientRow ..
  · exact h.width row (Array.mem_of_getElem? hy)

theorem Filled.pixel_redraw (h : c.Filled) {x y : Nat} (hx : x < c.width) (hy : y < c.height)
    (band : Band) (phase : Nat) :
    (c.redraw band phase).pixel x y =
      if y ∈ band then (gradientColor phase x y).pixel else c.pixel x y := by
  rw [pixel, getElem?_rows_redraw, Array.getElem?_eq_getElem (h.height ▸ hy)]
  split
  · exact read_gradientRow hx phase y
  · rw [pixel, Array.getElem?_eq_getElem (h.height ▸ hy)]

end Canvas

namespace Scene

open Canvas

variable {s : Scene}

@[simp] theorem width_draw (s : Scene) (frame : Nat) :
    (s.draw frame).canvas.width = s.canvas.width := by
  rw [draw]
  split <;> rfl

@[simp] theorem height_draw (s : Scene) (frame : Nat) :
    (s.draw frame).canvas.height = s.canvas.height := by
  rw [draw]
  split <;> rfl

@[simp] theorem damage_draw (s : Scene) (frame k : Nat) :
    (s.draw frame).damage k = s.damage k := by
  simp only [damage, width_draw, height_draw]

theorem filled_draw (h : s.canvas.Filled) (frame : Nat) : (s.draw frame).canvas.Filled := by
  rw [draw]
  split
  · exact h.redraw ..
  · exact h

theorem pixel_draw (h : s.canvas.Filled) {x y : Nat} (hx : x < s.canvas.width)
    (hy : y < s.canvas.height) (frame : Nat) :
    (s.draw frame).canvas.pixel x y =
      if s.isMoving = true ∧ y ∈ Band.ofFrame s.canvas.height frame then
        (gradientColor (phaseOfFrame frame) x y).pixel
      else s.canvas.pixel x y := by
  rw [draw]
  split
  next hmoving => simp [h.pixel_redraw hx hy, hmoving]
  next hstill => simp [hstill]

/-- A scene after so many frames. -/
def drawn (s : Scene) : (frames : Nat) → Scene
  | 0 => s
  | frames + 1 => (s.drawn frames).draw frames

@[simp] theorem width_drawn (s : Scene) (frames : Nat) :
    (s.drawn frames).canvas.width = s.canvas.width := by
  induction frames with
  | zero => rfl
  | succ frames ih => exact (width_draw ..).trans ih

@[simp] theorem height_drawn (s : Scene) (frames : Nat) :
    (s.drawn frames).canvas.height = s.canvas.height := by
  induction frames with
  | zero => rfl
  | succ frames ih => exact (height_draw ..).trans ih

theorem filled_drawn (h : s.canvas.Filled) (frames : Nat) : (s.drawn frames).canvas.Filled := by
  induction frames with
  | zero => exact h
  | succ frames ih => exact filled_draw ih frames

/-- The damage of a frame is its band. -/
theorem mem_damage_iff (hheight : s.canvas.height < 2147483648)
    (hwidth : s.canvas.width < 2147483648) {x : Nat} (hx : x < s.canvas.width) (frame y : Nat) :
    (⟨x, y⟩ : Point) ∈ s.damage frame ↔ y ∈ Band.ofFrame s.canvas.height frame := by
  have htop : (Band.ofFrame s.canvas.height frame).top < 2147483648 := by
    have hmod := Nat.mod_lt (frame * Band.rowsPerBand / 2)
      (show 0 < max s.canvas.height 1 by omega)
    simp only [Band.ofFrame]
    omega
  have hbottom : (Band.ofFrame s.canvas.height frame).bottom < 2147483648 := by
    simp only [Band.ofFrame]
    omega
  rw [damage, Band.rect, Rect.coordinateOfSize_of_lt htop, Rect.coordinateOfSize_of_lt hbottom,
    Rect.coordinateOfSize_of_lt hwidth, Rect.mem_iff, Band.mem_iff]
  simp only
  omega

theorem y2_damage_le (hheight : s.canvas.height < 2147483648) (frame : Nat) :
    (s.damage frame).y2 ≤ Band.rowsDamaged s.canvas.height (frame + 1) := by
  have htop := Nat.mod_le (frame * Band.rowsPerBand / 2) (max s.canvas.height 1)
  have hbottom : (Band.ofFrame s.canvas.height frame).bottom ≤
      Band.rowsDamaged s.canvas.height (frame + 1) := by
    simp only [Band.ofFrame, Band.rowsDamaged, Band.rowsPerBand] at htop ⊢
    rw [if_neg (by omega)]
    omega
  have hsmall : (Band.ofFrame s.canvas.height frame).bottom < 2147483648 := by
    simp only [Band.ofFrame]
    omega
  rw [damage, Band.rect, Rect.coordinateOfSize_of_lt hsmall]
  exact Int.ofNat_le.2 hbottom

end Scene

end Command

end UsbDisplay
