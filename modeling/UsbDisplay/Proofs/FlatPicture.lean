import UsbDisplay.Proofs.PacketFormat
import UsbDisplay.Proofs.Painting

/-!
Pictures in one run of pixels. The pixels of a picture lie row behind row in an array, and an update
is painted into it pixel by pixel, each row up to the right edge and the rows up to the lower one.
Every store looks at the bounds of the array first. None is ever out of bounds, no row runs over
into the next, and what comes out is the picture with the update (`Frame.paint?_raster`).
-/

namespace UsbDisplay

/-- The pixels of a picture, row behind row. -/
structure Raster where
  width : Nat
  height : Nat
  pixels : Array Pixel

namespace Raster

def blank (width height : Nat) : Raster := ⟨width, height, Array.replicate (width * height) 0⟩

def pixel? (r : Raster) (x y : Nat) : Option Pixel :=
  if x < r.width ∧ y < r.height then r.pixels[y * r.width + x]? else none

/-- Stores a pixel; `none` would be a store out of bounds. -/
def store? (r : Raster) (i : Nat) (p : Pixel) : Option Raster :=
  if h : i < r.pixels.size then some { r with pixels := r.pixels.set i p } else none

/-- Stores a line from column `x` of a row on, up to the right edge. -/
def paintRow? (r : Raster) (row x : Nat) : List Pixel → Option Raster
  | [] => some r
  | p :: rest =>
    if r.width ≤ x then some r
    else do paintRow? (← r.store? (row + x) p) row (x + 1) rest

/-- Stores packed lines from row `y` on, up to the lower edge. Each is unpacked over the one before
it. -/
def paintLines? (r : Raster) (x y : Nat) (line : Array Pixel) : List ByteArray → Option Raster
  | [] => some r
  | bytes :: rest =>
    if r.height ≤ y then some r
    else do
      let line := Scanline.unpack bytes line
      paintLines? (← r.paintRow? (y * r.width) x line.toList) x (y + 1) line rest

def paint? (r : Raster) (u : Update) : Option Raster :=
  r.paintLines? u.header.x.toNat u.header.y.toNat (Array.replicate u.header.width.toNat 0) u.lines

/-- A line changes the pixels of its row that it reaches, and no others. -/
theorem paintRow?_spec {r : Raster} {row x : Nat} (values : List Pixel)
    (hrow : row + r.width ≤ r.pixels.size) :
    ∃ pixels : Array Pixel, r.paintRow? row x values = some { r with pixels := pixels } ∧
      pixels.size = r.pixels.size ∧
      ∀ i, pixels[i]? = if row + x ≤ i ∧ i < row + r.width ∧ i < row + x + values.length then
        values[i - (row + x)]? else r.pixels[i]? := by
  induction values generalizing r x with
  | nil =>
    refine ⟨r.pixels, rfl, rfl, fun i => ?_⟩
    rw [if_neg (by simp only [List.length_nil]; omega)]
  | cons p rest ih =>
    by_cases hedge : r.width ≤ x
    · refine ⟨r.pixels, ?_, rfl, fun i => by rw [if_neg (by omega)]⟩
      rw [paintRow?, if_pos hedge]
    · have hin : row + x < r.pixels.size := by omega
      obtain ⟨pixels, hpaint, hsize, hpixels⟩ :=
        ih (r := { r with pixels := r.pixels.set (row + x) p }) (x := x + 1) (by simpa using hrow)
      refine ⟨pixels, ?_, by simpa using hsize, fun i => ?_⟩
      · rw [paintRow?, if_neg hedge, store?, dif_pos hin]
        exact hpaint
      · simp only [List.length_cons]
        rw [hpixels i]
        by_cases hfirst : i = row + x
        · subst hfirst
          rw [if_neg (by omega), if_pos (by omega), Array.getElem?_set_self, Nat.sub_self,
            List.getElem?_cons_zero]
        · rw [Array.getElem?_set_ne _ (Ne.symm hfirst)]
          by_cases hrest : row + (x + 1) ≤ i ∧ i < row + r.width ∧ i < row + (x + 1) + rest.length
          · rw [if_pos hrest, if_pos (by omega),
              show i - (row + x) = i - (row + (x + 1)) + 1 by omega, List.getElem?_cons_succ]
          · rw [if_neg hrest, if_neg (by omega)]

end Raster

/-! ### Pictures as rasters -/

namespace Frame

/-- A row ends before the next one begins. -/
theorem index_lt_of_row_lt {width x y z : Nat} (hx : x < width) (hy : y < z) :
    y * width + x < z * width := by
  have hrow : (y + 1) * width ≤ z * width := Nat.mul_le_mul_right width hy
  rw [Nat.succ_mul] at hrow
  omega

theorem index_lt {width height x y : Nat} (hx : x < width) (hy : y < height) :
    y * width + x < width * height :=
  Nat.mul_comm width height ▸ index_lt_of_row_lt hx hy

/-- A picture as a raster. -/
def raster (f : Frame) : Raster where
  width := f.width
  height := f.height
  pixels := Array.ofFn fun i : Fin (f.width * f.height) =>
    have : i < f.height * f.width := Nat.mul_comm f.width _ ▸ i.isLt
    have : i / f.width < f.height := Nat.div_lt_of_lt_mul i.isLt
    have : i % f.width < f.width := Nat.mod_lt _ (Nat.pos_of_lt_mul_right i.isLt)
    f.rows[i.val / f.width][i.val % f.width]

theorem size_pixels_raster (f : Frame) : f.raster.pixels.size = f.width * f.height :=
  Array.size_ofFn

/-- Pixel `x` of row `y` is where the rows before it end and `x` further. -/
theorem getElem?_pixels_raster {f : Frame} {x y : Nat} (hx : x < f.width) (hy : y < f.height) :
    f.raster.pixels[y * f.width + x]? = f.pixel? x y := by
  have hdiv : (y * f.width + x) / f.width = y := by
    rw [Nat.mul_comm, Nat.mul_add_div (by omega), Nat.div_eq_of_lt hx, Nat.add_zero]
  have hmod : (y * f.width + x) % f.width = x := by
    rw [Nat.mul_comm, Nat.mul_add_mod, Nat.mod_eq_of_lt hx]
  rw [pixel?, dif_pos ⟨hx, hy⟩, raster, Array.getElem?_ofFn, dif_pos (index_lt hx hy)]
  simp only [hdiv, hmod]

theorem pixel?_raster (f : Frame) (x y : Nat) : f.raster.pixel? x y = f.pixel? x y := by
  by_cases hin : x < f.width ∧ y < f.height
  · exact (if_pos hin).trans (getElem?_pixels_raster hin.1 hin.2)
  · rw [pixel?, dif_neg hin]
    exact if_neg hin

/-- An array with a pixel for each place of a picture is its raster. -/
theorem eq_raster {f : Frame} {r : Raster} (hwidth : r.width = f.width)
    (hheight : r.height = f.height) (hsize : r.pixels.size = f.width * f.height)
    (h : ∀ x y, x < f.width → y < f.height → r.pixels[y * f.width + x]? = f.pixel? x y) :
    r = f.raster := by
  obtain ⟨width, height, pixels⟩ := r
  obtain rfl : width = f.width := hwidth
  obtain rfl : height = f.height := hheight
  refine congrArg (Raster.mk f.width f.height) (Array.ext_getElem? fun i => ?_)
  by_cases hi : i < f.width * f.height
  · have hy : i / f.width < f.height := Nat.div_lt_of_lt_mul hi
    have hx : i % f.width < f.width := Nat.mod_lt _ (Nat.pos_of_lt_mul_right hi)
    have hplace : i / f.width * f.width + i % f.width = i := by
      rw [Nat.mul_comm, Nat.div_add_mod]
    rw [← hplace, h _ _ hx hy]
    exact (getElem?_pixels_raster hx hy).symm
  · have hnone : f.raster.pixels.size ≤ i := by
      rw [size_pixels_raster]
      omega
    rw [Array.getElem?_eq_none (by rw [hsize]; omega)]
    exact (Array.getElem?_eq_none hnone).symm

theorem raster_blank (width height : Nat) : (blank width height).raster = .blank width height := by
  refine (eq_raster rfl rfl Array.size_replicate fun x y hx hy => ?_).symm
  rw [pixel?_blank, if_pos ⟨hx, hy⟩]
  exact (Array.getElem?_replicate ..).trans (if_pos (index_lt hx hy))

/-- A line laid over a row of a picture, stored pixel by pixel. -/
theorem paintRow?_raster {f : Frame} {x y : Nat} (hy : y < f.height) (line : Array Pixel) :
    f.raster.paintRow? (y * f.width) x line.toList = some (f.paintLine x y line).raster := by
  have hrow : y * f.width + f.width ≤ f.raster.pixels.size := by
    rw [size_pixels_raster, ← Nat.succ_mul, Nat.mul_comm f.width]
    exact Nat.mul_le_mul_right f.width hy
  obtain ⟨pixels, hpaint, hsize, hpixels⟩ :=
    Raster.paintRow?_spec (r := f.raster) (x := x) line.toList hrow
  rw [hpaint]
  refine congrArg some (eq_raster (width_paintLine ..).symm (height_paintLine ..).symm ?_
    fun px py hpx hpy => ?_)
  · rw [width_paintLine, height_paintLine]
    exact hsize.trans f.size_pixels_raster
  · rw [width_paintLine] at hpx ⊢
    rw [height_paintLine] at hpy
    rw [hpixels, getElem?_pixels_raster hpx hpy, Array.length_toList, Array.getElem?_toList]
    have hwidth : f.raster.width = f.width := rfl
    by_cases hmem : py = y ∧ x ≤ px ∧ px - x < line.size
    · obtain ⟨rfl, hleft, hright⟩ := hmem
      rw [if_pos (by omega), pixel?_paintLine_of_mem hpx hy hleft hright,
        show py * f.width + px - (py * f.width + x) = px - x by omega, getElem?_pos]
    · rw [pixel?_paintLine_of_not_mem hmem, if_neg]
      -- in another row the pixel lies before the start of the painted row or after its end
      rcases Nat.lt_trichotomy py y with habove | rfl | hbelow
      · have hbefore := index_lt_of_row_lt hpx habove
        omega
      · omega
      · have hend : f.width - 1 < f.width := by omega
        have hafter := index_lt_of_row_lt hend hbelow
        omega

end Frame

/-! ### Updates in a raster -/

/-- A line that is as long as its packed form says is unpacked as a whole, whatever it held. -/
theorem Scanline.unpack_of_size {bytes : ByteArray} {line : Array Pixel}
    (h : line.size = (pixels bytes).size) : unpack bytes line = pixels bytes := by
  rw [size_pixels] at h
  rw [unpack_eq_append (Nat.le_of_eq h.symm), Array.extract_empty_of_size_le_start (by omega),
    Array.append_empty]

namespace Update

variable {u : Update} {i : Nat}

theorem Filled.size_line_of_lt (h : u.Filled) (hi : i < u.lineCount) :
    (u.line i).size = u.header.lineLength :=
  h.size_line (List.mem_map.2 ⟨i, List.mem_range.2 hi, rfl⟩)

theorem Filled.size_pixels_line (h : u.Filled) (heven : u.header.width.toNat % 2 = 0)
    (hi : i < u.lineCount) : (Scanline.pixels (u.line i)).size = u.header.width.toNat := by
  rw [Scanline.size_pixels, h.size_line_of_lt hi, UpdateHeader.lineLength]
  omega

end Update

namespace Frame

/-- The lines from number `i` on, when those before it are painted. -/
theorem paintLines?_raster {f : Frame} {u : Update} (heven : u.header.width.toNat % 2 = 0)
    (hfilled : u.Filled) {i : Nat} {lines : List ByteArray} (hlines : u.lines.drop i = lines)
    (hi : i ≤ min u.lineCount (f.height - u.header.y.toNat)) {line : Array Pixel}
    (hline : line.size = u.header.width.toNat) :
    (f.paintLines u i).raster.paintLines? u.header.x.toNat (u.header.y.toNat + i) line lines =
      some (f.paint u).raster := by
  induction lines generalizing i line with
  | nil =>
    -- no line is left
    have hlast : u.lineCount ≤ i := by rwa [List.drop_eq_nil_iff, Update.length_lines] at hlines
    obtain rfl : i = min u.lineCount (f.height - u.header.y.toNat) := by omega
    rfl
  | cons bytes rest ih =>
    have hlt : i < u.lines.length := by
      refine Nat.lt_of_not_le fun hle => ?_
      rw [List.drop_eq_nil_of_le hle] at hlines
      cases hlines
    rw [List.drop_eq_getElem_cons hlt, List.cons.injEq] at hlines
    obtain ⟨rfl, hrest⟩ := hlines
    have hbytes : u.lines[i] = u.line i := by
      simp only [Update.lines, List.getElem_map, List.getElem_range]
    rw [Update.length_lines] at hlt
    have hsize := hfilled.size_pixels_line heven hlt
    by_cases hedge : f.height ≤ u.header.y.toNat + i
    · -- all lines that are left lie below the picture
      obtain rfl : i = min u.lineCount (f.height - u.header.y.toNat) := by omega
      rw [Raster.paintLines?, if_pos (by simpa [raster] using hedge)]
      rfl
    · have hunpack : Scanline.unpack (u.line i) line = Scanline.pixels (u.line i) :=
        Scanline.unpack_of_size (hline.trans hsize.symm)
      have hrow := paintRow?_raster (f := f.paintLines u i) (x := u.header.x.toNat)
        (y := u.header.y.toNat + i) (by simpa using hedge) (Scanline.pixels (u.line i))
      rw [← paintLines_succ] at hrow
      rw [Raster.paintLines?, if_neg (by simpa [raster] using hedge), hbytes, hunpack]
      refine (congrArg (Option.bind · _) hrow).trans ?_
      exact ih hrest (by omega) hsize

/-- Painting an update pixel by pixel never leaves the raster of a picture, and makes it that of the
picture with the update. -/
theorem paint?_raster (f : Frame) {u : Update} (heven : u.header.width.toNat % 2 = 0)
    (hfilled : u.Filled) : f.raster.paint? u = some (f.paint u).raster :=
  paintLines?_raster heven hfilled (i := 0) rfl (Nat.zero_le _) Array.size_replicate

end Frame

end UsbDisplay
