import UsbDisplay.Picture.Storage
import UsbDisplay.Proofs.Canvases
import UsbDisplay.Proofs.PaintedExchanges
import UsbDisplay.Proofs.PictureFiles
import UsbDisplay.Proofs.WrittenFiles

/-!
Pictures, loaded after they were saved. The bytes of a picture are its rows, and the bytes of a row
its pixels, four bytes each; the way back cuts them into rows and these into pixels. Both ways have
the bytes of a pixel at four times its number, so what is loaded is the picture that was saved. All
that is asked of the file format in between is that it gives the samples back
(`Png.Codec.Restores`). Opacity is lost, and so would be a top byte of a pixel; but the pixels of an
adapter have none, since they are black or unpacked (`Adapter.unpadded_run`).
-/

namespace UsbDisplay

open Pieces

/-! ### Pieces of one size -/

/-- A run that is a multiple of a size is cut into pieces of that size. -/
theorem Pieces.piecesFrom_eq {size : Nat} (hpositive : 0 < size) {bytes : ByteArray} {n start : Nat}
    (hsize : bytes.size = start + (n + 1) * size) :
    piecesFrom size bytes start = (List.range (n + 1)).map fun i =>
      bytes.extract (start + i * size) (start + (i + 1) * size) := by
  induction n generalizing start with
  | zero =>
    have hend : ¬ (0 < size ∧ start + size < bytes.size) := by omega
    rw [piecesFrom, if_neg hend, hsize]
    simp
  | succ n ih =>
    have hmore : (n + 1 + 1) * size = size + (n + 1) * size := by
      rw [Nat.succ_mul, Nat.add_comm]
    have hfirst : 0 < size ∧ start + size < bytes.size := by
      have hrest := Nat.mul_le_mul_right size (show 1 ≤ n + 1 by omega)
      omega
    rw [piecesFrom, if_pos hfirst, ih (by omega), List.range_succ_eq_map (n := n + 1),
      List.map_cons, List.map_map, Nat.zero_mul, Nat.zero_add, Nat.one_mul, Nat.add_zero]
    refine congrArg (_ :: ·) (List.map_congr_left fun i _ => ?_)
    simp only [Function.comp_apply, Nat.succ_mul, Nat.succ_eq_add_one]
    congr 1 <;> omega

theorem Pieces.take_pieces_eq {size : Nat} (hpositive : 0 < size) {bytes : ByteArray} {n : Nat}
    (hsize : bytes.size = n * size) : (pieces size bytes).take n =
      (List.range n).map fun i => bytes.extract (i * size) ((i + 1) * size) := by
  cases n with
  | zero => rfl
  | succ n =>
    rw [pieces, piecesFrom_eq hpositive (hsize.trans (Nat.zero_add _).symm), List.take_of_length_le
      (by simp)]
    simp only [Nat.zero_add]

theorem fold_push_eq (n : Nat) (pixel : Nat → Pixel) (out : Array Pixel) :
    n.fold (fun i _ out => out.push (pixel i)) out = out ++ ((List.range n).map pixel).toArray := by
  induction n with
  | zero => simp
  | succ n ih => rw [Nat.fold_succ, ih, List.range_succ]; simp

/-! ### Samples as pixels -/

namespace Png.Samples

/-- The colour of pixel `i` of a run of red, green, blue and opacity bytes. -/
def rgbaColor (rgba : ByteArray) (i : Nat) : Rgb :=
  ⟨rgba[4 * i]?.getD 0, rgba[4 * i + 1]?.getD 0, rgba[4 * i + 2]?.getD 0⟩

/-- A whole row of pixels is appended. -/
theorem pushRow_rgba {width height y : Nat} {rgba : ByteArray}
    (hsize : rgba.size = height * (4 * width)) (hy : y < height) (out : Array Pixel) :
    pushRow ⟨width, height, .rgba, 4 * width, rgba⟩ out
        (rgba.extract (y * (4 * width)) ((y + 1) * (4 * width))) =
      out ++ ((List.range width).map fun x => (rgbaColor rgba (y * width + x)).pixel).toArray := by
  have hend : (y + 1) * (4 * width) ≤ height * (4 * width) := Nat.mul_le_mul_right _ hy
  have hstop : (y + 1) * (4 * width) = y * (4 * width) + 4 * width := Nat.succ_mul ..
  have hstart : y * (4 * width) = 4 * (y * width) := by ac_rfl
  rw [hstop] at hend ⊢
  have hrow : (rgba.extract (y * (4 * width)) (y * (4 * width) + 4 * width)).size = 4 * width := by
    rw [ByteArray.size_extract]
    omega
  have hholds : Holds rgba (y * (4 * width))
      (rgba.extract (y * (4 * width)) (y * (4 * width) + 4 * width)) := by
    rw [Holds, hrow]
    exact ⟨by omega, rfl⟩
  generalize rgba.extract (y * (4 * width)) (y * (4 * width) + 4 * width) = row at *
  have hcount : min width (row.size / Channels.rgba.count) = width := by
    rw [hrow, Channels.count]
    omega
  have hcolor {x : Nat} (hx : x < width) :
      color ⟨width, height, .rgba, 4 * width, rgba⟩ row (x * 4) =
        rgbaColor rgba (y * width + x) := by
    simp only [color, rgbaColor]
    rw [hholds.getElem?_eq (by omega), hholds.getElem?_eq (by omega), hholds.getElem?_eq (by omega)]
    simp only [hstart, Nat.mul_add, Nat.mul_comm x 4, Nat.add_assoc]
  rw [pushRow, fold_push_eq, hcount]
  refine congrArg (fun l => out ++ l.toArray) (List.map_congr_left fun x hx => ?_)
  exact congrArg Rgb.pixel (hcolor (List.mem_range.1 hx))

theorem picture_rgba {width height : Nat} (hwidth : width ≠ 0) {rgba : ByteArray}
    (hsize : rgba.size = 4 * width * height) :
    picture ⟨width, height, .rgba, 4 * width, rgba⟩ = ⟨width, height,
      ((List.range (width * height)).map fun i => (rgbaColor rgba i).pixel).toArray⟩ := by
  have hrows : rgba.size = height * (4 * width) := by rw [hsize, Nat.mul_comm]
  have hfold (n : Nat) (hn : n ≤ height) :
      ((List.range n).map fun y => rgba.extract (y * (4 * width)) ((y + 1) * (4 * width))).foldl
          (pushRow ⟨width, height, .rgba, 4 * width, rgba⟩) #[] =
        ((List.range (n * width)).map fun i => (rgbaColor rgba i).pixel).toArray := by
    induction n with
    | zero => simp
    | succ n ih =>
      rw [List.range_succ, List.map_append, List.foldl_append, ih (Nat.le_of_succ_le hn),
        List.map_singleton, List.foldl_cons, List.foldl_nil, pushRow_rgba hrows hn, Nat.succ_mul,
        List.range_add]
      simp
  rw [picture, take_pieces_eq (by omega) hrows, Nat.mul_comm width height]
  exact congrArg (Picture.mk width height) (hfold height (Nat.le_refl _))

end Png.Samples

/-! ### Frames as bytes -/

/-- The channels of a pixel, with full opacity. -/
def Pixel.opaqueBytes (p : Pixel) : ByteArray :=
  [p.rgb.red, p.rgb.green, p.rgb.blue, 0xFF].toByteArray

theorem Pixel.size_of_mem_opaqueBytes (pixels : List Pixel) :
    ∀ bytes ∈ pixels.map opaqueBytes, bytes.size = 4 := by
  intro bytes hbytes
  obtain ⟨p, -, rfl⟩ := List.mem_map.1 hbytes
  rfl

namespace Frame

/-- The bytes of a row. -/
def rowBytes {width : Nat} (row : Vector Pixel width) : ByteArray :=
  join (row.toList.map Pixel.opaqueBytes)

theorem rgba_eq_join (f : Frame) : f.rgba = join (f.rows.toList.map rowBytes) := by
  have hpush (out : ByteArray) (p : Pixel) :
      (((out.push p.rgb.red).push p.rgb.green).push p.rgb.blue).push 0xFF =
        out ++ p.opaqueBytes := by
    apply ByteArray.ext
    apply Array.ext'
    simp [Pixel.opaqueBytes]
  have hrow (out : ByteArray) (row : Vector Pixel f.width) :
      row.foldl (fun out p => out ++ p.opaqueBytes) out = out ++ rowBytes row := by
    rw [rowBytes, ← foldl_append, List.foldl_map, Vector.foldl_toList]
  simp only [rgba, hpush, hrow]
  rw [← Vector.foldl_toList, ← List.foldl_map (f := rowBytes) (g := (· ++ ·)), foldl_append]
  exact ByteArray.empty_append

theorem size_rowBytes {width : Nat} (row : Vector Pixel width) :
    (rowBytes row).size = width * 4 := by
  rw [rowBytes, size_join (Pixel.size_of_mem_opaqueBytes _), List.length_map, Vector.length_toList]

theorem size_of_mem_rows (f : Frame) :
    ∀ row ∈ f.rows.toList.map rowBytes, row.size = f.width * 4 := by
  intro row hrow
  obtain ⟨pixels, -, rfl⟩ := List.mem_map.1 hrow
  exact size_rowBytes pixels

theorem size_rgba (f : Frame) : f.rgba.size = 4 * f.width * f.height := by
  rw [rgba_eq_join, size_join f.size_of_mem_rows, List.length_map, Vector.length_toList]
  ac_rfl

/-- The bytes of a pixel stand at four times its number. -/
theorem holds_rgba {f : Frame} {x y : Nat} {p : Pixel} (h : f.pixel? x y = some p) :
    Holds f.rgba (4 * (y * f.width + x)) p.opaqueBytes := by
  obtain ⟨hx, hy⟩ := (f.pixel?_isSome x y).1 (by rw [h]; rfl)
  rw [pixel?, dif_pos ⟨hx, hy⟩, Option.some.injEq] at h
  have hrow := extract_join f.size_of_mem_rows (i := y) (by simpa using hy)
  rw [← rgba_eq_join, List.getElem_map, Vector.getElem_toList] at hrow
  have hpixel := extract_join (Pixel.size_of_mem_opaqueBytes f.rows[y].toList) (i := x)
    (by simpa using hx)
  rw [← rowBytes, ← hrow, List.getElem_map, Vector.getElem_toList, h,
    ByteArray.extract_extract] at hpixel
  have hstart : y * (f.width * 4) + x * 4 = 4 * (y * f.width + x) := by
    rw [Nat.mul_add, Nat.mul_comm x 4]
    congr 1
    ac_rfl
  have hinside := index_lt hx hy
  rw [Nat.min_eq_left (by omega), ← Nat.add_assoc, hstart] at hpixel
  refine ⟨?_, hpixel⟩
  rw [size_rgba, Nat.mul_assoc]
  show _ + 4 ≤ _
  omega

theorem rgbaColor_rgba {f : Frame} {x y : Nat} {p : Pixel} (h : f.pixel? x y = some p) :
    Png.Samples.rgbaColor f.rgba (y * f.width + x) = p.rgb := by
  have hholds := holds_rgba h
  have hred := hholds.getElem? (i := 0) (show 0 < 4 by decide)
  have hgreen := hholds.getElem? (i := 1) (show 1 < 4 by decide)
  have hblue := hholds.getElem? (i := 2) (show 2 < 4 by decide)
  rw [Nat.add_zero] at hred
  rw [Png.Samples.rgbaColor, hred, hgreen, hblue]
  rfl

end Frame

/-- What an update paints has nothing in the top byte. -/
theorem Update.unpadded_pixel? {u : Update} {x y : Nat} {p : Pixel} (h : u.pixel? x y = some p) :
    p.rgb.pixel = p := by
  rw [Update.pixel?] at h
  simp only [Option.bind_eq_bind, Option.bind_eq_some_iff, Option.pure_def, Option.some.injEq] at h
  obtain ⟨luma, -, blue, -, red, -, rfl⟩ := h
  rw [Yuv.pixel, Rgb.rgb_pixel]

namespace Frame

/-- No pixel has anything in its top byte. -/
def Unpadded (f : Frame) : Prop := ∀ x y p, f.pixel? x y = some p → p.rgb.pixel = p

theorem unpadded_blank (width height : Nat) : (blank width height).Unpadded := by
  intro x y p hp
  rw [pixel?_blank] at hp
  split at hp
  · cases hp
    rfl
  · cases hp

theorem Unpadded.apply {f : Frame} (h : f.Unpadded) (change : Option Change)
    (hfits : ∀ u, change = some (.paint u) → u.header.width.toNat % 2 = 0 ∧ u.Filled) :
    (f.apply change).Unpadded := by
  match change with
  | none => exact h
  | some (.blank width height) => exact unpadded_blank _ _
  | some (.paint u) =>
    intro x y p hp
    obtain ⟨heven, hfilled⟩ := hfits u rfl
    rw [Frame.apply, f.pixel?_paint heven hfilled] at hp
    split at hp
    · exact Update.unpadded_pixel? hp
    · exact h x y p hp

end Frame

namespace Adapter

/-- What an adapter shows is black at first, and then made of what was unpacked. -/
theorem unpadded_run {a : Adapter} (h : a.frame.Unpadded) (exchanges : List Exchange) :
    (a.run exchanges).frame.Unpadded := by
  induction exchanges generalizing a with
  | nil => exact h
  | cons e rest ih =>
    refine ih ?_
    rw [frame_step]
    refine h.apply _ fun u hu => ?_
    rcases change?_cases hu with ⟨_, _, -, -, -, hblank⟩ | ⟨packet, painted, hdecode, hpaint⟩
    · cases hblank
    · cases hpaint
      exact Update.fits_of_decode hdecode

end Adapter

/-! ### Files -/

theorem toNat_ofNat_of_word {n : Nat} (hn : n < 65536) : (UInt32.ofNat n).toNat = n :=
  UInt32.toNat_ofNat_of_lt' (by simp only [UInt32.size]; omega)

theorem ne_zero_of_toNat_ne_zero {n : UInt32} (h : n.toNat ≠ 0) : n ≠ 0 := fun hn => h (hn ▸ rfl)

/-- The built-in codec gives back the samples of each picture whose size is a pair of words. -/
theorem Frame.codec_restores_rgba {f : Frame} (hwidth : f.width ≠ 0) (hheight : f.height ≠ 0)
    (hwords : f.width < 65536 ∧ f.height < 65536) :
    Png.codec.Restores (UInt32.ofNat f.width) (UInt32.ofNat f.height) f.rgba := by
  have hcolumns := toNat_ofNat_of_word hwords.1
  have hrows := toNat_ofNat_of_word hwords.2
  refine Png.codec_restores (ne_zero_of_toNat_ne_zero (by rwa [hcolumns]))
    (ne_zero_of_toNat_ne_zero (by rwa [hrows])) ?_ (by rw [hcolumns, hrows, f.size_rgba])
  rw [hcolumns, Png.maxColumns]
  omega

/-- After what is known of its first part, a computation goes on with the rest. -/
theorem run_bind_of_run_eq {σ α β : Type} {x : StateM σ α} {s s' : σ} {a : α}
    (h : x.run s = (a, s')) (next : α → StateM σ β) : (x >>= next).run s = (next a).run s' := by
  rw [StateT.run_bind, h]
  rfl

namespace Picture

/-- A way to save succeeds, and after it a picture is loaded from the path. -/
def Reloads (codec : Png.Codec) (t : FileTree) (path : String)
    (save : StateM FileTree (Except PictureError Unit)) (p : Picture) : Prop :=
  ∃ t', save.run t = (.ok (), t') ∧
    (loadWith codec FileTree.access path).run t' = (.ok p, t')

variable {t : FileTree} {path : String} {codec : Png.Codec} {rgba : ByteArray}

/-- What was saved with a codec that restores it is loaded, and each pixel has the colour of its
four bytes. -/
theorem reloads_saveRgbaWith (hfile : t.TakesFile path) {width height : UInt32}
    (hcodec : codec.Restores width height rgba) (hwidth : width ≠ 0)
    (hsize : rgba.size = 4 * width.toNat * height.toNat) :
    Reloads codec t path (saveRgbaWith codec FileTree.access path rgba width height)
      ⟨width.toNat, height.toNat, ((List.range (width.toNat * height.toNat)).map fun i =>
        (Png.Samples.rgbaColor rgba i).pixel).toArray⟩ := by
  obtain ⟨contents, hencode, hdecode⟩ := hcodec
  obtain ⟨t', hwrite, hread⟩ := FileTree.read_write hfile contents
  have hpositive : width.toNat ≠ 0 := fun h => hwidth (UInt32.toNat_inj.1 h)
  have hwritten : (FileTree.access.write path contents).run t = (.ok (), t') := hwrite
  have hloaded : (FileTree.access.read path).run t' = (.ok contents, t') :=
    congrArg (·, t') hread
  refine ⟨t', ?_, ?_⟩
  · rw [saveRgbaWith, hencode]
    exact run_bind_of_run_eq hwritten _
  · rw [← Png.Samples.picture_rgba hpositive hsize, loadWith, run_bind_of_run_eq hloaded]
    simp only [hdecode]
    rfl

/-- Of a saved run of bytes, each pixel is three of the four bytes. -/
theorem exists_reloads_saveRgbaWith (hfile : t.TakesFile path) {width height : UInt32}
    (hcodec : codec.Restores width height rgba) (hwidth : width ≠ 0)
    (hsize : rgba.size = 4 * width.toNat * height.toNat) :
    ∃ p, Reloads codec t path (saveRgbaWith codec FileTree.access path rgba width height) p ∧
      p.width = width.toNat ∧ p.height = height.toNat ∧
      p.pixels.size = width.toNat * height.toNat ∧
      ∀ i < width.toNat * height.toNat, ∃ r g b a,
        rgba[4 * i]? = some r ∧ rgba[4 * i + 1]? = some g ∧ rgba[4 * i + 2]? = some b ∧
        rgba[4 * i + 3]? = some a ∧
        p.pixels[i]? = some (r.toUInt32 <<< 16 ||| g.toUInt32 <<< 8 ||| b.toUInt32) := by
  refine ⟨_, reloads_saveRgbaWith hfile hcodec hwidth hsize, rfl, rfl, by simp, fun i hi => ?_⟩
  have hbyte (k : Nat) (hk : k < 4) : ∃ b, rgba[4 * i + k]? = some b := by
    refine ⟨_, getElem?_pos rgba (4 * i + k) ?_⟩
    rw [hsize, Nat.mul_assoc]
    omega
  obtain ⟨r, hr⟩ : ∃ r, rgba[4 * i]? = some r := hbyte 0 (by decide)
  obtain ⟨g, hg⟩ := hbyte 1 (by decide)
  obtain ⟨b, hb⟩ := hbyte 2 (by decide)
  obtain ⟨a, ha⟩ := hbyte 3 (by decide)
  refine ⟨r, g, b, a, hr, hg, hb, ha, ?_⟩
  rw [List.getElem?_toArray, List.getElem?_map, List.getElem?_range hi, Option.map_some,
    Png.Samples.rgbaColor, hr, hg, hb, Rgb.pixel_eq_or]
  rfl

/-- Of a saved frame, each pixel is loaded as it is shown. -/
theorem exists_reloads_saveWith (hfile : t.TakesFile path) {f : Frame} (hunpadded : f.Unpadded)
    (hcodec : codec.Restores (UInt32.ofNat f.width) (UInt32.ofNat f.height) f.rgba)
    (hwidth : f.width ≠ 0) (hwords : f.width < 65536 ∧ f.height < 65536) :
    ∃ p, Reloads codec t path (f.saveWith codec FileTree.access path) p ∧
      p.width = f.width ∧ p.height = f.height ∧ p.pixels = f.raster.pixels ∧
      ∀ x < f.width, ∀ y < f.height, (f.pixel? x y).isSome ∧
        p.pixels[y * f.width + x]? = f.pixel? x y := by
  have hcolumns := toNat_ofNat_of_word hwords.1
  have hrows := toNat_ofNat_of_word hwords.2
  have hreloads := reloads_saveRgbaWith hfile hcodec
    (ne_zero_of_toNat_ne_zero (by rwa [hcolumns])) (by rw [hcolumns, hrows, f.size_rgba])
  rw [hcolumns, hrows] at hreloads
  have hpixel {x y : Nat} (hx : x < f.width) (hy : y < f.height) :
      ((List.range (f.width * f.height)).map fun i =>
        (Png.Samples.rgbaColor f.rgba i).pixel).toArray[y * f.width + x]? = f.pixel? x y := by
    obtain ⟨p, hp⟩ := Option.isSome_iff_exists.1 ((f.pixel?_isSome x y).2 ⟨hx, hy⟩)
    rw [List.getElem?_toArray, List.getElem?_map, List.getElem?_range (Frame.index_lt hx hy),
      Option.map_some, Frame.rgbaColor_rgba hp, hunpadded x y p hp, hp]
  have hraster := Frame.eq_raster (f := f) (r := ⟨f.width, f.height, _⟩) rfl rfl (by simp)
    fun x y hx hy => hpixel hx hy
  exact ⟨_, hreloads, rfl, rfl, congrArg Raster.pixels hraster,
    fun x hx y hy => ⟨(f.pixel?_isSome x y).2 ⟨hx, hy⟩, hpixel hx hy⟩⟩

/-- What is saved in a file is loaded from it. Of a run of bytes, each pixel is the first three of
its four bytes side by side; of an adapter's picture, after any exchanges, each pixel is what the
adapter shows there. Nothing is asked of the codec but that it gives back the samples of this one
picture. The built-in one does so for each picture that an adapter can show, and for all others
whose rows are not too long. -/
theorem saved_reloads (hfile : t.TakesFile path) :
    (∀ (codec : Png.Codec) (width height : UInt32) (rgba : ByteArray),
      codec.Restores width height rgba → width ≠ 0 →
      rgba.size = 4 * width.toNat * height.toNat →
      ∃ p, Reloads codec t path (saveRgbaWith codec FileTree.access path rgba width height) p ∧
        p.width = width.toNat ∧ p.height = height.toNat ∧
        p.pixels.size = width.toNat * height.toNat ∧
        ∀ i < width.toNat * height.toNat, ∃ r g b a,
          rgba[4 * i]? = some r ∧ rgba[4 * i + 1]? = some g ∧ rgba[4 * i + 2]? = some b ∧
          rgba[4 * i + 3]? = some a ∧
          p.pixels[i]? = some (r.toUInt32 <<< 16 ||| g.toUInt32 <<< 8 ||| b.toUInt32)) ∧
    (∀ (codec : Png.Codec) (exchanges : List Adapter.Exchange),
      let f := (({} : Adapter).run exchanges).frame
      codec.Restores (UInt32.ofNat f.width) (UInt32.ofNat f.height) f.rgba → f.width ≠ 0 →
      ∃ p, Reloads codec t path (f.saveWith codec FileTree.access path) p ∧
        p.width = f.width ∧ p.height = f.height ∧ p.pixels = f.raster.pixels ∧
        ∀ x < f.width, ∀ y < f.height, (f.pixel? x y).isSome ∧
          p.pixels[y * f.width + x]? = f.pixel? x y) ∧
    (∀ (width height : UInt32) (rgba : ByteArray), width ≠ 0 → height ≠ 0 →
      width.toNat ≤ Png.maxColumns → rgba.size = 4 * width.toNat * height.toNat →
      Png.codec.Restores width height rgba) ∧
    (∀ exchanges : List Adapter.Exchange,
      let f := (({} : Adapter).run exchanges).frame
      f.width ≠ 0 → f.height ≠ 0 →
      Png.codec.Restores (UInt32.ofNat f.width) (UInt32.ofNat f.height) f.rgba) := by
  have hwords (exchanges : List Adapter.Exchange) : (({} : Adapter).run exchanges).SizeInWords :=
    Adapter.SizeInWords.run ⟨by decide, by decide⟩ exchanges
  have hunpadded (exchanges : List Adapter.Exchange) :
      (({} : Adapter).run exchanges).frame.Unpadded :=
    Adapter.unpadded_run (Frame.unpadded_blank 800 600) exchanges
  refine ⟨?_, ?_, ?_, ?_⟩
  · intro codec width height rgba hcodec hwidth hsize
    exact exists_reloads_saveRgbaWith hfile hcodec hwidth hsize
  · intro codec exchanges f hcodec hwidth
    exact exists_reloads_saveWith hfile (hunpadded exchanges) hcodec hwidth (hwords exchanges)
  · intro width height rgba hwidth hheight hcolumns hsize
    exact Png.codec_restores hwidth hheight hcolumns hsize
  · intro exchanges f hwidth hheight
    exact Frame.codec_restores_rgba hwidth hheight (hwords exchanges)

/-- An adapter shows one row of 18 pixels, of which an update makes the first 16 white. -/
def partlyWhite : List Adapter.Exchange :=
  [.controlOut [0xA6, 0x01, 0, 0, 18, 0, 1, 0, 0, 0],
    .bulkOut (Update.packet ⟨⟨0, 0, 16, 1⟩,
      (List.replicate 8 [128, 235, 128, 235]).flatten.toByteArray⟩) false]

theorem saved_reloads_partlyWhite :
    (FileTree.ofWork ["shots"]).TakesFile "last.png" ∧
      (∃ p, Reloads Png.codec (.ofWork ["shots"]) "last.png"
          (saveRgba FileTree.access "last.png" [1, 2, 3, 4, 5, 6, 7, 8].toByteArray 2 1) p ∧
        p.pixels[1]? = some 0x050607) ∧
      let f := (({} : Adapter).run partlyWhite).frame
      ∃ p, Reloads Png.codec (.ofWork ["shots"]) "last.png"
          (f.save FileTree.access "last.png") p ∧
        p.width = 18 ∧ p.pixels[15]? = some 0xFFFFFF ∧ p.pixels[16]? = some 0 := by
  have hfile : (FileTree.ofWork ["shots"]).TakesFile "last.png" := ⟨_, rfl, .inl rfl⟩
  obtain ⟨hbytes, hframe, hrestores, hshown⟩ := saved_reloads hfile
  refine ⟨hfile, ?_, ?_⟩
  · have hcodec : Png.codec.Restores 2 1 [1, 2, 3, 4, 5, 6, 7, 8].toByteArray :=
      hrestores 2 1 _ (by decide) (by decide) (by decide) rfl
    obtain ⟨p, hreloads, -, -, -, hpixels⟩ := hbytes Png.codec 2 1 _ hcodec (by decide) rfl
    obtain ⟨r, g, b, a, hr, hg, hb, -, hpixel⟩ := hpixels 1 (by decide)
    cases hr
    cases hg
    cases hb
    exact ⟨p, hreloads, hpixel⟩
  · obtain ⟨hwidth, hheight, hwhite, hblack⟩ :
        let f := (({} : Adapter).run partlyWhite).frame
        f.width = 18 ∧ f.height = 1 ∧
          f.pixel? 15 0 = some 0xFFFFFF ∧ f.pixel? 16 0 = some 0 := by decide +kernel
    obtain ⟨p, hreloads, hcolumns, -, -, hpixels⟩ := hframe Png.codec partlyWhite
      (hshown partlyWhite (by omega) (by omega)) (by omega)
    have hpixel (x : Nat) (hx : x < 18) := (hpixels x (by omega) 0 (by omega)).2
    simp only [Nat.zero_mul, Nat.zero_add] at hpixel
    exact ⟨p, hreloads, hcolumns.trans hwidth, (hpixel 15 (by decide)).trans hwhite,
      (hpixel 16 (by decide)).trans hblack⟩

end Picture

end UsbDisplay
