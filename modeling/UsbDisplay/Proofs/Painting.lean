import UsbDisplay.Adapter
import UsbDisplay.Proofs.EncodedUpdates

/-!
What a picture shows after an update is painted. Inside the rectangle of the update every pixel is
the one that its pair of the framebuffer stands for, outside nothing changes
(`Frame.pixel?_paint_update`).
-/

namespace UsbDisplay

/-- The pixel that a place of a framebuffer comes to in a picture: luma of the pixel itself, colour
differences of the mean of its pair. -/
def Framebuffer.shownPixel (fb : Framebuffer) (x y : Nat) : Pixel :=
  let mean := Rgb.mean (fb.pixel (x - x % 2) y).rgb (fb.pixel (x - x % 2 + 1) y).rgb
  Yuv.pixel
    ⟨Yuv.luma (fb.pixel x y).rgb, Yuv.blueDifference mean, Yuv.redDifference mean⟩

namespace Frame

theorem pixel?_paintLine_of_mem {f : Frame} {x y : Nat} {pixels : Array Pixel} {px : Nat}
    (hx : px < f.width) (hy : y < f.height) (hleft : x ≤ px) (hright : px - x < pixels.size) :
    (f.paintLine x y pixels).pixel? px y = some pixels[px - x] := by
  rw [paintLine, dif_pos hy, pixel?, dif_pos ⟨hx, hy⟩]
  simp only [Vector.getElem_set_self, overlay, Vector.getElem_ofFn, hleft, hright, and_self,
    dite_true]

theorem pixel?_paintLine_of_not_mem {f : Frame} {x y : Nat} {pixels : Array Pixel} {px py : Nat}
    (h : ¬ (py = y ∧ x ≤ px ∧ px - x < pixels.size)) :
    (f.paintLine x y pixels).pixel? px py = f.pixel? px py := by
  by_cases hy : y < f.height
  · rw [paintLine, dif_pos hy, pixel?, pixel?]
    by_cases hin : px < f.width ∧ py < f.height
    · rw [dif_pos hin, dif_pos hin]
      by_cases hrow : py = y
      · subst hrow
        have hnot : ¬ (x ≤ px ∧ px - x < pixels.size) := fun hline => h ⟨rfl, hline⟩
        simp only [Vector.getElem_set_self, overlay, Vector.getElem_ofFn, hnot, dite_false]
        rfl
      · simp only [Vector.getElem_set_ne _ _ (Ne.symm hrow)]
    · rw [dif_neg hin, dif_neg hin]
  · rw [paintLine, dif_neg hy]

theorem paintLines_succ (f : Frame) (u : Update) (n : Nat) :
    f.paintLines u (n + 1) = (f.paintLines u n).paintLine u.header.x.toNat (u.header.y.toNat + n)
      (Scanline.pixels (u.line n)) := by
  simp [paintLines, Nat.fold_succ]

@[simp] theorem width_paintLines (f : Frame) (u : Update) (n : Nat) :
    (f.paintLines u n).width = f.width := by
  induction n with
  | zero => rfl
  | succ n ih => rw [paintLines_succ, width_paintLine, ih]

@[simp] theorem height_paintLines (f : Frame) (u : Update) (n : Nat) :
    (f.paintLines u n).height = f.height := by
  induction n with
  | zero => rfl
  | succ n ih => rw [paintLines_succ, height_paintLine, ih]

@[simp] theorem width_paint (f : Frame) (u : Update) : (f.paint u).width = f.width :=
  f.width_paintLines u _

@[simp] theorem height_paint (f : Frame) (u : Update) : (f.paint u).height = f.height :=
  f.height_paintLines u _

theorem pixel?_paintLines_of_mem {f : Frame} {u : Update} {n px py : Nat} (hx : px < f.width)
    (hy : py < f.height) (htop : u.header.y.toNat ≤ py) (hbottom : py - u.header.y.toNat < n)
    (hleft : u.header.x.toNat ≤ px)
    (hright : px - u.header.x.toNat <
      (Scanline.pixels (u.line (py - u.header.y.toNat))).size) :
    (f.paintLines u n).pixel? px py =
      some (Scanline.pixels (u.line (py - u.header.y.toNat)))[px - u.header.x.toNat] := by
  induction n with
  | zero => omega
  | succ n ih =>
    rw [paintLines_succ]
    -- each line has a row of its own, so the last one leaves those before it alone
    by_cases hlast : py - u.header.y.toNat = n
    · obtain rfl : py = u.header.y.toNat + n := by omega
      simp only [Nat.add_sub_cancel_left] at hright ⊢
      exact pixel?_paintLine_of_mem (by simpa using hx) (by simpa using hy) hleft hright
    · rw [pixel?_paintLine_of_not_mem (by omega), ih (by omega)]

theorem pixel?_paintLines_of_not_mem {f : Frame} {u : Update} {n px py : Nat}
    (h : ∀ i < n, ¬ (py = u.header.y.toNat + i ∧ u.header.x.toNat ≤ px ∧
      px - u.header.x.toNat < (Scanline.pixels (u.line i)).size)) :
    (f.paintLines u n).pixel? px py = f.pixel? px py := by
  induction n with
  | zero => rfl
  | succ n ih =>
    rw [paintLines_succ, pixel?_paintLine_of_not_mem (h n (Nat.lt_succ_self n)),
      ih fun i hi => h i (Nat.lt_succ_of_lt hi)]

end Frame

namespace Framebuffer

theorem size_pixels_packedRow (fb : Framebuffer) {h : UpdateHeader}
    (heven : h.width.toNat % 2 = 0) (i : Nat) :
    (Scanline.pixels (fb.packedRow h i)).size = h.width.toNat := by
  rw [Scanline.size_pixels, size_packedRow fb heven, UpdateHeader.lineLength]
  omega

/-- Unpacking a packed row gives the pixels that its framebuffer comes to. -/
theorem getElem_pixels_packedRow (fb : Framebuffer) {h : UpdateHeader}
    (hleft : h.x.toNat % 2 = 0) (heven : h.width.toNat % 2 = 0) {i k : Nat}
    (hk : k < (Scanline.pixels (fb.packedRow h i)).size) :
    (Scanline.pixels (fb.packedRow h i))[k] =
      fb.shownPixel (h.x.toNat + k) (h.y.toNat + i) := by
  have hwidth := fb.size_pixels_packedRow heven i
  have hpair : 2 * (k / 2) + 1 < (fb.span h.x.toNat (h.y.toNat + i) h.width.toNat).size := by
    rw [size_span]
    omega
  have hpixel := Scanline.getElem?_pixels_push_empty _ hpair
  rw [← packedRow, getElem?_pos _ k hk] at hpixel
  simp only [getElem_span] at hpixel
  rw [Option.some.inj hpixel, shownPixel]
  -- the left bound is even, so the pairs of the row are pairs of the framebuffer
  have hstart : h.x.toNat + k - (h.x.toNat + k) % 2 = h.x.toNat + 2 * (k / 2) := by omega
  rw [hstart, Nat.add_assoc]

end Framebuffer

namespace Frame

/-- Painting an update of a framebuffer brings its pixels into the rectangle of the header. -/
theorem pixel?_paint_update_of_mem {f : Frame} {fb : Framebuffer} {h : UpdateHeader}
    (hc : h.OnColumns) {x y : Nat} (hx : x < f.width) (hy : y < f.height)
    (hmem : (⟨x, y⟩ : Point) ∈ h.rect) :
    (f.paint (fb.update h)).pixel? x y = some (fb.shownPixel x y) := by
  have hleft := hc.left_mod
  have hwidth := hc.width_mod
  have heven : h.width.toNat % 2 = 0 := by omega
  simp only [Rect.mem_iff, UpdateHeader.rect] at hmem
  have hcount : (fb.update h).lineCount = h.height.toNat := fb.lineCount_update heven (by omega)
  have hline : (fb.update h).line (y - h.y.toNat) = fb.packedRow h (y - h.y.toNat) :=
    fb.line_update heven (by omega)
  have hsize := fb.size_pixels_packedRow heven (y - h.y.toNat)
  have hpixel := fb.getElem_pixels_packedRow (by omega) heven (i := y - h.y.toNat)
    (k := x - h.x.toNat) (by omega)
  rw [show h.x.toNat + (x - h.x.toNat) = x by omega,
    show h.y.toNat + (y - h.y.toNat) = y by omega] at hpixel
  have hright : x - h.x.toNat <
      (Scanline.pixels ((fb.update h).line (y - h.y.toNat))).size := by
    rw [hline, hsize]
    omega
  have htop : h.y.toNat ≤ y := by omega
  have hbottom : y - h.y.toNat < min h.height.toNat (f.height - h.y.toNat) := by omega
  rw [paint, hcount, ← hpixel]
  have hstart : (fb.update h).header.x.toNat ≤ x := by
    show h.x.toNat ≤ x
    omega
  refine (pixel?_paintLines_of_mem hx hy htop hbottom hstart hright).trans ?_
  simp only [Framebuffer.update] at hline ⊢
  simp only [hline]

theorem pixel?_paint_update_of_not_mem {f : Frame} {fb : Framebuffer} {h : UpdateHeader}
    (hc : h.OnColumns) (hpos : 0 < h.width.toNat) {x y : Nat}
    (hmem : (⟨x, y⟩ : Point) ∉ h.rect) :
    (f.paint (fb.update h)).pixel? x y = f.pixel? x y := by
  have hwidth := hc.width_mod
  have heven : h.width.toNat % 2 = 0 := by omega
  refine pixel?_paintLines_of_not_mem fun i hi => ?_
  rw [fb.lineCount_update heven hpos] at hi
  have hline : (fb.update h).line i = fb.packedRow h i := fb.line_update heven (by omega)
  rw [hline, fb.size_pixels_packedRow heven]
  rintro ⟨hrow, hleft, hright⟩
  refine hmem ?_
  simp only [Framebuffer.update] at hrow hleft hright
  simp only [Rect.mem_iff, UpdateHeader.rect]
  omega

end Frame

namespace Adapter

theorem paint_of_ok (a : Adapter) {packet : ByteArray} {u : Update} (h : Update.decode packet = .ok u) :
    a.paint packet = (.ok packet.size,
      { a with
        frame := a.frame.paint u
        updates := a.updates.push u.header
        lastPacket := packet }) := by
  rw [paint, h]

theorem paint_of_error (a : Adapter) {packet : ByteArray} {fault : PacketFault}
    (h : Update.decode packet = .error fault) :
    a.paint packet = (.error (.io (Error.malformedPacket fault).message), a) := by
  rw [paint, h]

/-- The adapter takes every packet of a framebuffer and paints its update. -/
theorem paint_update (a : Adapter) (fb : Framebuffer) {h : UpdateHeader} (hc : h.OnColumns) :
    a.paint (fb.update h).packet = (.ok (fb.update h).packet.size,
      { a with
        frame := a.frame.paint (fb.update h)
        updates := a.updates.push h
        lastPacket := (fb.update h).packet }) :=
  a.paint_of_ok (fb.decode_update hc)

/-- A bulk call waits, or fails and leaves the adapter as it is, or paints its packet. -/
theorem bulkOut_cases (a : Adapter) (packet : ByteArray) (isCancelled : Bool) :
    a.bulkOut packet isCancelled = (none, a) ∨
      (∃ e, a.bulkOut packet isCancelled = (some (.error e), a)) ∨
        a.bulkOut packet isCancelled = (some (a.paint packet).1, (a.paint packet).2) := by
  rw [bulkOut]
  split
  · exact .inr (.inl ⟨_, rfl⟩)
  split
  · exact .inr (.inl ⟨_, rfl⟩)
  split
  · exact .inl rfl
  · exact .inr (.inr rfl)

theorem resume_cases (a : Adapter) (call : BulkCall) :
    a.resume call = (none, a) ∨ (∃ e, a.resume call = (some (.error e), a)) ∨
      a.resume call = (some (a.paint call.packet).1, (a.paint call.packet).2) := by
  rw [resume]
  split
  · exact .inr (.inl ⟨_, rfl⟩)
  split
  · exact .inl rfl
  · exact .inr (.inr rfl)

end Adapter

end UsbDisplay
