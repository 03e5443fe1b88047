import UsbDisplay.Framebuffer.View
import UsbDisplay.Proofs.CheckedEncoding

/-!
Views of pictures. Where no sum or product is too great for a word, a view is a framebuffer
(`FrameView.framebuffer`), and its encoding never breaks off. Any other view still agrees with a
framebuffer of its size as long as its encoding does not break off (`FrameView.shown`), so a device
can come to nothing with views that it cannot come to with framebuffers.
-/

namespace UsbDisplay

theorem slice?_eq_some_iff {bytes slice : ByteArray} {start stop : Nat} :
    slice? bytes start stop = some slice ↔
      (start ≤ stop ∧ stop ≤ bytes.size) ∧ bytes.extract start stop = slice := by
  rw [slice?]
  split
  next h => simp [h]
  next h => simp [h]

theorem Rect.coordinateOfSize_le (size : Nat) : coordinateOfSize size ≤ size := by
  unfold coordinateOfSize
  rw [Int.bmod_def]
  split <;> omega

/-- Four bytes that agree are the same pixel. -/
theorem Pixel.read_congr {a b : ByteArray} {i j : Nat} (ha : i + 4 ≤ a.size) (hb : j + 4 ≤ b.size)
    (h : ∀ c, c < 4 → a.data[i + c]? = b.data[j + c]?) : read a i = read b j := by
  have hbyte : ∀ c (hc : c < 4), a[i + c] = b[j + c] := by
    intro c hc
    have hsame := h c hc
    rw [Array.getElem?_eq_getElem (by rw [ByteArray.size_data]; omega),
      Array.getElem?_eq_getElem (by rw [ByteArray.size_data]; omega)] at hsame
    exact Option.some.inj hsame
  have hfirst := hbyte 0 (by decide)
  rw [read, dif_pos ha, read, dif_pos hb, hbyte 1 (by decide), hbyte 2 (by decide),
    hbyte 3 (by decide)]
  simp only [Nat.add_zero] at hfirst
  rw [hfirst]

namespace FrameView

variable {v : FrameView} {fb : Framebuffer}

/-! ### Numbers in words -/

/-- The view fits in the numbers of its machine: nothing wraps around on the way to its bytes. -/
def IsWhole (v : FrameView) : Prop :=
  v.pitch.toNat * (v.height.toNat - 1) + 4 * v.width.toNat < 18446744073709551616

instance (v : FrameView) : Decidable v.IsWhole := inferInstanceAs (Decidable (_ < _))

theorem toNat_rowLength (width : UInt32) : (width.toUInt64 * 4).toNat = 4 * width.toNat := by
  have hwidth := width.toNat_lt
  rw [UInt64.toNat_mul, UInt32.toNat_toUInt64]
  show width.toNat * 4 % 18446744073709551616 = _
  omega

theorem toNat_offset (v : FrameView) (x y : Nat) :
    (v.offset x y).toNat = (y * v.pitch.toNat + 4 * x) % 18446744073709551616 := by
  rw [offset, UInt64.toNat_add, UInt64.toNat_mul, UInt64.toNat_mul, UInt64.toNat_ofNat',
    UInt64.toNat_ofNat', Nat.mul_comm 4 x]
  simp [Nat.add_mod, Nat.mul_mod]

theorem toNat_extent (v : FrameView) :
    (extent v.width v.height v.pitch).toNat =
      Framebuffer.extent v.width.toNat v.height.toNat v.pitch.toNat % 18446744073709551616 := by
  have hheight := v.height.toNat_lt
  rw [extent, Framebuffer.extent]
  by_cases hzero : v.height = 0
  · simp [hzero]
  · have hpos : v.height.toNat ≠ 0 := fun h => hzero (UInt32.toNat_inj.1 h)
    have hrows : (v.height.toUInt64 - 1).toNat = v.height.toNat - 1 := by
      have hone : (1 : UInt64) ≤ v.height.toUInt64 := by
        rw [UInt64.le_iff_toNat_le, UInt32.toNat_toUInt64]
        exact Nat.one_le_iff_ne_zero.2 hpos
      rw [UInt64.toNat_sub_of_le _ _ hone, UInt32.toNat_toUInt64]
      rfl
    rw [if_neg hzero, if_neg hpos, UInt64.toNat_add, UInt64.toNat_mul, hrows, toNat_rowLength]
    simp [Nat.add_mod]

/-! ### Whole views -/

/-- A whole view as a framebuffer on the same bytes. -/
def framebuffer (v : FrameView) (h : v.IsWhole) : Framebuffer where
  width := v.width.toNat
  height := v.height.toNat
  pitch := v.pitch.toNat
  data := v.data
  row_le_pitch := by
    have hrow := UInt64.le_iff_toNat_le.1 v.row_le_pitch
    rwa [toNat_rowLength] at hrow
  extent_le_size := by
    have hsize := v.extent_le_size
    have hextent : Framebuffer.extent v.width.toNat v.height.toNat v.pitch.toNat <
        18446744073709551616 := by
      rw [Framebuffer.extent]
      split
      · decide
      · exact h
    rwa [toNat_extent, Nat.mod_eq_of_lt hextent] at hsize

theorem toNat_stop (v : FrameView) (x y n : Nat) :
    (v.offset x y + .ofNat n * 4).toNat =
      ((v.offset x y).toNat + 4 * n) % 18446744073709551616 := by
  rw [UInt64.toNat_add, UInt64.toNat_mul, UInt64.toNat_ofNat', Nat.mul_comm 4 n]
  simp [Nat.add_mod, Nat.mul_mod]

theorem span?_framebuffer (h : v.IsWhole) {x y n : Nat} (hx : x + n ≤ v.width.toNat)
    (hy : y < v.height.toNat) : v.span? x y n = some ((v.framebuffer h).span x y n) := by
  have hend : y * v.pitch.toNat + 4 * x + 4 * n < 18446744073709551616 := by
    have hrow : y * v.pitch.toNat ≤ v.pitch.toNat * (v.height.toNat - 1) := by
      rw [Nat.mul_comm]
      exact Nat.mul_le_mul_left _ (by omega)
    rw [IsWhole] at h
    omega
  have hstart : (v.offset x y).toNat = (v.framebuffer h).offset x y := by
    rw [toNat_offset]
    exact Nat.mod_eq_of_lt (by omega)
  have hstop : (v.offset x y + .ofNat n * 4).toNat = (v.framebuffer h).offset x y + 4 * n := by
    rw [toNat_stop, hstart]
    exact Nat.mod_eq_of_lt hend
  have hspan : (v.framebuffer h).span? x y n = some ((v.framebuffer h).span x y n) :=
    Framebuffer.span?_eq hx hy
  rw [← hspan, span?, Framebuffer.span?]
  simp only [hstart, hstop]
  rfl

/-! ### What a view shows -/

/-- Byte `k` of the rows of a view when they follow each other without a gap. -/
def shownByte (v : FrameView) (k : Nat) : UInt8 :=
  let row := 4 * v.width.toNat
  v.data.data[(k / row * v.pitch.toNat + k % row) % 18446744073709551616]?.getD 0

/-- The framebuffer that a view agrees with as long as its encoding does not break off. What the
view cannot read is black there. -/
def shown (v : FrameView) : Framebuffer where
  width := v.width.toNat
  height := v.height.toNat
  pitch := 4 * v.width.toNat
  data := ⟨Array.ofFn fun k : Fin (4 * v.width.toNat * v.height.toNat) => v.shownByte k⟩
  row_le_pitch := Nat.le_refl _
  extent_le_size := by
    rw [← ByteArray.size_data, Array.size_ofFn]
    exact Framebuffer.extent_dense_le ..

theorem exists_span? (v : FrameView) {x y n : Nat}
    (hle : (v.offset x y).toNat ≤ (v.offset x y + .ofNat n * 4).toNat)
    (hsize : (v.offset x y + .ofNat n * 4).toNat ≤ v.data.size) :
    ∃ row, v.span? x y n = some row := by
  rw [span?, slice?_eq hle hsize]
  exact ⟨_, rfl⟩

/-- A slice that is there holds its pixels one after the other. -/
theorem of_span?_eq_some {x y n : Nat} {row : Array Pixel} (hn : 4 * n < 18446744073709551616)
    (h : v.span? x y n = some row) :
    (v.offset x y).toNat + 4 * n < 18446744073709551616 ∧
      (v.offset x y).toNat + 4 * n ≤ v.data.size ∧
      row = Array.ofFn fun i : Fin n => Pixel.read v.data ((v.offset x y).toNat + 4 * i) := by
  have hstart := (v.offset x y).toNat_lt
  simp only [span?, Option.bind_eq_bind, Option.bind_eq_some_iff, slice?_eq_some_iff,
    toNat_stop] at h
  obtain ⟨_, ⟨⟨hle, hsize⟩, rfl⟩, hrow⟩ := h
  -- had the end wrapped around, it would lie before the start
  have hlt : (v.offset x y).toNat + 4 * n < 18446744073709551616 := by omega
  rw [Nat.mod_eq_of_lt hlt] at hle hsize hrow
  refine ⟨hlt, hsize, (Option.some.inj hrow).symm.trans (congrArg Array.ofFn (funext fun i => ?_))⟩
  exact Framebuffer.read_extract hsize (by omega)

theorem getElem?_shown {y r : Nat} (hr : r < 4 * v.width.toNat) (hy : y < v.height.toNat) :
    v.shown.data.data[y * (4 * v.width.toNat) + r]? =
      some (v.data.data[(y * v.pitch.toNat + r) % 18446744073709551616]?.getD 0) := by
  have hin : y * (4 * v.width.toNat) + r < 4 * v.width.toNat * v.height.toNat := by
    have hrows := Nat.mul_le_mul_right (4 * v.width.toNat) (Nat.succ_le_of_lt hy)
    rw [Nat.succ_mul] at hrows
    rw [Nat.mul_comm (4 * v.width.toNat)]
    omega
  have hrow : (y * (4 * v.width.toNat) + r) / (4 * v.width.toNat) = y := by
    rw [Nat.mul_comm y, Nat.mul_add_div (by omega), Nat.div_eq_of_lt hr, Nat.add_zero]
  have hcolumn : (y * (4 * v.width.toNat) + r) % (4 * v.width.toNat) = r := by
    rw [Nat.mul_comm y, Nat.mul_add_mod, Nat.mod_eq_of_lt hr]
  have hbyte : v.shown.data.data[y * (4 * v.width.toNat) + r]? =
      some (v.shownByte (y * (4 * v.width.toNat) + r)) := by
    simp only [shown, Array.getElem?_ofFn, hin, dite_true]
  rw [hbyte, shownByte]
  simp only [hrow, hcolumn]

theorem pixel_shown {x y : Nat} (hx : x < v.width.toNat) (hy : y < v.height.toNat)
    (hlt : (v.offset x y).toNat + 4 ≤ 18446744073709551616)
    (hsize : (v.offset x y).toNat + 4 ≤ v.data.size) :
    v.shown.pixel x y = Pixel.read v.data (v.offset x y).toNat := by
  have hoffset : v.shown.offset x y = y * (4 * v.width.toNat) + 4 * x := rfl
  have hshown : v.shown.offset x y + 4 * 1 ≤ v.shown.data.size :=
    Framebuffer.span_in_bounds hx hy
  refine Pixel.read_congr hshown hsize fun c hc => ?_
  have hplace : (y * v.pitch.toNat + (4 * x + c)) % 18446744073709551616 =
      (v.offset x y).toNat + c := by
    rw [toNat_offset] at hlt ⊢
    omega
  rw [hoffset, Nat.add_assoc, getElem?_shown (by omega) hy, hplace,
    Array.getElem?_eq_getElem (by rw [ByteArray.size_data]; omega)]
  rfl

theorem span_shown {x y n : Nat} {row : Array Pixel} (hx : x + n ≤ v.width.toNat)
    (hy : y < v.height.toNat) (h : v.span? x y n = some row) : v.shown.span x y n = row := by
  have hwidth := v.width.toNat_lt
  obtain ⟨hlt, hsize, rfl⟩ := of_span?_eq_some (by omega) h
  rw [Framebuffer.span_eq_ofFn]
  refine congrArg Array.ofFn (funext fun i => ?_)
  have hplace : (v.offset (x + i) y).toNat = (v.offset x y).toNat + 4 * i := by
    rw [toNat_offset] at hlt ⊢
    rw [toNat_offset]
    omega
  rw [← hplace]
  exact pixel_shown (by omega) hy (by omega) (by omega)

/-- A framebuffer that a view agrees with wherever it can read its rows. -/
structure Reads (v : FrameView) (fb : Framebuffer) : Prop where
  width : fb.width = v.width.toNat
  height : fb.height = v.height.toNat
  span : ∀ {x y n : Nat} {row : Array Pixel}, x + n ≤ v.width.toNat → y < v.height.toNat →
    v.span? x y n = some row → fb.span x y n = row

theorem reads_shown (v : FrameView) : v.Reads v.shown := ⟨rfl, rfl, span_shown⟩

theorem reads_framebuffer (h : v.IsWhole) : v.Reads (v.framebuffer h) where
  width := rfl
  height := rfl
  span hx hy hrow := by
    rw [span?_framebuffer h hx hy] at hrow
    exact Option.some.inj hrow

/-! ### Encoding -/

/-- The rows and columns of a header for a rectangle lie in the picture. -/
theorem inside_of_within {width height : Nat} {r : Rect} {capacity lineCapacity : Nat}
    {h : UpdateHeader} (hok : UpdateHeader.within width height r capacity lineCapacity = .ok h) :
    h.x.toNat + h.width.toNat ≤ width ∧ h.y.toNat + h.height.toNat ≤ height ∧
      0 < h.height.toNat := by
  obtain ⟨hn, hrect, hle, -⟩ := UpdateHeader.within_eq_ok_iff.1 hok
  have hrows := hn.rows
  have hright := Rect.coordinateOfSize_le width
  have hbottom := Rect.coordinateOfSize_le height
  have hx2 : h.rect.x2 = r.x2 := by rw [hrect, Rect.x2_clipRows]
  have hy2 : h.rect.y2 ≤ Rect.coordinateOfSize height := by
    rw [hrect]
    exact Int.min_le_right ..
  rw [← hrect] at hrows
  simp only [UpdateHeader.rect] at hrows hx2 hy2
  omega

/-- The rows of a payload that are there are those of the framebuffer. -/
theorem Reads.payload (hv : v.Reads fb) {h : UpdateHeader} {lines : ByteArray}
    (hx : h.x.toNat + h.width.toNat ≤ v.width.toNat)
    (hy : h.y.toNat + h.height.toNat ≤ v.height.toNat) (hlines : v.payload? h = some lines) :
    fb.payload h = lines := by
  rw [payload?] at hlines
  rw [Framebuffer.payload]
  generalize ByteArray.emptyWithCapacity (h.lineLength * h.height.toNat) = start at hlines ⊢
  generalize h.height.toNat = n at hy hlines ⊢
  induction n generalizing lines with
  | zero => simpa using hlines
  | succ n ih =>
    rw [List.range_succ, List.foldlM_append, Option.bind_eq_bind, Option.bind_eq_some_iff] at hlines
    obtain ⟨above, habove, hlast⟩ := hlines
    simp only [List.foldlM_cons, List.foldlM_nil, Option.bind_eq_bind,
      Option.bind_eq_some_iff] at hlast
    obtain ⟨_, ⟨row, hrow, hpushed⟩, hlines⟩ := hlast
    rw [Nat.fold_succ, ih (by omega) habove, hv.span hx (by omega) hrow]
    exact Option.some.inj (hpushed.trans hlines)

/-- If every row can be read, so can the payload. -/
theorem exists_payload? {h : UpdateHeader}
    (hrows : ∀ i, i < h.height.toNat →
      ∃ row, v.span? h.x.toNat (h.y.toNat + i) h.width.toNat = some row) :
    ∃ lines, v.payload? h = some lines := by
  rw [payload?]
  generalize ByteArray.emptyWithCapacity (h.lineLength * h.height.toNat) = start
  generalize h.height.toNat = n at hrows ⊢
  induction n with
  | zero => exact ⟨start, rfl⟩
  | succ n ih =>
    obtain ⟨above, habove⟩ := ih fun i hi => hrows i (by omega)
    obtain ⟨row, hrow⟩ := hrows n (by omega)
    refine ⟨Scanline.push above row, ?_⟩
    rw [List.range_succ, List.foldlM_append, habove]
    simp [hrow]

/-- An encoding that does not break off is that of the framebuffer. -/
theorem Reads.encode (hv : v.Reads fb) {r : Rect} {out : TransferBuffer}
    {result : Except Error (Nat × TransferBuffer)} (h : v.encode? r out = some result) :
    fb.encode r out = result := by
  rw [encode?] at h
  rw [Framebuffer.encode, Framebuffer.headerFor, hv.width, hv.height]
  cases hheader : UpdateHeader.within v.width.toNat v.height.toNat r out.capacity
      out.lineCapacity with
  | error e =>
    rw [hheader] at h
    exact Option.some.inj h
  | ok header =>
    obtain ⟨hx, hy, hpos⟩ := inside_of_within hheader
    simp only [hheader, Option.bind_eq_bind, Option.bind_eq_some_iff] at h
    obtain ⟨lines, hlines, row, hrow, hresult⟩ := h
    dsimp only
    rw [Framebuffer.update, hv.payload hx hy hlines, hv.span hx (by omega) hrow]
    exact Option.some.inj hresult

/-- A rectangle that is refused is refused before the first slice is looked up. -/
theorem Reads.encode_error (hv : v.Reads fb) {r : Rect} {out : TransferBuffer} {e : Error}
    (h : fb.encode r out = .error e) : v.encode? r out = some (.error e) := by
  rw [Framebuffer.encode, Framebuffer.headerFor, hv.width, hv.height] at h
  rw [encode?]
  cases hheader : UpdateHeader.within v.width.toNat v.height.toNat r out.capacity
      out.lineCapacity with
  | error e' =>
    rw [hheader] at h
    exact congrArg some h
  | ok header =>
    rw [hheader] at h
    cases h

/-- With a header for the rectangle, and all rows of it there, there is a packet. -/
theorem exists_encode? {r : Rect} {out : TransferBuffer} {h : UpdateHeader}
    (hok : UpdateHeader.within v.width.toNat v.height.toNat r out.capacity out.lineCapacity = .ok h)
    (hrows : ∀ i, i < h.height.toNat →
      ∃ row, v.span? h.x.toNat (h.y.toNat + i) h.width.toNat = some row) :
    ∃ length filled, v.encode? r out = some (.ok (length, filled)) := by
  obtain ⟨-, -, hpos⟩ := inside_of_within hok
  obtain ⟨lines, hlines⟩ := exists_payload? hrows
  obtain ⟨row, hrow⟩ := hrows (h.height.toNat - 1) (by omega)
  rw [← Nat.add_sub_assoc hpos] at hrow
  rw [encode?, hok]
  dsimp only
  rw [hlines, hrow]
  exact ⟨_, _, rfl⟩

theorem encode?_framebuffer (h : v.IsWhole) (r : Rect) (out : TransferBuffer) :
    v.encode? r out = some ((v.framebuffer h).encode r out) := by
  cases hheader : UpdateHeader.within v.width.toNat v.height.toNat r out.capacity
      out.lineCapacity with
  | error e =>
    have hrefused : (v.framebuffer h).encode r out = .error e := by
      rw [Framebuffer.encode, show (v.framebuffer h).headerFor r _ _ = .error e from hheader]
    rw [(reads_framebuffer h).encode_error hrefused, hrefused]
  | ok header =>
    obtain ⟨hx, hy, -⟩ := inside_of_within hheader
    obtain ⟨length, filled, hencode⟩ := exists_encode? hheader fun i hi =>
      ⟨_, span?_framebuffer h hx (by omega)⟩
    rw [hencode, (reads_framebuffer h).encode hencode]

/-- What is encoded from a whole view is decoded to an update that shows the rectangle of it, and no
byte behind the packet changes, whatever the buffer held before. The encoding never breaks off. -/
theorem decodes_back {v : FrameView} (hwhole : v.IsWhole) (hwidth : v.width.toNat < 2147483648)
    (hheight : v.height.toNat < 2147483648) (r : Rect) (out : TransferBuffer) :
    (∃ result, v.encode? r out = some result) ∧
    ∀ length filled, v.encode? r out = some (.ok (length, filled)) →
      (length : Int) = 16 + 2 * (r.x2 - r.x1) * (min r.y2 v.height.toNat - r.y1) ∧
        (∃ u, Update.decode (filled.first length) = .ok u ∧ (v.framebuffer hwhole).Shows r u) ∧
        filled.capacity = out.capacity ∧
        ∀ k, length ≤ k → filled.data.data[k]? = out.data.data[k]? := by
  rw [encode?_framebuffer hwhole]
  refine ⟨⟨_, rfl⟩, fun length filled hencode => ?_⟩
  exact Framebuffer.decode_encode hwidth hheight (Option.some.inj hencode)

/-- One black column of two rows, with a pixel between them. -/
def padded : FrameView where
  width := 16
  height := 2
  pitch := 68
  data := ⟨Array.replicate 132 0⟩
  row_le_pitch := by decide
  extent_le_size := by decide +kernel

theorem decodes_back_padded :
    ∃ h : padded.IsWhole, padded.width.toNat < 2147483648 ∧ padded.height.toNat < 2147483648 ∧
    ∃ filled u, padded.encode? ⟨0, 1, 16, 4⟩ ⟨⟨Array.replicate 50 7⟩, Array.replicate 16 0⟩ =
        some (.ok (48, filled)) ∧
      Update.decode (filled.first 48) = .ok u ∧ (padded.framebuffer h).Shows ⟨0, 1, 16, 4⟩ u ∧
      filled.data.data[48]? = some 7 := by
  have hwhole : padded.IsWhole := by decide
  have hheader : UpdateHeader.within 16 2 ⟨0, 1, 16, 4⟩ 50 16 = .ok ⟨0, 1, 16, 1⟩ := rfl
  obtain ⟨length, filled, hencode⟩ : ∃ length filled, padded.encode? ⟨0, 1, 16, 4⟩
      ⟨⟨Array.replicate 50 7⟩, Array.replicate 16 0⟩ = some (.ok (length, filled)) :=
    exists_encode? hheader fun i hi =>
      ⟨_, span?_framebuffer hwhole (by decide) (Nat.add_lt_add_left hi 1)⟩
  obtain ⟨hlength, ⟨u, hdecode, hshows⟩, -, hrest⟩ :=
    (decodes_back hwhole (by decide) (by decide) _ _).2 _ _ hencode
  obtain rfl : length = 48 := Int.ofNat_inj.1 hlength
  refine ⟨hwhole, by decide, by decide, filled, u, hencode, hdecode, hshows, ?_⟩
  rw [hrest 48 (by omega)]
  rfl

/-- White pixels for one row of three: the third row starts a whole word behind the first. -/
def wrapped : FrameView where
  width := 16
  height := 3
  pitch := 9223372036854775808
  data := ⟨Array.replicate 64 255⟩
  row_le_pitch := by decide
  extent_le_size := by decide +kernel

/-- A view that is not whole. There are no bytes where its third row should be, and the packet of
that row shows the first one, white. -/
theorem packet_of_wrapped :
    ∃ length filled u, wrapped.encode? ⟨0, 2, 16, 3⟩
        ⟨⟨Array.replicate 48 0⟩, Array.replicate 16 0⟩ = some (.ok (length, filled)) ∧
      Update.decode (filled.first length) = .ok u ∧ u.header.y.toNat = 2 ∧
      u.lines[0]?.map (fun line => line.data.extract 0 4) =
        some #[Yuv.blueDifference ⟨255, 255, 255⟩, Yuv.luma ⟨255, 255, 255⟩,
          Yuv.redDifference ⟨255, 255, 255⟩, Yuv.luma ⟨255, 255, 255⟩] ∧
      wrapped.data.size < 2 * wrapped.pitch.toNat := by
  have hheader : UpdateHeader.within 16 3 ⟨0, 2, 16, 3⟩ 48 16 = .ok ⟨0, 2, 16, 1⟩ := rfl
  obtain ⟨length, filled, hencode⟩ : ∃ length filled, wrapped.encode? ⟨0, 2, 16, 3⟩
      ⟨⟨Array.replicate 48 0⟩, Array.replicate 16 0⟩ = some (.ok (length, filled)) :=
    exists_encode? hheader fun i hi => by
      obtain rfl : i = 0 := Nat.lt_one_iff.1 hi
      exact wrapped.exists_span? (by decide) (by decide)
  obtain ⟨-, ⟨u, hdecode, hshows⟩, -⟩ :=
    Framebuffer.decode_encode (by decide) (by decide) (wrapped.reads_shown.encode hencode)
  have hy : u.header.y.toNat = 2 := Int.ofNat_inj.1 hshows.y_eq
  have hx : u.header.x.toNat = 0 := Int.ofNat_inj.1 hshows.x_eq
  have hrows : (u.header.height.toNat : Int) = 1 := hshows.height_eq
  have hcolumns : (u.header.width.toNat : Int) = 16 := hshows.width_eq
  have hpair := hshows.pair 0 0 (by omega) (by omega)
  have hfirst : (wrapped.shown.pixel 0 2).rgb = ⟨255, 255, 255⟩ :=
    congrArg Pixel.rgb (pixel_shown (by decide) (by decide) (by decide) (by decide))
  have hsecond : (wrapped.shown.pixel 1 2).rgb = ⟨255, 255, 255⟩ :=
    congrArg Pixel.rgb (pixel_shown (by decide) (by decide) (by decide) (by decide))
  refine ⟨length, filled, u, hencode, hdecode, hy, ?_, by decide⟩
  rw [hpair, hx, hy]
  simp only [Nat.mul_zero, Nat.add_zero, Nat.zero_add, hfirst, hsecond, Rgb.mean_self]

end FrameView

end UsbDisplay
