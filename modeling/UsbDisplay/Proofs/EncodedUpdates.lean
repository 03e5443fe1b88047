import UsbDisplay.Proofs.Alignment
import UsbDisplay.Proofs.PackedLines
import UsbDisplay.Proofs.UpdatePackets

/-!
Encoding and decoding an update. What the encoder puts at the start of a transfer buffer is the
packet of the part of the framebuffer that the rectangle covers, whatever the buffer held before,
and the decoder finds its geometry and its lines in it again (`decode_encode`).
-/

namespace UsbDisplay

namespace TransferBuffer

theorem data_write_zero {b : TransferBuffer} {bytes : ByteArray} (h : bytes.size ≤ b.capacity) :
    (b.write 0 bytes).data = bytes ++ b.data.extract bytes.size b.data.size := by
  simp only [capacity] at h
  simp only [write, ByteArray.extract_same, ByteArray.empty_append, Nat.zero_add]
  have hsize : (bytes ++ b.data.extract bytes.size b.data.size).size = b.data.size := by
    rw [ByteArray.size_append, ByteArray.size_extract]
    omega
  exact (congrArg (ByteArray.extract _ 0) hsize.symm).trans ByteArray.extract_zero_size

theorem first_write_zero {b : TransferBuffer} {bytes : ByteArray} (h : bytes.size ≤ b.capacity) :
    (b.write 0 bytes).first bytes.size = bytes := by
  rw [first, data_write_zero h, ByteArray.extract_append_eq_left rfl]

theorem getElem?_write_zero {b : TransferBuffer} {bytes : ByteArray} (h : bytes.size ≤ b.capacity)
    {k : Nat} (hk : bytes.size ≤ k) : (b.write 0 bytes).data.data[k]? = b.data.data[k]? := by
  have hdata : bytes.data.size ≤ k := hk
  have hle : bytes.data.size ≤ b.data.data.size := h
  rw [data_write_zero h, ByteArray.data_append, Array.getElem?_append_right hdata,
    ByteArray.data_extract, Array.getElem?_extract]
  simp only [← ByteArray.size_data, Nat.min_self]
  split
  · congr 1
    omega
  · rw [Array.getElem?_eq_none (by omega)]

end TransferBuffer

theorem Rect.x2_clipRows (r : Rect) (height : Nat) : (r.clipRows height).x2 = r.x2 := by
  unfold clipRows
  -- `rfl` alone would open the constant of `coordinateOfSize`.
  generalize coordinateOfSize height = bottom
  rfl

/-- When a rectangle can be sent from a buffer, and under which header. -/
theorem UpdateHeader.within_eq_ok_iff {width height : Nat} {r : Rect} {capacity lineCapacity : Nat}
    {h : UpdateHeader} :
    within width height r capacity lineCapacity = .ok h ↔
      (r.clipRows height).Nameable ∧ h.rect = r.clipRows height ∧
        r.x2 ≤ Rect.coordinateOfSize width ∧
        packetLength h.width.toNat h.height.toNat ≤ capacity ∧ h.width.toNat ≤ lineCapacity := by
  simp only [within, Rect.x2_clipRows, Bool.or_eq_true, decide_eq_true_eq]
  constructor
  · intro hok
    split at hok
    · cases hok
    next hin =>
    split at hok
    · cases hok
    next hof =>
    split at hok
    · cases hok
    next hfits =>
    obtain rfl : _ = h := by simpa using hok
    obtain ⟨hn, hrect⟩ := ofRect_eq_ok_iff.1 hof
    refine ⟨hn, hrect, ?_, ?_, ?_⟩ <;> omega
  · rintro ⟨hn, hrect, hle, hcap, hline⟩
    have hempty : (r.clipRows height).isEmpty = false :=
      Rect.isEmpty_eq_false_iff.2 ⟨hn.columns, hn.rows⟩
    rw [if_neg (by simp [hempty]; omega), ofRect_eq_ok_iff.2 ⟨hn, hrect⟩]
    exact if_neg (by omega)

namespace Framebuffer

theorem clipRows_of_lt {fb : Framebuffer} (hheight : fb.height < 2147483648) (r : Rect) :
    fb.clipRows r = { r with y2 := min r.y2 fb.height } := by
  rw [clipRows, Rect.clipRows, Rect.coordinateOfSize_of_lt hheight]

/-- An aligned rectangle has no rows below its framebuffer. -/
theorem clipRows_align {fb : Framebuffer} (hheight : fb.height < 2147483648) (r : Rect) :
    fb.clipRows (r.align fb.width fb.height) = r.align fb.width fb.height := by
  rw [clipRows_of_lt hheight, Int.min_eq_left (r.y2_align_le fb.width fb.height)]

theorem headerFor_eq_ok_iff {fb : Framebuffer} {r : Rect} {capacity lineCapacity : Nat}
    {h : UpdateHeader} :
    fb.headerFor r capacity lineCapacity = .ok h ↔
      (fb.clipRows r).Nameable ∧ h.rect = fb.clipRows r ∧
        r.x2 ≤ Rect.coordinateOfSize fb.width ∧
        packetLength h.width.toNat h.height.toNat ≤ capacity ∧ h.width.toNat ≤ lineCapacity :=
  UpdateHeader.within_eq_ok_iff

theorem encode_eq_ok_iff {fb : Framebuffer} {r : Rect} {out filled : TransferBuffer}
    {length : Nat} :
    fb.encode r out = .ok (length, filled) ↔
      ∃ h, fb.headerFor r out.capacity out.lineCapacity = .ok h ∧
        length = (fb.update h).packet.size ∧
        filled = (out.write 0 (fb.update h).packet).writeLine
          (fb.span h.x.toNat (h.y.toNat + h.height.toNat - 1) h.width.toNat) := by
  cases hheader : fb.headerFor r out.capacity out.lineCapacity with
  | error e => simp [encode, hheader]
  | ok h => simp [encode, hheader, eq_comm]

theorem size_packet_update (fb : Framebuffer) {h : UpdateHeader}
    (heven : h.width.toNat % 2 = 0) :
    (fb.update h).packet.size = 16 + 2 * h.width.toNat * h.height.toNat := by
  rw [Update.size_packet]
  exact congrArg _ (fb.size_payload heven)

theorem decode_update (fb : Framebuffer) {h : UpdateHeader} (hc : h.OnColumns) :
    Update.decode (fb.update h).packet = .ok (fb.update h) := by
  have hmod := hc.width_mod
  exact Update.decode_packet hc (fb.size_payload (by omega))

/-- An update that shows the part of a framebuffer in a rectangle: the rows below the framebuffer
are left out, and each pair of pixels has its four bytes, the differences taken from the mean. -/
structure Shows (fb : Framebuffer) (r : Rect) (u : Update) : Prop where
  x_eq : (u.header.x.toNat : Int) = r.x1
  y_eq : (u.header.y.toNat : Int) = r.y1
  width_eq : (u.header.width.toNat : Int) = r.x2 - r.x1
  height_eq : (u.header.height.toNat : Int) = min r.y2 fb.height - r.y1
  columns_le : u.header.x.toNat + u.header.width.toNat ≤ fb.width
  rows_le : u.header.y.toNat + u.header.height.toNat ≤ fb.height
  width_mod : u.header.width.toNat % 2 = 0
  lineCount : u.lines.length = u.header.height.toNat
  lineSize : ∀ line ∈ u.lines, line.size = 2 * u.header.width.toNat
  pair : ∀ i j, i < u.header.height.toNat → 2 * j + 1 < u.header.width.toNat →
    let p := fb.pixel (u.header.x.toNat + 2 * j) (u.header.y.toNat + i)
    let q := fb.pixel (u.header.x.toNat + 2 * j + 1) (u.header.y.toNat + i)
    let mean := Rgb.mean p.rgb q.rgb
    u.lines[i]?.map (fun line => line.data.extract (4 * j) (4 * j + 4)) =
      some #[Yuv.blueDifference mean, Yuv.luma p.rgb, Yuv.redDifference mean, Yuv.luma q.rgb]

theorem shows_update {fb : Framebuffer} (hwidth : fb.width < 2147483648)
    (hheight : fb.height < 2147483648) {r : Rect} {h : UpdateHeader}
    (hn : (fb.clipRows r).Nameable) (hrect : h.rect = fb.clipRows r)
    (hle : r.x2 ≤ Rect.coordinateOfSize fb.width) : fb.Shows r (fb.update h) := by
  rw [Rect.coordinateOfSize_of_lt hwidth] at hle
  have hc : h.OnColumns := .of_nameable (hrect ▸ hn)
  have hcolumns := hn.columns
  have hrows := hn.rows
  have hmod := hc.width_mod
  have heven : h.width.toNat % 2 = 0 := by omega
  rw [clipRows_of_lt hheight] at hrect hcolumns hrows
  simp only [UpdateHeader.rect, Rect.mk.injEq] at hrect hcolumns hrows
  obtain ⟨hx, hy, hx2, hy2⟩ := hrect
  have hcount : (fb.update h).lineCount = h.height.toNat :=
    lineCount_update fb heven (by omega)
  refine ⟨hx, hy, ?_, ?_, ?_, ?_, heven, ?_, ?_, ?_⟩
  · show (h.width.toNat : Int) = _
    omega
  · show (h.height.toNat : Int) = _
    omega
  · show h.x.toNat + h.width.toNat ≤ _
    omega
  · show h.y.toNat + h.height.toNat ≤ _
    omega
  · rw [Update.length_lines, hcount]
    rfl
  · intro line hline
    simp only [Update.lines, hcount, List.mem_map, List.mem_range] at hline
    obtain ⟨i, hi, rfl⟩ := hline
    rw [line_update fb heven hi, size_packedRow fb heven, UpdateHeader.lineLength, Nat.mul_comm]
    rfl
  · intro i j hi hj
    have hi' : i < h.height.toNat := hi
    have hj' : 2 * j + 1 < h.width.toNat := hj
    have hline : (fb.update h).lines[i]? = some (fb.packedRow h i) := by
      simp only [Update.lines, hcount, List.getElem?_map, List.getElem?_range hi', Option.map_some,
        line_update fb heven hi']
    rw [hline, Option.map_some, packedRow, Scanline.extract_push_empty _ (by simpa using hj')]
    simp only [getElem_span]
    rfl

/-- What the encoder writes is decoded to an update that shows the rectangle of the framebuffer,
and no byte behind it changes, whatever the buffer held before. -/
theorem decode_encode {fb : Framebuffer} (hwidth : fb.width < 2147483648)
    (hheight : fb.height < 2147483648) {r : Rect} {out filled : TransferBuffer} {length : Nat}
    (hencode : fb.encode r out = .ok (length, filled)) :
    (length : Int) = 16 + 2 * (r.x2 - r.x1) * (min r.y2 fb.height - r.y1) ∧
      (∃ u, Update.decode (filled.first length) = .ok u ∧ fb.Shows r u) ∧
      filled.capacity = out.capacity ∧
      ∀ k, length ≤ k → filled.data.data[k]? = out.data.data[k]? := by
  obtain ⟨h, hheader, rfl, rfl⟩ := encode_eq_ok_iff.1 hencode
  obtain ⟨hn, hrect, hle, hcap, -⟩ := headerFor_eq_ok_iff.1 hheader
  have hc : h.OnColumns := .of_nameable (hrect ▸ hn)
  have hmod := hc.width_mod
  have hshows := shows_update hwidth hheight hn hrect hle
  have hsize := fb.size_packet_update (h := h) (by omega)
  have hfits : (fb.update h).packet.size ≤ out.capacity := by
    rwa [hsize, ← Update.packetLength_eq]
  have hfirst : ((out.write 0 (fb.update h).packet).writeLine
      (fb.span h.x.toNat (h.y.toNat + h.height.toNat - 1) h.width.toNat)).first
        (fb.update h).packet.size = (fb.update h).packet :=
    TransferBuffer.first_write_zero hfits
  refine ⟨?_, ⟨fb.update h, ?_, hshows⟩, ?_, ?_⟩
  · rw [hsize, ← hshows.width_eq, ← hshows.height_eq]
    simp only [Int.natCast_add, Int.natCast_mul]
    rfl
  · rw [hfirst, decode_update fb hc]
  · exact TransferBuffer.capacity_write _ (by omega)
  · intro k hk
    exact TransferBuffer.getElem?_write_zero hfits hk

theorem extent_dense_le (width height : Nat) :
    extent width height (4 * width) ≤ 4 * width * height := by
  rw [extent]
  split
  · exact Nat.zero_le _
  · rw [← Nat.mul_succ]
    exact Nat.mul_le_mul_left _ (by omega)

/-- A black framebuffer whose rows follow each other without a gap. -/
def black (width height : Nat) : Framebuffer where
  width := width
  height := height
  pitch := 4 * width
  data := ⟨Array.replicate (4 * width * height) 0⟩
  row_le_pitch := Nat.le_refl _
  extent_le_size := by
    rw [← ByteArray.size_data, Array.size_replicate]
    exact extent_dense_le width height

end Framebuffer

end UsbDisplay
