import UsbDisplay.Proofs.EncodedUpdates
import UsbDisplay.Proofs.PacketFormat

/-!
The encoder at work in its buffer. It writes the head of the packet, then row by row the line and
its packed form, then the trailer, and looks at the bounds before each access
(`Framebuffer.encodeInPlace?`). No access is out of bounds, what it leaves in the buffer is the
packet in one piece, and it writes nothing before it knows that all of it will fit. The rectangles
that it takes are told by their coordinates alone (`Framebuffer.Sendable`).
-/

namespace UsbDisplay

namespace TransferBuffer

/-- Puts bytes at offset `start`, if there is room for all of them. -/
def write? (b : TransferBuffer) (start : Nat) (bytes : ByteArray) : Option TransferBuffer :=
  if start + bytes.size ≤ b.capacity then some (b.write start bytes) else none

/-- Puts a line at the start of the buffer's line, if there is room for all of it. -/
def writeLine? (b : TransferBuffer) (line : Array Pixel) : Option TransferBuffer :=
  if line.size ≤ b.lineCapacity then some (b.writeLine line) else none

theorem write?_eq {b : TransferBuffer} {start : Nat} {bytes : ByteArray}
    (h : start + bytes.size ≤ b.capacity) : b.write? start bytes = some (b.write start bytes) :=
  if_pos h

theorem writeLine?_eq {b : TransferBuffer} {line : Array Pixel} (h : line.size ≤ b.lineCapacity) :
    b.writeLine? line = some (b.writeLine line) :=
  if_pos h

theorem write_writeLine (b : TransferBuffer) (line : Array Pixel) (start : Nat)
    (bytes : ByteArray) :
    (b.writeLine line).write start bytes = (b.write start bytes).writeLine line := rfl

theorem data_write {b : TransferBuffer} {start : Nat} {bytes : ByteArray}
    (h : start + bytes.size ≤ b.capacity) :
    (b.write start bytes).data = b.data.extract 0 start ++ bytes ++
      b.data.extract (start + bytes.size) b.data.size := by
  simp only [capacity] at h
  have hsize : (b.data.extract 0 start ++ bytes ++
      b.data.extract (start + bytes.size) b.data.size).size = b.data.size := by
    simp only [ByteArray.size_append, ByteArray.size_extract]
    omega
  exact (congrArg (ByteArray.extract _ 0) hsize.symm).trans ByteArray.extract_zero_size

/-- Writing two pieces one behind the other is writing both at once. -/
theorem write_write {b : TransferBuffer} {start : Nat} {p q : ByteArray}
    (h : start + p.size + q.size ≤ b.capacity) :
    (b.write start p).write (start + p.size) q = b.write start (p ++ q) := by
  have hp : start + p.size ≤ b.capacity := by omega
  have hq : start + p.size + q.size ≤ (b.write start p).capacity := by rwa [capacity_write b hp]
  have hpq : start + (p ++ q).size ≤ b.capacity := by
    rw [ByteArray.size_append]
    omega
  have hdata :
      ((b.write start p).write (start + p.size) q).data = (b.write start (p ++ q)).data := by
    have hhead : start + p.size = (b.data.extract 0 start ++ p).size := by
      rw [capacity] at hp
      rw [ByteArray.size_append, ByteArray.size_extract]
      omega
    have hsize : (b.write start p).data.size =
        start + p.size + (b.data.extract (start + p.size) b.data.size).size := by
      rw [data_write hp, ByteArray.size_append, ← hhead]
    rw [data_write hq, hsize, data_write hp, data_write hpq,
      ByteArray.extract_append_eq_left hhead, ByteArray.extract_append_size_add' hhead,
      ByteArray.extract_extract]
    simp only [ByteArray.append_assoc, ByteArray.size_append, ByteArray.size_extract]
    rw [capacity] at h
    congr 4 <;> omega
  exact congrArg (TransferBuffer.mk · b.line) hdata

/-- The head, the rows and the trailer are written one behind the other. -/
theorem write_parts {out : TransferBuffer} {head rows trailer : ByteArray}
    (h : head.size + rows.size + trailer.size ≤ out.capacity) :
    ((out.write 0 head).write head.size rows).write (head.size + rows.size) trailer =
      out.write 0 (head ++ rows ++ trailer) := by
  have hfirst : (out.write 0 head).write (0 + head.size) rows = out.write 0 (head ++ rows) :=
    write_write (by omega)
  have hlast : (out.write 0 (head ++ rows)).write (0 + (head ++ rows).size) trailer =
      out.write 0 (head ++ rows ++ trailer) :=
    write_write (by rw [ByteArray.size_append]; omega)
  rw [Nat.zero_add] at hfirst hlast
  rw [hfirst, ← ByteArray.size_append, hlast]

theorem line_writeLine {b : TransferBuffer} {line : Array Pixel} (h : line.size ≤ b.lineCapacity) :
    (b.writeLine line).line = line ++ b.line.extract line.size b.line.size := by
  have hsize : (line ++ b.line.extract line.size b.line.size).size = b.line.size := by
    rw [lineCapacity] at h
    simp only [Array.size_append, Array.size_extract]
    omega
  rw [writeLine]
  exact (congrArg (fun n => Array.extract _ 0 n) hsize.symm).trans Array.extract_size

theorem line_writeLine_extract {b : TransferBuffer} {line : Array Pixel}
    (h : line.size ≤ b.lineCapacity) : (b.writeLine line).line.extract 0 line.size = line := by
  rw [line_writeLine h]
  simp

/-- A line takes the place of another one of its size. -/
theorem writeLine_writeLine {b : TransferBuffer} {line line' : Array Pixel}
    (hsize : line'.size = line.size) (h : line.size ≤ b.lineCapacity) :
    (b.writeLine line).writeLine line' = b.writeLine line' := by
  have h' : line'.size ≤ (b.writeLine line).lineCapacity := by
    rw [lineCapacity_writeLine b h, hsize]
    exact h
  have hline : ((b.writeLine line).writeLine line').line = (b.writeLine line').line := by
    rw [line_writeLine h', line_writeLine h, line_writeLine (hsize ▸ h), hsize]
    rw [lineCapacity] at h
    simp [Nat.add_sub_cancel' h]
  exact congrArg (TransferBuffer.mk b.data) hline

end TransferBuffer

/-- Packs a line over `target`, which must have room for all of it; the line must have whole pairs
only. -/
def Scanline.pack? (line : Array Pixel) (target : ByteArray) : Option ByteArray :=
  if line.size % 2 = 0 ∧ 2 * line.size ≤ target.size then some (pack line target) else none

theorem Scanline.pack?_eq {line : Array Pixel} {target : ByteArray} (heven : line.size % 2 = 0)
    (hsize : target.size = 2 * line.size) : pack? line target = some (push .empty line) := by
  have hroom : 2 * line.size ≤ target.size := Nat.le_of_eq hsize.symm
  rw [pack?, if_pos ⟨heven, hroom⟩, pack_eq_append heven hroom,
    ByteArray.extract_eq_empty_iff.2 (by omega), ByteArray.append_empty]

namespace Framebuffer

variable {fb : Framebuffer}

/-- `n` pixels of row `y` from column `x` on, read from a slice of the bytes. -/
def span? (fb : Framebuffer) (x y n : Nat) : Option (Array Pixel) := do
  let bytes ← slice? fb.data (fb.offset x y) (fb.offset x y + 4 * n)
  return Array.ofFn fun i : Fin n => Pixel.read bytes (4 * i)

/-- All bytes of the pixels are in the slice. -/
theorem span_in_bounds {x y n : Nat} (hx : x + n ≤ fb.width) (hy : y < fb.height) :
    fb.offset x y + 4 * n ≤ fb.data.size := by
  have h := fb.extent_le_size
  have hrow : fb.pitch * y ≤ fb.pitch * (fb.height - 1) := Nat.mul_le_mul_left _ (by omega)
  rw [extent, if_neg (by omega)] at h
  rw [offset, Nat.mul_comm y]
  omega

theorem read_extract {bytes : ByteArray} {start stop i : Nat} (hstop : stop ≤ bytes.size)
    (h : start + i + 4 ≤ stop) :
    Pixel.read (bytes.extract start stop) i = Pixel.read bytes (start + i) := by
  have hslice : i + 4 ≤ (bytes.extract start stop).size := by
    rw [ByteArray.size_extract]
    omega
  rw [Pixel.read, dif_pos hslice, Pixel.read, dif_pos (by omega)]
  simp only [ByteArray.getElem_extract, Nat.add_assoc]

theorem span?_eq {x y n : Nat} (hx : x + n ≤ fb.width) (hy : y < fb.height) :
    fb.span? x y n = some (fb.span x y n) := by
  have hbounds := span_in_bounds hx hy
  rw [span?, slice?_eq (Nat.le_add_right ..) hbounds, span_eq_ofFn]
  refine congrArg some (congrArg Array.ofFn (funext fun i => ?_))
  rw [read_extract hbounds (by omega), pixel, offset, offset]
  congr 1
  omega

/-- One row: its pixels go to the line, and the packed line to offset `start`. -/
def encodeRow? (fb : Framebuffer) (h : UpdateHeader) (y start : Nat) (out : TransferBuffer) :
    Option TransferBuffer := do
  let out ← out.writeLine? (← fb.span? h.x.toNat y h.width.toNat)
  let target ← slice? out.data start (start + h.lineLength)
  out.write? start (← Scanline.pack? (out.line.extract 0 h.width.toNat) target)

/-- `n` rows from `y` on; gives the offset behind them. -/
def encodeRows? (fb : Framebuffer) (h : UpdateHeader) :
    (n y start : Nat) → TransferBuffer → Option (Nat × TransferBuffer)
  | 0, _, start, out => some (start, out)
  | n + 1, y, start, out => do
    let out ← fb.encodeRow? h y start out
    fb.encodeRows? h n (y + 1) (start + h.lineLength) out

/-- Encodes in the buffer, with a look at the bounds before every access; `none` would be an access
out of bounds. -/
def encodeInPlace? (fb : Framebuffer) (r : Rect) (out : TransferBuffer) :
    Option (Except Error Nat × TransferBuffer) :=
  match fb.headerFor r out.capacity out.lineCapacity with
  | .error e => some (.error e, out)
  | .ok h => do
    let rows := fb.clipRows r
    let out ← out.write? 0 h.bytes.toByteArray
    let (stop, out) ←
      fb.encodeRows? h (rows.y2.toNat - rows.y1.toNat) rows.y1.toNat UpdateHeader.length out
    let out ← out.write? stop packetTrailer.toByteArray
    return (.ok (stop + packetTrailer.length), out)

section Rows

variable {h : UpdateHeader} {n y start : Nat} {out : TransferBuffer}

/-- What a row of an update becomes in the packet. -/
def packedSpan (fb : Framebuffer) (h : UpdateHeader) (y : Nat) : ByteArray :=
  Scanline.push .empty (fb.span h.x.toNat y h.width.toNat)

/-- `n` rows from `y` on, packed. -/
def packedSpans (fb : Framebuffer) (h : UpdateHeader) (n y : Nat) : ByteArray :=
  Pieces.join ((List.range' y n).map (fb.packedSpan h))

theorem size_packedSpan (heven : h.width.toNat % 2 = 0) (y : Nat) :
    (fb.packedSpan h y).size = h.lineLength := by
  simp only [packedSpan, Scanline.size_push, size_span, ByteArray.size_empty,
    UpdateHeader.lineLength]
  omega

theorem encodeRow?_eq (heven : h.width.toNat % 2 = 0) (hx : h.x.toNat + h.width.toNat ≤ fb.width)
    (hy : y < fb.height) (hline : h.width.toNat ≤ out.lineCapacity)
    (hfits : start + h.lineLength ≤ out.capacity) :
    fb.encodeRow? h y start out = some ((out.write start (fb.packedSpan h y)).writeLine
      (fb.span h.x.toNat y h.width.toNat)) := by
  have hspan := span?_eq hx hy
  have hsize : (fb.span h.x.toNat y h.width.toNat).size = h.width.toNat := size_span ..
  rw [packedSpan]
  generalize fb.span h.x.toNat y h.width.toNat = row at hspan hsize ⊢
  rw [← hsize] at hline heven
  have hread : (out.writeLine row).line.extract 0 h.width.toNat = row :=
    hsize ▸ TransferBuffer.line_writeLine_extract hline
  have htarget : (out.data.extract start (start + h.lineLength)).size = 2 * row.size := by
    rw [TransferBuffer.capacity] at hfits
    rw [ByteArray.size_extract, UpdateHeader.lineLength] at *
    omega
  have hpacked : (Scanline.push .empty row).size = h.lineLength := by
    rw [Scanline.size_push, ByteArray.size_empty, UpdateHeader.lineLength]
    omega
  simp only [encodeRow?, hspan, Option.bind_eq_bind, Option.bind_some,
    TransferBuffer.writeLine?_eq hline, TransferBuffer.data_writeLine,
    slice?_eq (Nat.le_add_right ..) hfits, hread, Scanline.pack?_eq heven htarget]
  rw [TransferBuffer.write?_eq (by rwa [hpacked]), TransferBuffer.write_writeLine]

theorem packedSpans_succ (fb : Framebuffer) (h : UpdateHeader) (n y : Nat) :
    fb.packedSpans h (n + 1) y = fb.packedSpan h y ++ fb.packedSpans h n (y + 1) := by
  rw [packedSpans, List.range'_succ, List.map_cons, Pieces.join_cons]
  rfl

theorem size_packedSpans (heven : h.width.toNat % 2 = 0) (n y : Nat) :
    (fb.packedSpans h n y).size = n * h.lineLength := by
  induction n generalizing y with
  | zero => simp [packedSpans]
  | succ n ih =>
    rw [packedSpans_succ, ByteArray.size_append, size_packedSpan heven, ih, Nat.succ_mul,
      Nat.add_comm]

/-- The rows go into the packet one behind the other, and the last one stays in the line. -/
theorem encodeRows?_eq (n y start : Nat) (out : TransferBuffer) (heven : h.width.toNat % 2 = 0)
    (hx : h.x.toNat + h.width.toNat ≤ fb.width) (hy : y + (n + 1) ≤ fb.height)
    (hline : h.width.toNat ≤ out.lineCapacity)
    (hfits : start + (n + 1) * h.lineLength ≤ out.capacity) :
    fb.encodeRows? h (n + 1) y start out = some (start + (n + 1) * h.lineLength,
      (out.write start (fb.packedSpans h (n + 1) y)).writeLine
        (fb.span h.x.toNat (y + n) h.width.toNat)) := by
  induction n generalizing y start out with
  | zero =>
    rw [encodeRows?, encodeRow?_eq heven hx (by omega) hline (by omega)]
    simp [encodeRows?, packedSpans]
  | succ n ih =>
    rw [Nat.succ_mul] at hfits
    have hrow : start + h.lineLength ≤ out.capacity := by
      have := Nat.le_mul_of_pos_left h.lineLength (Nat.succ_pos n)
      omega
    have hpacked := fb.size_packedSpan heven y
    have hspans := fb.size_packedSpans heven (n + 1) (y + 1)
    have hcapacity := TransferBuffer.capacity_write out (hpacked.symm ▸ hrow)
    have hspan : (fb.span h.x.toNat y h.width.toNat).size ≤
        (out.write start (fb.packedSpan h y)).lineCapacity := by
      rwa [size_span, TransferBuffer.lineCapacity_write]
    rw [encodeRows?, encodeRow?_eq heven hx (by omega) hline hrow, Option.bind_eq_bind,
      Option.bind_some, ih _ _ _ (by omega) (by rwa [TransferBuffer.lineCapacity_writeLine _ hspan])
        (by rw [TransferBuffer.capacity_writeLine, hcapacity]; omega)]
    have hwrite : (out.write start (fb.packedSpan h y)).write (start + h.lineLength)
        (fb.packedSpans h (n + 1) (y + 1)) = out.write start (fb.packedSpans h (n + 2) y) := by
      rw [packedSpans_succ fb h (n + 1), ← hpacked]
      exact TransferBuffer.write_write (by rw [hspans, hpacked]; omega)
    rw [TransferBuffer.write_writeLine, hwrite,
      TransferBuffer.writeLine_writeLine (by rw [size_span, size_span])
        (by rwa [size_span, TransferBuffer.lineCapacity_write]),
      Nat.succ_mul (n + 1), show y + 1 + n = y + (n + 1) by omega]
    congr 2
    omega

end Rows

theorem payload_eq_packedSpans (fb : Framebuffer) (h : UpdateHeader) :
    fb.payload h = fb.packedSpans h h.height.toNat h.y.toNat := by
  rw [payload_eq_joinFrom, packedSpans]
  generalize h.height.toNat = n
  induction n with
  | zero => simp [Pieces.joinFrom]
  | succ n ih =>
    rw [Pieces.joinFrom_succ, ih, List.range'_concat, List.map_append, Pieces.join_append,
      Nat.one_mul, List.map_singleton, Pieces.join_cons, Pieces.join_nil, ByteArray.append_empty]
    rfl

/-- The parts of the packet of an update, in the order in which they are written. -/
theorem packet_update_eq (fb : Framebuffer) (h : UpdateHeader) :
    (fb.update h).packet = h.bytes.toByteArray ++ fb.packedSpans h h.height.toNat h.y.toNat ++
      packetTrailer.toByteArray := by
  rw [Update.packet, update, payload_eq_packedSpans]

/-- The encoder goes through the rows of the header, and there are some. -/
theorem rows_of_rect_eq {r : Rect} {h : UpdateHeader} (hrect : h.rect = fb.clipRows r)
    (hrows : (fb.clipRows r).y1 < (fb.clipRows r).y2) :
    (fb.clipRows r).y1.toNat = h.y.toNat ∧
      (fb.clipRows r).y2.toNat - (fb.clipRows r).y1.toNat = h.height.toNat ∧
      0 < h.height.toNat := by
  rw [← hrect, UpdateHeader.rect] at *
  simp only at *
  omega

/-- Head, rows and trailer find room in a buffer that has room for the packet. -/
theorem encodeParts?_eq {h : UpdateHeader} {n : Nat} {out : TransferBuffer}
    (hrows : h.height.toNat = n + 1) (heven : h.width.toNat % 2 = 0)
    (hx : h.x.toNat + h.width.toNat ≤ fb.width) (hy : h.y.toNat + h.height.toNat ≤ fb.height)
    (hline : h.width.toNat ≤ out.lineCapacity)
    (hfits : (fb.update h).packet.size ≤ out.capacity) :
    (do
      let out ← out.write? 0 h.bytes.toByteArray
      let (stop, out) ← fb.encodeRows? h h.height.toNat h.y.toNat UpdateHeader.length out
      let out ← out.write? stop packetTrailer.toByteArray
      return ((.ok (stop + packetTrailer.length), out) : Except Error Nat × TransferBuffer)) =
    some (.ok (fb.update h).packet.size,
      (out.write 0 (fb.update h).packet).writeLine
        (fb.span h.x.toNat (h.y.toNat + h.height.toNat - 1) h.width.toNat)) := by
  have hhead : h.bytes.toByteArray.size = UpdateHeader.length := by simp
  have hspans := fb.size_packedSpans heven h.height.toNat h.y.toNat
  rw [packet_update_eq] at hfits ⊢
  rw [ByteArray.size_append, ByteArray.size_append] at hfits ⊢
  have hfirst : 0 + h.bytes.toByteArray.size ≤ out.capacity := by omega
  have hcapacity := TransferBuffer.capacity_write out hfirst
  have hencode := encodeRows?_eq n h.y.toNat UpdateHeader.length
    (out.write 0 h.bytes.toByteArray) heven hx (by omega) hline
    (by rw [hcapacity, ← hrows, ← hspans, ← hhead]; omega)
  rw [← hrows, ← hspans, ← hhead] at hencode
  have hrest : h.bytes.toByteArray.size + (fb.packedSpans h h.height.toNat h.y.toNat).size +
      packetTrailer.toByteArray.size ≤ (((out.write 0 h.bytes.toByteArray).write
        h.bytes.toByteArray.size (fb.packedSpans h h.height.toNat h.y.toNat)).writeLine
          (fb.span h.x.toNat (h.y.toNat + n) h.width.toNat)).capacity := by
    rw [TransferBuffer.capacity_writeLine,
      TransferBuffer.capacity_write _ (by rw [hcapacity]; omega), hcapacity]
    exact hfits
  rw [← hhead, TransferBuffer.write?_eq hfirst, Option.bind_eq_bind, Option.bind_some, hencode,
    Option.bind_eq_bind, Option.bind_some]
  simp only
  rw [TransferBuffer.write?_eq hrest, Option.bind_some, TransferBuffer.write_writeLine,
    TransferBuffer.write_parts hfits, hrows]
  rfl

/-- If there is a header for the rectangle, no access is out of bounds, and the buffer holds the
packet in one piece. -/
theorem encodeInPlace?_of_headerFor (hwidth : fb.width < 2147483648)
    (hheight : fb.height < 2147483648) {r : Rect} {out : TransferBuffer} {h : UpdateHeader}
    (hheader : fb.headerFor r out.capacity out.lineCapacity = .ok h) :
    fb.encodeInPlace? r out = some (.ok (fb.update h).packet.size,
      (out.write 0 (fb.update h).packet).writeLine
        (fb.span h.x.toNat (h.y.toNat + h.height.toNat - 1) h.width.toNat)) := by
  obtain ⟨hn, hrect, hle, hcap, hline⟩ := headerFor_eq_ok_iff.1 hheader
  obtain ⟨-, -, -, -, hx, hy, heven, -⟩ := shows_update hwidth hheight hn hrect hle
  replace heven : h.width.toNat % 2 = 0 := heven
  obtain ⟨htop, hcount, hpos⟩ := rows_of_rect_eq hrect hn.rows
  obtain ⟨n, hrows⟩ : ∃ n, h.height.toNat = n + 1 := by
    exact ⟨h.height.toNat - 1, by omega⟩
  have hfits : (fb.update h).packet.size ≤ out.capacity := by
    rwa [size_packet_update fb heven, ← Update.packetLength_eq]
  rw [encodeInPlace?, hheader]
  simp only
  rw [hcount, htop]
  exact encodeParts?_eq hrows heven hx hy hline hfits

theorem encodeInPlace?_of_error {r : Rect} {out : TransferBuffer} {e : Error}
    (h : fb.headerFor r out.capacity out.lineCapacity = .error e) :
    fb.encodeInPlace? r out = some (.error e, out) := by
  rw [encodeInPlace?, h]

/-- What a rectangle has to be like for its packet to fit a buffer; rows below the framebuffer do
not count. -/
structure Sendable (fb : Framebuffer) (r : Rect) (out : TransferBuffer) : Prop where
  left_nonneg : 0 ≤ r.x1
  columns : r.x1 < r.x2
  right_le : r.x2 ≤ fb.width
  top_nonneg : 0 ≤ r.y1
  rows : r.y1 < min r.y2 fb.height
  left_dvd : 16 ∣ r.x1
  width_dvd : 16 ∣ r.x2 - r.x1
  left_le : r.x1 ≤ 4080
  width_le : r.x2 - r.x1 ≤ 4080
  top_le : r.y1 ≤ 65535
  height_le : min r.y2 fb.height - r.y1 ≤ 65535
  fits : 16 + 2 * (r.x2 - r.x1) * (min r.y2 fb.height - r.y1) ≤ out.capacity
  line_fits : r.x2 - r.x1 ≤ out.lineCapacity

section Sendable

variable {r : Rect} {out : TransferBuffer} {h : UpdateHeader}

theorem Sendable.nameable (hs : fb.Sendable r out) (hheight : fb.height < 2147483648) :
    (fb.clipRows r).Nameable := by
  have hleft := hs.left_dvd
  have hwidth := hs.width_dvd
  rw [clipRows_of_lt hheight]
  exact ⟨hs.columns, hs.rows, hs.left_nonneg, hs.top_nonneg, Int.emod_eq_zero_of_dvd hleft,
    Int.emod_eq_zero_of_dvd hwidth, hs.left_le, hs.width_le, hs.top_le, hs.height_le⟩

/-- The length of a packet, from the coordinates of its rectangle. -/
theorem packetLength_of_rect_eq (hheight : fb.height < 2147483648)
    (hrect : h.rect = fb.clipRows r) :
    (packetLength h.width.toNat h.height.toNat : Int) =
      16 + 2 * (r.x2 - r.x1) * (min r.y2 fb.height - r.y1) ∧
    (h.width.toNat : Int) = r.x2 - r.x1 := by
  rw [clipRows_of_lt hheight] at hrect
  simp only [UpdateHeader.rect, Rect.mk.injEq] at hrect
  obtain ⟨hx, hy, hx2, hy2⟩ := hrect
  have hw : (h.width.toNat : Int) = r.x2 - r.x1 := by omega
  have ht : (h.height.toNat : Int) = min r.y2 fb.height - r.y1 := by omega
  refine ⟨?_, hw⟩
  rw [Update.packetLength_eq, ← hw, ← ht]
  simp only [Int.natCast_add, Int.natCast_mul]
  rfl

/-- There is a header for exactly the rectangles that can be sent. -/
theorem headerFor_ok_iff (hwidth : fb.width < 2147483648) (hheight : fb.height < 2147483648) :
    (∃ h, fb.headerFor r out.capacity out.lineCapacity = .ok h) ↔ fb.Sendable r out := by
  constructor
  · rintro ⟨h, hheader⟩
    obtain ⟨hn, hrect, hle, hcap, hline⟩ := headerFor_eq_ok_iff.1 hheader
    obtain ⟨hlength, hw⟩ := packetLength_of_rect_eq hheight hrect
    rw [clipRows_of_lt hheight] at hn
    rw [Rect.coordinateOfSize_of_lt hwidth] at hle
    obtain ⟨hcolumns, hrows, hleft, htop, hmod, hwmod, hx, hwle, hy, hhle⟩ := hn
    exact ⟨hleft, hcolumns, hle, htop, hrows, Int.dvd_of_emod_eq_zero hmod,
      Int.dvd_of_emod_eq_zero hwmod, hx, hwle, hy, hhle, by omega, by omega⟩
  · intro hs
    have hn := hs.nameable hheight
    obtain ⟨h, hrect⟩ := UpdateHeader.exists_rect_eq hn
    obtain ⟨hlength, hw⟩ := packetLength_of_rect_eq hheight hrect
    have hfits := hs.fits
    have hline := hs.line_fits
    refine ⟨h, headerFor_eq_ok_iff.2 ⟨hn, hrect, ?_, by omega, by omega⟩⟩
    rw [Rect.coordinateOfSize_of_lt hwidth]
    exact hs.right_le

end Sendable

/-- The encoder takes exactly the rectangles that can be sent. No access is out of bounds, and a
rectangle that it refuses leaves the buffer as it was; `encode` gives the same answers and the same
buffers. -/
theorem encodes_in_place (fb : Framebuffer) (hwidth : fb.width < 2147483648)
    (hheight : fb.height < 2147483648) (r : Rect) (out : TransferBuffer) :
    ∃ result after, fb.encodeInPlace? r out = some (result, after) ∧
      ((∃ length, result = .ok length) ↔ fb.Sendable r out) ∧
      (∀ e, result = .error e → after.data = out.data ∧ after.line = out.line ∧
        fb.encode r out = .error e) ∧
      ∀ length, result = .ok length → fb.encode r out = .ok (length, after) := by
  rw [← headerFor_ok_iff hwidth hheight]
  cases hheader : fb.headerFor r out.capacity out.lineCapacity with
  | error e =>
    refine ⟨_, _, encodeInPlace?_of_error hheader, by simp, ?_, ?_⟩
    · rintro _ ⟨⟩
      exact ⟨rfl, rfl, by rw [encode, hheader]⟩
    · rintro _ ⟨⟩
  | ok h =>
    refine ⟨_, _, encodeInPlace?_of_headerFor hwidth hheight hheader, by simp, ?_, ?_⟩
    · rintro _ ⟨⟩
    · rintro _ ⟨⟩
      rw [encode, hheader]

/-- A buffer of 48 bytes is just enough for one row of one column. -/
theorem encodes_in_place_black :
    (∃ length after, (black 16 1).encodeInPlace? ⟨0, 0, 16, 4⟩
      ⟨⟨Array.replicate 48 7⟩, Array.replicate 16 0⟩ = some (.ok length, after)) ∧
    ∃ e, (black 16 1).encodeInPlace? ⟨0, 0, 16, 4⟩
      ⟨⟨Array.replicate 47 7⟩, Array.replicate 16 0⟩ =
        some (.error e, ⟨⟨Array.replicate 47 7⟩, Array.replicate 16 0⟩) := by
  constructor
  · obtain ⟨result, after, hrun, hok, -⟩ := encodes_in_place (black 16 1) (by decide)
      (by decide) ⟨0, 0, 16, 4⟩ ⟨⟨Array.replicate 48 7⟩, Array.replicate 16 0⟩
    obtain ⟨length, rfl⟩ := hok.2 (by constructor <;> decide)
    exact ⟨length, after, hrun⟩
  · obtain ⟨result, ⟨data, line⟩, hrun, hok, herror, -⟩ := encodes_in_place (black 16 1) (by decide)
      (by decide) ⟨0, 0, 16, 4⟩ ⟨⟨Array.replicate 47 7⟩, Array.replicate 16 0⟩
    cases result with
    | ok length => exact absurd (hok.1 ⟨length, rfl⟩).fits (by decide)
    | error e =>
      obtain ⟨hdata, hline, -⟩ := herror e rfl
      cases hdata
      cases hline
      exact ⟨e, hrun⟩

end Framebuffer

end UsbDisplay
