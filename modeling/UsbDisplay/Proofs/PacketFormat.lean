import UsbDisplay.Pieces
import UsbDisplay.Proofs.UpdatePackets

/-!
The format of update packets, read from the decoder. A run of bytes is accepted exactly if it is put
together from the parts of a packet (`PacketParts`), and what is decoded has all of it: the header
and the payload give the packet back, and the lines give the payload back.

A packet says at its start how long it is, so none can be continued to another one, and packets put
behind each other can be told apart again (`Update.eq_of_join_eq`).
-/

namespace UsbDisplay

theorem le_packetLength (width height : Nat) : 16 ≤ packetLength width height := by
  rw [Update.packetLength_eq]
  omega

/-- Pieces of one size that are cut out one after the other give back what they were cut from. -/
theorem Pieces.join_extracts (bytes : ByteArray) (size n : Nat) (h : n * size ≤ bytes.size) :
    join ((List.range n).map fun i => bytes.extract (i * size) ((i + 1) * size)) =
      bytes.extract 0 (n * size) := by
  induction n with
  | zero => simp
  | succ n ih =>
    have hle : n * size ≤ (n + 1) * size := Nat.mul_le_mul_right _ (Nat.le_succ n)
    rw [List.range_succ, List.map_append, join_append, ih (Nat.le_trans hle h), List.map_singleton,
      join_cons, join_nil, ByteArray.append_empty, ByteArray.extract_append_extract, Nat.zero_min,
      Nat.max_eq_right hle]

/-! ### Reading within bounds -/

/-- The first bytes of a run, one by one. -/
theorem toList_extract_zero (bytes : ByteArray) (n : Nat) (h : n ≤ bytes.size) :
    (bytes.extract 0 n).data.toList = List.ofFn fun i : Fin n => bytes[i] := by
  refine List.ext_getElem (by simpa using Nat.min_eq_left h) fun i _ _ => ?_
  simp [ByteArray.getElem_eq_getElem_data]

theorem mapM_eq_some {α β : Type} {f : α → Option β} {g : α → β} {l : List α}
    (h : ∀ a ∈ l, f a = some (g a)) : l.mapM f = some (l.map g) := by
  induction l with
  | nil => rfl
  | cons a rest ih =>
    rw [List.mapM_cons, h a List.mem_cons_self, ih fun b hb => h b (List.mem_cons_of_mem a hb)]
    rfl

/-- All pieces of the given size, from the start; a rest that is shorter is left out. There are no
pieces of no size. -/
def chunks? (size : Nat) (bytes : ByteArray) : Option (List ByteArray) :=
  if size = 0 then none
  else (List.range (bytes.size / size)).mapM fun i => slice? bytes (i * size) ((i + 1) * size)

theorem chunks?_eq {size : Nat} (h : 0 < size) (bytes : ByteArray) :
    chunks? size bytes = some ((List.range (bytes.size / size)).map fun i =>
      bytes.extract (i * size) ((i + 1) * size)) := by
  rw [chunks?, if_neg (Nat.ne_of_gt h)]
  refine mapM_eq_some fun i hi => slice?_eq (Nat.mul_le_mul_right size (Nat.le_succ i)) ?_
  exact Nat.le_trans (Nat.mul_le_mul_right size (List.mem_range.1 hi)) (Nat.div_mul_le_self ..)

namespace UpdateHeader

/-- Reading a header with a look at the bounds before every access; `none` would be an access out of
bounds. -/
def parse? (packet : ByteArray) : Option (Except PacketFault UpdateHeader) := do
  if packet.size < length then return .error .truncated
  let marker ← slice? packet 0 2
  if marker.data.toList ≠ [0xFF, 0x00] then return .error .badMarker
  return .ok
    { x := (← packet[2]?).toUInt16 * 16
      y := Word.ofBytes (← packet[3]?) (← packet[4]?)
      width := (← packet[5]?).toUInt16 * 16
      height := Word.ofBytes (← packet[6]?) (← packet[7]?) }

theorem parse?_eq (packet : ByteArray) : parse? packet = some (parse packet) := by
  unfold parse? parse
  split
  · simp
  next hsize =>
    replace hsize : 8 ≤ packet.size := Nat.le_of_not_lt hsize
    have byte : ∀ i (hi : i < 8), packet[i]? = some packet[i] := fun i hi => getElem?_pos ..
    have marker : (packet.extract 0 2).data.toList = [packet[0], packet[1]] := by
      rw [toList_extract_zero packet 2 (by omega)]
      rfl
    rw [slice?_eq (Nat.zero_le 2) (by omega)]
    simp only [Option.bind_eq_bind, Option.bind_some, marker, byte _ (show 2 < 8 by decide),
      byte _ (show 3 < 8 by decide), byte _ (show 4 < 8 by decide), byte _ (show 5 < 8 by decide),
      byte _ (show 6 < 8 by decide), byte _ (show 7 < 8 by decide)]
    by_cases h : packet[0] = 0xFF ∧ packet[1] = 0x00
    · rw [if_neg (by simp [h.1, h.2]), if_neg (by simp [h.1, h.2])]
      rfl
    · rw [if_pos (by simpa using h), if_pos (by rwa [← Decidable.not_and_iff_not_or_not])]
      rfl

end UpdateHeader

namespace Update

/-- Decoding with a look at the bounds before every access. -/
def decode? (packet : ByteArray) : Option (Except PacketFault Update) := do
  match ← UpdateHeader.parse? packet with
  | .error fault => return .error fault
  | .ok header =>
    let expected := packetLength header.width.toNat header.height.toNat
    if packet.size ≠ expected then return .error .badLength
    let trailer ← slice? packet (expected - 8) packet.size
    if trailer.data.toList ≠ packetTrailer then return .error .badTrailer
    return .ok ⟨header, ← slice? packet 8 (expected - 8)⟩

theorem decode?_eq (packet : ByteArray) : decode? packet = some (decode packet) := by
  unfold decode? decode
  rw [UpdateHeader.parse?_eq]
  cases hparse : UpdateHeader.parse packet with
  | error fault => rfl
  | ok header =>
    simp only [Option.bind_eq_bind, Option.bind_some]
    split
    · rfl
    next hsize =>
      replace hsize := Decidable.not_not.1 hsize
      have hlong : 16 ≤ packet.size := hsize ▸ le_packetLength ..
      rw [← hsize, slice?_eq (Nat.sub_le ..) (Nat.le_refl _), Option.bind_some,
        slice?_eq (by omega) (Nat.sub_le ..)]
      split <;> rfl

end Update

/-! ### What is accepted -/

theorem Word.toNat_high_low (w : UInt16) : 256 * (high w).toNat + (low w).toNat = w.toNat := by
  rw [toNat_high, toNat_low]
  omega

theorem eq_toByteArray {bytes : ByteArray} {l : List UInt8} (h : bytes.data.toList = l) :
    bytes = l.toByteArray := by
  apply ByteArray.ext
  rw [← h]
  simp

namespace UpdateHeader

theorem toNat_column (b : UInt8) : (b.toUInt16 * 16).toNat = 16 * b.toNat := by
  have := b.toNat_lt
  simp
  omega

theorem byte_of_column (b : UInt8) : (b.toUInt16 * 16 / 16).toUInt8 = b := by
  have := b.toNat_lt
  rw [← UInt8.toNat_inj]
  simp
  omega

theorem toNat_column_byte {w : UInt16} (hmod : w.toNat % 16 = 0) (hle : w.toNat ≤ 4080) :
    16 * (w / 16).toUInt8.toNat = w.toNat := by
  rw [← toNat_column, column_roundtrip hmod hle]

/-- The bytes that a header was parsed from are its own. -/
theorem of_parse {packet : ByteArray} {h : UpdateHeader} (hparse : parse packet = .ok h) :
    h.OnColumns ∧ packet.extract 0 8 = h.bytes.toByteArray := by
  unfold parse at hparse
  split at hparse
  · cases hparse
  next hsize =>
    replace hsize : 8 ≤ packet.size := Nat.le_of_not_lt hsize
    simp only at hparse
    split at hparse
    · cases hparse
    next hmarker =>
      cases hparse
      have hleft := packet[2].toNat_lt
      have hwidth := packet[5].toNat_lt
      refine ⟨?_, eq_toByteArray ?_⟩
      · constructor <;> simp only [toNat_column] <;> omega
      · rw [toList_extract_zero packet 8 hsize]
        obtain ⟨hfirst, hsecond⟩ := not_or.1 hmarker
        rw [bytes, ← Decidable.not_not.1 hfirst, ← Decidable.not_not.1 hsecond]
        simp only [byte_of_column, Word.high_ofBytes, Word.low_ofBytes]
        rfl

end UpdateHeader

namespace Update

/-- The decoder accepts the packets of the updates that a header can name and whose payload fills
their rectangle, and nothing else. -/
theorem decode_eq_ok_iff {p : ByteArray} {u : Update} :
    decode p = .ok u ↔ u.header.OnColumns ∧
      u.payload.size = 2 * u.header.width.toNat * u.header.height.toNat ∧ u.packet = p := by
  constructor
  · intro h
    unfold decode at h
    split at h
    · cases h
    next header hparse =>
      simp only at h
      split at h
      · cases h
      next hsize =>
        split at h
        · cases h
        next htrailer =>
          cases h
          obtain ⟨hcolumns, hhead⟩ := UpdateHeader.of_parse hparse
          replace hsize := Decidable.not_not.1 hsize
          replace htrailer := eq_toByteArray (Decidable.not_not.1 htrailer)
          rw [packetLength_eq] at hsize
          refine ⟨hcolumns, ?_, ?_⟩
          · simp only [ByteArray.size_extract, packetLength_eq]
            omega
          · rw [packet, ← hhead, ← htrailer, packetLength_eq, ← hsize]
            rw [ByteArray.extract_append_extract, Nat.zero_min, Nat.max_eq_right (by omega),
              ByteArray.extract_append_extract, Nat.zero_min, Nat.max_eq_right (Nat.sub_le ..),
              ByteArray.extract_zero_size]
  · rintro ⟨hcolumns, hsize, rfl⟩
    exact decode_packet hcolumns hsize

end Update

/-- The parts that a packet is put together from. Two bytes for a row or a number of rows have the
higher one first; columns are counted by 16 pixels, of which each has two bytes. -/
structure PacketParts where
  column : UInt8
  topHigh : UInt8
  topLow : UInt8
  columns : UInt8
  rowsHigh : UInt8
  rowsLow : UInt8
  payload : ByteArray
  size_payload : payload.size = 32 * columns.toNat * (256 * rowsHigh.toNat + rowsLow.toNat)

namespace PacketParts

def packet (t : PacketParts) : ByteArray :=
  [0xFF, 0x00, t.column, t.topHigh, t.topLow, t.columns, t.rowsHigh, t.rowsLow].toByteArray ++
    t.payload ++ packetTrailer.toByteArray

def rows (t : PacketParts) : Nat := 256 * t.rowsHigh.toNat + t.rowsLow.toNat

/-- What the parts say about an update. -/
structure Says (t : PacketParts) (u : Update) : Prop where
  x : u.header.x.toNat = 16 * t.column.toNat
  y : u.header.y.toNat = 256 * t.topHigh.toNat + t.topLow.toNat
  width : u.header.width.toNat = 16 * t.columns.toNat
  height : u.header.height.toNat = t.rows
  payload : u.payload = t.payload

/-- The parts of the packet of an update. -/
def ofUpdate (u : Update) (hcolumns : u.header.OnColumns)
    (hsize : u.payload.size = 2 * u.header.width.toNat * u.header.height.toNat) : PacketParts where
  column := (u.header.x / 16).toUInt8
  topHigh := Word.high u.header.y
  topLow := Word.low u.header.y
  columns := (u.header.width / 16).toUInt8
  rowsHigh := Word.high u.header.height
  rowsLow := Word.low u.header.height
  payload := u.payload
  size_payload := by
    have hwidth := UpdateHeader.toNat_column_byte hcolumns.width_mod hcolumns.width_le
    rw [Word.toNat_high_low, hsize, ← hwidth]
    congr 1
    omega

namespace Says

variable {t : PacketParts} {u : Update}

theorem onColumns (h : t.Says u) : u.header.OnColumns := by
  have hx := h.x
  have hwidth := h.width
  have := t.column.toNat_lt
  have := t.columns.toNat_lt
  constructor <;> omega

theorem size_payload (h : t.Says u) :
    u.payload.size = 2 * u.header.width.toNat * u.header.height.toNat := by
  rw [h.payload, t.size_payload, h.width, h.height, rows]
  congr 1
  omega

theorem packet_eq (h : t.Says u) : u.packet = t.packet := by
  have hcolumn : (u.header.x / 16).toUInt8 = t.column := by
    have := UpdateHeader.toNat_column_byte h.onColumns.left_mod h.onColumns.left_le
    rw [← UInt8.toNat_inj]
    have := h.x
    omega
  have hcolumns : (u.header.width / 16).toUInt8 = t.columns := by
    have := UpdateHeader.toNat_column_byte h.onColumns.width_mod h.onColumns.width_le
    rw [← UInt8.toNat_inj]
    have := h.width
    omega
  have htop : u.header.y = Word.ofBytes t.topHigh t.topLow := by
    rw [← UInt16.toNat_inj, h.y, Word.toNat_ofBytes]
    omega
  have hrows : u.header.height = Word.ofBytes t.rowsHigh t.rowsLow := by
    rw [← UInt16.toNat_inj, h.height, rows, Word.toNat_ofBytes]
    omega
  rw [Update.packet, UpdateHeader.bytes, hcolumn, hcolumns, htop, hrows, h.payload]
  simp only [Word.high_ofBytes, Word.low_ofBytes]
  rfl

end Says

end PacketParts

namespace Update

/-- The decoder accepts what is put together from the parts of a packet, and finds what the parts
say. -/
theorem decode_eq_ok_iff_parts {p : ByteArray} {u : Update} :
    decode p = .ok u ↔ ∃ t : PacketParts, t.packet = p ∧ t.Says u := by
  rw [decode_eq_ok_iff]
  constructor
  · rintro ⟨hcolumns, hsize, rfl⟩
    refine ⟨.ofUpdate u hcolumns hsize, rfl, ?_, ?_, ?_, ?_, rfl⟩
    · exact (UpdateHeader.toNat_column_byte hcolumns.left_mod hcolumns.left_le).symm
    · exact (Word.toNat_high_low u.header.y).symm
    · exact (UpdateHeader.toNat_column_byte hcolumns.width_mod hcolumns.width_le).symm
    · exact (Word.toNat_high_low u.header.height).symm
  · rintro ⟨t, rfl, hparts⟩
    exact ⟨hparts.onColumns, hparts.size_payload, hparts.packet_eq⟩

/-! ### Lines -/

/-- Cutting the payload into lines with a look at the bounds before every access. -/
def lines? (u : Update) : Option (List ByteArray) := chunks? (max u.header.lineLength 1) u.payload

/-- The payload fills the rectangle of the header. -/
def Filled (u : Update) : Prop := u.payload.size = u.header.height.toNat * u.header.lineLength

variable {u : Update}

theorem filled_of_size
    (h : u.payload.size = 2 * u.header.width.toNat * u.header.height.toNat) : u.Filled := by
  rw [Filled, h, UpdateHeader.lineLength, Nat.mul_comm, Nat.mul_comm 2]

theorem Filled.lineCount (h : u.Filled) :
    u.lineCount = if u.header.width.toNat = 0 then 0 else u.header.height.toNat := by
  rw [Update.lineCount, h]
  split
  next hzero => simp [UpdateHeader.lineLength, hzero]
  next hpos =>
    have hline : 0 < u.header.lineLength := by
      rw [UpdateHeader.lineLength]
      omega
    rw [Nat.max_eq_left hline, Nat.mul_div_cancel _ hline]

theorem Filled.lineCount_mul (h : u.Filled) :
    u.lineCount * u.header.lineLength = u.payload.size := by
  rw [h.lineCount, h]
  split
  next hzero => simp [UpdateHeader.lineLength, hzero]
  · rfl

theorem Filled.join_lines (h : u.Filled) : Pieces.join u.lines = u.payload := by
  rw [lines]
  have hjoin := Pieces.join_extracts u.payload u.header.lineLength u.lineCount
    (Nat.le_of_eq h.lineCount_mul)
  rw [h.lineCount_mul, ByteArray.extract_zero_size] at hjoin
  exact hjoin

theorem Filled.size_line (h : u.Filled) {l : ByteArray} (hl : l ∈ u.lines) :
    l.size = u.header.lineLength := by
  obtain ⟨i, hi, rfl⟩ := List.mem_map.1 hl
  have hend : (i + 1) * u.header.lineLength ≤ u.payload.size :=
    h.lineCount_mul ▸ Nat.mul_le_mul_right _ (List.mem_range.1 hi)
  rw [line, ByteArray.size_extract, Nat.min_eq_left hend, Nat.succ_mul]
  omega

theorem Filled.lines?_eq (h : u.Filled) : u.lines? = some u.lines := by
  rw [lines?, chunks?_eq (by omega), lines, Update.lineCount]
  by_cases hline : u.header.lineLength = 0
  · have hsize : u.payload.size = 0 := by rw [h, hline, Nat.mul_zero]
    simp [hsize]
  · rw [Nat.max_eq_left (Nat.pos_of_ne_zero hline)]
    rfl

/-! ### Packets behind each other -/

def Accepted (p : ByteArray) : Prop := ∃ u, decode p = .ok u

/-- No packet is the beginning of another one. -/
theorem eq_empty_of_accepted {p rest : ByteArray} (hp : Accepted p) (h : Accepted (p ++ rest)) :
    rest = .empty := by
  obtain ⟨u, hu⟩ := hp
  obtain ⟨v, hv⟩ := h
  obtain ⟨hcolumns, hsize, rfl⟩ := decode_eq_ok_iff.1 hu
  obtain ⟨hcolumns', hsize', hv'⟩ := decode_eq_ok_iff.1 hv
  have hheader : u.header = v.header := by
    have hparse := UpdateHeader.parse_bytes_append hcolumns
      (u.payload ++ packetTrailer.toByteArray ++ rest)
    have hparse' := UpdateHeader.parse_bytes_append hcolumns'
      (v.payload ++ packetTrailer.toByteArray)
    rw [← ByteArray.append_assoc, ← packet, hv', packet] at hparse'
    simp only [ByteArray.append_assoc] at hparse hparse'
    rw [hparse] at hparse'
    exact Except.ok.inj hparse'
  have hsizes := congrArg ByteArray.size hv'
  rw [ByteArray.size_append, size_packet, size_packet, hsize, hsize', hheader] at hsizes
  exact ByteArray.size_eq_zero_iff.1 (by omega)

theorem size_pos_of_accepted {p : ByteArray} (h : Accepted p) : 0 < p.size := by
  obtain ⟨u, hu⟩ := h
  rw [← (decode_eq_ok_iff.1 hu).2.2, size_packet]
  omega

theorem eq_of_append_eq {p q a b : ByteArray} (hp : Accepted p) (hq : Accepted q)
    (h : p ++ a = q ++ b) : p = q := by
  rw [ByteArray.ext_iff, ByteArray.data_append, ByteArray.data_append,
    Array.append_eq_append_iff] at h
  rcases h with ⟨rest, hrest, -⟩ | ⟨rest, hrest, -⟩
  · obtain rfl : q = p ++ ⟨rest⟩ := ByteArray.ext (by rw [hrest, ByteArray.data_append])
    rw [eq_empty_of_accepted hp hq, ByteArray.append_empty]
  · obtain rfl : p = q ++ ⟨rest⟩ := ByteArray.ext (by rw [hrest, ByteArray.data_append])
    rw [eq_empty_of_accepted hq hp, ByteArray.append_empty]

theorem join_ne_empty {p : ByteArray} {ps : List ByteArray} (h : Accepted p) :
    Pieces.join (p :: ps) ≠ .empty := by
  intro hempty
  have hsize := congrArg ByteArray.size hempty
  have := size_pos_of_accepted h
  rw [Pieces.join_cons, ByteArray.size_append, ByteArray.size_empty] at hsize
  omega

/-- Packets put behind each other are told apart again in one way only. -/
theorem eq_of_join_eq {ps qs : List ByteArray} (hps : ∀ p ∈ ps, Accepted p)
    (hqs : ∀ q ∈ qs, Accepted q) (h : Pieces.join ps = Pieces.join qs) : ps = qs := by
  induction ps generalizing qs with
  | nil =>
    cases qs with
    | nil => rfl
    | cons q qs => exact absurd h.symm (join_ne_empty (hqs q List.mem_cons_self))
  | cons p ps ih =>
    have hp := hps p List.mem_cons_self
    cases qs with
    | nil => exact absurd h (join_ne_empty hp)
    | cons q qs =>
      rw [Pieces.join_cons, Pieces.join_cons] at h
      obtain rfl := eq_of_append_eq hp (hqs q List.mem_cons_self) h
      rw [ih (fun r hr => hps r (List.mem_cons_of_mem p hr))
        (fun r hr => hqs r (List.mem_cons_of_mem p hr)) ((ByteArray.append_right_inj p).1 h)]

/-- What the decoder makes of a run of bytes. -/
structure ReadsPackets (p : ByteArray) : Prop where
  /-- It accepts what is put together from the parts of a packet, and finds what the parts say. -/
  accepted_iff : ∀ u, decode p = .ok u ↔ ∃ t : PacketParts, t.packet = p ∧ t.Says u
  /-- Header, payload and trailer give the packet back. -/
  packet_eq : ∀ u, decode p = .ok u →
    u.header.bytes.toByteArray ++ u.payload ++ packetTrailer.toByteArray = p
  length_lines : ∀ u, decode p = .ok u →
    u.lines.length = if u.header.width.toNat = 0 then 0 else u.header.height.toNat
  size_line : ∀ u, decode p = .ok u → ∀ l ∈ u.lines, l.size = 2 * u.header.width.toNat
  join_lines : ∀ u, decode p = .ok u → Pieces.join u.lines = u.payload
  /-- Nothing is read out of bounds, whether the packet is accepted or not. -/
  in_bounds : decode? p = some (decode p)
  lines_in_bounds : ∀ u, decode p = .ok u → u.lines? = some u.lines
  /-- An accepted packet cannot be continued to another one. -/
  complete : Accepted p → ∀ rest, Accepted (p ++ rest) → rest = .empty
  /-- It can be cut into accepted packets in one way at most. -/
  one_split : ∀ ps qs, (∀ q ∈ ps, Accepted q) → (∀ q ∈ qs, Accepted q) →
    Pieces.join ps = p → Pieces.join qs = p → ps = qs

/-- The decoder accepts the packets of the format, loses nothing of them, and stays within bounds.
-/
theorem reads_packets (p : ByteArray) : ReadsPackets p where
  accepted_iff _ := decode_eq_ok_iff_parts
  packet_eq _ h := (decode_eq_ok_iff.1 h).2.2
  length_lines u h := by
    rw [Update.length_lines, (filled_of_size (decode_eq_ok_iff.1 h).2.1).lineCount]
  size_line u h l hl := by
    rw [(filled_of_size (decode_eq_ok_iff.1 h).2.1).size_line hl, UpdateHeader.lineLength,
      Nat.mul_comm]
  join_lines u h := (filled_of_size (decode_eq_ok_iff.1 h).2.1).join_lines
  in_bounds := decode?_eq p
  lines_in_bounds u h := (filled_of_size (decode_eq_ok_iff.1 h).2.1).lines?_eq
  complete hp _ h := eq_empty_of_accepted hp h
  one_split _ _ hps hqs h h' := eq_of_join_eq hps hqs (h.trans h'.symm)

end Update

end UsbDisplay
