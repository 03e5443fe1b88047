import UsbDisplay.Packet

/-!
Update packets are read back as they were written. A header is found for exactly the rectangles
that can be named in whole columns (`UpdateHeader.ofRect_eq_ok_iff`), its bytes are parsed back to
it, and a packet whose payload fills the rectangle of its header is decoded to the update that it
was made of (`Update.decode_packet`).
-/

namespace UsbDisplay

namespace Rect

theorem width_of_nonempty {r : Rect} (h : r.isEmpty = false) : r.width = (r.x2 - r.x1).toNat := by
  simp [width, h]

theorem height_of_nonempty {r : Rect} (h : r.isEmpty = false) :
    r.height = (r.y2 - r.y1).toNat := by
  simp [height, h]

/-- What a rectangle has to be like for a header to name it. -/
structure Nameable (r : Rect) : Prop where
  columns : r.x1 < r.x2
  rows : r.y1 < r.y2
  left_nonneg : 0 ≤ r.x1
  top_nonneg : 0 ≤ r.y1
  left_mod : r.x1 % 16 = 0
  width_mod : (r.x2 - r.x1) % 16 = 0
  left_le : r.x1 ≤ 4080
  width_le : r.x2 - r.x1 ≤ 4080
  top_le : r.y1 ≤ 65535
  height_le : r.y2 - r.y1 ≤ 65535

end Rect

namespace UpdateHeader

/-- A header is made for the rectangles that can be named, and it names the rectangle exactly. -/
theorem ofRect_eq_ok_iff {r : Rect} {h : UpdateHeader} :
    ofRect r = .ok h ↔ r.Nameable ∧ h.rect = r := by
  rcases r with ⟨x1, y1, x2, y2⟩
  rcases h with ⟨x, y, w, t⟩
  cases hempty : (Rect.mk x1 y1 x2 y2).isEmpty with
  | true =>
    have hr := Rect.isEmpty_iff.1 hempty
    simp only [ofRect, hempty, Bool.true_or, if_true, reduceCtorEq, false_iff]
    rintro ⟨hn, -⟩
    have := hn.columns
    have := hn.rows
    simp only at *
    omega
  | false =>
    obtain ⟨hx, hy⟩ := Rect.isEmpty_eq_false_iff.1 hempty
    have := x.toNat_lt
    have := y.toNat_lt
    have := w.toNat_lt
    have := t.toNat_lt
    simp only [ofRect, hempty, Rect.width_of_nonempty hempty, Rect.height_of_nonempty hempty,
      Bool.false_or, Bool.or_eq_true, decide_eq_true_eq, rect, Rect.mk.injEq] at hx hy ⊢
    constructor
    · intro hok
      split at hok
      · cases hok
      split at hok
      · cases hok
      split at hok
      · cases hok
      split at hok
      · cases hok
      -- all four numbers are below 65536, so nothing is lost when they become words
      simp only [Except.ok.injEq, UpdateHeader.mk.injEq, ← UInt16.toNat_inj,
        UInt16.toNat_ofNat'] at hok
      refine ⟨⟨hx, hy, ?_, ?_, ?_, ?_, ?_, ?_, ?_, ?_⟩, by omega⟩ <;> dsimp only <;> omega
    · rintro ⟨hn, heq⟩
      obtain ⟨-, -, h1, h2, h3, h4, h5, h6, h7, h8⟩ := hn
      dsimp only at h1 h2 h3 h4 h5 h6 h7 h8
      rw [if_neg (by omega), if_neg (by omega), if_neg (by omega), if_neg (by omega)]
      simp only [Except.ok.injEq, UpdateHeader.mk.injEq, ← UInt16.toNat_inj, UInt16.toNat_ofNat']
      omega

/-- Every rectangle that can be named has a header that names it. -/
theorem exists_rect_eq {r : Rect} (h : r.Nameable) :
    ∃ header : UpdateHeader, header.rect = r := by
  obtain ⟨hcolumns, hrows, hleft, htop, -, -, hleftLe, hwidthLe, htopLe, hheightLe⟩ := h
  refine ⟨⟨.ofNat r.x1.toNat, .ofNat r.y1.toNat, .ofNat (r.x2 - r.x1).toNat,
    .ofNat (r.y2 - r.y1).toNat⟩, ?_⟩
  rcases r with ⟨x1, y1, x2, y2⟩
  simp only [rect, UInt16.toNat_ofNat', Rect.mk.injEq] at *
  omega

/-- Left bound and width are whole columns that the bytes of a header can hold. -/
structure OnColumns (h : UpdateHeader) : Prop where
  left_mod : h.x.toNat % 16 = 0
  left_le : h.x.toNat ≤ 4080
  width_mod : h.width.toNat % 16 = 0
  width_le : h.width.toNat ≤ 4080

theorem OnColumns.of_nameable {h : UpdateHeader} (hr : h.rect.Nameable) : h.OnColumns := by
  obtain ⟨-, -, -, -, hleft, hwidth, hleftLe, hwidthLe, -, -⟩ := hr
  simp only [rect] at hleft hwidth hleftLe hwidthLe
  constructor <;> omega

theorem column_roundtrip {w : UInt16} (hmod : w.toNat % 16 = 0) (hle : w.toNat ≤ 4080) :
    (w / 16).toUInt8.toUInt16 * 16 = w := by
  rw [← UInt16.toNat_inj]
  simp
  omega

/-- The bytes of a header on columns are parsed back to it, whatever follows them. -/
theorem parse_bytes_append {h : UpdateHeader} (hc : h.OnColumns) (rest : ByteArray) :
    parse (h.bytes.toByteArray ++ rest) = .ok h := by
  have hsize : ¬ (h.bytes.toByteArray ++ rest).size < length := by
    simp [length]
  have hpacket : 8 ≤ (h.bytes.toByteArray ++ rest).size := by
    simp [length]
  have byte : ∀ i (hi : i < 8), (h.bytes.toByteArray ++ rest)[i] = h.bytes[i] := by
    intro i hi
    rw [ByteArray.getElem_append_left (by simpa [length] using hi), List.getElem_toByteArray]
    rfl
  have hx := column_roundtrip hc.left_mod hc.left_le
  have hw := column_roundtrip hc.width_mod hc.width_le
  simp only [parse, hsize, dite_false, byte _ (show 0 < 8 by decide),
    byte _ (show 1 < 8 by decide), byte _ (show 2 < 8 by decide), byte _ (show 3 < 8 by decide),
    byte _ (show 4 < 8 by decide), byte _ (show 5 < 8 by decide), byte _ (show 6 < 8 by decide),
    byte _ (show 7 < 8 by decide)]
  simp only [bytes, List.getElem_cons_zero, List.getElem_cons_succ, hx, hw, Word.ofBytes_high_low]
  rfl

end UpdateHeader

namespace Update

@[simp] theorem size_packet (u : Update) : u.packet.size = 16 + u.payload.size := by
  simp [packet, UpdateHeader.length]
  omega

theorem packetLength_eq (width height : Nat) :
    packetLength width height = 16 + 2 * width * height := by
  rw [packetLength, Nat.mul_comm width 2]
  omega

/-- A packet whose payload fills the rectangle of its header is decoded to its update. -/
theorem decode_packet {u : Update} (hc : u.header.OnColumns)
    (hsize : u.payload.size = 2 * u.header.width.toNat * u.header.height.toNat) :
    decode u.packet = .ok u := by
  have hparse : UpdateHeader.parse u.packet = .ok u.header := by
    rw [packet, ByteArray.append_assoc]
    exact UpdateHeader.parse_bytes_append hc _
  have hhead : (u.header.bytes.toByteArray).size = 8 := by simp [UpdateHeader.length]
  have htrailer : u.packet.extract (16 + u.payload.size - 8) (16 + u.payload.size) =
      packetTrailer.toByteArray := by
    apply ByteArray.extract_append_eq_right
    · rw [ByteArray.size_append, hhead]
      omega
    · rw [ByteArray.size_append, hhead, List.size_toByteArray, length_packetTrailer]
      omega
  have hpayload : u.packet.extract 8 (16 + u.payload.size - 8) = u.payload := by
    rw [packet, ByteArray.extract_append, ByteArray.size_append, hhead,
      ByteArray.extract_append_eq_right hhead.symm (by rw [hhead]; omega),
      ByteArray.extract_eq_empty_iff.2 (by omega), ByteArray.append_empty]
  simp only [decode, hparse, packetLength_eq, ← hsize, size_packet, htrailer, hpayload]
  simp

end Update

end UsbDisplay
