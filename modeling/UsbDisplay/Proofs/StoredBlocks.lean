import UsbDisplay.Deflate.Zlib

/-!
Stored blocks, read back. What a block holds is found behind its head, and the reader then stands at
the next block, whatever comes there. So a run of bytes that was wrapped without being compressed is
unwrapped to itself (`Zlib.decode?_encode`).
-/

namespace UsbDisplay

namespace Pieces

/-- A piece stands in a run of bytes from a place on. -/
def Holds (bytes : ByteArray) (start : Nat) (piece : ByteArray) : Prop :=
  start + piece.size ≤ bytes.size ∧ bytes.extract start (start + piece.size) = piece

variable {bytes p q : ByteArray} {start : Nat}

theorem holds_self (bytes : ByteArray) : Holds bytes 0 bytes := by
  rw [Holds, Nat.zero_add]
  exact ⟨Nat.le_refl _, ByteArray.extract_zero_size⟩

theorem holds_append :
    Holds bytes start (p ++ q) ↔ Holds bytes start p ∧ Holds bytes (start + p.size) q := by
  simp only [Holds, ByteArray.size_append, ← Nat.add_assoc]
  constructor
  · rintro ⟨hsize, hextract⟩
    have hleft := congrArg (·.extract 0 p.size) hextract
    have hright := congrArg (·.extract p.size (p.size + q.size)) hextract
    simp only [ByteArray.extract_extract, Nat.add_zero, Nat.add_assoc] at hleft hright hsize ⊢
    rw [Nat.min_eq_left (by omega), ByteArray.extract_append_eq_left rfl] at hleft
    rw [Nat.min_self, ByteArray.extract_append_eq_right rfl rfl] at hright
    exact ⟨⟨by omega, hleft⟩, hsize, hright⟩
  · rintro ⟨⟨-, hleft⟩, hsize, hright⟩
    refine ⟨hsize, ?_⟩
    calc bytes.extract start (start + p.size + q.size)
        = bytes.extract start (start + p.size) ++
            bytes.extract (start + p.size) (start + p.size + q.size) := by
          rw [ByteArray.extract_append_extract, Nat.min_eq_left (Nat.le_add_right ..),
            Nat.max_eq_right (Nat.le_add_right ..)]
      _ = p ++ q := by rw [hleft, hright]

theorem Holds.getElem? (h : Holds bytes start p) {i : Nat} (hi : i < p.size) :
    bytes[start + i]? = some p[i] := by
  obtain ⟨hsize, hextract⟩ := h
  have hin : i < (bytes.extract start (start + p.size)).size := by
    rw [ByteArray.size_extract]
    omega
  rw [getElem?_pos bytes _ (by omega), ← ByteArray.getElem_extract hin]
  simp only [hextract]

theorem Holds.getElem?_eq (h : Holds bytes start p) {i : Nat} (hi : i < p.size) :
    p[i]? = bytes[start + i]? := by
  rw [h.getElem? hi, getElem?_pos p i hi]

theorem Holds.cons {b : UInt8} {l : List UInt8} (h : Holds bytes start (b :: l).toByteArray) :
    bytes[start]? = some b ∧ Holds bytes (start + 1) l.toByteArray := by
  rw [← List.singleton_append, List.toByteArray_append, holds_append] at h
  exact ⟨h.1.getElem? (i := 0) Nat.zero_lt_one, h.2⟩

theorem pieces_ne_nil (size : Nat) (bytes : ByteArray) : pieces size bytes ≠ [] := by
  rw [pieces, piecesFrom]
  split <;> exact List.cons_ne_nil _ _

end Pieces

open Pieces

/-! ### Bits of whole bytes -/

namespace BitSource

variable {bytes : ByteArray} {k : Nat} {b : UInt8}

theorem bit?_eq (hb : bytes[k]? = some b) {j : Nat} (hj : j < 8) :
    bit? ⟨bytes, 8 * k + j⟩ = some (b.toNat >>> j % 2, ⟨bytes, 8 * k + (j + 1)⟩) := by
  obtain ⟨hk, rfl⟩ := getElem?_eq_some_iff.1 hb
  have hdiv : (8 * k + j) / 8 = k := by omega
  have hmod : (8 * k + j) % 8 = j := by omega
  rw [bit?]
  simp only [hdiv, hmod, hk, dite_true]
  rfl

/-- The bits before the contents of a block that starts with a byte: whether it is the last one, and
its kind. -/
theorem take?_head (hb : bytes[k]? = some b) :
    take? 1 ⟨bytes, 8 * k⟩ = some (b.toNat % 2, ⟨bytes, 8 * k + 1⟩) ∧
      take? 2 ⟨bytes, 8 * k + 1⟩ = some (b.toNat / 2 % 4, ⟨bytes, 8 * k + 3⟩) := by
  have hfirst := bit?_eq hb (j := 0) (by decide)
  have hsecond := bit?_eq hb (j := 1) (by decide)
  have hthird := bit?_eq hb (j := 2) (by decide)
  simp only [Nat.add_zero, Nat.shiftRight_eq_div_pow] at hfirst hsecond hthird
  simp only [take?, hfirst, hsecond, hthird, Option.some.injEq, Prod.mk.injEq, and_true]
  omega

/-- Whole bytes are read from the next byte on, at most seven bits ahead. -/
theorem bytes?_eq {piece : ByteArray} (h : Holds bytes k piece) {position : Nat}
    (hposition : (position + 7) / 8 = k) :
    bytes? piece.size ⟨bytes, position⟩ = some (piece, ⟨bytes, 8 * (k + piece.size)⟩) := by
  obtain ⟨hsize, hextract⟩ := h
  rw [bytes?, nextByte, hposition, if_pos hsize, hextract]

end BitSource

/-! ### Blocks -/

theorem Stored.length_le_size_blocks (pieces : List ByteArray) :
    pieces.length ≤ (join (blocks pieces)).size := by
  fun_induction blocks pieces with
  | case1 => exact Nat.le_refl 0
  | case2 last =>
    simp only [join_cons, join_nil, block, blockHead, ByteArray.size_append, List.size_toByteArray,
      List.length_cons]
    omega
  | case3 piece rest hrest ih =>
    simp only [join_cons, block, blockHead, ByteArray.size_append, List.size_toByteArray,
      List.length_cons]
    omega

namespace Inflate

variable {bytes contents out : ByteArray} {start : Nat} {isLast : Bool}

theorem stored?_eq (hsize : contents.size ≤ Stored.maxBlock)
    (h : Holds bytes start (Stored.block isLast contents)) (out : ByteArray) :
    stored? ⟨bytes, 8 * start + 3⟩ out =
      some (out ++ contents, ⟨bytes, 8 * (start + (Stored.block isLast contents).size)⟩) := by
  obtain ⟨hhead, hcontents⟩ := holds_append.1 h
  have hsizes := hhead.cons.2
  have hread := BitSource.bytes?_eq hsizes (show (8 * start + 3 + 7) / 8 = start + 1 by omega)
  have hinside := BitSource.bytes?_eq hcontents
    (show (8 * (start + 1 + 4) + 7) / 8 = start + 5 by omega)
  have hcount : (UInt16.ofNat contents.size).toNat = contents.size := by
    rw [UInt16.toNat_ofNat']
    simp only [Stored.maxBlock] at hsize
    omega
  have hinverse : (65535 - UInt16.ofNat contents.size).toNat = 65535 - contents.size := by
    rw [UInt16.toNat_sub, hcount]
    simp only [Stored.maxBlock, UInt16.reduceToNat] at hsize ⊢
    omega
  simp only [List.size_toByteArray, List.length_cons, List.length_nil] at hread
  rw [stored?, hread]
  simp only [List.data_toByteArray, List.toList_toArray, Word.ofBytes_high_low, hcount, hinverse]
  have hsum : contents.size + (65535 - contents.size) = 65535 := Nat.add_sub_of_le hsize
  rw [if_pos hsum, hinside, Stored.block, ByteArray.size_append, ← Nat.add_assoc]
  rfl

/-- A stored block is read, and then the blocks behind it unless it is the last one. -/
theorem blocks?_block (hsize : contents.size ≤ Stored.maxBlock)
    (h : Holds bytes start (Stored.block isLast contents)) (tries : Nat) :
    blocks? (tries + 1) ⟨bytes, 8 * start⟩ out =
      if isLast then
        some (out ++ contents, ⟨bytes, 8 * (start + (Stored.block isLast contents).size)⟩)
      else
        blocks? tries ⟨bytes, 8 * (start + (Stored.block isLast contents).size)⟩
          (out ++ contents) := by
  have hstored := stored?_eq hsize h out
  obtain ⟨hmark, -⟩ := (holds_append.1 h).1.cons
  obtain ⟨hlast, hkind⟩ := BitSource.take?_head hmark
  have hblock : block? 0 ⟨bytes, 8 * start + 3⟩ out = _ := hstored
  cases isLast <;>
    simp only [blocks?, hlast, hkind, if_true, if_false, Bool.false_eq_true, UInt8.toNat_one,
      UInt8.toNat_zero, hblock, Nat.reduceDiv, Nat.reduceMod, Nat.zero_div, Nat.zero_mod,
      Nat.zero_ne_one]

theorem blocks?_blocks {pieces : List ByteArray} (hsome : pieces ≠ [])
    (hsize : ∀ p ∈ pieces, p.size ≤ Stored.maxBlock)
    (h : Holds bytes start (join (Stored.blocks pieces))) {tries : Nat}
    (htries : pieces.length ≤ tries) :
    blocks? tries ⟨bytes, 8 * start⟩ out =
      some (out ++ join pieces, ⟨bytes, 8 * (start + (join (Stored.blocks pieces)).size)⟩) := by
  fun_induction Stored.blocks pieces generalizing start out tries with
  | case1 => exact absurd rfl hsome
  | case2 last =>
    obtain ⟨tries, rfl⟩ := Nat.exists_eq_add_one.2 htries
    simp only [join_cons, join_nil, ByteArray.append_empty] at h ⊢
    rw [blocks?_block (hsize last List.mem_cons_self) h]
    rfl
  | case3 piece rest hrest ih =>
    obtain ⟨tries, rfl⟩ := Nat.exists_eq_add_one.2 (Nat.lt_of_lt_of_le (Nat.zero_lt_succ _) htries)
    rw [join_cons, holds_append] at h
    rw [blocks?_block (hsize piece List.mem_cons_self) h.1, if_neg Bool.false_ne_true,
      ih hrest (fun p hp => hsize p (List.mem_cons_of_mem _ hp)) h.2 (by simpa using htries)]
    simp [ByteArray.append_assoc, Nat.add_assoc]

theorem inflate?_deflate {contents : ByteArray} (h : Holds bytes start (Stored.deflate contents)) :
    inflate? ⟨bytes, 8 * start⟩ =
      some (contents, ⟨bytes, 8 * (start + (Stored.deflate contents).size)⟩) := by
  have htries : (pieces Stored.maxBlock contents).length ≤
      BitSource.remaining ⟨bytes, 8 * start⟩ + 1 := by
    have hlength := Stored.length_le_size_blocks (pieces Stored.maxBlock contents)
    have hsize : start + (join (Stored.blocks (pieces Stored.maxBlock contents))).size ≤
        bytes.size := h.1
    simp only [BitSource.remaining]
    omega
  rw [inflate?, blocks?_blocks (pieces_ne_nil _ _) (fun p => size_le_of_mem_pieces (by decide)) h
    htries, join_pieces, ByteArray.empty_append]
  rfl

end Inflate

/-- What was wrapped is unwrapped to itself. -/
theorem Zlib.decode?_encode (bytes : ByteArray) : decode? (encode bytes) = some bytes := by
  obtain ⟨hfront, hsum⟩ := holds_append.1 (holds_self (encode bytes))
  obtain ⟨hhead, hdeflated⟩ := holds_append.1 hfront
  obtain ⟨hmethod, hrest⟩ := hhead.cons
  obtain ⟨hflags, -⟩ := hrest.cons
  have hinflate : Inflate.inflate? ⟨encode bytes, 16⟩ =
      some (bytes, ⟨encode bytes, 8 * (2 + (Stored.deflate bytes).size)⟩) := by
    simpa using Inflate.inflate?_deflate hdeflated
  have hread := BitSource.bytes?_eq hsum
    (show (8 * (2 + (Stored.deflate bytes).size) + 7) / 8 = _ by simp; omega)
  rw [List.size_toByteArray, Word.length_bytes32] at hread
  rw [decode?, hmethod, hflags]
  simp only [hinflate, hread]
  rfl

end UsbDisplay
