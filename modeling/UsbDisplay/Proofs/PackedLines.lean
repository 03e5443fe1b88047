import UsbDisplay.Framebuffer.Encode

/-!
What stands where in packed lines and in the payload of an update. Lines and payloads are built by
putting pieces of one size behind each other, so a piece is found again at its number times its
size: four bytes for a pair of pixels, two bytes a pixel for a line.
-/

namespace UsbDisplay

namespace Pieces

/-- Pieces put behind `start`, in the order of their numbers. -/
def joinFrom (start : ByteArray) (n : Nat) (piece : (i : Nat) → i < n → ByteArray) : ByteArray :=
  n.fold (fun i hi out => out ++ piece i hi) start

theorem joinFrom_succ (start : ByteArray) (n : Nat)
    (piece : (i : Nat) → i < n + 1 → ByteArray) :
    joinFrom start (n + 1) piece =
      joinFrom start n (fun i hi => piece i (by omega)) ++ piece n (by omega) := by
  simp [joinFrom, Nat.fold_succ]

theorem joinFrom_eq_append (start : ByteArray) (n : Nat)
    (piece : (i : Nat) → i < n → ByteArray) :
    joinFrom start n piece = start ++ joinFrom .empty n piece := by
  induction n with
  | zero => simp [joinFrom]
  | succ n ih => rw [joinFrom_succ, joinFrom_succ, ih, ByteArray.append_assoc]

theorem size_joinFrom_empty {n size : Nat} {piece : (i : Nat) → i < n → ByteArray}
    (h : ∀ i hi, (piece i hi).size = size) : (joinFrom .empty n piece).size = n * size := by
  induction n with
  | zero => simp [joinFrom]
  | succ n ih =>
    rw [joinFrom_succ, ByteArray.size_append, ih fun i hi => h i _, h n, Nat.succ_mul]

/-- Pieces of one size are found where their numbers say. -/
theorem extract_joinFrom_empty {n size : Nat} {piece : (i : Nat) → i < n → ByteArray}
    (h : ∀ i hi, (piece i hi).size = size) {i : Nat} (hi : i < n) :
    (joinFrom .empty n piece).extract (i * size) ((i + 1) * size) = piece i hi := by
  induction n with
  | zero => omega
  | succ n ih =>
    have hsize : (joinFrom .empty n (fun i hi => piece i (by omega))).size = n * size :=
      size_joinFrom_empty fun i hi => h i _
    rw [joinFrom_succ, ByteArray.extract_append, hsize]
    -- the piece lies before the last one, or is the last one
    by_cases hin : i < n
    · have hle : (i + 1) * size ≤ n * size := Nat.mul_le_mul_right _ hin
      rw [ih (fun i hi => h i _) hin, Nat.sub_eq_zero_of_le hle,
        ByteArray.extract_eq_empty_iff.2 (by omega), ByteArray.append_empty]
    · obtain rfl : i = n := by omega
      have hleft : (joinFrom .empty i (fun j hj => piece j (by omega))).extract (i * size)
          ((i + 1) * size) = .empty := by
        rw [ByteArray.extract_eq_empty_iff, hsize]
        omega
      have hright : (i + 1) * size - i * size = (piece i hi).size := by
        rw [h, Nat.succ_mul]
        omega
      rw [hleft, hright, Nat.sub_self, ByteArray.empty_append, ByteArray.extract_zero_size]

end Pieces

namespace Scanline

/-- Pair `j` of a line, packed. -/
def packedPair (pixels : Array Pixel) (j : Nat) (h : 2 * j + 1 < pixels.size) : ByteArray :=
  ⟨pairBytes pixels[2 * j] pixels[2 * j + 1]⟩

theorem pushPairs_eq_joinFrom (out : ByteArray) (pixels : Array Pixel) (n : Nat)
    (h : 2 * n ≤ pixels.size) :
    pushPairs out pixels n h = Pieces.joinFrom out n fun j hj =>
      packedPair pixels j (Nat.lt_of_lt_of_le (by omega : 2 * j + 1 < 2 * n) h) := by
  induction n with
  | zero => simp [pushPairs, Pieces.joinFrom]
  | succ n ih =>
    rw [Pieces.joinFrom_succ, ← ih (by omega)]
    apply ByteArray.ext
    simp [pushPairs, packedPair, Nat.fold_succ]

theorem push_eq_append (out : ByteArray) (pixels : Array Pixel) :
    push out pixels = out ++ push .empty pixels := by
  unfold push
  rw [pushPairs_eq_joinFrom, pushPairs_eq_joinFrom, Pieces.joinFrom_eq_append]

/-- The four bytes of pair `j` of a packed line. -/
theorem extract_push_empty (pixels : Array Pixel) {j : Nat} (hj : 2 * j + 1 < pixels.size) :
    (push .empty pixels).data.extract (4 * j) (4 * j + 4) =
      pairBytes pixels[2 * j] pixels[2 * j + 1] := by
  have hpair : ∀ i (hi : 2 * i + 1 < pixels.size), (packedPair pixels i hi).size = 4 :=
    fun _ _ => rfl
  rw [push, pushPairs_eq_joinFrom, ← ByteArray.data_extract, Nat.mul_comm 4 j,
    show j * 4 + 4 = (j + 1) * 4 by omega,
    Pieces.extract_joinFrom_empty (fun i _ => hpair i _) (by omega)]
  rfl

/-- A byte of pair `j` of a packed line. -/
theorem getElem_push_empty (pixels : Array Pixel) {j c b : Nat} (hj : 2 * j + 1 < pixels.size)
    (hc : c < 4) (hb : b = 4 * j + c) (h : b < (push .empty pixels).size) :
    have : c < (pairBytes pixels[2 * j] pixels[2 * j + 1]).size := hc
    (push .empty pixels)[b] = (pairBytes pixels[2 * j] pixels[2 * j + 1])[c] := by
  subst hb
  simp only [← extract_push_empty pixels hj, Array.getElem_extract]
  rfl

/-- Every second byte of a packed line is the luma of a pixel. -/
theorem getElem_push_empty_luma (pixels : Array Pixel) {k b : Nat}
    (hk : 2 * (k / 2) + 1 < pixels.size) (hb : b = 2 * k + 1)
    (h : b < (push .empty pixels).size) :
    (push .empty pixels)[b] = Yuv.luma pixels[k].rgb := by
  rcases Nat.mod_two_eq_zero_or_one k with hmod | hmod
  · have hfirst : pixels[k] = pixels[2 * (k / 2)] := getElem_congr_idx (by omega)
    rw [getElem_push_empty pixels hk (show 1 < 4 by decide) (by omega) h, hfirst]
    rfl
  · have hsecond : pixels[k] = pixels[2 * (k / 2) + 1] := getElem_congr_idx (by omega)
    rw [getElem_push_empty pixels hk (show 3 < 4 by decide) (by omega) h, hsecond]
    rfl

theorem size_push_empty {row : Array Pixel} (heven : row.size % 2 = 0) :
    (push .empty row).size = 2 * row.size := by
  rw [size_push, ByteArray.size_empty]
  omega

theorem pack_eq_append {row : Array Pixel} {target : ByteArray} (heven : row.size % 2 = 0)
    (hroom : 2 * row.size ≤ target.size) :
    pack row target = push .empty row ++ target.extract (2 * row.size) target.size := by
  have hpairs : min (row.size / 2) (target.size / 4) = row.size / 2 := by omega
  have hend : 4 * (row.size / 2) = 2 * row.size := by omega
  simp only [pack, push, hpairs, hend]

/-- The four bytes of pair `j` in a target that has room for the line. -/
theorem extract_pack {row : Array Pixel} {target : ByteArray} (heven : row.size % 2 = 0)
    (hroom : 2 * row.size ≤ target.size) {j : Nat} (hj : 2 * j + 1 < row.size) :
    (pack row target).extract (4 * j) (4 * j + 4) = packedPair row j hj := by
  have hsize := size_push_empty heven
  have hrest : (target.extract (2 * row.size) target.size).extract (4 * j - 2 * row.size)
      (4 * j + 4 - 2 * row.size) = .empty := ByteArray.extract_eq_empty_iff.2 (by omega)
  rw [pack_eq_append heven hroom, ByteArray.extract_append, hsize, hrest, ByteArray.append_empty]
  apply ByteArray.ext
  rw [ByteArray.data_extract]
  exact extract_push_empty row hj

/-- The pixels of a packed line: both pixels of a pair take the differences of their pair. -/
theorem getElem_pixels (bytes : ByteArray) {k : Nat} (hk : k < (pixels bytes).size) :
    have : 4 * (k / 2) + 3 < bytes.size := by
      rw [size_pixels] at hk
      omega
    have : 4 * (k / 2) + 2 * (k % 2) + 1 < bytes.size := by
      rw [size_pixels] at hk
      omega
    (pixels bytes)[k] = Yuv.pixel ⟨bytes[4 * (k / 2) + 2 * (k % 2) + 1], bytes[4 * (k / 2)],
      bytes[4 * (k / 2) + 2]⟩ := by
  have key : ∀ (n : Nat) (h : 4 * n ≤ bytes.size) (k : Nat) (hk : k < 2 * n),
      have : k < (pushGroups #[] bytes n h).size := by simpa using hk
      (pushGroups #[] bytes n h)[k] =
        Yuv.pixel ⟨bytes[4 * (k / 2) + 2 * (k % 2) + 1], bytes[4 * (k / 2)],
          bytes[4 * (k / 2) + 2]⟩ := by
    intro n h
    induction n with
    | zero => intro k hk; omega
    | succ n ih =>
      intro k hk
      have hsize := size_pushGroups #[] bytes n (by omega)
      have hrec : pushGroups #[] bytes (n + 1) h =
          ((pushGroups #[] bytes n (by omega)).push
            (Yuv.pixel ⟨bytes[4 * n + 1], bytes[4 * n], bytes[4 * n + 2]⟩)).push
            (Yuv.pixel ⟨bytes[4 * n + 3], bytes[4 * n], bytes[4 * n + 2]⟩) := by
        simp [pushGroups, Nat.fold_succ]
      simp only [hrec, Array.getElem_push, Array.size_push, hsize]
      by_cases hlast : k < 2 * n
      · simp only [Array.size_empty, Nat.zero_add, hlast, show k < 2 * n + 1 by omega, dite_true]
        exact ih (by omega) k hlast
      · by_cases hfirst : k = 2 * n
        · subst hfirst
          simp
        · obtain rfl : k = 2 * n + 1 := by omega
          simp [Nat.add_div]
  exact key _ _ k (by simpa using hk)

/-- A pixel that was packed comes back with its own luma and with the differences of its pair. -/
theorem getElem?_pixels_push_empty (row : Array Pixel) {k : Nat}
    (hk : 2 * (k / 2) + 1 < row.size) :
    let mean := Rgb.mean row[2 * (k / 2)].rgb row[2 * (k / 2) + 1].rgb
    (pixels (push .empty row))[k]? = some (Yuv.pixel
      ⟨Yuv.luma row[k].rgb, Yuv.blueDifference mean, Yuv.redDifference mean⟩) := by
  have hsize : k < (pixels (push .empty row)).size := by
    rw [size_pixels, size_push, ByteArray.size_empty]
    omega
  rw [getElem?_pos _ k hsize, getElem_pixels _ hsize,
    getElem_push_empty row hk (show 0 < 4 by decide) (Nat.add_zero _).symm,
    getElem_push_empty row hk (show 2 < 4 by decide) rfl,
    getElem_push_empty_luma row hk (by omega)]
  rfl

/-- A line that is unpacked leaves what stands behind it in the target. -/
theorem unpack_eq_append {bytes : ByteArray} {target : Array Pixel}
    (h : 2 * (bytes.size / 4) ≤ target.size) :
    unpack bytes target = pixels bytes ++ target.extract (2 * (bytes.size / 4)) target.size := by
  have hgroups : min (bytes.size / 4) (target.size / 2) = bytes.size / 4 := by omega
  simp only [unpack, pixels, hgroups]

end Scanline

namespace Framebuffer

theorem span_eq_ofFn (fb : Framebuffer) (x y n : Nat) :
    fb.span x y n = Array.ofFn fun j : Fin n => fb.pixel (x + j) y := by
  suffices ∀ start : Array Pixel,
      n.fold (fun j _ line => line.push (fb.pixel (x + j) y)) start =
        start ++ Array.ofFn fun j : Fin n => fb.pixel (x + j) y by
    simpa [span] using this (Array.emptyWithCapacity n)
  intro start
  induction n with
  | zero => simp
  | succ n ih => simp [ih, Array.ofFn_succ]

theorem getElem_span (fb : Framebuffer) (x y n : Nat) {j : Nat}
    (hj : j < (fb.span x y n).size) : (fb.span x y n)[j] = fb.pixel (x + j) y := by
  simp [span_eq_ofFn]

/-- Row `i` of the part of a framebuffer that a header names, packed. -/
def packedRow (fb : Framebuffer) (h : UpdateHeader) (i : Nat) : ByteArray :=
  Scanline.push .empty (fb.span h.x.toNat (h.y.toNat + i) h.width.toNat)

theorem size_packedRow (fb : Framebuffer) {h : UpdateHeader} (heven : h.width.toNat % 2 = 0)
    (i : Nat) : (fb.packedRow h i).size = h.lineLength := by
  simp only [packedRow, Scanline.size_push, size_span, ByteArray.size_empty,
    UpdateHeader.lineLength]
  omega

theorem payload_eq_joinFrom (fb : Framebuffer) (h : UpdateHeader) :
    fb.payload h = Pieces.joinFrom .empty h.height.toNat fun i _ => fb.packedRow h i := by
  have hpush : ∀ (i : Nat) (out : ByteArray),
      Scanline.push out (fb.span h.x.toNat (h.y.toNat + i) h.width.toNat) =
        out ++ fb.packedRow h i := fun _ _ => Scanline.push_eq_append ..
  simp only [payload, hpush]
  rfl

theorem size_payload (fb : Framebuffer) {h : UpdateHeader} (heven : h.width.toNat % 2 = 0) :
    (fb.payload h).size = 2 * h.width.toNat * h.height.toNat := by
  rw [payload_eq_joinFrom, Pieces.size_joinFrom_empty fun i _ => fb.size_packedRow heven i,
    UpdateHeader.lineLength, Nat.mul_comm, Nat.mul_comm 2]

theorem lineCount_update (fb : Framebuffer) {h : UpdateHeader} (heven : h.width.toNat % 2 = 0)
    (hpos : 0 < h.width.toNat) : (fb.update h).lineCount = h.height.toNat := by
  have hline : max h.lineLength 1 = 2 * h.width.toNat := by
    rw [UpdateHeader.lineLength]
    omega
  simp only [Update.lineCount, update, size_payload fb heven, hline]
  exact Nat.mul_div_cancel_left _ (by omega)

theorem line_update (fb : Framebuffer) {h : UpdateHeader} (heven : h.width.toNat % 2 = 0)
    {i : Nat} (hi : i < h.height.toNat) : (fb.update h).line i = fb.packedRow h i := by
  simp only [Update.line, update, payload_eq_joinFrom]
  exact Pieces.extract_joinFrom_empty (fun i _ => fb.size_packedRow heven i) hi

end Framebuffer

end UsbDisplay
