import UsbDisplay.Proofs.PackedLines

/-!
Packed lines in arithmetic with sign. The tables keep a negative share as a word without sign, the
sum of three entries runs past 16 bits, and only its low byte is written. None of this shows: a
share fits into a word with sign (`Yuv.Tables.FitsWord`), every component of every colour lies
within a byte (`Yuv.staysInByte`), and so the bytes of a packed line are the components themselves
(`Scanline.pack_signed`).
-/

namespace UsbDisplay

namespace Yuv

/-! ### Shares -/

/-- A share falls short of its product by less than one unit. -/
theorem share_bounds (weight : Int) (channel : Nat) :
    65536 * share weight channel ≤ weight * channel ∧
      weight * channel < 65536 * share weight channel + 65536 := by
  unfold share
  constructor
  · exact Int.mul_ediv_self_le (by decide)
  · exact Int.lt_mul_ediv_self_add (by decide)

/-- The shares of a channel lie between nothing and the share of its greatest value, for a weight of
either sign. -/
theorem share_range (weight : Int) (channel : UInt8) :
    min 0 (share weight 255) ≤ share weight channel.toNat ∧
      share weight channel.toNat ≤ max 0 (share weight 255) := by
  have hnonneg : (0 : Int) ≤ channel.toNat := Int.natCast_nonneg _
  have hle : (channel.toNat : Int) ≤ 255 := by
    have := channel.toNat_lt
    omega
  unfold share
  rcases Int.le_total 0 weight with hsign | hsign
  · have hleast : 0 ≤ weight * channel.toNat := Int.mul_nonneg hsign hnonneg
    have hgreatest := Int.mul_le_mul_of_nonneg_left hle hsign
    omega
  · have hgreatest : weight * channel.toNat ≤ 0 := Int.mul_nonpos_of_nonpos_of_nonneg hsign hnonneg
    have hleast := Int.mul_le_mul_of_nonpos_left hsign hle
    omega

namespace Weights

/-- The least value that the component can have. -/
def least (w : Weights) (offset : Int) : Int :=
  offset + min 0 (share w.red 255) + min 0 (share w.green 255) + min 0 (share w.blue 255)

/-- The greatest value that the component can have. -/
def greatest (w : Weights) (offset : Int) : Int :=
  offset + max 0 (share w.red 255) + max 0 (share w.green 255) + max 0 (share w.blue 255)

theorem component_range (w : Weights) (offset : Int) (c : Rgb) :
    w.least offset ≤ w.component offset c ∧ w.component offset c ≤ w.greatest offset := by
  have hred := share_range w.red c.red
  have hgreen := share_range w.green c.green
  have hblue := share_range w.blue c.blue
  unfold least greatest component
  omega

end Weights

namespace Tables

/-- What the tables give is the component modulo 256. -/
theorem toNat_component_eq_emod (w : Weights) (offset : UInt32) (c : Rgb) :
    (((ofWeights w).component offset c).toNat : Int) = w.component offset.toNat c % 256 := by
  simp only [component, ofWeights, ShareTable.entry_ofWeight, Weights.component, UInt16.ofInt,
    UInt32.toNat_toUInt8, UInt32.toNat_add, UInt16.toNat_toUInt32, UInt16.toNat_ofNat']
  omega

/-- A component that fits into a byte, whatever the colour, is what the tables give. -/
theorem toNat_component {w : Weights} {offset : UInt32} (hleast : 0 ≤ w.least offset.toNat)
    (hgreatest : w.greatest offset.toNat ≤ 255) (c : Rgb) :
    (((ofWeights w).component offset c).toNat : Int) = w.component offset.toNat c := by
  obtain ⟨hlow, hhigh⟩ := w.component_range offset.toNat c
  rw [toNat_component_eq_emod]
  apply Int.emod_eq_of_lt
  · exact Int.le_trans hleast hlow
  · exact Int.lt_of_le_of_lt (Int.le_trans hhigh hgreatest) (by decide)

theorem toInt_toInt16_ofInt {n : Int} (h : -32768 ≤ n ∧ n < 32768) :
    (UInt16.ofInt n).toInt16.toInt = n := by
  change (UInt16.ofInt n).toBitVec.toInt = n
  rw [BitVec.toInt_eq_toNat_bmod, UInt16.toNat_toBitVec, UInt16.ofInt, UInt16.toNat_ofNat',
    Int.bmod_def]
  omega

/-- The share of the greatest channel value fits into a word with sign. -/
def FitsWord (weight : Int) : Prop :=
  -32768 ≤ share weight 255 ∧ share weight 255 < 32768

instance (weight : Int) : Decidable (FitsWord weight) := by
  unfold FitsWord
  infer_instance

theorem toInt_entry {weight : Int} (h : FitsWord weight) (channel : UInt8) :
    ((ShareTable.ofWeight weight).entry channel).toInt16.toInt = share weight channel.toNat := by
  have hrange := share_range weight channel
  obtain ⟨hlow, hhigh⟩ := h
  rw [ShareTable.entry_ofWeight]
  apply toInt_toInt16_ofInt
  omega

/-- The entries for a colour, read as words with sign, are the shares of its channels. -/
structure HoldShares (t : Tables) (w : Weights) (c : Rgb) : Prop where
  red : (t.red.entry c.red).toInt16.toInt = share w.red c.red.toNat
  green : (t.green.entry c.green).toInt16.toInt = share w.green c.green.toNat
  blue : (t.blue.entry c.blue).toInt16.toInt = share w.blue c.blue.toNat

theorem holdShares_ofWeights {w : Weights} (hred : FitsWord w.red) (hgreen : FitsWord w.green)
    (hblue : FitsWord w.blue) (c : Rgb) : (ofWeights w).HoldShares w c :=
  ⟨toInt_entry hred c.red, toInt_entry hgreen c.green, toInt_entry hblue c.blue⟩

end Tables

theorem toNat_luma (c : Rgb) : ((luma c).toNat : Int) = Weights.luma.component 16 c :=
  Tables.toNat_component (by decide) (by decide) c

theorem toNat_blueDifference (c : Rgb) :
    ((blueDifference c).toNat : Int) = Weights.blueDifference.component 128 c :=
  Tables.toNat_component (by decide) (by decide) c

theorem toNat_redDifference (c : Rgb) :
    ((redDifference c).toNat : Int) = Weights.redDifference.component 128 c :=
  Tables.toNat_component (by decide) (by decide) c

/-- What keeps the components of a colour from being cut: they stay clear of both ends of a byte,
and the tables lose nothing of their shares. -/
structure StaysInByte (c : Rgb) : Prop where
  luma : 16 ≤ Weights.luma.component 16 c ∧ Weights.luma.component 16 c ≤ 233
  blueDifference : 16 ≤ Weights.blueDifference.component 128 c ∧
    Weights.blueDifference.component 128 c ≤ 239
  redDifference : 15 ≤ Weights.redDifference.component 128 c ∧
    Weights.redDifference.component 128 c ≤ 239
  luma_entries : Tables.luma.HoldShares Weights.luma c
  blueDifference_entries : Tables.blueDifference.HoldShares Weights.blueDifference c
  redDifference_entries : Tables.redDifference.HoldShares Weights.redDifference c

theorem staysInByte (c : Rgb) : StaysInByte c where
  -- both ends of a range are numbers that the weights alone decide
  luma := Weights.luma.component_range 16 c
  blueDifference := Weights.blueDifference.component_range 128 c
  redDifference := Weights.redDifference.component_range 128 c
  luma_entries := Tables.holdShares_ofWeights (by decide) (by decide) (by decide) c
  blueDifference_entries := Tables.holdShares_ofWeights (by decide) (by decide) (by decide) c
  redDifference_entries := Tables.holdShares_ofWeights (by decide) (by decide) (by decide) c

end Yuv

/-! ### Lines -/

/-- The mean of two colours: channel by channel half of the sum, rounded down. -/
structure Rgb.IsMean (m a b : Rgb) : Prop where
  red : m.red.toNat = (a.red.toNat + b.red.toNat) / 2
  green : m.green.toNat = (a.green.toNat + b.green.toNat) / 2
  blue : m.blue.toNat = (a.blue.toNat + b.blue.toNat) / 2

theorem Rgb.isMean_mean (a b : Rgb) : (mean a b).IsMean a b :=
  ⟨toNat_meanChannel .., toNat_meanChannel .., toNat_meanChannel ..⟩

/-- Pixels that differ in the top byte only have the same colour. -/
theorem Pixel.rgb_eq_of_mod_eq {p q : Pixel} (h : p.toNat % 16777216 = q.toNat % 16777216) :
    p.rgb = q.rgb := by
  simp only [rgb, Rgb.mk.injEq, ← UInt8.toNat_inj, UInt32.toNat_toUInt8, UInt32.toNat_div,
    UInt32.reduceToNat]
  omega

namespace Scanline

/-- Four bytes that hold the components of a pair of colours: differences of the mean, and a luma of
each. -/
def HoldsPair (bytes : ByteArray) (p q : Rgb) : Prop :=
  ∃ (u y v y' : UInt8) (m : Rgb), bytes = [u, y, v, y'].toByteArray ∧ m.IsMean p q ∧
    (u.toNat : Int) = Yuv.Weights.blueDifference.component 128 m ∧
    (y.toNat : Int) = Yuv.Weights.luma.component 16 p ∧
    (v.toNat : Int) = Yuv.Weights.redDifference.component 128 m ∧
    (y'.toNat : Int) = Yuv.Weights.luma.component 16 q

theorem holdsPair_pairBytes (p q : Pixel) : HoldsPair ⟨pairBytes p q⟩ p.rgb q.rgb := by
  refine ⟨_, _, _, _, _, ?_, Rgb.isMean_mean _ _, Yuv.toNat_blueDifference _, Yuv.toNat_luma _,
    Yuv.toNat_redDifference _, Yuv.toNat_luma _⟩
  rfl

theorem pushPair_congr {p q p' q' : Pixel} (hp : p.rgb = p'.rgb) (hq : q.rgb = q'.rgb)
    (out : ByteArray) : pushPair out p q = pushPair out p' q' := by
  simp only [pushPair, hp, hq]

variable {row other : Array Pixel} {target : ByteArray}

theorem pushPairs_congr (hsize : other.size = row.size)
    (hrgb : ∀ i (hi : i < row.size), other[i].rgb = row[i].rgb) (out : ByteArray) {n : Nat}
    (h : 2 * n ≤ row.size) :
    pushPairs out other n (hsize ▸ h) = pushPairs out row n h := by
  induction n with
  | zero => simp only [pushPairs, Nat.fold_zero]
  | succ n ih =>
    have hrest := ih (by omega)
    simp only [pushPairs, Nat.fold_succ] at hrest ⊢
    rw [hrest]
    exact pushPair_congr (hrgb _ (by omega)) (hrgb _ (by omega)) _

theorem pack_congr (hsize : other.size = row.size)
    (hrgb : ∀ i (hi : i < row.size), other[i].rgb = row[i].rgb) (target : ByteArray) :
    pack other target = pack row target := by
  simp only [pack, hsize]
  rw [pushPairs_congr hsize hrgb]

/-- What packing a line leaves in its target. -/
structure PacksSigned (row : Array Pixel) (target packed : ByteArray) : Prop where
  pair : ∀ j p q, row[2 * j]? = some p → row[2 * j + 1]? = some q →
    HoldsPair (packed.extract (4 * j) (4 * j + 4)) p.rgb q.rgb
  size_eq : packed.size = target.size
  rest : packed.extract (2 * row.size) packed.size = target.extract (2 * row.size) target.size

theorem packsSigned_pack (heven : row.size % 2 = 0) (hroom : 2 * row.size ≤ target.size) :
    PacksSigned row target (pack row target) where
  pair j p q hp hq := by
    obtain ⟨-, rfl⟩ := Array.getElem?_eq_some_iff.1 hp
    obtain ⟨hj, rfl⟩ := Array.getElem?_eq_some_iff.1 hq
    rw [extract_pack heven hroom hj]
    exact holdsPair_pairBytes _ _
  size_eq := size_pack row target
  rest := by
    have hsize := size_push_empty heven
    rw [size_pack, pack_eq_append heven hroom]
    apply ByteArray.extract_append_eq_right
    · exact hsize.symm
    · rw [ByteArray.size_extract, hsize]
      omega

/-- The bytes of a packed line are the components of its colours as integers with sign. No
component of any colour leaves its byte, the top bytes of the pixels do not count, and what stands
behind the line in the target is kept. -/
theorem pack_signed (heven : row.size % 2 = 0) (hroom : 2 * row.size ≤ target.size) :
    PacksSigned row target (pack row target) ∧ (∀ c, Yuv.StaysInByte c) ∧
      ∀ other : Array Pixel,
        other.map (·.toNat % 16777216) = row.map (·.toNat % 16777216) →
          pack other target = pack row target := by
  refine ⟨packsSigned_pack heven hroom, Yuv.staysInByte, fun other hother => ?_⟩
  have hsize : other.size = row.size := by
    have := congrArg Array.size hother
    rwa [Array.size_map, Array.size_map] at this
  apply pack_congr hsize
  intro i hi
  apply Pixel.rgb_eq_of_mod_eq
  have hget := congrArg (fun numbers : Array Nat => numbers[i]?) hother
  simpa [hi, hsize] using hget

/-- A red and a blue pixel with padding in the top byte, and a target that is longer than the line.
-/
theorem pack_signed_redBlue :
    let row : Array Pixel := #[0xFFFF0000, 0xAB0000FF]
    let target : ByteArray := [1, 2, 3, 4, 5, 6].toByteArray
    row.size % 2 = 0 ∧ 2 * row.size ≤ target.size ∧ PacksSigned row target (pack row target) ∧
      pack #[0x00FF0000, 0x000000FF] target = pack row target := by
  intro row target
  have heven : row.size % 2 = 0 := by decide
  have hroom : 2 * row.size ≤ target.size := by decide
  obtain ⟨hpacks, -, htop⟩ := pack_signed heven hroom
  exact ⟨heven, hroom, hpacks, htop #[0x00FF0000, 0x000000FF] (by simp [row])⟩

end Scanline

end UsbDisplay
