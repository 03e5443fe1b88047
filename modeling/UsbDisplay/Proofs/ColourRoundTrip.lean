import UsbDisplay.Proofs.SignedComponents

/-!
How well a colour survives packing and unpacking. Each component of a colour comes from three shares
that were rounded down, so it falls short of the weighted sum of the channels by less than three
units (`Yuv.Weights.component_error`). The way back is a weighted sum of the components. Both sums
together are almost the identity, and what the roundings add to it keeps within fixed bounds for
every colour (`Yuv.recovers_toRgb_ofRgb`), with no need to look at the colours one by one.
-/

namespace UsbDisplay

namespace Yuv

/-! ### Components and their weighted sums -/

/-- The weighted sum of the channels of a colour, in units of 1/65536. -/
def Weights.sum (w : Weights) (c : Rgb) : Int :=
  w.red * c.red.toNat + w.green * c.green.toNat + w.blue * c.blue.toNat

/-- Three roundings take less than three units from a component. -/
theorem Weights.component_error (w : Weights) (offset : Int) (c : Rgb) :
    65536 * (w.component offset c - offset) ≤ w.sum c ∧
      w.sum c ≤ 65536 * (w.component offset c - offset) + 3 * 65535 := by
  have hred := share_bounds w.red c.red.toNat
  have hgreen := share_bounds w.green c.green.toNat
  have hblue := share_bounds w.blue c.blue.toNat
  unfold component sum
  omega

/-- A luma that is at most three below the one by three decimal places. -/
def NearLuma (c : Rgb) (y : UInt8) : Prop :=
  let exact : Int :=
    16 + (257 * c.red.toNat + 504 * c.green.toNat + 98 * c.blue.toNat : Int) / 1000
  0 ≤ exact - y.toNat ∧ exact - y.toNat ≤ 3

theorem nearLuma_luma (c : Rgb) : NearLuma c (luma c) := by
  have herror := Weights.luma.component_error 16 c
  rw [← toNat_luma] at herror
  have := c.red.toNat_lt
  have := c.green.toNat_lt
  have := c.blue.toNat_lt
  simp only [Weights.sum, Weights.luma, NearLuma] at herror ⊢
  omega

/-! ### The way back -/

/-- A colour `d` that is close to `c`, with the bounds of each channel. -/
structure Recovers (c d : Rgb) : Prop where
  red : (c.red.toNat : Int) - 9 ≤ d.red.toNat ∧ (d.red.toNat : Int) ≤ c.red.toNat
  green : (c.green.toNat : Int) - 5 ≤ d.green.toNat ∧ (d.green.toNat : Int) ≤ c.green.toNat + 4
  blue : (c.blue.toNat : Int) - 11 ≤ d.blue.toNat ∧ (d.blue.toNat : Int) ≤ c.blue.toNat

/-- A number between bounds that meet the range of a channel stays between them when it is clamped.
-/
theorem clampChannel_between {low high n : Int} (hlow : low ≤ 255) (hhigh : 0 ≤ high)
    (h : low ≤ n ∧ n ≤ high) :
    low ≤ (clampChannel n).toNat ∧ ((clampChannel n).toNat : Int) ≤ high := by
  rw [toNat_clampChannel]
  omega

theorem recovers_toRgb_ofRgb (c : Rgb) : Recovers c (ofRgb c).toRgb := by
  have hy := Weights.luma.component_error 16 c
  have hu := Weights.blueDifference.component_error 128 c
  have hv := Weights.redDifference.component_error 128 c
  rw [← toNat_luma] at hy
  rw [← toNat_blueDifference] at hu
  rw [← toNat_redDifference] at hv
  have := c.red.toNat_lt
  have := c.green.toNat_lt
  have := c.blue.toNat_lt
  simp only [Weights.sum, Weights.luma, Weights.blueDifference, Weights.redDifference] at hy hu hv
  -- in each channel the two weighted sums make up 254 to 256 parts of 256 of that channel and less
  -- than one of the others; what remains is the error of the components, weighted
  constructor
  case red =>
    apply clampChannel_between
    · omega
    · omega
    · dsimp only [ofRgb]
      omega
  case green =>
    apply clampChannel_between
    · omega
    · omega
    · dsimp only [ofRgb]
      omega
  case blue =>
    apply clampChannel_between
    · omega
    · omega
    · dsimp only [ofRgb]
      omega

end Yuv

/-! ### Lines -/

namespace Scanline

variable {row out : Array Pixel} {target : ByteArray}

theorem extract_pack_zero (heven : row.size % 2 = 0) (hroom : 2 * row.size ≤ target.size) :
    (pack row target).extract 0 (2 * row.size) = push .empty row := by
  rw [pack_eq_append heven hroom]
  exact ByteArray.extract_append_eq_left (size_push_empty heven).symm

/-- The luma of a pixel stands in every second byte. -/
theorem getElem?_pack_luma (heven : row.size % 2 = 0) (hroom : 2 * row.size ≤ target.size)
    {k : Nat} (hk : k < row.size) :
    (pack row target)[2 * k + 1]? = some (Yuv.luma row[k].rgb) := by
  have hbyte : 2 * k + 1 < (push .empty row).size := by
    rw [size_push_empty heven]
    omega
  rw [pack_eq_append heven hroom, getElem?_pos _ _ (by rw [ByteArray.size_append]; omega),
    ByteArray.getElem_append_left hbyte, getElem_push_empty_luma row (by omega) rfl]

/-- Both pixels of a pair of one colour come back as that colour does. -/
theorem getElem?_unpack_pack (heven : row.size % 2 = 0) (hroom : 2 * row.size ≤ target.size)
    (hout : row.size ≤ out.size) {j c : Nat} (hj : 2 * j + 1 < row.size) (hc : c < 2)
    (hequal : row[2 * j].rgb = row[2 * j + 1].rgb) :
    (unpack ((pack row target).extract 0 (2 * row.size)) out)[2 * j + c]? =
      some (Yuv.ofRgb row[2 * j].rgb).pixel := by
  have hsize := size_push_empty heven
  have hpixels : 2 * j + c < (pixels (push .empty row)).size := by
    rw [size_pixels, hsize]
    omega
  have hpair : (2 * j + c) / 2 = j := by omega
  have hcolour : row[2 * j + c].rgb = row[2 * j].rgb := by
    rcases (show c = 0 ∨ c = 1 by omega) with rfl | rfl
    · rfl
    · exact hequal.symm
  have hshown := getElem?_pixels_push_empty row (k := 2 * j + c) (by omega)
  simp only [hpair, hcolour, ← hequal, Rgb.mean_self] at hshown
  rw [extract_pack_zero heven hroom, unpack_eq_append (by rw [hsize]; omega),
    Array.getElem?_append_left hpixels, hshown]
  rfl

/-- A line of any colours keeps its luma, and pairs of one colour come back as nearly that colour:
at most 9, 5 and 11 steps of red, green and blue are lost, and only green can gain, at most 4. -/
theorem unpack_pack_recovers (heven : row.size % 2 = 0) (hroom : 2 * row.size ≤ target.size)
    (hout : row.size ≤ out.size) :
    (∀ k (hk : k < row.size), ∃ y : UInt8,
      (pack row target)[2 * k + 1]? = some y ∧ Yuv.NearLuma row[k].rgb y) ∧
    ∀ j (hj : 2 * j + 1 < row.size), row[2 * j].rgb = row[2 * j + 1].rgb →
      let unpacked := unpack ((pack row target).extract 0 (2 * row.size)) out
      ∃ p q : Pixel, unpacked[2 * j]? = some p ∧ unpacked[2 * j + 1]? = some q ∧
        Yuv.Recovers row[2 * j].rgb p.rgb ∧ Yuv.Recovers row[2 * j].rgb q.rgb := by
  refine ⟨fun k hk => ⟨_, getElem?_pack_luma heven hroom hk, Yuv.nearLuma_luma _⟩, ?_⟩
  intro j hj hequal
  have hfirst := getElem?_unpack_pack heven hroom hout hj (show 0 < 2 by decide) hequal
  have hsecond := getElem?_unpack_pack heven hroom hout hj (show 1 < 2 by decide) hequal
  have hrecovers : Yuv.Recovers row[2 * j].rgb (Yuv.ofRgb row[2 * j].rgb).pixel.rgb := by
    rw [Yuv.pixel, Rgb.rgb_pixel]
    exact Yuv.recovers_toRgb_ofRgb _
  exact ⟨_, _, hfirst, hsecond, hrecovers, hrecovers⟩

/-- Two white pixels, of which one has padding, behind two of different colours. -/
theorem unpack_pack_recovers_white :
    let row : Array Pixel := #[0x0000FF00, 0x00FF00FF, 0x00FFFFFF, 0xABFFFFFF]
    let target : ByteArray := (List.replicate 9 0xAA).toByteArray
    let out : Array Pixel := Array.replicate 5 0
    row.size % 2 = 0 ∧ 2 * row.size ≤ target.size ∧ row.size ≤ out.size ∧
      row[2].rgb = row[3].rgb ∧
      let unpacked := unpack ((pack row target).extract 0 (2 * row.size)) out
      ∃ p q : Pixel, unpacked[2]? = some p ∧ unpacked[3]? = some q ∧
        Yuv.Recovers ⟨255, 255, 255⟩ p.rgb ∧ Yuv.Recovers ⟨255, 255, 255⟩ q.rgb := by
  intro row target out
  have heven : row.size % 2 = 0 := by decide
  have hroom : 2 * row.size ≤ target.size := by decide
  have hout : row.size ≤ out.size := by decide
  have hequal : row[2].rgb = row[3].rgb := by decide
  have hwhite : row[2].rgb = ⟨255, 255, 255⟩ := by decide
  obtain ⟨-, hpairs⟩ := unpack_pack_recovers heven hroom hout
  obtain ⟨p, q, hp, hq, hfirst, hsecond⟩ := hpairs 1 (by decide) hequal
  refine ⟨heven, hroom, hout, hequal, p, q, hp, hq, ?_, ?_⟩
  · exact hwhite ▸ hfirst
  · exact hwhite ▸ hsecond

end Scanline

end UsbDisplay
