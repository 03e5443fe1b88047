import UsbDisplay.Pixel

/-!
Luma and colour difference of a pixel in fixed point. A component is an offset plus one share per
channel, and a share is `weight * channel / 65536` rounded down. The shares are kept in tables of
16-bit words, where a negative share stands as its remainder modulo 65536; a sum of three entries is
then right modulo 256, which is all that the byte of the component keeps. The way back uses other
weights and clamps each channel, so it is close to the colour and not equal to it.
-/

namespace UsbDisplay

/-- Luma, blue difference and red difference of a colour. -/
structure Yuv where
  y : UInt8
  u : UInt8
  v : UInt8
  deriving DecidableEq, Repr, Inhabited

namespace Yuv

/-- How much each channel counts in one component, in units of 1/65536. -/
structure Weights where
  red : Int
  green : Int
  blue : Int
  deriving DecidableEq, Repr

/-- The share of a channel in a component: the product, scaled down and rounded down. -/
def share (weight : Int) (channel : Nat) : Int :=
  weight * channel / 65536

namespace Weights

def luma : Weights := ⟨16763, 32904, 6391⟩

def blueDifference : Weights := ⟨-9676, -18996, 28672⟩

def redDifference : Weights := ⟨28672, -24009, -4663⟩

/-- The component that these weights give to a colour, as an integer. -/
def component (w : Weights) (offset : Int) (c : Rgb) : Int :=
  offset + share w.red c.red.toNat + share w.green c.green.toNat + share w.blue c.blue.toNat

end Weights

/-- The shares of one channel, as words: entry `i` is the share of `i` modulo 65536. -/
abbrev ShareTable := Vector UInt16 256

def ShareTable.ofWeight (weight : Int) : ShareTable :=
  Vector.ofFn fun i => UInt16.ofInt (share weight i)

@[inline] def ShareTable.entry (t : ShareTable) (channel : UInt8) : UInt16 :=
  have := channel.toNat_lt
  t[channel.toNat]

@[simp] theorem ShareTable.entry_ofWeight (weight : Int) (channel : UInt8) :
    (ofWeight weight).entry channel = UInt16.ofInt (share weight channel.toNat) := by
  simp [entry, ofWeight]

/-- The tables of one component, one for each channel. -/
structure Tables where
  red : ShareTable
  green : ShareTable
  blue : ShareTable
  deriving DecidableEq

namespace Tables

def ofWeights (w : Weights) : Tables where
  red := .ofWeight w.red
  green := .ofWeight w.green
  blue := .ofWeight w.blue

/-- The low byte of an offset plus the three shares of a colour. -/
@[inline] def component (t : Tables) (offset : UInt32) (c : Rgb) : UInt8 :=
  (offset + (t.red.entry c.red).toUInt32 + (t.green.entry c.green).toUInt32 +
    (t.blue.entry c.blue).toUInt32).toUInt8

def luma : Tables := ofWeights Weights.luma

def blueDifference : Tables := ofWeights Weights.blueDifference

def redDifference : Tables := ofWeights Weights.redDifference

end Tables

/-- Luma of a colour; black has 16. -/
def luma (c : Rgb) : UInt8 := Tables.luma.component 16 c

/-- Blue difference of a colour; grey has about 128. -/
def blueDifference (c : Rgb) : UInt8 := Tables.blueDifference.component 128 c

/-- Red difference of a colour; grey has about 128. -/
def redDifference (c : Rgb) : UInt8 := Tables.redDifference.component 128 c

def ofRgb (c : Rgb) : Yuv := ⟨luma c, blueDifference c, redDifference c⟩

/-- The nearest channel value: negative numbers go to 0, numbers past 255 to 255. -/
@[inline] def clampChannel (n : Int) : UInt8 :=
  UInt8.ofNat (min n.toNat 255)

theorem toNat_clampChannel (n : Int) : (clampChannel n).toNat = min n.toNat 255 := by
  simp only [clampChannel, UInt8.toNat_ofNat']
  omega

/-- The colour that these components stand for, each channel rounded and clamped. -/
def toRgb (c : Yuv) : Rgb :=
  let y : Int := 298 * (c.y.toNat - 16 : Int) + 128
  let u : Int := c.u.toNat - 128
  let v : Int := c.v.toNat - 128
  { red := clampChannel ((y + 409 * v) / 256)
    green := clampChannel ((y - 100 * u - 208 * v) / 256)
    blue := clampChannel ((y + 516 * u) / 256) }

def pixel (c : Yuv) : Pixel := c.toRgb.pixel

end Yuv

end UsbDisplay
