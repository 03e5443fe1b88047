/-!
Pixels of a framebuffer. A pixel is a 32-bit word with red, green and blue in its three low bytes;
the top byte is padding, ignored on reading and zero on writing. Packing a colour and reading it
back gives the same colour.
-/

namespace UsbDisplay

/-- A framebuffer word: padding, red, green, blue, from the top byte down. -/
abbrev Pixel := UInt32

/-- The three colour channels of a pixel. -/
structure Rgb where
  red : UInt8
  green : UInt8
  blue : UInt8
  deriving DecidableEq, Repr, Inhabited

/-- The channels of a pixel; its top byte has no influence. -/
@[inline] def Pixel.rgb (p : Pixel) : Rgb where
  red := (p / 65536).toUInt8
  green := (p / 256).toUInt8
  blue := p.toUInt8

namespace Rgb

/-- The pixel with these channels and a zero top byte. -/
@[inline] def pixel (c : Rgb) : Pixel :=
  c.red.toUInt32 * 65536 + c.green.toUInt32 * 256 + c.blue.toUInt32

theorem toNat_pixel (c : Rgb) :
    c.pixel.toNat = c.red.toNat * 65536 + c.green.toNat * 256 + c.blue.toNat := by
  have := c.red.toNat_lt
  have := c.green.toNat_lt
  have := c.blue.toNat_lt
  simp [pixel]
  omega

/-- A pixel is its channels side by side. -/
theorem pixel_eq_or (c : Rgb) :
    c.pixel = c.red.toUInt32 <<< 16 ||| c.green.toUInt32 <<< 8 ||| c.blue.toUInt32 := by
  have hred := c.red.toNat_lt
  have hgreen := c.green.toNat_lt
  have hblue := c.blue.toNat_lt
  have hhigh : (c.red.toUInt32 <<< 16).toNat = c.red.toNat <<< 16 := by
    rw [UInt32.toNat_shiftLeft, UInt8.toNat_toUInt32]
    exact Nat.mod_eq_of_lt (show c.red.toNat <<< 16 < _ by rw [Nat.shiftLeft_eq]; omega)
  have hmiddle : (c.green.toUInt32 <<< 8).toNat = c.green.toNat <<< 8 := by
    rw [UInt32.toNat_shiftLeft, UInt8.toNat_toUInt32]
    exact Nat.mod_eq_of_lt (show c.green.toNat <<< 8 < _ by rw [Nat.shiftLeft_eq]; omega)
  rw [← UInt32.toNat_inj, toNat_pixel, UInt32.toNat_or, UInt32.toNat_or, hhigh, hmiddle,
    UInt8.toNat_toUInt32, Nat.or_assoc, ← Nat.shiftLeft_add_eq_or_of_lt hblue,
    ← Nat.shiftLeft_add_eq_or_of_lt (by rw [Nat.shiftLeft_eq]; omega), Nat.shiftLeft_eq,
    Nat.shiftLeft_eq, ← Nat.add_assoc]

@[simp] theorem rgb_pixel (c : Rgb) : Pixel.rgb c.pixel = c := by
  have hr := c.red.toNat_lt
  have hg := c.green.toNat_lt
  have hb := c.blue.toNat_lt
  have h := toNat_pixel c
  rcases c with ⟨r, g, b⟩
  simp only at hr hg hb h
  simp only [Pixel.rgb, Rgb.mk.injEq, ← UInt8.toNat_inj, UInt32.toNat_toUInt8, UInt32.toNat_div, h]
  simp
  omega

/-- The mean of two channels, rounded down. -/
@[inline] def meanChannel (a b : UInt8) : UInt8 :=
  ((a.toUInt16 + b.toUInt16) / 2).toUInt8

theorem toNat_meanChannel (a b : UInt8) : (meanChannel a b).toNat = (a.toNat + b.toNat) / 2 := by
  have := a.toNat_lt
  have := b.toNat_lt
  simp [meanChannel]
  omega

/-- The mean of two colours, channel by channel, rounded down. -/
@[inline] def mean (a b : Rgb) : Rgb where
  red := meanChannel a.red b.red
  green := meanChannel a.green b.green
  blue := meanChannel a.blue b.blue

@[simp] theorem mean_self (a : Rgb) : mean a a = a := by
  rcases a with ⟨r, g, b⟩
  simp only [mean, Rgb.mk.injEq, ← UInt8.toNat_inj, toNat_meanChannel]
  omega

end Rgb

end UsbDisplay
