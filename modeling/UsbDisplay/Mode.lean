import UsbDisplay.Text.Hex

/-!
Display modes: a resolution, a refresh rate, the code by which the adapter knows the mode, and the
format of its pixels. The table of known modes is searched from its front, so where two entries have
one resolution and rate the earlier one is taken.
-/

namespace UsbDisplay

/-- How pixels travel to the adapter. -/
inductive PixelFormat where
  | uyvy
  | rgb
  deriving DecidableEq, Repr

/-- The word that selects a pixel format. -/
def PixelFormat.code : PixelFormat → UInt16
  | uyvy => 0x2200
  | rgb => 0x1111

/-- A resolution and rate together with the adapter's code for it. -/
structure DisplayMode where
  width : UInt16
  height : UInt16
  hertz : UInt16
  code : UInt16
  format : PixelFormat := .uyvy
  deriving DecidableEq, Repr

namespace DisplayMode

def text (m : DisplayMode) : String :=
  toString m.width.toNat ++ "x" ++ toString m.height.toNat ++ "@" ++ toString m.hertz.toNat ++
    " (mode " ++ Text.hexWord m.code ++ ")"

/-- 800 by 600 at 60 hertz, the first entry of the table. -/
def svga : DisplayMode := ⟨800, 600, 60, 0x4200, .uyvy⟩

def table : List DisplayMode := [
  svga,
  ⟨1024, 768, 60, 0x4700, .uyvy⟩,
  ⟨1152, 864, 60, 0x4c00, .uyvy⟩,
  ⟨1280, 720, 60, 0x4f00, .uyvy⟩,
  ⟨1280, 800, 60, 0x5700, .uyvy⟩,
  ⟨1280, 960, 60, 0x5b00, .uyvy⟩,
  ⟨1280, 1024, 60, 0x6000, .uyvy⟩,
  ⟨1366, 768, 60, 0x6600, .uyvy⟩,
  ⟨1400, 1050, 60, 0x6700, .uyvy⟩,
  ⟨1440, 900, 60, 0x6b00, .uyvy⟩,
  ⟨1600, 900, 60, 0x7000, .uyvy⟩,
  ⟨1680, 1050, 60, 0x7800, .uyvy⟩,
  ⟨1920, 1080, 60, 0x8100, .uyvy⟩,
  ⟨1920, 1200, 60, 0x8500, .uyvy⟩,
  ⟨2048, 1152, 60, 0x8900, .uyvy⟩,
  ⟨2560, 1440, 60, 0x9000, .uyvy⟩,
  ⟨720, 480, 60, 0x0200, .uyvy⟩,
  ⟨720, 576, 60, 0x1100, .uyvy⟩,
  ⟨640, 480, 60, 0x4000, .uyvy⟩,
  ⟨1024, 768, 60, 0x4900, .uyvy⟩,
  ⟨1280, 600, 60, 0x4e00, .uyvy⟩,
  ⟨1280, 768, 60, 0x5400, .uyvy⟩,
  ⟨1280, 1024, 60, 0x6100, .uyvy⟩,
  ⟨1360, 768, 60, 0x6400, .uyvy⟩,
  ⟨1600, 1200, 60, 0x7300, .uyvy⟩,
  ⟨800, 480, 60, 0x3000, .uyvy⟩,
  ⟨1024, 600, 60, 0x4500, .uyvy⟩,
  ⟨1152, 864, 75, 0x4d00, .uyvy⟩,
  ⟨1280, 768, 60, 0x5300, .uyvy⟩,
  ⟨1280, 800, 75, 0x5800, .uyvy⟩,
  ⟨1400, 1050, 75, 0x6800, .uyvy⟩,
  ⟨1680, 1050, 75, 0x7900, .uyvy⟩,
  ⟨1920, 1080, 50, 0x8000, .uyvy⟩,
  ⟨1920, 1080, 75, 0x8200, .uyvy⟩]

/-- Whether a mode has exactly this resolution and rate. -/
def Is (m : DisplayMode) (width height hertz : Nat) : Bool :=
  m.width.toNat == width && m.height.toNat == height && m.hertz.toNat == hertz

/-- The first known mode of this resolution and rate. -/
def find? (width height hertz : Nat) : Option DisplayMode :=
  table.find? (·.Is width height hertz)

/-- Whether some known mode has this resolution and rate. -/
def isKnown (width height hertz : Nat) : Bool :=
  (find? width height hertz).isSome

end DisplayMode

end UsbDisplay
