import UsbDisplay.Yuv

/-!
Lines of pixels and their packed form. Two neighbouring pixels share four bytes: blue difference,
luma of the first, red difference, luma of the second, the differences taken from the mean of the
two colours. A line is packed and unpacked pair by pair from its left end; a target that is too
short takes as many whole pairs as it holds and keeps the rest of what it held.
-/

namespace UsbDisplay.Scanline

def pairBytes (p q : Pixel) : Array UInt8 :=
  let m := Rgb.mean p.rgb q.rgb
  #[Yuv.blueDifference m, Yuv.luma p.rgb, Yuv.redDifference m, Yuv.luma q.rgb]

/-- Appends the four bytes of a pair of pixels. -/
@[inline] def pushPair (out : ByteArray) (p q : Pixel) : ByteArray :=
  let m := Rgb.mean p.rgb q.rgb
  (((out.push (Yuv.blueDifference m)).push (Yuv.luma p.rgb)).push (Yuv.redDifference m)).push
    (Yuv.luma q.rgb)

@[simp] theorem data_pushPair (out : ByteArray) (p q : Pixel) :
    (pushPair out p q).data = out.data ++ pairBytes p q := by
  apply Array.ext'
  simp [pushPair, pairBytes]

@[simp] theorem size_pushPair (out : ByteArray) (p q : Pixel) :
    (pushPair out p q).size = out.size + 4 := by
  simp [pushPair]

def pushPairs (out : ByteArray) (pixels : Array Pixel) (n : Nat) (h : 2 * n ≤ pixels.size) :
    ByteArray :=
  n.fold (fun j _ out => pushPair out pixels[2 * j] pixels[2 * j + 1]) out

@[simp] theorem size_pushPairs (out : ByteArray) (pixels : Array Pixel) (n : Nat)
    (h : 2 * n ≤ pixels.size) : (pushPairs out pixels n h).size = out.size + 4 * n := by
  induction n with
  | zero => simp [pushPairs]
  | succ n ih =>
    have := ih (by omega)
    simp only [pushPairs, Nat.fold_succ, size_pushPair] at this ⊢
    omega

/-- Appends a line, two bytes a pixel; an odd last pixel is left out. -/
def push (out : ByteArray) (pixels : Array Pixel) : ByteArray :=
  pushPairs out pixels (pixels.size / 2) (by omega)

@[simp] theorem size_push (out : ByteArray) (pixels : Array Pixel) :
    (push out pixels).size = out.size + 4 * (pixels.size / 2) := by
  simp [push]

/-- Packs a line over the start of `target`. -/
def pack (line : Array Pixel) (target : ByteArray) : ByteArray :=
  let n := min (line.size / 2) (target.size / 4)
  pushPairs .empty line n (by omega) ++ target.extract (4 * n) target.size

@[simp] theorem size_pack (line : Array Pixel) (target : ByteArray) :
    (pack line target).size = target.size := by
  simp [pack]
  omega

/-- Appends the pixels of the first `n` groups of four bytes. -/
def pushGroups (out : Array Pixel) (bytes : ByteArray) (n : Nat) (h : 4 * n ≤ bytes.size) :
    Array Pixel :=
  n.fold (fun j _ out =>
    let u := bytes[4 * j]
    let v := bytes[4 * j + 2]
    (out.push (Yuv.pixel ⟨bytes[4 * j + 1], u, v⟩)).push (Yuv.pixel ⟨bytes[4 * j + 3], u, v⟩)) out

@[simp] theorem size_pushGroups (out : Array Pixel) (bytes : ByteArray) (n : Nat)
    (h : 4 * n ≤ bytes.size) : (pushGroups out bytes n h).size = out.size + 2 * n := by
  induction n with
  | zero => simp [pushGroups]
  | succ n ih =>
    have := ih (by omega)
    simp only [pushGroups, Nat.fold_succ, Array.size_push] at this ⊢
    omega

/-- The pixels of a packed line; bytes after the last whole group are left out. -/
def pixels (bytes : ByteArray) : Array Pixel :=
  pushGroups #[] bytes (bytes.size / 4) (by omega)

@[simp] theorem size_pixels (bytes : ByteArray) : (pixels bytes).size = 2 * (bytes.size / 4) := by
  simp [pixels]

/-- Unpacks a line over the start of `target`. -/
def unpack (bytes : ByteArray) (target : Array Pixel) : Array Pixel :=
  let n := min (bytes.size / 4) (target.size / 2)
  pushGroups #[] bytes n (by omega) ++ target.extract (2 * n) target.size

@[simp] theorem size_unpack (bytes : ByteArray) (target : Array Pixel) :
    (unpack bytes target).size = target.size := by
  simp [unpack]
  omega

end UsbDisplay.Scanline
