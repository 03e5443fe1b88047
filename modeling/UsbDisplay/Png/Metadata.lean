import UsbDisplay.Png.Allowance
import UsbDisplay.Png.FrameControl
import UsbDisplay.Png.TextualData

/-!
What a file says before the image data. The header comes first. Of the other chunks only the palette
and what is said of transparency and of frames bear on the picture; the rest is looked at only to
refuse a file in which a chunk is malformed, comes twice, or does not go with the kind of picture.
A chunk without contents says nothing, and the checksum counts for critical chunks alone.
-/

namespace UsbDisplay.Png

structure Metadata where
  header : Header
  palette? : Option ByteArray := none
  /-- The opacity of the entries of the palette, or the colour that is transparent. -/
  transparency? : Option ByteArray := none
  /-- The kinds of chunks that have come and must not come again. -/
  seen : List UInt32 := [Chunk.header]
  /-- How many frames were announced. -/
  announced? : Option UInt32 := none
  frame? : Option FrameControl := none
  allowance : Allowance := {}

namespace Metadata

/-! ### Chunks before the image data -/

/-- The kinds of chunks of which a file has one at most. -/
def single : List UInt32 :=
  [Chunk.header, Chunk.palette, Chunk.transparency, Chunk.gamma, Chunk.chromaticities,
    Chunk.renderingIntent, Chunk.pixelSize]

/-- Whether transparency has the form that goes with a kind of picture. -/
def isTransparencyOf (layout : SampleLayout) (hasPalette : Bool) (size : Nat) : Bool :=
  match layout with
  | .gray => 2 ≤ size
  | .rgb => 6 ≤ size
  | .indexed => hasPalette
  | .grayAlpha | .rgba => false

/-- Whether a chunk has the form that its kind asks for. -/
def isWellFormed (m : Metadata) (c : Chunk) : Bool :=
  if c.kind = Chunk.transparency then
    isTransparencyOf m.header.layout m.palette?.isSome c.data.size
  else if c.kind = Chunk.gamma then 4 ≤ c.data.size
  else if c.kind = Chunk.chromaticities then 32 ≤ c.data.size
  else if c.kind = Chunk.renderingIntent then (c.data[0]?).any (· ≤ 3)
  else if c.kind = Chunk.pixelSize then (c.data[8]?).any (· ≤ 1)
  else if c.kind = Chunk.text then TextualData.isPlain c.data
  else if c.kind = Chunk.compressedText then TextualData.isCompressed c.data
  else if c.kind = Chunk.internationalText then TextualData.isInternational c.data
  else if c.kind = Chunk.animation then 8 ≤ c.data.size
  else true

/-- The number that the next piece of an animation has. -/
def nextNumber (m : Metadata) : UInt32 :=
  match m.frame? with
  | none => 0
  | some f => f.number + 1

/-- Takes note of one more chunk that has contents. -/
def add? (m : Metadata) (c : Chunk) : Option Metadata :=
  if !m.seen.contains c.kind && m.isWellFormed c then
    let m := if single.contains c.kind then { m with seen := c.kind :: m.seen } else m
    if c.kind = Chunk.palette then some { m with palette? := some c.data }
    else if c.kind = Chunk.transparency then some { m with transparency? := some c.data }
    else if c.kind = Chunk.animation then some { m with announced? := Word.read32? c.data 0 }
    else if c.kind = Chunk.frameControl then
      (FrameControl.parse? m.header m.nextNumber c.data).map ({ m with frame? := · })
    else some m
  else none

/-- Takes note of a chunk; the first one that has contents is the header. -/
def learn? (m? : Option Metadata) (c : Chunk) : Option Metadata :=
  match m? with
  | none => (Header.parse? (c.data.extract 0 Header.length).data.toList).map ({ header := · })
  | some m => m.add? c

/-- The kinds of chunks whose contents are kept. -/
def kept : List UInt32 :=
  [Chunk.palette, Chunk.transparency, Chunk.text, Chunk.compressedText, Chunk.internationalText]

/-- What is left of the allowance after a chunk. -/
def spend? (m? : Option Metadata) (c : Chunk.Found) : Option Allowance :=
  ((m?.elim {} allowance).hold? c.size).bind fun a =>
    a.take? (if kept.contains c.kind then c.size else 0)

/-- Whether a chunk may come, given what was said before: nothing comes before the header, and the
file does not end before the image data. -/
def mayCome (m? : Option Metadata) (kind : UInt32) : Bool :=
  match m? with
  | none => kind == Chunk.header
  | some _ => kind != Chunk.imageEnd

def isImage (kind : UInt32) : Bool := kind == Chunk.imageData || kind == Chunk.frameData

/-- Reads on up to the image data, and gives the chunks from there on. -/
def read? (m? : Option Metadata) : List Chunk.Found → Option (Metadata × List Chunk.Found)
  | [] => none
  | c :: rest =>
    if !mayCome m? c.kind then none
    else if isImage c.kind then m?.map fun m => (m, c :: rest)
    else if !c.isSound then none
    else if c.size = 0 then read? m? rest
    else
      match spend? m? c, learn? m? c.toChunk with
      | some a, some m => read? (some { m with allowance := a }) rest
      | _, _ => none

/-! ### What is shown -/

/-- The frames that can be shown: those that were announced, and one that comes before them. -/
def frameCount (m : Metadata) : Nat :=
  match m.announced? with
  | none => 1
  | some n => n.toNat + if m.frame?.isNone then 1 else 0

def width (m : Metadata) : Nat := ((m.frame?.map (·.width)).getD m.header.width).toNat

def height (m : Metadata) : Nat := ((m.frame?.map (·.height)).getD m.header.height).toNat

def channels (m : Metadata) : Channels := m.header.layout.expanded m.transparency?.isSome

/-- The samples of a row of the frame that is shown, once opacity is made explicit. -/
def rowSamples (m : Metadata) : Nat := m.width * m.channels.count

/-- Whether a frame is there that can be shown. A row of it has to be within the allowance, the
samples of the picture have to be counted by a word of 64 bits, and colours need to be found where
they are looked up. -/
def isShowable (m : Metadata) : Bool :=
  m.frameCount != 0 && (m.allowance.take? m.rowSamples).isSome &&
    decide (m.header.expandedSize < UInt64.size) &&
    (m.header.layout != .indexed || m.palette?.isSome)

end Metadata

end UsbDisplay.Png
