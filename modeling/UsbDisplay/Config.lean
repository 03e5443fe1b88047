import UsbDisplay.Duration
import UsbDisplay.Mode
import UsbDisplay.Packet

/-!
Settings of one attached device. The size of its transfer buffers follows from the greatest
framebuffer that it is to take: one packet for the whole of it, and one line of it.
-/

namespace UsbDisplay

structure Config where
  /-- The least time between two frames that are sent; zero sends every frame. -/
  frameInterval : Duration := .ofMilliseconds 16
  /-- How long a frame waits for the transfer before it. -/
  grace : Duration := .ofMilliseconds 1
  /-- How long a bulk transfer may take before it is stopped. -/
  transferTimeout : Duration := .ofSeconds 5
  controlTimeout : Duration := .ofMilliseconds 500
  /-- How long a detach waits for transfers in flight. -/
  detachWait : Duration := .ofSeconds 1
  maxWidth : Nat := 2048
  maxHeight : Nat := 2048
  /-- The mode that is set before any frame is sent. -/
  initialMode : DisplayMode := .svga
  bulkEndpoint : UInt8 := 4
  deriving Repr

namespace Config

def bufferCapacity (c : Config) : Nat := packetLength c.maxWidth c.maxHeight

def lineCapacity (c : Config) : Nat := c.maxWidth

/-- Whether a framebuffer of this size is within the limits. -/
def fits (c : Config) (width height : Nat) : Bool :=
  decide (width ≤ c.maxWidth) && decide (height ≤ c.maxHeight)

end Config

end UsbDisplay
