import UsbDisplay.Duration
import UsbDisplay.Packet.Header
import UsbDisplay.Text.Hex
import UsbDisplay.Text.Quoted

/-!
What can go wrong, as causes. Each cause has a name, a message for people (`Error.message`) and a
debug form that shows its name and its fields (`Error.debug`); the texts are fixed here and nowhere
else.
-/

namespace UsbDisplay

/-- Failures of the line to a device. -/
inductive TransportError where
  | disconnected
  | stall
  | cancelled
  | timedOut
  | io (text : String)
  deriving DecidableEq, Repr

namespace TransportError

def message : TransportError → String
  | disconnected => "device disconnected"
  | stall => "endpoint stalled"
  | cancelled => "transfer cancelled"
  | timedOut => "transport timed out"
  | io text => "i/o error: " ++ text

def name : TransportError → String
  | disconnected => "Disconnected"
  | stall => "Stall"
  | cancelled => "Cancelled"
  | timedOut => "TimedOut"
  | io _ => "Io"

def debug : TransportError → String
  | e@(io text) => e.name ++ "(" ++ Text.quoted text ++ ")"
  | e => e.name

end TransportError

/-- What can be wrong with a framebuffer, or with a rectangle asked of it. -/
inductive FramebufferFault where
  | shortPitch
  | shortBuffer
  | outside
  deriving DecidableEq, Repr

def FramebufferFault.message : FramebufferFault → String
  | shortPitch => "pitch shorter than a row"
  | shortBuffer => "buffer shorter than pitch * height"
  | outside => "update rect outside framebuffer"

/-- A rectangle with its four bounds named. -/
def Rect.debug (r : Rect) : String :=
  "DamageRect \x7b x1: " ++ toString r.x1 ++ ", y1: " ++ toString r.y1 ++ ", x2: " ++
    toString r.x2 ++ ", y2: " ++ toString r.y2 ++ " \x7d"

/-- Failures of the display pipeline. -/
inductive Error where
  | transport (cause : TransportError)
  | shortRead (address : UInt16)
  | timeout (limit : Duration)
  | unsupportedMode (width height hertz : Nat)
  | allocation (size : Nat)
  | slotBusy (slot : Nat)
  | workerGone (slot : Nat)
  | lengthExceedsBuffer (length capacity : Nat)
  | invalidFramebuffer (fault : FramebufferFault)
  | rectTooLarge (rect : Rect) (needed capacity : Nat)
  | malformedPacket (fault : PacketFault)
  | unknownDevice (handle : Nat)
  deriving DecidableEq, Repr

namespace Error

def message : Error → String
  | transport cause => "transport error: " ++ cause.message
  | shortRead address => "register " ++ Text.hexWord address ++ " read returned no data"
  | timeout limit => "bulk transfer did not finish within " ++ limit.text
  | unsupportedMode width height hertz =>
    "unsupported mode " ++ toString width ++ "x" ++ toString height ++ "@" ++ toString hertz
  | allocation size => "failed to allocate " ++ toString size ++ " byte transfer buffer"
  | slotBusy slot => "transfer slot " ++ toString slot ++ " still owns an in-flight transfer"
  | workerGone slot => "transfer worker for slot " ++ toString slot ++ " has stopped"
  | lengthExceedsBuffer length capacity =>
    "transfer of " ++ toString length ++ " bytes exceeds " ++ toString capacity ++ " byte buffer"
  | invalidFramebuffer fault => "invalid framebuffer: " ++ fault.message
  | rectTooLarge rect needed capacity =>
    "update " ++ rect.debug ++ " needs " ++ toString needed ++ " bytes, transfer buffer holds " ++
      toString capacity
  | malformedPacket fault => "malformed update packet: " ++ fault.message
  | unknownDevice handle => "unknown device handle " ++ toString handle

def name : Error → String
  | transport _ => "Transport"
  | shortRead _ => "ShortRead"
  | timeout _ => "Timeout"
  | unsupportedMode .. => "UnsupportedMode"
  | allocation _ => "Allocation"
  | slotBusy _ => "SlotBusy"
  | workerGone _ => "WorkerGone"
  | lengthExceedsBuffer .. => "LengthExceedsBuffer"
  | invalidFramebuffer _ => "InvalidFramebuffer"
  | rectTooLarge .. => "RectTooLarge"
  | malformedPacket _ => "MalformedPacket"
  | unknownDevice _ => "UnknownDevice"

/-- The fields of an error, in the form in which they follow its name. -/
def fields : Error → String
  | transport cause => "(" ++ cause.debug ++ ")"
  | shortRead address => " \x7b address: " ++ toString address.toNat ++ " \x7d"
  | timeout limit => "(" ++ limit.text ++ ")"
  | unsupportedMode width height hertz =>
    " \x7b width: " ++ toString width ++ ", height: " ++ toString height ++ ", hz: " ++
      toString hertz ++ " \x7d"
  | allocation size => "(" ++ toString size ++ ")"
  | slotBusy slot => "(" ++ toString slot ++ ")"
  | workerGone slot => "(" ++ toString slot ++ ")"
  | lengthExceedsBuffer length capacity =>
    " \x7b len: " ++ toString length ++ ", capacity: " ++ toString capacity ++ " \x7d"
  | invalidFramebuffer fault => "(" ++ Text.quoted fault.message ++ ")"
  | rectTooLarge rect needed capacity =>
    " \x7b rect: " ++ rect.debug ++ ", needed: " ++ toString needed ++ ", capacity: " ++
      toString capacity ++ " \x7d"
  | malformedPacket fault => "(" ++ Text.quoted fault.message ++ ")"
  | unknownDevice handle => "(" ++ toString handle ++ ")"

/-- The debug form of an error: its name and its fields. -/
def debug (e : Error) : String := e.name ++ e.fields

/-- The failure of the line behind an error, if there is one. -/
def source? : Error → Option TransportError
  | transport cause => some cause
  | _ => none

end Error

end UsbDisplay
