import UsbDisplay.Mode
import UsbDisplay.Register.Control
import UsbDisplay.Register.Packet

/-!
Register access, and the sequences that are built on it. A read is two exchanges: the address goes
out, the value comes in. A mode is set by six writes in a fixed order; the first write that fails
ends the sequence. Between the first and the second write three status registers are read, and
whatever comes of it is not looked at.
-/

namespace UsbDisplay

/-- What the adapter says about its display. -/
inductive ConnectorStatus where
  | connected
  | disconnected
  | unknown
  deriving DecidableEq, Repr

namespace Register

def resolution : UInt16 := 0x01

def mode : UInt16 := 0x02

def prepare : UInt16 := 0x03

def reset : UInt16 := 0x04

def commit : UInt16 := 0x05

def power : UInt16 := 0x07

def connector : UInt16 := 0x32

/-- The registers that are read while a mode is set. -/
def statusRegisters : List UInt16 := [0x30, 0x33, 0xC620]

def edidBase : UInt16 := 0xC000

/-- The bytes of one block of the display's description. -/
def edidBlockLength : Nat := 128

def zeroPayload : Payload := #v[0, 0, 0, 0, 0, 0]

def onePayload : Payload := #v[1, 0, 0, 0, 0, 0]

def powerOnPayload : Payload := #v[1, 2, 0, 0, 0, 0]

/-- Three words, high byte first. -/
def wordsPayload (a b c : UInt16) : Payload :=
  #v[Word.high a, Word.low a, Word.high b,
    Word.low b, Word.high c, Word.low c]

/-- The writes of a mode set after the first one. -/
def configureWrites (m : DisplayMode) : List (UInt16 × Payload) := [
  (prepare, #v[3, 0, 0, 0, 0, 0]),
  (resolution, wordsPayload m.width m.height m.format.code),
  (mode, wordsPayload m.code m.width m.height),
  (reset, onePayload),
  (commit, onePayload)]

/-- The six writes that set a mode. -/
def modeWrites (m : DisplayMode) : List (UInt16 × Payload) :=
  (reset, zeroPayload) :: configureWrites m

variable {σ : Type} [ControlTransport σ]

/-- Reads a register. An answer without bytes is an error of its own. -/
def read (timeout : Duration) (address : UInt16) (s : σ) : Except Error UInt8 × σ :=
  match ControlTransport.send (.setReport timeout) (readPacket address) s with
  | (.error e, s) => (.error (.transport e), s)
  | (.ok _, s) =>
    match ControlTransport.receive (.getReport timeout) (readPacket address) s with
    | (.error e, _, s) => (.error (.transport e), s)
    | (.ok n, buffer, s) =>
      if n = 0 then (.error (.shortRead address), s) else (.ok (buffer.headD 0), s)

def write (timeout : Duration) (address : UInt16) (data : Payload) (s : σ) :
    Except Error Unit × σ :=
  match ControlTransport.send (.setReport timeout) (writePacket address data) s with
  | (.error e, s) => (.error (.transport e), s)
  | (.ok _, s) => (.ok (), s)

/-- Writes registers in order, up to the first write that fails. -/
def writeAll (timeout : Duration) : List (UInt16 × Payload) → σ → Except Error Unit × σ
  | [], s => (.ok (), s)
  | (address, data) :: rest, s =>
    match write timeout address data s with
    | (.error e, s) => (.error e, s)
    | (.ok _, s) => writeAll timeout rest s

/-- Reads registers for nothing but the exchange. -/
def touchAll (timeout : Duration) : List UInt16 → σ → σ
  | [], s => s
  | address :: rest, s => touchAll timeout rest (read timeout address s).2

def powerOn (timeout : Duration) (s : σ) : Except Error Unit × σ :=
  write timeout power powerOnPayload s

def powerOff (timeout : Duration) (s : σ) : Except Error Unit × σ :=
  write timeout power zeroPayload s

def setMode (timeout : Duration) (m : DisplayMode) (s : σ) : Except Error Unit × σ :=
  match write timeout reset zeroPayload s with
  | (.error e, s) => (.error e, s)
  | (.ok _, s) => writeAll timeout (configureWrites m) (touchAll timeout statusRegisters s)

/-- Whether a display is connected, as far as the adapter can be asked. -/
def connectorStatus (timeout : Duration) (s : σ) : ConnectorStatus × σ :=
  match read timeout connector s with
  | (.error _, s) => (.unknown, s)
  | (.ok value, s) => (if value = 1 then .connected else .disconnected, s)

/-- Reads `n` registers from an address on, up to the first read that fails; after the last address
comes the first. -/
def readRun (timeout : Duration) : (n : Nat) → UInt16 → σ → Except Error (List UInt8) × σ
  | 0, _, s => (.ok [], s)
  | n + 1, address, s =>
    match read timeout address s with
    | (.error e, s) => (.error e, s)
    | (.ok value, s) =>
      match readRun timeout n (address + 1) s with
      | (.error e, s) => (.error e, s)
      | (.ok values, s) => (.ok (value :: values), s)

def readEdid (timeout : Duration) (block : UInt8) (s : σ) : Except Error (List UInt8) × σ :=
  readRun timeout edidBlockLength (edidBase + block.toUInt16 * 128) s

end Register

end UsbDisplay
