import UsbDisplay.Bench.Rig

/-!
A bench for attached displays: a registry, one tapped adapter on each socket, and a clock. An
operation on a handle acts on the display with that handle and on the adapter of its socket, and on
nothing else.
-/

namespace UsbDisplay

/-- The clock that paces frames. -/
inductive Clock where
  /-- It moves only when it is told to. -/
  | manual (now : Duration)
  /-- It moves by itself, and too little between two operations to be seen. -/
  | monotonic
  deriving DecidableEq, Repr

namespace Clock

def now : Clock → Duration
  | manual now => now
  | monotonic => .zero

def advance : Clock → Duration → Clock
  | manual now, by_ => manual (now + by_)
  | monotonic, _ => monotonic

end Clock

structure DeviceBench where
  registry : Registry
  taps : Array Tap
  clock : Clock := .manual .zero

namespace DeviceBench

/-- A bench with this many adapters and no display attached. -/
def create (config : Config) (adapters : Nat) (clock : Clock) : DeviceBench where
  registry := { config := config }
  taps := Array.replicate adapters {}
  clock := clock

def tap (b : DeviceBench) (socket : Nat) : Tap := b.taps[socket]?.getD {}

def rig (b : DeviceBench) (socket : Nat) : Rig Registry where
  holder := b.registry
  tap := b.tap socket
  config := b.registry.config
  socket := socket

/-- Takes the registry and the line on a socket back. -/
def putRig (b : DeviceBench) (r : Rig Registry) : DeviceBench :=
  { b with registry := r.holder, taps := b.taps.setIfInBounds r.socket r.tap }

def adjust (b : DeviceBench) (socket : Nat) (f : Adapter → Adapter) : DeviceBench :=
  b.putRig ((b.rig socket).adjust f)

def advance (b : DeviceBench) (by_ : Duration) : DeviceBench :=
  { b with clock := b.clock.advance by_ }

/-- Attaches the display on a socket; gives its handle. -/
def attach (b : DeviceBench) (socket : Nat) : Except Error Nat × DeviceBench :=
  let (result, r) := (b.rig socket).act fun registry tap =>
    match registry.attach socket tap with
    | (.error e, tap) => (.error e, registry, tap)
    | (.ok (handle, registry), tap) => (.ok handle, registry, tap)
  (result, b.putRig r)

def onDevice {α : Type} (b : DeviceBench) (handle : Nat)
    (f : Device → Tap → Except Error α × Device × Tap) : Except Error α × DeviceBench :=
  match b.registry.device handle with
  | .error e => (.error e, b)
  | .ok device =>
    let (result, r) := (b.rig device.socket).act fun registry tap =>
      let (result, device, tap) := f device tap
      (result, registry.put device, tap)
    (result, b.putRig r)

def enable (b : DeviceBench) (handle width height hertz : Nat) : Except Error Unit × DeviceBench :=
  b.onDevice handle fun d tap => d.enable width height hertz tap

def setMode (b : DeviceBench) (handle width height hertz : Nat) : Except Error Unit × DeviceBench :=
  b.onDevice handle fun d tap => d.setMode width height hertz tap

def disable (b : DeviceBench) (handle : Nat) : Except Error Unit × DeviceBench :=
  b.onDevice handle fun d tap => d.disable tap

def connectorStatus (b : DeviceBench) (handle : Nat) : Except Error ConnectorStatus × DeviceBench :=
  b.onDevice handle fun d tap =>
    let (status, tap) := d.connectorStatus tap
    (.ok status, d, tap)

def readEdid (b : DeviceBench) (handle : Nat) (block : UInt8) :
    Except Error (List UInt8) × DeviceBench :=
  b.onDevice handle fun d tap =>
    let (result, tap) := d.readEdid block tap
    (result, d, tap)

/-- Sends the damaged part of a frame to a display. -/
def submitFrom {m : Type → Type} [Monad m] (b : DeviceBench) (handle : Nat)
    (source : FrameSource m) (damage : Rect) : m (Except Error FrameStatus × DeviceBench) :=
  match b.registry.device handle with
  | .error e => pure (.error e, b)
  | .ok d => do
    let grace := (b.rig d.socket).whileWaiting d.config.grace d.active.other
    let called ← d.submitFrom source damage b.clock.now grace
    return b.onDevice handle fun _ tap => (called.1, called.2, tap)

/-- A submit of a view; `none` if its encoding breaks off. -/
def submitView (b : DeviceBench) (handle : Nat) (v : FrameView) (damage : Rect) :
    Option (Except Error FrameStatus × DeviceBench) :=
  b.submitFrom handle v.source damage

/-- Waits until a display has no transfer in flight. -/
def waitIdle (b : DeviceBench) (handle : Nat) (limit : Duration) :
    Except Error Bool × DeviceBench :=
  b.onDevice handle fun d tap =>
    let (idle, d) := d.waitIdle fun i => (b.rig d.socket).whileWaiting limit i
    (.ok idle, d, tap)

/-- Detaches a display: its transfers are asked to stop, and its buffers are given up. A transfer
that does not stop is left to the adapter. -/
def detach (b : DeviceBench) (handle : Nat) : Except Error Unit × DeviceBench :=
  match b.registry.remove handle with
  | .error e => (.error e, b)
  | .ok (device, registry) =>
    let stop := fun registry tap =>
      let limit := device.config.detachWait
      let (_, scheduler) :=
        device.scheduler.shutdown fun i => (b.rig device.socket).whileWaiting limit i
      ((), Registry.put registry { device with scheduler := scheduler }, tap)
    let (_, r) := (b.rig device.socket).act stop
    (.ok (), { b.putRig r with registry := registry })

def device (b : DeviceBench) (handle : Nat) : Except Error Device := b.registry.device handle

end DeviceBench

end UsbDisplay
