import UsbDisplay.Command.Options
import UsbDisplay.Command.Pace
import UsbDisplay.Device.Registry

/-!
A session of the command: a display, attached to a simulated adapter and switched on, and the pace
at which time passes for it.
-/

namespace UsbDisplay.Command

/-- A display on its adapter, and the time. -/
structure Session (τ : Type) where
  station : Station
  pace : Pace τ
  time : τ

namespace Session

variable {τ : Type}

def config (o : Options) : Config :=
  { frameInterval := .ofMilliseconds o.frameInterval
    transferTimeout := .ofMilliseconds o.transferTimeout }

/-- Attaches a display to a new adapter and switches it on. -/
def start (pace : Pace τ) (time : τ) (o : Options) : Except Error (Session τ) :=
  let adapter : Adapter := { faults := { latency := .ofMilliseconds o.latency } }
  match ({ config := config o } : Registry).attach 0 adapter with
  | (.error e, _) => .error e
  | (.ok (handle, registry), adapter) =>
    match registry.device handle with
    | .error e => .error e
    | .ok d =>
      match d.enable o.width o.height o.hertz adapter with
      | (.error e, _, _) => .error e
      | (.ok _, d, adapter) => .ok ⟨⟨d, adapter⟩, pace, time⟩

/-- Sends the damaged part of a frame. -/
def submit (s : Session τ) (fb : Framebuffer) (damage : Rect) :
    Except Error FrameStatus × Session τ :=
  let (m, after) := s.pace.submit s.time s.station
  let answer := s.station.submitAnswer fb damage m.now m.moves
  (answer,
    { s with
      station := s.station.submit fb damage m.now m.moves
      time := after answer })

/-- Whether there is damage that has not been sent. -/
def hasPending (s : Session τ) : Bool := !s.station.device.pending.isEmpty

/-- Waits until nothing is in flight, but not longer than the limit; tells whether it is so. -/
def wait (s : Session τ) (limit : Duration) : Bool × Session τ :=
  let (m, after) := s.pace.wait s.time s.station limit
  let meanwhile := ⟨m.moves, m.later⟩
  (s.station.waitAnswer meanwhile,
    { s with station := s.station.waitIdle meanwhile, time := after })

def sleep (s : Session τ) (d : Duration) : Session τ :=
  let (m, after) := s.pace.sleep s.time s.station d
  { s with station := s.station.elapse m.moves, time := after }

/-- What the adapter shows. -/
def picture (s : Session τ) : Frame := s.station.adapter.frame

end Session

end UsbDisplay.Command
