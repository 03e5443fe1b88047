import UsbDisplay.Command.Canvas
import UsbDisplay.Command.Session

/-!
Streaming a scene. Half a frame interval passes after every frame. Damage that has not been sent
after the last frame is pushed out with empty frames, a whole interval apart, and at most ten times.
Which frames are held back is up to the pace of the session: held back damage is sent later, so the
picture at the end does not depend on it.
-/

namespace UsbDisplay.Command

/-- A scene and where it goes. -/
structure Stream (τ : Type) where
  session : Session τ
  scene : Scene

namespace Stream

variable {τ : Type}

def half (d : Duration) : Duration := ⟨d.nanoseconds / 2⟩

def submit (s : Stream τ) (damage : Rect) : Except Error (Stream τ) :=
  match s.scene.canvas.framebuffer with
  | .error e => .error e
  | .ok fb =>
    match s.session.submit fb damage with
    | (.error e, _) => .error e
    | (.ok _, session) => .ok { s with session := session }

def sleep (s : Stream τ) (d : Duration) : Stream τ := { s with session := s.session.sleep d }

def wait (s : Stream τ) (limit : Duration) : Bool × Stream τ :=
  let (idle, session) := s.session.wait limit
  (idle, { s with session := session })

def frame (interval : Duration) (s : Stream τ) (k : Nat) : Except Error (Stream τ) :=
  let s := { s with scene := s.scene.draw k }
  match s.submit (s.scene.damage k) with
  | .error e => .error e
  | .ok s => .ok (s.sleep (half interval))

/-- How often damage that has not been sent is pushed out. -/
def maxFlushes : Nat := 10

/-- Pushes out what has not been sent. -/
def flush (interval : Duration) : (tries : Nat) → Stream τ → Except Error (Stream τ)
  | 0, s => .ok s
  | tries + 1, s =>
    if s.session.hasPending then
      match ((s.wait (.ofSeconds 1)).2.sleep interval).submit Rect.empty with
      | .error e => .error e
      | .ok s => flush interval tries s
    else .ok s

/-- Streams all frames and waits until the last one has arrived, but not longer than five seconds;
tells whether it has. Nothing more is done about it if it has not. -/
def run (s : Stream τ) (interval : Duration) (frames : Nat) : Except Error (Bool × Stream τ) := do
  let s ← (List.range frames).foldlM (frame interval) s
  let s ← s.flush interval maxFlushes
  return s.wait (.ofSeconds 5)

end Stream

end UsbDisplay.Command
