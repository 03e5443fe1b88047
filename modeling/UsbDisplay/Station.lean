import UsbDisplay.Device
import UsbDisplay.Adapter

/-!
A display on a simulated adapter, with the line between them. Bulk calls return, wait and fail in
any order with the faults of the adapter, also while the owner of the display waits: what falls into
a wait comes as moves on the line, which the adapter answers with events of the slots.
-/

namespace UsbDisplay

/-- What can happen on the line of a display by itself. A call paints and returns in one move: no
other call can paint in between, because no other transfer is in flight. -/
inductive LineMove where
  /-- The worker of a slot makes its bulk call. -/
  | call (i : SlotId)
  /-- The bulk call of a slot, which the adapter has kept, goes on. -/
  | resume (i : SlotId)
  | deadline (i : SlotId)
  | faults (f : Adapter.Faults)

namespace Adapter

/-- What a bulk call comes to, as an event of its slot. -/
def returning (i : SlotId) (r : Option (Except TransportError Nat) × Adapter) :
    Option Scheduler.Event × Adapter :=
  (r.1.map fun result => (i, .returned result), r.2)

/-- Carries out a move; a call or a return needs a running transfer. -/
def move (a : Adapter) (s : Scheduler) : LineMove → Option Scheduler.Event × Adapter
  | .call i =>
    match (s.slot i).running? with
    | none => (none, a)
    | some t => returning i (a.bulkOut t.packet t.token.isCancelled)
  | .resume i =>
    match (s.slot i).running? with
    | none => (none, a)
    | some t => returning i (a.resume ⟨⟨0, i⟩, t.packet, false, t.token.isCancelled⟩)
  | .deadline i => (some (i, .deadline), a)
  | .faults f => (none, { a with faults := f })

/-- The events that moves on the line make, one after the other. -/
def play (a : Adapter) (s : Scheduler) : List LineMove → List Scheduler.Event × Adapter
  | [] => ([], a)
  | m :: rest =>
    match a.move s m with
    | (none, a) => a.play s rest
    | (some e, a) =>
      let (events, a) := a.play (s.react e) rest
      (e :: events, a)

end Adapter

/-- A display on its adapter. -/
structure Station where
  device : Device
  adapter : Adapter

namespace Station

/-- What can happen while frames are sent. The moves of a submit or a wait fall into its waiting. -/
inductive Action where
  | submit (fb : Framebuffer) (damage : Rect) (now : Duration) (meanwhile : List LineMove)
  | waitIdle (meanwhile : PerSlot (List LineMove))
  | line (m : LineMove)

/-- Whether a submit with this answer came to its wait. -/
def waited : Except Error FrameStatus → Bool
  | .ok .throttled | .ok .nothingToSend => false
  | _ => true

def submit (s : Station) (fb : Framebuffer) (damage : Rect) (now : Duration)
    (meanwhile : List LineMove) : Station :=
  let (events, adapter) :=
    s.adapter.play (s.device.scheduler.poll s.device.active.other).2 meanwhile
  let (answer, d) := s.device.submitFrame fb damage now fun _ => events
  { device := d, adapter := if waited answer then adapter else s.adapter }

/-- What a submit answers. -/
def submitAnswer (s : Station) (fb : Framebuffer) (damage : Rect) (now : Duration)
    (meanwhile : List LineMove) : Except Error FrameStatus :=
  let events := (s.adapter.play (s.device.scheduler.poll s.device.active.other).2 meanwhile).1
  (s.device.submitFrame fb damage now fun _ => events).1

def waitIdle (s : Station) (meanwhile : PerSlot (List LineMove)) : Station :=
  let (first, adapter) := s.adapter.play s.device.scheduler meanwhile.first
  let (idle, scheduler) := s.device.scheduler.wait .first fun _ => first
  let (second, adapter) := if idle then adapter.play scheduler meanwhile.second else ([], adapter)
  let (_, d) := s.device.waitIdle fun i _ => PerSlot.get ⟨first, second⟩ i
  { device := d, adapter := adapter }

/-- The events that fall into a wait for both slots. -/
def waitEvents (s : Station) (meanwhile : PerSlot (List LineMove)) :
    PerSlot (List Scheduler.Event) :=
  let first := s.adapter.play s.device.scheduler meanwhile.first
  let waited := s.device.scheduler.wait .first fun _ => first.1
  ⟨first.1, if waited.1 then (first.2.play waited.2 meanwhile.second).1 else []⟩

/-- What a wait for both slots answers. -/
def waitAnswer (s : Station) (meanwhile : PerSlot (List LineMove)) : Bool :=
  (s.device.waitIdle fun i _ => (s.waitEvents meanwhile).get i).1

theorem device_waitIdle (s : Station) (meanwhile : PerSlot (List LineMove)) :
    (s.waitIdle meanwhile).device =
      (s.device.waitIdle fun i _ => (s.waitEvents meanwhile).get i).2 := by
  simp only [waitIdle, waitEvents]
  split <;> rfl

def act (s : Station) : Action → Station
  | .submit fb damage now meanwhile => s.submit fb damage now meanwhile
  | .waitIdle meanwhile => s.waitIdle meanwhile
  | .line m =>
    let (events, adapter) := s.adapter.play s.device.scheduler [m]
    { device := { s.device with scheduler := s.device.scheduler.reactAll events }
      adapter := adapter }

def run (s : Station) (actions : List Action) : Station := actions.foldl act s

/-- Time passes between two calls, and this happens on the line. -/
def elapse (s : Station) (moves : List LineMove) : Station := s.run (moves.map .line)

end Station

end UsbDisplay
