import UsbDisplay.Bench.Rig
import UsbDisplay.Framebuffer.View

/-!
Benches for one slot and for the two slots of a scheduler. The operations are those of the slots;
waits have lengths here, and what falls into them follows from the adapter.
-/

namespace UsbDisplay

/-- One slot wired to an adapter. -/
abbrev SlotBench := Rig Slot

/-- Two slots wired to an adapter. -/
abbrev SchedulerBench := Rig Scheduler

/-- Puts bytes into the buffer of an idle slot; gives their number. -/
def Slot.fill (s : Slot) (start : Nat) (bytes : ByteArray) : Except Error Nat × Slot :=
  match s.buffer with
  | .error e => (.error e, s)
  | .ok buffer => (.ok bytes.size, s.putBuffer (buffer.write start bytes))

/-- Encodes a rectangle into the buffer of an idle slot; gives the length of the packet. -/
def Slot.encodeFrom {m : Type → Type} [Monad m] (s : Slot) (source : FrameSource m) (r : Rect) :
    m (Except Error Nat × Slot) :=
  match s.buffer with
  | .error e => pure (.error e, s)
  | .ok buffer => do
    match ← source.encode r buffer with
    | .error e => return (.error e, s)
    | .ok (length, buffer) => return (.ok length, s.putBuffer buffer)

/-- Encodes a picture that lies in memory as a whole. -/
def Slot.encode (s : Slot) (fb : Framebuffer) (r : Rect) : Except Error Nat × Slot :=
  Id.run (s.encodeFrom fb.source r)

/-- Encodes a view; `none` if the encoding breaks off. -/
def Slot.encode? (s : Slot) (v : FrameView) (r : Rect) : Option (Except Error Nat × Slot) :=
  s.encodeFrom v.source r

theorem Slot.encode_eq (s : Slot) (fb : Framebuffer) (r : Rect) :
    s.encode fb r =
      match s.buffer with
      | .error e => (.error e, s)
      | .ok buffer =>
        match fb.encode r buffer with
        | .error e => (.error e, s)
        | .ok (length, buffer) => (.ok length, s.putBuffer buffer) := by
  rw [encode, encodeFrom]
  cases s.buffer with
  | error e => rfl
  | ok buffer =>
    simp only [Framebuffer.source, pure_bind]
    cases fb.encode r buffer <;> rfl

namespace SlotBench

def create (index : Nat) (config : Config) (killsWorker : Bool) : Except Error SlotBench :=
  match Slot.create index config with
  | .error e => .error e
  | .ok slot => .ok { holder := slot, tap := { killsWorker := killsWorker }, config := config }

def onSlot {α : Type} (b : SlotBench) (f : Slot → α × Slot) : α × SlotBench :=
  Rig.act b fun slot tap => ((f slot).1, (f slot).2, tap)

def submit (b : SlotBench) (length : Nat) : Except Error Unit × SlotBench :=
  b.onSlot fun slot =>
    match slot.submit length with
    | .error e => (.error e, slot)
    | .ok slot => (.ok (), slot)

def meanwhile (b : SlotBench) (limit : Duration) (slot : Slot) : List Slot.Event :=
  (b.tap.whileWaiting limit b.config.transferTimeout .first fun
    | .first => slot.running?
    | .second => none).map (·.2)

def poll (b : SlotBench) : Bool × SlotBench := b.onSlot Slot.poll

def wait (b : SlotBench) (limit : Duration) : Bool × SlotBench :=
  b.onSlot fun slot => slot.wait (b.meanwhile limit)

def cancel (b : SlotBench) : Bool × SlotBench := b.onSlot Slot.cancel

def shutdown (b : SlotBench) (limit : Duration) : Bool × SlotBench :=
  b.onSlot fun slot => slot.shutdown (b.meanwhile limit)

end SlotBench

namespace SchedulerBench

def create (config : Config) (killsWorker : Bool) : Except Error SchedulerBench :=
  match Scheduler.create config with
  | .error e => .error e
  | .ok scheduler =>
    .ok { holder := scheduler, tap := { killsWorker := killsWorker }, config := config }

def onScheduler {α : Type} (b : SchedulerBench) (f : Scheduler → α × Scheduler) :
    α × SchedulerBench :=
  Rig.act b fun scheduler tap => ((f scheduler).1, (f scheduler).2, tap)

def onSlot {α : Type} (b : SchedulerBench) (i : SlotId) (f : Slot → α × Slot) :
    α × SchedulerBench :=
  b.onScheduler fun s => ((f (s.slot i)).1, s.setSlot i (f (s.slot i)).2)

def submit (b : SchedulerBench) (i : SlotId) (length : Nat) : Except Error Unit × SchedulerBench :=
  b.onScheduler fun s =>
    match s.submit i length with
    | .error e => (.error e, s)
    | .ok s => (.ok (), s)

def poll (b : SchedulerBench) (i : SlotId) : Bool × SchedulerBench := b.onScheduler (·.poll i)

def wait (b : SchedulerBench) (i : SlotId) (limit : Duration) : Bool × SchedulerBench :=
  b.onScheduler (·.wait i (b.whileWaiting limit i))

def waitIdle (b : SchedulerBench) (limit : Duration) : Bool × SchedulerBench :=
  b.onScheduler (·.waitIdle fun i => b.whileWaiting limit i)

def cancel (b : SchedulerBench) (i : SlotId) : Bool × SchedulerBench := b.onScheduler (·.cancel i)

def shutdownSlot (b : SchedulerBench) (i : SlotId) (limit : Duration) : Bool × SchedulerBench :=
  b.onScheduler (·.shutdownSlot i (b.whileWaiting limit i))

def shutdown (b : SchedulerBench) (limit : Duration) : Bool × SchedulerBench :=
  b.onScheduler (·.shutdown fun i => b.whileWaiting limit i)

end SchedulerBench

end UsbDisplay
