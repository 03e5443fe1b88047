import UsbDisplay.Transfer.Slot

/-!
The two slots of a device, so that one buffer can be filled while the other is sent. Operations on
one slot leave the other alone; the joint ones go through the first slot and then the second, within
one deadline.
-/

namespace UsbDisplay

/-- One of the two slots. -/
inductive SlotId where
  | first
  | second
  deriving DecidableEq, Repr, Inhabited

namespace SlotId

/-- The slot of a number: even ones name the first, odd ones the second. -/
def ofIndex (n : Nat) : SlotId := if n % 2 = 0 then first else second

def index : SlotId → Nat
  | first => 0
  | second => 1

def other : SlotId → SlotId
  | first => second
  | second => first

@[simp] theorem other_other (i : SlotId) : i.other.other = i := by cases i <;> rfl

theorem other_ne (i : SlotId) : i.other ≠ i := by cases i <;> decide

def all : List SlotId := [first, second]

end SlotId

/-- One value for each slot. -/
structure PerSlot (α : Type) where
  first : α
  second : α
  deriving DecidableEq, Repr

namespace PerSlot

variable {α : Type}

def get (p : PerSlot α) : SlotId → α
  | .first => p.first
  | .second => p.second

def set (p : PerSlot α) (i : SlotId) (a : α) : PerSlot α :=
  match i with
  | .first => { p with first := a }
  | .second => { p with second := a }

@[simp] theorem get_set_self (p : PerSlot α) (i : SlotId) (a : α) : (p.set i a).get i = a := by
  cases i <;> rfl

@[simp] theorem get_set_other (p : PerSlot α) (i : SlotId) (a : α) :
    (p.set i a).get i.other = p.get i.other := by
  cases i <;> rfl

theorem get_set_of_ne (p : PerSlot α) {i j : SlotId} (h : j ≠ i) (a : α) :
    (p.set i a).get j = p.get j := by
  cases i <;> cases j <;> first | rfl | exact absurd rfl h

end PerSlot

/-- The two slots of a device. -/
structure Scheduler where
  slots : PerSlot Slot

namespace Scheduler

/-- What can happen to the slots without their owner: which slot, and what. -/
abbrev Event := SlotId × Slot.Event

def create (config : Config) : Except Error Scheduler :=
  match Slot.create 0 config, Slot.create 1 config with
  | .ok first, .ok second => .ok ⟨⟨first, second⟩⟩
  | .error e, _ => .error e
  | _, .error e => .error e

def slot (s : Scheduler) (i : SlotId) : Slot := s.slots.get i

def setSlot (s : Scheduler) (i : SlotId) (slot : Slot) : Scheduler := ⟨s.slots.set i slot⟩

@[simp] theorem slot_setSlot_self (s : Scheduler) (i : SlotId) (slot : Slot) :
    (s.setSlot i slot).slot i = slot := by
  simp [Scheduler.slot, setSlot]

@[simp] theorem slot_setSlot_other (s : Scheduler) (i : SlotId) (slot : Slot) :
    (s.setSlot i slot).slot i.other = s.slot i.other := by
  simp [Scheduler.slot, setSlot]

def react (s : Scheduler) (e : Event) : Scheduler :=
  s.setSlot e.1 ((s.slot e.1).react e.2)

def reactAll (s : Scheduler) (events : List Event) : Scheduler := events.foldl react s

def submit (s : Scheduler) (i : SlotId) (length : Nat) : Except Error Scheduler :=
  match (s.slot i).submit length with
  | .error e => .error e
  | .ok slot => .ok (s.setSlot i slot)

def poll (s : Scheduler) (i : SlotId) : Bool × Scheduler :=
  let (done, slot) := (s.slot i).poll
  (done, s.setSlot i slot)

/-- Waits for one slot. Events of both slots may fall into the wait. -/
def wait (s : Scheduler) (i : SlotId) (meanwhile : Scheduler → List Event) : Bool × Scheduler :=
  (s.reactAll (meanwhile s)).poll i

/-- Waits for the first slot and then, if that is idle, for the second. How long it may take is not
told: what happens before it gives up is what falls into it. A limit that the clock cannot count to,
where it panics, is left out. -/
def waitIdle (s : Scheduler) (meanwhile : SlotId → Scheduler → List Event) : Bool × Scheduler :=
  match s.wait .first (meanwhile .first) with
  | (true, s) => s.wait .second (meanwhile .second)
  | (false, s) => (false, s)

def cancel (s : Scheduler) (i : SlotId) : Bool × Scheduler :=
  let (first, slot) := (s.slot i).cancel
  (first, s.setSlot i slot)

def release (s : Scheduler) (i : SlotId) : Bool × Scheduler :=
  let (reclaimed, slot) := (s.slot i).release
  (reclaimed, s.setSlot i slot)

/-- Stops one slot, as `Slot.shutdown` does; events of both may fall into the wait. -/
def shutdownSlot (s : Scheduler) (i : SlotId) (meanwhile : Scheduler → List Event) :
    Bool × Scheduler :=
  match s.poll i with
  | (true, s) => s.release i
  | (false, s) => ((s.cancel i).2.wait i meanwhile).2.release i

def cancelAll (s : Scheduler) : Scheduler :=
  ((s.cancel .first).2.cancel .second).2

/-- Stops both slots: asks both transfers to stop before it waits for either. True if both buffers
came back. As with `waitIdle`, how long it may take is not told. -/
def shutdown (s : Scheduler) (meanwhile : SlotId → Scheduler → List Event) : Bool × Scheduler :=
  let (first, s) := s.cancelAll.shutdownSlot .first (meanwhile .first)
  let (second, s) := s.shutdownSlot .second (meanwhile .second)
  (first && second, s)

end Scheduler

end UsbDisplay
