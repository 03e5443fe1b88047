import UsbDisplay.Bench.Tap
import UsbDisplay.Device.Registry

/-!
A rig: something that has transfer slots, wired to a tapped adapter. After every action of the owner
and every change of the adapter the line is served (`Rig.serve`): new transfers become bulk calls,
the adapter sees which of its calls were asked to stop, and calls that can return do so. A call
whose owner is gone is left to the adapter.
-/

namespace UsbDisplay

/-- Things that have transfer slots on numbered sockets. -/
class SlotHolder (β : Type) where
  /-- Whether the slot of a ticket is there. -/
  owns : β → (socket : Nat) → Ticket → Bool
  /-- The running transfers on a socket. -/
  running : β → (socket : Nat) → List (Ticket × Transfer)
  /-- Lets an event happen to the slot of a ticket. -/
  react : β → Ticket → Slot.Event → β

instance : SlotHolder Slot where
  owns _ _ ticket := ticket == ⟨0, .first⟩
  running s _ := (s.running?.map fun t => (⟨0, .first⟩, t)).toList
  react s _ e := s.react e

def Scheduler.running (s : Scheduler) (owner : Nat) : List (Ticket × Transfer) :=
  SlotId.all.filterMap fun i => (s.slot i).running?.map fun t => (⟨owner, i⟩, t)

instance : SlotHolder Scheduler where
  owns _ _ ticket := ticket.owner == 0
  running s _ := s.running 0
  react s ticket e := s.react (ticket.slot, e)

instance : SlotHolder Registry where
  owns r socket ticket := r.devices.any fun d => d.id == ticket.owner && d.socket == socket
  running r socket :=
    r.devices.flatMap fun d => if d.socket = socket then d.scheduler.running d.id else []
  react r ticket e :=
    match r.find? ticket.owner with
    | none => r
    | some d => r.put { d with scheduler := d.scheduler.react (ticket.slot, e) }

/-- A holder of slots on a tapped line. -/
structure Rig (β : Type) where
  holder : β
  tap : Tap
  config : Config
  socket : Nat := 0

namespace Rig

variable {α β : Type} [SlotHolder β]

/-- Lets events happen to the slots that they belong to. -/
def deliver (r : Rig β) (events : List (Ticket × Slot.Event)) : Rig β :=
  { r with holder := events.foldl (fun h e => SlotHolder.react h e.1 e.2) r.holder }

/-- Shows the adapter which of its calls were asked to stop, and takes back those that have returned
to their owner already. -/
def syncCalls (r : Rig β) : Rig β :=
  let running := SlotHolder.running r.holder r.socket
  let sync := fun call : BulkCall =>
    match running.lookup call.ticket with
    | some transfer => some { call with isCancelled := transfer.token.isCancelled }
    | none => if SlotHolder.owns r.holder r.socket call.ticket then none else some call
  { r with tap := r.tap.adjust fun a => { a with calls := a.calls.filterMap sync } }

/-- Makes a bulk call for every running transfer that has none. -/
def startCalls (r : Rig β) : Rig β :=
  (SlotHolder.running r.holder r.socket).foldl
    (fun r entry =>
      if r.tap.adapter.holds entry.1 then r
      else
        let (events, tap) :=
          r.tap.start r.config.bulkEndpoint r.config.transferTimeout entry.1 entry.2
        { r with tap := tap }.deliver events) r

/-- Lets the adapter go on as far as it can. -/
def settle (r : Rig β) : Rig β :=
  let (events, tap) := r.tap.settle
  { r with tap := tap }.deliver events

/-- Brings both ends of the line up to date. -/
def serve (r : Rig β) : Rig β := r.syncCalls.startCalls.settle

def act (r : Rig β) (f : β → Tap → α × β × Tap) : α × Rig β :=
  let (result, holder, tap) := f r.holder r.tap
  (result, { r with holder := holder, tap := tap }.serve)

def adjust (r : Rig β) (f : Adapter → Adapter) : Rig β :=
  { r with tap := r.tap.adjust f }.serve

/-- What falls into a wait for a slot of a scheduler on this rig. -/
def whileWaiting (r : Rig β) (limit : Duration) (i : SlotId) (s : Scheduler) :
    List Scheduler.Event :=
  r.tap.whileWaiting limit r.config.transferTimeout i fun j => (s.slot j).running?

end Rig

end UsbDisplay
