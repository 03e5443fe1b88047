import UsbDisplay.Adapter

/-!
A tap on the line to a simulated adapter. It writes down every control exchange and every bulk call
that passes, and has faults of its own: control answers that fail before the adapter is asked, a
bulk call that kills its worker, and a wrong number of bytes reported for a bulk call that
succeeded.
-/

namespace UsbDisplay

/-- A control exchange that passed a tap, with the bytes that went in. -/
structure ControlCall where
  isReceive : Bool
  request : ControlRequest
  data : List UInt8
  deriving DecidableEq, Repr

/-- A tapped adapter. -/
structure Tap where
  adapter : Adapter := {}
  controlCalls : Array ControlCall := #[]
  /-- Endpoint and length of every bulk call. -/
  bulkCalls : Array (UInt8 × Nat) := #[]
  receiveFault : Option TransportError := none
  reportedBytes : Option Nat := none
  killsWorker : Bool := false

namespace Tap

instance : ControlTransport Tap where
  send request data t :=
    let t := { t with controlCalls := t.controlCalls.push ⟨false, request, data⟩ }
    let (result, adapter) := t.adapter.controlOut data
    (result, { t with adapter := adapter })
  receive request buffer t :=
    let t := { t with controlCalls := t.controlCalls.push ⟨true, request, buffer⟩ }
    match t.receiveFault with
    | some e => (.error e, buffer, t)
    | none =>
      let (result, buffer, adapter) := t.adapter.controlIn buffer
      (result, buffer, { t with adapter := adapter })

def adjust (t : Tap) (f : Adapter → Adapter) : Tap := { t with adapter := f t.adapter }

/-- The control exchanges since the last time they were taken. -/
def takeControlCalls (t : Tap) : Array ControlCall × Tap :=
  (t.controlCalls, { t with controlCalls := #[] })

/-- The bulk calls since the last time they were taken. -/
def takeBulkCalls (t : Tap) : Array (UInt8 × Nat) × Tap :=
  (t.bulkCalls, { t with bulkCalls := #[] })

/-- What the owner of a transfer is told. -/
def report (t : Tap) (r : Adapter.Return) : Ticket × Slot.Event :=
  (r.1, .returned (match r.2 with
    | .ok n => .ok (t.reportedBytes.getD n)
    | .error e => .error e))

/-- Passes a new bulk call on, and lets the adapter go on as far as it can. -/
def start (t : Tap) (endpoint : UInt8) (patience : Duration) (ticket : Ticket)
    (transfer : Transfer) : List (Ticket × Slot.Event) × Tap :=
  let t := { t with bulkCalls := t.bulkCalls.push (endpoint, transfer.length) }
  if t.killsWorker then ([(ticket, .died)], t)
  else
    let (returns, adapter) := t.adapter.start ticket transfer.packet patience
    (returns.map t.report, { t with adapter := adapter })

/-- Lets the adapter go on as far as it can. -/
def settle (t : Tap) : List (Ticket × Slot.Event) × Tap :=
  let (returns, adapter) := t.adapter.settle
  (returns.map t.report, { t with adapter := adapter })

/-- What falls into a wait of length `limit` for one slot. Without a running transfer there the wait
ends at once. Else time passes up to the limit, so deadlines shorter than it pass as well, unless
the transfer was asked to stop and does so first; and a transfer that is asked to stop returns,
unless the adapter ignores that. -/
def whileWaiting (t : Tap) (limit deadline : Duration) (waited : SlotId)
    (running? : SlotId → Option Transfer) : List Scheduler.Event :=
  match running? waited with
  | none => []
  | some w =>
    let heeds := t.adapter.heedsCancel
    let late := decide (deadline < limit) && !(w.token.isCancelled && heeds)
    SlotId.all.flatMap fun i =>
      match running? i with
      | none => []
      | some transfer =>
        (if late then [(i, .deadline)] else []) ++
          (if heeds && (late || transfer.token.isCancelled) then
            [(i, .returned (.error .cancelled))]
          else [])

end Tap

end UsbDisplay
