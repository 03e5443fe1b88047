import UsbDisplay.Config
import UsbDisplay.Transfer.Buffer
import UsbDisplay.Transfer.Outcome

/-!
A transfer slot: one buffer and the worker that sends from it. The buffer is in exactly one place.
While the slot is idle it has the buffer; a submit hands the buffer and a new token to the worker;
when the bulk call has returned, buffer and outcome wait until the owner looks, and only then is the
slot idle again and the outcome seen. A worker that dies keeps the buffer for good, and a slot that
has been shut down has given it up.

What happens without the owner comes in as events (`Slot.Event`): the bulk call returned, the
deadline passed, the worker died. An operation that waits takes a function from the state at the
start of the wait to the events that fall into it.
-/

namespace UsbDisplay

/-- A transfer in the hands of a worker: the first `length` bytes of its buffer are sent. -/
structure Transfer where
  buffer : TransferBuffer
  length : Nat
  token : CancelToken := .fresh
  length_le_capacity : length ≤ buffer.capacity

/-- The bytes that the bulk call of a transfer is given. -/
def Transfer.packet (t : Transfer) : ByteArray := t.buffer.first t.length

/-- Where the buffer of a slot is. -/
inductive Slot.State where
  /-- In the slot. -/
  | idle (buffer : TransferBuffer)
  /-- With the worker, whose bulk call has not returned. -/
  | running (transfer : Transfer)
  /-- On its way back from the worker, not yet noticed. -/
  | ended (buffer : TransferBuffer) (outcome : Outcome) (token : CancelToken)
  /-- With a worker that has died. -/
  | lost (token : CancelToken)
  /-- Given up by a shutdown. -/
  | released

/-- A slot as its owner has it. -/
structure Slot where
  index : Nat
  state : Slot.State
  lastOutcome : Option Outcome := none
  /-- Whether the worker still takes transfers. -/
  isOpen : Bool := true
  /-- Whether the owner has found the worker gone while it had the buffer. -/
  workerLost : Bool := false

namespace Slot

/-- What can happen to a slot without its owner. -/
inductive Event where
  | returned (result : Except TransportError Nat)
  | deadline
  | died

def create (index : Nat) (config : Config) : Except Error Slot :=
  match TransferBuffer.allocate config.bufferCapacity config.lineCapacity with
  | .error e => .error e
  | .ok buffer => .ok { index := index, state := .idle buffer }

def buffer? (s : Slot) : Option TransferBuffer :=
  match s.state with
  | .idle buffer => some buffer
  | _ => none

/-- The transfer whose bulk call has not returned. -/
def running? (s : Slot) : Option Transfer :=
  match s.state with
  | .running transfer => some transfer
  | _ => none

/-- The token of the transfer that has not been taken back. -/
def token? (s : Slot) : Option CancelToken :=
  match s.state with
  | .running transfer => some transfer.token
  | .ended _ _ token => some token
  | .lost token => some token
  | _ => none

/-- Lets an event happen. Without a running transfer there is nothing that it could change. A bulk
call returns, its deadline is put out and its outcome is decided in one step. These are three steps
of a worker, and a transfer may still be asked to stop between them: see `Parties`. -/
def react (s : Slot) (e : Event) : Slot :=
  match s.state with
  | .running t =>
    match e with
    | .returned result =>
      { s with state := .ended t.buffer (.ofResult result t.token) t.token }
    | .deadline =>
      { s with state := .running { t with token := (t.token.cancel .deadline).2 } }
    | .died => { s with state := .lost t.token }
  | _ => s

def reactAll (s : Slot) (events : List Event) : Slot := events.foldl react s

/-- The buffer, or the error that tells who has it. -/
def buffer (s : Slot) : Except Error TransferBuffer :=
  match s.state with
  | .idle buffer => .ok buffer
  | _ => .error (.slotBusy s.index)

def putBuffer (s : Slot) (buffer : TransferBuffer) : Slot :=
  match s.state with
  | .idle _ => { s with state := .idle buffer }
  | _ => s

/-- Hands the first `length` bytes of the buffer to the worker. A slot that refuses stays as it is.
-/
def submit (s : Slot) (length : Nat) : Except Error Slot :=
  match s.state with
  | .idle buffer =>
    if h : length ≤ buffer.capacity then
      if s.isOpen then
        .ok { s with
          state := .running { buffer := buffer, length := length, length_le_capacity := h }
          lastOutcome := none }
      else .error (.workerGone s.index)
    else .error (.lengthExceedsBuffer length buffer.capacity)
  | _ => .error (.slotBusy s.index)

/-- Looks whether the buffer is there, and takes it back if it is on its way. A worker that is gone
with the buffer is remembered. -/
def poll (s : Slot) : Bool × Slot :=
  match s.state with
  | .idle _ => (true, s)
  | .running _ => (false, s)
  | .ended buffer outcome _ => (true, { s with state := .idle buffer, lastOutcome := some outcome })
  | .lost _ => (false, { s with workerLost := true })
  | .released => (false, { s with workerLost := true })

/-- Waits for the buffer. The events that fall into the wait happen first. -/
def wait (s : Slot) (meanwhile : Slot → List Event) : Bool × Slot :=
  (s.reactAll (meanwhile s)).poll

/-- Asks the transfer that has not been taken back to stop; the flag says whether that was news. -/
def cancel (s : Slot) : Bool × Slot :=
  match s.state with
  | .running t =>
    let (first, token) := t.token.cancel .requested
    (first, { s with state := .running { t with token := token } })
  | .ended buffer outcome token =>
    let (first, token) := token.cancel .requested
    (first, { s with state := .ended buffer outcome token })
  | .lost token =>
    let (first, token) := token.cancel .requested
    (first, { s with state := .lost token })
  | _ => (false, s)

/-- Takes no transfers any more and gives the buffer up; the flag says whether it was there. -/
def release (s : Slot) : Bool × Slot :=
  match s.state with
  | .idle _ => (true, { s with state := .released, isOpen := false })
  | _ => (false, { s with isOpen := false })

/-- Stops a slot: asks a running transfer to stop, waits for it, and gives the buffer up. False if
the buffer did not come back; the worker then keeps it, and may still bring it back later. -/
def shutdown (s : Slot) (meanwhile : Slot → List Event) : Bool × Slot :=
  match s.poll with
  | (true, s) => s.release
  | (false, s) => (s.cancel.2.wait meanwhile).2.release

end Slot

end UsbDisplay
