import UsbDisplay.Adapter.Frame
import UsbDisplay.Register.Link
import UsbDisplay.Transfer.Scheduler

/-!
A simulated adapter. It answers register reads from a register file, keeps a log of the control
exchanges it accepted, and paints frame updates into a picture. A write to the resolution register
gives the picture a new size and blanks it.

Faults can be put in: control exchanges or bulk calls that fail, answers without bytes, a stall, a
latency. A bulk call that cannot go on is kept until it can (`Adapter.settle`): a stalled one until
the stall ends, one whose latency outlasts its caller for good. A call that was asked to stop
returns at once, unless the adapter ignores that.
-/

namespace UsbDisplay

/-- A control exchange that the adapter accepted. -/
inductive ControlRecord where
  | read (address : UInt16)
  | write (address : UInt16) (data : Register.Payload)
  deriving DecidableEq, Repr

/-- Which transfer a bulk call belongs to: its owner and the owner's slot. -/
structure Ticket where
  owner : Nat
  slot : SlotId
  deriving DecidableEq, Repr

/-- A bulk call that has not returned. -/
structure BulkCall where
  ticket : Ticket
  packet : ByteArray
  /-- Whether its latency is longer than its caller waits. -/
  isSlow : Bool
  isCancelled : Bool := false

/-- What is wrong with an adapter. -/
structure Adapter.Faults where
  control : Option TransportError := none
  /-- Writes to this register fail. -/
  write : Option (UInt16 × TransportError) := none
  bulk : Option TransportError := none
  shortReads : Bool := false
  latency : Duration := .zero
  stalled : Bool := false
  ignoreCancel : Bool := false

structure Adapter where
  registers : UInt16 → UInt8 := fun _ => 0
  controlLog : Array ControlRecord := #[]
  pendingRead : Option UInt16 := none
  frame : Frame := .blank 800 600
  updates : Array UpdateHeader := #[]
  lastPacket : ByteArray := .empty
  faults : Adapter.Faults := {}
  calls : List BulkCall := []

namespace Adapter

def setRegister (a : Adapter) (address : UInt16) (value : UInt8) : Adapter :=
  { a with registers := fun r => if r = address then value else a.registers r }

def writes (a : Adapter) : List (UInt16 × Register.Payload) :=
  a.controlLog.toList.filterMap fun
    | .read _ => none
    | .write address data => some (address, data)

def clearControlLog (a : Adapter) : Adapter := { a with controlLog := #[] }

/-! ### Control exchanges -/

def applyWrite (a : Adapter) (address : UInt16) (data : Register.Payload) : Adapter :=
  let a := { a with controlLog := a.controlLog.push (.write address data) }
  if address = Register.resolution then
    { a with
      frame := .blank (Word.ofBytes data[0] data[1]).toNat (Word.ofBytes data[2] data[3]).toNat }
  else a

/-- The failure that a write to a register meets, if any. -/
def writeFailure? (a : Adapter) (address : UInt16) : Option TransportError :=
  match a.faults.write with
  | some (failing, e) => if failing = address then some e else none
  | none => none

def controlOut (a : Adapter) (data : List UInt8) : Except TransportError Nat × Adapter :=
  match a.faults.control with
  | some e => (.error e, a)
  | none =>
    match Register.Request.parse? data with
    | none => (.error (.io "unrecognised control packet"), a)
    | some (.read address) =>
      (.ok data.length,
        { a with controlLog := a.controlLog.push (.read address), pendingRead := some address })
    | some (.write address payload) =>
      match a.writeFailure? address with
      | some e => (.error e, a)
      | none => (.ok data.length, a.applyWrite address payload)

/-- Answers the register read that was asked for last; without one the exchange stalls. A buffer
without room takes the answer nonetheless. -/
def controlIn (a : Adapter) (buffer : List UInt8) :
    Except TransportError Nat × List UInt8 × Adapter :=
  match a.faults.control with
  | some e => (.error e, buffer, a)
  | none =>
    if a.faults.shortReads then (.ok 0, buffer, a)
    else
      match a.pendingRead with
      | none => (.error .stall, buffer, a)
      | some address =>
        let a := { a with pendingRead := none }
        match buffer with
        | [] => (.ok 0, [], a)
        | _ :: rest => (.ok buffer.length, a.registers address :: rest, a)

instance : ControlTransport Adapter where
  send _ data a := a.controlOut data
  receive _ buffer a := a.controlIn buffer

/-! ### Bulk calls -/

/-- Paints a packet. A packet that is no update changes nothing. -/
def paint (a : Adapter) (packet : ByteArray) : Except TransportError Nat × Adapter :=
  match Update.decode packet with
  | .error fault => (.error (.io (Error.malformedPacket fault).message), a)
  | .ok u =>
    (.ok packet.size,
      { a with
        frame := a.frame.paint u
        updates := a.updates.push u.header
        lastPacket := packet })

/-- Whether a call that was asked to stop does so. -/
def heedsCancel (a : Adapter) : Bool := !a.faults.ignoreCancel

/-- What a bulk call comes to if it is left alone; `none` if it does not return. It looks whether it
was asked to stop and then whether the adapter is stalled, here in one step: nothing falls in
between. -/
def bulkOut (a : Adapter) (packet : ByteArray) (isCancelled : Bool) :
    Option (Except TransportError Nat) × Adapter :=
  match a.faults.bulk with
  | some e => (some (.error e), a)
  | none =>
    if isCancelled && a.heedsCancel then (some (.error .cancelled), a)
    else if a.faults.stalled then (none, a)
    else
      let (result, a) := a.paint packet
      (some result, a)

/-- Lets a waiting call go on; `none` if it has to wait longer. As in `bulkOut`, its two looks are one
step. -/
def resume (a : Adapter) (call : BulkCall) : Option (Except TransportError Nat) × Adapter :=
  if call.isCancelled && a.heedsCancel then (some (.error .cancelled), a)
  else if a.faults.stalled || call.isSlow then (none, a)
  else
    let (result, a) := a.paint call.packet
    (some result, a)

/-- How a bulk call ended. -/
abbrev Return := Ticket × Except TransportError Nat

/-- Lets the given calls go on, first come first served; those that wait longer are kept. -/
def settleCalls (a : Adapter) : List BulkCall → List Return × Adapter
  | [] => ([], a)
  | call :: rest =>
    match a.resume call with
    | (none, a) => settleCalls { a with calls := a.calls ++ [call] } rest
    | (some result, a) =>
      let (returns, a) := settleCalls a rest
      ((call.ticket, result) :: returns, a)

/-- Lets all waiting calls go on as far as they can. -/
def settle (a : Adapter) : List Return × Adapter :=
  settleCalls { a with calls := [] } a.calls

/-- Takes a bulk call whose caller waits for `patience`. -/
def start (a : Adapter) (ticket : Ticket) (packet : ByteArray) (patience : Duration) :
    List Return × Adapter :=
  match a.faults.bulk with
  | some e => ([(ticket, .error e)], a)
  | none =>
    let call : BulkCall := ⟨ticket, packet, patience < a.faults.latency, false⟩
    settle { a with calls := a.calls ++ [call] }

/-- Whether a bulk call of a transfer waits. -/
def holds (a : Adapter) (ticket : Ticket) : Bool :=
  a.calls.any (·.ticket == ticket)

end Adapter

end UsbDisplay
