import Mathlib.Logic.Function.Basic
import UsbDisplay.Proofs.Handles
import UsbDisplay.Proofs.ModeSwitches
import UsbDisplay.Proofs.StoppedTransfers

/-!
A registry with the lines of its displays. Displays are attached, asked and detached by their
handles; on every line exchanges may fail, and calls return, wait and fail with the faults of the
adapter, during the waits of the owner and between its calls. A display that is detached may leave
transfers behind that have not returned. Here is what one step does: to the display that it is for,
and that it leaves the others alone (`Fleet.LeavesOthers`).
-/

namespace UsbDisplay

/-! ### What control exchanges leave alone -/

/-- What bulk calls leave on an adapter, and the faults that decide about them. -/
def Adapter.bulkSide (a : Adapter) : Array UpdateHeader × ByteArray × Faults :=
  (a.updates, a.lastPacket, a.faults)

theorem Adapter.bulkSide_controlOut (a : Adapter) (data : List UInt8) :
    (a.controlOut data).2.bulkSide = a.bulkSide := by
  rcases a.controlOut_cases data with ⟨e, h⟩ | ⟨address, -, h⟩ | ⟨address, payload, -, h⟩
  · rw [h]
  · rw [h]
    rfl
  · rw [h, applyWrite]
    split <;> rfl

theorem Adapter.bulkSide_controlIn (a : Adapter) (buffer : List UInt8) :
    (a.controlIn buffer).2.2.bulkSide = a.bulkSide := by
  obtain ⟨pendingRead, h⟩ := a.controlIn_after buffer
  rw [h]
  rfl

namespace FlakyLine

variable {timeout : Duration}

theorem bulkSide_after {f : FlakyLine} {taken : Adapter}
    (h : taken.bulkSide = f.adapter.bulkSide) :
    (f.after taken).adapter.bulkSide = f.adapter.bulkSide := by
  rcases f.adapter_after taken with htaken | hlost
  · rw [htaken, h]
  · rw [hlost]

theorem bulkSide_send (request : ControlRequest) (data : List UInt8) (f : FlakyLine) :
    (ControlTransport.send request data f).2.adapter.bulkSide = f.adapter.bulkSide :=
  bulkSide_after (f.adapter.bulkSide_controlOut data)

theorem bulkSide_receive (request : ControlRequest) (buffer : List UInt8) (f : FlakyLine) :
    (ControlTransport.receive request buffer f).2.2.adapter.bulkSide = f.adapter.bulkSide :=
  bulkSide_after (f.adapter.bulkSide_controlIn buffer)

theorem bulkSide_perform (a : Access) (f : FlakyLine) :
    (a.perform timeout f).adapter.bulkSide = f.adapter.bulkSide := by
  cases a with
  | read address =>
    exact Register.read_keeps (fun f : FlakyLine => f.adapter.bulkSide)
      (fun f => f.bulkSide_send _ _) (fun f => f.bulkSide_receive _ _) f
  | write address data =>
    have hsent := f.bulkSide_send (.setReport timeout) (Register.writePacket address data)
    rw [Access.perform, Register.write]
    split
    next heq => rwa [heq] at hsent
    next heq => rwa [heq] at hsent

theorem bulkSide_performAll (accesses : List Access) (f : FlakyLine) :
    (Access.performAll timeout accesses f).adapter.bulkSide = f.adapter.bulkSide := by
  induction accesses generalizing f with
  | nil => rfl
  | cons a rest ih => exact (ih _).trans (bulkSide_perform a f)

/-- Attaching a display touches nothing that concerns bulk calls. -/
theorem bulkSide_attach (id socket : Nat) (config : Config) (r : RecordedLine FlakyLine) :
    (Device.attach id socket config r).2.line.adapter.bulkSide = r.line.adapter.bulkSide := by
  have hline : (Device.attach id socket config r).2 =
      (RegisterCall.setMode config.initialMode).perform config.controlTimeout r := by
    rw [RegisterCall.perform, Device.attach]
    split
    next heq => rw [heq]
    next heq =>
      rw [heq]
      split <;> rfl
  obtain ⟨performed, -, hperform⟩ :=
    (RegisterCall.setMode config.initialMode).perform_eq config.controlTimeout r
  rw [hline, hperform, RecordedLine.line_performAll]
  exact bulkSide_performAll performed r.line

end FlakyLine
/-! ### One display -/

namespace FlakyConsole

/-- What an owner asks of an attached display. What happens on the line during a wait comes with it.
-/
inductive Request where
  /-- To see its state. -/
  | look
  | control (c : Device.Control)
  | connectorStatus
  | readEdid (block : UInt8)
  | submit (fb : Framebuffer) (damage : Rect) (now : Duration) (meanwhile : List LineMove)
  | waitIdle (meanwhile : PerSlot (List LineMove))

inductive Reply where
  | state (d : Device)
  | done
  | connector (status : ConnectorStatus)
  | edid (bytes : List UInt8)
  | frame (status : FrameStatus)
  | idle (is_idle : Bool)

def station (c : FlakyConsole) : Station := ⟨c.device, c.adapter⟩

/-- Asks a display. -/
def ask (c : FlakyConsole) : Request → Except Error Reply × FlakyConsole
  | .look => (.ok (.state c.device), c)
  | .control call => ((c.perform call).1.map fun _ => .done, c.act (.control call))
  | .connectorStatus =>
    (.ok (.connector (c.device.connectorStatus c.line).1), c.act .connectorStatus)
  | .readEdid block =>
    ((c.device.readEdid block c.line).1.map .edid, c.act (.readEdid block))
  | .submit fb damage now meanwhile =>
    ((c.station.submitAnswer fb damage now meanwhile).map .frame,
      c.act (.station (.submit fb damage now meanwhile)))
  | .waitIdle meanwhile =>
    (.ok (.idle (c.station.waitAnswer meanwhile)), c.act (.station (.waitIdle meanwhile)))

/-- Shuts a display down. -/
def shutdown (c : FlakyConsole) (meanwhile : PerSlot (List LineMove)) : FlakyConsole :=
  let s := c.station.shutdown meanwhile
  { c with device := s.device }.setAdapter s.adapter

theorem answersFor_ask (c : FlakyConsole) (r : Request) :
    c.device.AnswersFor (c.ask r).1 (c.ask r).2.device := by
  cases r with
  | look => exact c.device.answersFor_ok _
  | control call => exact (c.device.answersFor_control c.line call).map _
  | connectorStatus => exact c.device.answersFor_ok _
  | readEdid block => exact (c.device.answersFor_readEdid block c.line).map _
  | submit fb damage now meanwhile =>
    exact (c.device.answersFor_submitFrame fb damage now _).map _
  | waitIdle meanwhile =>
    have hdevice : (c.ask (.waitIdle meanwhile)).2.device =
      (c.device.waitIdle fun i _ => (c.station.waitEvents meanwhile).get i).2 :=
        c.station.device_waitIdle meanwhile
    rw [hdevice]
    exact ⟨rfl, rfl, fun _ h => by cases h⟩

end FlakyConsole

/-! ### All displays -/

/-- A registry, with a line for each socket. -/
structure Fleet where
  registry : Registry
  lines : Nat → RecordedLine FlakyLine
  /-- The transfers of detached displays that have not returned, with their sockets. -/
  left : List (Nat × Transfer) := []

namespace Fleet

open FlakyConsole (Request)

/-- What an owner asks for. -/
inductive Call where
  | attach (socket : Nat)
  /-- What happens on the line falls into the waits for the two slots. -/
  | detach (handle : Nat) (meanwhile : PerSlot (List LineMove))
  | ask (handle : Nat) (r : Request)

inductive Reply where
  | attached (handle : Nat)
  | detached
  | display (r : FlakyConsole.Reply)

/-- What can happen by itself. -/
inductive Happening where
  /-- On the line of an attached display. -/
  | move (handle : Nat) (m : LineMove)
  | faults (socket : Nat) (f : Adapter.Faults)
  | setRegister (socket : Nat) (address : UInt16) (value : UInt8)
  /-- These mishaps lie ahead. -/
  | mishaps (socket : Nat) (l : List (Option Mishap))
  /-- A worker that was left behind makes its bulk call. -/
  | leftCall (n : Nat)
  /-- The bulk call of a worker that was left behind, which the adapter has kept, goes on. -/
  | leftResume (n : Nat)

def adapter (f : Fleet) (socket : Nat) : Adapter := (f.lines socket).line.adapter

def setLine (f : Fleet) (socket : Nat) (line : RecordedLine FlakyLine) : Fleet :=
  { f with lines := Function.update f.lines socket line }

def setFlaky (f : Fleet) (socket : Nat) (line : FlakyLine) : Fleet :=
  f.setLine socket { f.lines socket with line := line }

def setAdapter (f : Fleet) (socket : Nat) (a : Adapter) : Fleet :=
  f.setFlaky socket { (f.lines socket).line with adapter := a }

/-- A display with its line. -/
def console (f : Fleet) (d : Device) : FlakyConsole := ⟨d, f.lines d.socket⟩

/-- Puts a display and its line back. -/
def putBack (f : Fleet) (c : FlakyConsole) : Fleet :=
  { f.setLine c.device.socket c.line with registry := f.registry.put c.device }

/-- The transfers of a display that run. -/
def running (d : Device) : List Transfer :=
  SlotId.all.filterMap fun i => (d.scheduler.slot i).running?

/-- The registry is without a display that was shut down. What still runs of it is left behind. -/
def abandon (f : Fleet) (registry : Registry) (c : FlakyConsole) : Fleet :=
  { f.setLine c.device.socket c.line with
    registry := registry
    left := f.left ++ (running c.device).map fun t => (c.device.socket, t) }

def perform (f : Fleet) : Call → Except Error Reply × Fleet
  | .attach socket =>
    match f.registry.attach socket (f.lines socket) with
    | (.error e, line) => (.error e, f.setLine socket line)
    | (.ok (handle, registry), line) =>
      (.ok (.attached handle), { f.setLine socket line with registry := registry })
  | .detach handle meanwhile =>
    match f.registry.remove handle with
    | .error e => (.error e, f)
    | .ok (d, registry) =>
      (.ok .detached, f.abandon registry ((f.console d).shutdown meanwhile))
  | .ask handle r =>
    match f.registry.device handle with
    | .error e => (.error e, f)
    | .ok d => (((f.console d).ask r).1.map .display, f.putBack ((f.console d).ask r).2)

/-- A transfer that was left behind goes on. It is gone once its call has returned. -/
def letGo (f : Fleet) (n : Nat)
    (go : Adapter → Transfer → Option (Except TransportError Nat) × Adapter) : Fleet :=
  match f.left[n]? with
  | none => f
  | some (socket, t) =>
    let (result?, a) := go (f.adapter socket) t
    { f.setAdapter socket a with left := if result?.isSome then f.left.eraseIdx n else f.left }

def happen (f : Fleet) : Happening → Fleet
  | .move handle m =>
    match f.registry.find? handle with
    | none => f
    | some d => f.putBack ((f.console d).act (.station (.line m)))
  | .faults socket faults => f.setAdapter socket { f.adapter socket with faults := faults }
  | .setRegister socket address value =>
    f.setAdapter socket ((f.adapter socket).setRegister address value)
  | .mishaps socket l => f.setFlaky socket { (f.lines socket).line with mishaps := l }
  | .leftCall n => f.letGo n fun a t => a.bulkOut t.packet t.token.isCancelled
  | .leftResume n =>
    f.letGo n fun a t => a.resume ⟨⟨0, .first⟩, t.packet, false, t.token.isCancelled⟩

/-! ### What a step does -/

/-- Nothing has changed for any display but the one with this handle. -/
structure LeavesOthers (f f' : Fleet) (handle : Nat) : Prop where
  find? : ∀ other, other ≠ handle → f'.registry.find? other = f.registry.find? other
  lines : ∀ other e, other ≠ handle → f.registry.find? other = some e →
    f'.lines e.socket = f.lines e.socket

variable {f : Fleet} {handle : Nat} {d : Device}

@[simp] theorem lines_setLine (f : Fleet) (socket other : Nat) (line : RecordedLine FlakyLine) :
    (f.setLine socket line).lines other = if other = socket then line else f.lines other := by
  simp [setLine, Function.update_apply]

theorem perform_attach_of_error {socket : Nat} {e : Error} {line : RecordedLine FlakyLine}
    (h : Device.attach f.registry.nextId socket f.registry.config (f.lines socket) =
      (.error e, line)) :
    f.perform (.attach socket) = (.error e, f.setLine socket line) := by
  simp only [perform, Registry.attach, h]

theorem perform_attach_of_ok {socket : Nat} {line : RecordedLine FlakyLine}
    (h : Device.attach f.registry.nextId socket f.registry.config (f.lines socket) =
      (.ok d, line)) :
    f.perform (.attach socket) = (.ok (.attached f.registry.nextId), { f.setLine socket line with
      registry := { f.registry with
        nextId := f.registry.nextId + 1
        devices := f.registry.devices ++ [d] } }) := by
  simp only [perform, Registry.attach, h]

theorem perform_ask_of_find? (h : f.registry.find? handle = some d) (r : Request) :
    f.perform (.ask handle r) =
      (((f.console d).ask r).1.map .display, f.putBack ((f.console d).ask r).2) := by
  simp only [perform, Registry.device_of_find? h]

theorem perform_ask_of_none (h : f.registry.find? handle = none) (r : Request) :
    f.perform (.ask handle r) = (.error (.unknownDevice handle), f) := by
  simp only [perform, Registry.device_of_none h]

theorem perform_detach_of_find? (h : f.registry.find? handle = some d)
    (meanwhile : PerSlot (List LineMove)) :
    f.perform (.detach handle meanwhile) = (.ok .detached, f.abandon
      { f.registry with devices := f.registry.devices.filter (·.id != handle) }
      ((f.console d).shutdown meanwhile)) := by
  simp only [perform, Registry.remove_of_find? h]

theorem perform_detach_of_none (h : f.registry.find? handle = none)
    (meanwhile : PerSlot (List LineMove)) :
    f.perform (.detach handle meanwhile) = (.error (.unknownDevice handle), f) := by
  simp only [perform, Registry.remove_of_none h]

/-- The other displays are on other lines. -/
def Apart (f : Fleet) (handle socket : Nat) : Prop :=
  ∀ other e, other ≠ handle → f.registry.find? other = some e → e.socket ≠ socket

theorem LeavesOthers.of_apart {f' : Fleet} {socket : Nat} (hapart : f.Apart handle socket)
    (hfind : ∀ other, other ≠ handle → f'.registry.find? other = f.registry.find? other)
    (hlines : ∀ other, other ≠ socket → f'.lines other = f.lines other) :
    f.LeavesOthers f' handle :=
  ⟨hfind, fun other e hother he => hlines e.socket (hapart other e hother he)⟩

variable {c : FlakyConsole}

theorem find?_putBack (h : f.registry.find? handle = some d) (hid : c.device.id = d.id)
    (other : Nat) : (f.putBack c).registry.find? other =
      if other = handle then some c.device else f.registry.find? other := by
  have hhandle : c.device.id = handle := hid.trans (Registry.id_of_find? h)
  split
  next hother =>
    subst hother hhandle
    exact Registry.find?_put_self h
  next hother => exact Registry.find?_put_of_ne _ (hhandle ▸ hother)

theorem lines_putBack (f : Fleet) (c : FlakyConsole) (socket : Nat) :
    (f.putBack c).lines socket = if socket = c.device.socket then c.line else f.lines socket :=
  f.lines_setLine ..

theorem lines_abandon (f : Fleet) (registry : Registry) (c : FlakyConsole) (socket : Nat) :
    (f.abandon registry c).lines socket =
      if socket = c.device.socket then c.line else f.lines socket :=
  f.lines_setLine ..

/-- What is done with one display and its line is not noticed by the others. -/
theorem leavesOthers_putBack (h : f.registry.find? handle = some d)
    (hapart : f.Apart handle d.socket) (hid : c.device.id = d.id)
    (hsocket : c.device.socket = d.socket) : f.LeavesOthers (f.putBack c) handle := by
  refine .of_apart hapart (fun other hother => ?_) fun other hother => ?_
  · rw [find?_putBack h hid, if_neg hother]
  · rw [lines_putBack, hsocket, if_neg hother]

theorem leavesOthers_ask (h : f.registry.find? handle = some d) (hapart : f.Apart handle d.socket)
    (r : Request) : f.LeavesOthers (f.perform (.ask handle r)).2 handle := by
  have hanswers := (f.console d).answersFor_ask r
  rw [perform_ask_of_find? h]
  exact leavesOthers_putBack h hapart hanswers.id hanswers.socket

theorem leavesOthers_move (h : f.registry.find? handle = some d)
    (hapart : f.Apart handle d.socket) (m : LineMove) :
    f.LeavesOthers (f.happen (.move handle m)) handle := by
  rw [happen, h]
  exact leavesOthers_putBack h hapart rfl rfl

theorem leavesOthers_detach (h : f.registry.find? handle = some d)
    (hapart : f.Apart handle d.socket) (meanwhile : PerSlot (List LineMove)) :
    f.LeavesOthers (f.perform (.detach handle meanwhile)).2 handle := by
  rw [perform_detach_of_find? h]
  refine .of_apart hapart (fun other hother => ?_) fun other hother => ?_
  · exact (Registry.find?_filter ..).trans (if_neg hother)
  · exact (lines_abandon ..).trans (if_neg hother)

theorem mem_running {t : Transfer} :
    t ∈ running d ↔ ∃ i, (d.scheduler.slot i).running? = some t := by
  rw [running, List.mem_filterMap]
  constructor
  · rintro ⟨i, -, hi⟩
    exact ⟨i, hi⟩
  · rintro ⟨i, hi⟩
    exact ⟨i, by cases i <;> decide, hi⟩

end Fleet

end UsbDisplay
