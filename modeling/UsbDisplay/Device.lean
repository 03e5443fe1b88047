import UsbDisplay.Framebuffer.View
import UsbDisplay.Register.Link
import UsbDisplay.Transfer.Scheduler

/-!
One attached display. Frames are paced, clipped to whole columns, encoded into one of two buffers
and sent. Damage that is not sent is kept: `pending` has what no transfer has taken, and
`inFlightDamage` has what the latest transfer of each slot took, so that it can be merged back,
once, if that transfer fails. The mode is forgotten while it is being set, because a set that fails
leaves the adapter in no known mode.
-/

namespace UsbDisplay

/-- What became of a frame. -/
inductive FrameStatus where
  /-- Encoded and handed to a worker; this is the rectangle that went out. -/
  | sent (rect : Rect)
  /-- The transfer before it is still running. -/
  | dropped
  /-- It came too soon after the last frame that was sent. -/
  | throttled
  /-- Nothing of the damage can be shown. -/
  | nothingToSend
  deriving DecidableEq, Repr

/-- The vendor and product numbers of the adapters that this pipeline drives. -/
def supportedIds : List (UInt16 × UInt16) :=
  [(0x534D, 0x6021), (0x534D, 0x0821), (0x345F, 0x9132)]

def isSupportedId (vendor product : UInt16) : Bool :=
  supportedIds.contains (vendor, product)

/-- An attached display. -/
structure Device where
  id : Nat
  /-- The line that the display is on. -/
  socket : Nat
  config : Config
  scheduler : Scheduler
  pending : Rect := Rect.empty
  inFlightDamage : PerSlot Rect := ⟨Rect.empty, Rect.empty⟩
  /-- The slot for the next frame; the frame before went to the other one. -/
  active : SlotId := .first
  lastSend : Option Duration := none
  mode : Option DisplayMode
  powered : Bool := false

namespace Device

def name (d : Device) : String := "ms912x-" ++ toString d.id

section Control

variable {σ : Type} [ControlTransport σ]

/-- Attaches the display on a socket: its initial mode is set, then the buffers are made. -/
def attach (id socket : Nat) (config : Config) (s : σ) : Except Error Device × σ :=
  match Register.setMode config.controlTimeout config.initialMode s with
  | (.error e, s) => (.error e, s)
  | (.ok _, s) =>
    match Scheduler.create config with
    | .error e => (.error e, s)
    | .ok scheduler =>
      (.ok { id := id, socket := socket, config := config, scheduler := scheduler,
             mode := some config.initialMode }, s)

/-- The known mode of this resolution and rate, if the device can take it. -/
def chooseMode (d : Device) (width height hertz : Nat) : Except Error DisplayMode :=
  match DisplayMode.find? width height hertz with
  | none => .error (.unsupportedMode width height hertz)
  | some mode =>
    if d.config.fits width height then .ok mode
    else .error (.unsupportedMode width height hertz)

/-- Sets a mode. Until all writes have succeeded no mode is known. -/
def program (d : Device) (mode : DisplayMode) (s : σ) : Except Error Unit × Device × σ :=
  match Register.setMode d.config.controlTimeout mode s with
  | (.error e, s) => (.error e, { d with mode := none }, s)
  | (.ok _, s) => (.ok (), { d with mode := some mode }, s)

/-- Switches the display on and sets a mode unless it is set already. A mode that cannot be taken is
refused before anything is written. -/
def enable (d : Device) (width height hertz : Nat) (s : σ) : Except Error Unit × Device × σ :=
  match d.chooseMode width height hertz with
  | .error e => (.error e, d, s)
  | .ok mode =>
    match Register.powerOn d.config.controlTimeout s with
    | (.error e, s) => (.error e, d, s)
    | (.ok _, s) =>
      let d := { d with powered := true }
      if d.mode = some mode then (.ok (), d, s) else d.program mode s

/-- Sets a mode and leaves the power alone. -/
def setMode (d : Device) (width height hertz : Nat) (s : σ) : Except Error Unit × Device × σ :=
  match d.chooseMode width height hertz with
  | .error e => (.error e, d, s)
  | .ok mode => d.program mode s

def disable (d : Device) (s : σ) : Except Error Unit × Device × σ :=
  match Register.powerOff d.config.controlTimeout s with
  | (.error e, s) => (.error e, d, s)
  | (.ok _, s) => (.ok (), { d with powered := false }, s)

def connectorStatus (d : Device) (s : σ) : ConnectorStatus × σ :=
  Register.connectorStatus d.config.controlTimeout s

def readEdid (d : Device) (block : UInt8) (s : σ) : Except Error (List UInt8) × σ :=
  Register.readEdid d.config.controlTimeout block s

end Control

/-- Whether a frame comes too soon after the last one that was sent. -/
def isThrottled (d : Device) (now : Duration) : Bool :=
  match d.lastSend with
  | none => false
  | some last => decide (now - last < d.config.frameInterval)

/-- Whether the latest transfer of a slot has ended without success. -/
def hasFailed (d : Device) (i : SlotId) : Bool :=
  match (d.scheduler.slot i).lastOutcome with
  | none => false
  | some outcome => !outcome.isSuccess

/-- The damage of a slot whose latest transfer failed. It is handed back once. -/
def takeLost (d : Device) (i : SlotId) : Rect × Device :=
  if d.hasFailed i then
    (d.inFlightDamage.get i, { d with inFlightDamage := d.inFlightDamage.set i Rect.empty })
  else (Rect.empty, d)

/-- Hands what an encoder has written for a slot to the worker. -/
def handOver (d : Device) (i : SlotId) (encoded : Except Error (Nat × TransferBuffer)) :
    Except Error Unit × Device :=
  match encoded with
  | .error e => (.error e, d)
  | .ok (length, buffer) =>
    let filled := d.scheduler.setSlot i ((d.scheduler.slot i).putBuffer buffer)
    match filled.submit i length with
    | .error e => (.error e, { d with scheduler := filled })
    | .ok scheduler => (.ok (), { d with scheduler := scheduler })

/-- The end of a submit of `rect`. If that was not sent, all of the damage stays pending. -/
def book (merged rect : Rect) (now : Duration) (sent : Except Error Unit × Device) :
    Except Error FrameStatus × Device :=
  match sent with
  | (.error e, d) => (.error e, { d with pending := merged })
  | (.ok _, d) =>
    (.ok (.sent rect),
      { d with
        pending := Rect.empty
        inFlightDamage := d.inFlightDamage.set d.active rect
        active := d.active.other
        lastSend := some now })

section Frames

variable {m : Type → Type} [Monad m]

/-- Encodes a rectangle into the buffer of a slot and hands it to the worker. -/
def sendFrom (d : Device) (source : FrameSource m) (rect : Rect) (i : SlotId) :
    m (Except Error Unit × Device) :=
  match d.scheduler.poll i with
  | (false, scheduler) => pure (.error (.slotBusy i.index), { d with scheduler := scheduler })
  | (true, scheduler) =>
    let d := { d with scheduler := scheduler }
    match (scheduler.slot i).buffer with
    | .error e => pure (.error e, d)
    | .ok buffer => return d.handOver i (← source.encode rect buffer)

/-- The second half of a submit, when the slot of the frame before is idle. -/
def submitMergedFrom (d : Device) (source : FrameSource m) (merged : Rect) (now : Duration) :
    m (Except Error FrameStatus × Device) :=
  let (lost, d) := d.takeLost d.active.other
  let merged := merged ∪ lost
  let rect := merged.align source.width source.height
  return book merged rect now (← d.sendFrom source rect d.active)

/-- The rest of a submit after its first look at the slot of the frame before. -/
def submitGatheredFrom (d : Device) (source : FrameSource m) (merged : Rect) (now : Duration)
    (meanwhile : Scheduler → List Scheduler.Event) : m (Except Error FrameStatus × Device) :=
  if (merged.align source.width source.height).isEmpty then
    pure (.ok .nothingToSend, { d with pending := Rect.empty })
  else
    match d.scheduler.wait d.active.other meanwhile with
    | (false, scheduler) =>
      pure (.ok .dropped, { d with scheduler := scheduler, pending := merged })
    | (true, scheduler) => { d with scheduler := scheduler }.submitMergedFrom source merged now

/-- Sends the damaged part of a frame. It waits at most for the grace period, into which the events
of `meanwhile` fall. -/
def submitFrom (d : Device) (source : FrameSource m) (damage : Rect) (now : Duration)
    (meanwhile : Scheduler → List Scheduler.Event) : m (Except Error FrameStatus × Device) :=
  if d.isThrottled now then pure (.ok .throttled, { d with pending := d.pending ∪ damage })
  else
    let (idle, scheduler) := d.scheduler.poll d.active.other
    let d := { d with scheduler := scheduler }
    let fresh := d.pending ∪ damage
    -- a transfer that fails only during the wait is handed back by `submitMergedFrom`
    let (lost, d) := if idle then d.takeLost d.active.other else (Rect.empty, d)
    d.submitGatheredFrom source (if idle then fresh ∪ lost else fresh) now meanwhile

end Frames

def send (d : Device) (fb : Framebuffer) (rect : Rect) (i : SlotId) : Except Error Unit × Device :=
  Id.run (d.sendFrom fb.source rect i)

def submitMerged (d : Device) (fb : Framebuffer) (merged : Rect) (now : Duration) :
    Except Error FrameStatus × Device :=
  Id.run (d.submitMergedFrom fb.source merged now)

def submitGathered (d : Device) (fb : Framebuffer) (merged : Rect) (now : Duration)
    (meanwhile : Scheduler → List Scheduler.Event) : Except Error FrameStatus × Device :=
  Id.run (d.submitGatheredFrom fb.source merged now meanwhile)

/-- A submit of a picture that lies in memory as a whole. -/
def submitFrame (d : Device) (fb : Framebuffer) (damage : Rect) (now : Duration)
    (meanwhile : Scheduler → List Scheduler.Event) : Except Error FrameStatus × Device :=
  Id.run (d.submitFrom fb.source damage now meanwhile)

/-- A submit of a view; `none` if its encoding breaks off. -/
def submitView (d : Device) (v : FrameView) (damage : Rect) (now : Duration)
    (meanwhile : Scheduler → List Scheduler.Event) : Option (Except Error FrameStatus × Device) :=
  d.submitFrom v.source damage now meanwhile

theorem send_eq (d : Device) (fb : Framebuffer) (rect : Rect) (i : SlotId) :
    d.send fb rect i =
      match d.scheduler.poll i with
      | (false, scheduler) => (.error (.slotBusy i.index), { d with scheduler := scheduler })
      | (true, scheduler) =>
        match (scheduler.slot i).buffer with
        | .error e => (.error e, { d with scheduler := scheduler })
        | .ok buffer => { d with scheduler := scheduler }.handOver i (fb.encode rect buffer) :=
  rfl

theorem submitMerged_eq (d : Device) (fb : Framebuffer) (merged : Rect) (now : Duration) :
    d.submitMerged fb merged now =
      let (lost, d) := d.takeLost d.active.other
      let rect := (merged ∪ lost).align fb.width fb.height
      book (merged ∪ lost) rect now (d.send fb rect d.active) :=
  rfl

theorem submitGathered_eq (d : Device) (fb : Framebuffer) (merged : Rect) (now : Duration)
    (meanwhile : Scheduler → List Scheduler.Event) :
    d.submitGathered fb merged now meanwhile =
      if (merged.align fb.width fb.height).isEmpty then
        (.ok .nothingToSend, { d with pending := Rect.empty })
      else
        match d.scheduler.wait d.active.other meanwhile with
        | (false, scheduler) =>
          (.ok .dropped, { d with scheduler := scheduler, pending := merged })
        | (true, scheduler) => { d with scheduler := scheduler }.submitMerged fb merged now := by
  rw [submitGathered, submitGatheredFrom]
  by_cases hempty : (merged.align fb.width fb.height).isEmpty = true
  · exact (congrArg Id.run (if_pos hempty)).trans (if_pos hempty).symm
  · refine (congrArg Id.run (if_neg hempty)).trans (Eq.trans ?_ (if_neg hempty).symm)
    generalize d.scheduler.wait d.active.other meanwhile = waited
    obtain ⟨_ | _, scheduler⟩ := waited <;> rfl

theorem submitFrame_of_throttled (d : Device) (fb : Framebuffer) (damage : Rect) {now : Duration}
    (meanwhile : Scheduler → List Scheduler.Event) (h : d.isThrottled now = true) :
    d.submitFrame fb damage now meanwhile =
      (.ok .throttled, { d with pending := d.pending ∪ damage }) := by
  rw [submitFrame, submitFrom, if_pos h]
  rfl

/-- Waits until neither slot has a transfer in flight. -/
def waitIdle (d : Device) (meanwhile : SlotId → Scheduler → List Scheduler.Event) : Bool × Device :=
  let (idle, scheduler) := d.scheduler.waitIdle meanwhile
  (idle, { d with scheduler := scheduler })

end Device

end UsbDisplay
