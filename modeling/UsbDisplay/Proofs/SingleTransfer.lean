import UsbDisplay.Device
import UsbDisplay.Proofs.Alignment
import UsbDisplay.Proofs.EncodedUpdates
import UsbDisplay.Proofs.SlotSteps

/-!
A display as a machine with one outstanding transfer. The machine has no slots: it knows the damage
that waits, when it sent last, and how far the rectangle that it sent last has come. A device models
such a machine (`Device.Models`) if its active slot is idle and the other slot has the machine's
transfer; every step of the device is then a step of the machine with the same answer.
-/

namespace UsbDisplay

/-- A pipeline with one outstanding transfer. -/
structure SingleTransfer where
  config : Config
  pending : Rect := Rect.empty
  lastSend : Option Duration := none
  /-- The rectangle that was sent last. -/
  rect : Rect := Rect.empty
  /-- How far its transfer has come. A failed one is settled once its damage is handed back. -/
  status : Slot.Progress := .unused
  /-- The packets of all frames that were sent, in order. -/
  sent : List ByteArray := []

namespace SingleTransfer

/-- The slot that the next frame goes to. -/
def nextSlot (m : SingleTransfer) : SlotId := .ofIndex m.sent.length

/-- An event concerns the machine if it happens to the slot of the last frame. -/
def react (m : SingleTransfer) (e : Scheduler.Event) : SingleTransfer :=
  if e.1 = m.nextSlot.other then { m with status := m.status.react e.2 } else m

def reactAll (m : SingleTransfer) (events : List Scheduler.Event) : SingleTransfer :=
  events.foldl react m

def isThrottled (m : SingleTransfer) (now : Duration) : Bool :=
  m.lastSend.any fun last => decide (now - last < m.config.frameInterval)

/-- The damage of a failed transfer that was not handed back yet. -/
def lost (m : SingleTransfer) : Rect := if m.status = .failed then m.rect else Rect.empty

/-- The machine when the damage of a failed transfer has been handed back. -/
def handBack (m : SingleTransfer) : SingleTransfer :=
  if m.status = .failed then { m with status := .settled } else m

/-- All damage that a frame has to show. -/
def merged (m : SingleTransfer) (damage : Rect) : Rect := (m.pending ∪ damage) ∪ m.lost

/-- Sends the damaged part of a framebuffer while no transfer is in flight. -/
def send (m : SingleTransfer) (fb : Framebuffer) (damage : Rect) (now : Duration) :
    Except Error FrameStatus × SingleTransfer :=
  let rect := damage.align fb.width fb.height
  match fb.headerFor rect m.config.bufferCapacity m.config.lineCapacity with
  | .error e => (.error e, { m.handBack with pending := damage })
  | .ok h =>
    (.ok (.sent rect),
      { m with
        pending := Rect.empty
        lastSend := some now
        rect := rect
        status := .running
        sent := m.sent ++ [(fb.update h).packet] })

/-- The end of a submit, after the wait. -/
def conclude (m : SingleTransfer) (fb : Framebuffer) (damage : Rect) (now : Duration) :
    Except Error FrameStatus × SingleTransfer :=
  if m.status.isInFlight then (.ok .dropped, { m with pending := m.merged damage })
  else m.send fb (m.merged damage) now

/-- Whether a submit comes to its wait. -/
def waits (m : SingleTransfer) (fb : Framebuffer) (damage : Rect) (now : Duration) : Bool :=
  !m.isThrottled now && !((m.merged damage).align fb.width fb.height).isEmpty

/-- A submit. The events are those that fall into its wait. -/
def submit (m : SingleTransfer) (fb : Framebuffer) (damage : Rect) (now : Duration)
    (events : List Scheduler.Event) : Except Error FrameStatus × SingleTransfer :=
  if m.isThrottled now then (.ok .throttled, { m with pending := m.pending ∪ damage })
  else if ((m.merged damage).align fb.width fb.height).isEmpty then
    (.ok .nothingToSend, { m.handBack with pending := Rect.empty })
  else (m.reactAll events).conclude fb damage now

/-- Whether the transfer of this slot is in flight. -/
def isBusy (m : SingleTransfer) (i : SlotId) : Bool :=
  m.status.isInFlight && decide (i = m.nextSlot.other)

/-- A wait for the first slot and then, if that is idle, for the second. -/
def waitIdle (m : SingleTransfer) (events : PerSlot (List Scheduler.Event)) :
    Bool × SingleTransfer :=
  let m := m.reactAll events.first
  if m.isBusy .first then (false, m)
  else
    let m := m.reactAll events.second
    (!m.isBusy .second, m)

variable {m : SingleTransfer}

theorem react_of_not_inFlight (h : m.status.isInFlight = false) (e : Scheduler.Event) :
    m.react e = m := by
  rw [react]
  split
  · rw [Slot.Progress.react_of_not_inFlight h]
  · rfl

theorem reactAll_of_not_inFlight (h : m.status.isInFlight = false)
    (events : List Scheduler.Event) : m.reactAll events = m := by
  induction events with
  | nil => rfl
  | cons e rest ih =>
    show (m.react e).reactAll rest = m
    rw [react_of_not_inFlight h, ih]

/-- Events change nothing but the status. -/
theorem reactAll_eq (m : SingleTransfer) (events : List Scheduler.Event) :
    m.reactAll events = { m with status := (m.reactAll events).status } := by
  induction events generalizing m with
  | nil => rfl
  | cons e rest ih =>
    have hreact : m.react e = { m with status := (m.react e).status } := by
      rw [react]
      split <;> rfl
    show (m.react e).reactAll rest = { m with status := ((m.react e).reactAll rest).status }
    rw [ih (m.react e)]
    rw [hreact]

@[simp] theorem config_reactAll (m : SingleTransfer) (events : List Scheduler.Event) :
    (m.reactAll events).config = m.config := by
  rw [reactAll_eq]

@[simp] theorem pending_reactAll (m : SingleTransfer) (events : List Scheduler.Event) :
    (m.reactAll events).pending = m.pending := by
  rw [reactAll_eq]

@[simp] theorem rect_reactAll (m : SingleTransfer) (events : List Scheduler.Event) :
    (m.reactAll events).rect = m.rect := by
  rw [reactAll_eq]

@[simp] theorem sent_reactAll (m : SingleTransfer) (events : List Scheduler.Event) :
    (m.reactAll events).sent = m.sent := by
  rw [reactAll_eq]

theorem nextSlot_reactAll (m : SingleTransfer) (events : List Scheduler.Event) :
    (m.reactAll events).nextSlot = m.nextSlot := by
  rw [reactAll_eq]
  rfl

theorem status_handBack_ne_failed (m : SingleTransfer) : m.handBack.status ≠ .failed := by
  rw [handBack]
  split
  · intro h
    cases h
  next h => exact h

theorem handBack_pending (m : SingleTransfer) (r r' : Rect) :
    { ({ m with pending := r } : SingleTransfer).handBack with pending := r' } =
      { m.handBack with pending := r' } := by
  simp only [handBack]
  split <;> rfl

theorem isInFlight_handBack (m : SingleTransfer) :
    m.handBack.status.isInFlight = m.status.isInFlight := by
  rw [handBack]
  split
  next h => rw [h]; rfl
  next => rfl

theorem status_handBack_ne_running (h : m.status.isInFlight = false) :
    m.handBack.status ≠ .running := by
  intro hrunning
  have hback := m.isInFlight_handBack.trans h
  rw [hrunning] at hback
  cases hback

theorem lost_of_ne_failed (h : m.status ≠ .failed) : m.lost = Rect.empty := if_neg h

theorem handBack_of_ne_failed (h : m.status ≠ .failed) : m.handBack = m := if_neg h

theorem send_handBack (m : SingleTransfer) : m.handBack.send = m.send := by
  funext fb damage now
  have hrest : m.handBack.config = m.config ∧ m.handBack.sent = m.sent := by
    rw [handBack]
    split <;> exact ⟨rfl, rfl⟩
  simp only [send, handBack_of_ne_failed m.status_handBack_ne_failed, hrest]

theorem ne_failed_of_inFlight (h : m.status.isInFlight = true) : m.status ≠ .failed := by
  intro hfailed
  rw [hfailed] at h
  cases h

/-- The five ends that a submit can come to. After the wait `waited` is the machine. -/
theorem submit_cases {P : Except Error FrameStatus × SingleTransfer → Prop} (m : SingleTransfer)
    (fb : Framebuffer) (damage : Rect) (now : Duration) (events : List Scheduler.Event)
    (throttled : m.isThrottled now = true →
      P (.ok .throttled, { m with pending := m.pending ∪ damage }))
    (nothing : ((m.merged damage).align fb.width fb.height).isEmpty = true →
      P (.ok .nothingToSend, { m.handBack with pending := Rect.empty }))
    (dropped : m.waits fb damage now = true → ∀ waited, waited = m.reactAll events →
      waited.status.isInFlight = true →
      P (.ok .dropped, { waited with pending := waited.merged damage }))
    (refused : m.waits fb damage now = true → ∀ waited e, waited = m.reactAll events →
      waited.status.isInFlight = false →
      fb.headerFor ((waited.merged damage).align fb.width fb.height) m.config.bufferCapacity
        m.config.lineCapacity = .error e →
      P (.error e, { waited.handBack with pending := waited.merged damage }))
    (sent : m.waits fb damage now = true → ∀ waited rect header, waited = m.reactAll events →
      waited.status.isInFlight = false →
      rect = (waited.merged damage).align fb.width fb.height →
      fb.headerFor rect m.config.bufferCapacity m.config.lineCapacity = .ok header →
      P (.ok (.sent rect),
        { m with
          pending := Rect.empty
          lastSend := some now
          rect := rect
          status := .running
          sent := m.sent ++ [(fb.update header).packet] })) :
    P (m.submit fb damage now events) := by
  rw [submit]
  split
  next h => exact throttled h
  next hpace =>
  split
  next h => exact nothing h
  next hrect =>
  have hwaits : m.waits fb damage now = true := by
    rw [waits, Bool.eq_false_iff.2 hpace, Bool.eq_false_iff.2 hrect]
    rfl
  rw [conclude]
  split
  next h => exact dropped hwaits _ rfl h
  next h =>
  have hflight := Bool.eq_false_iff.2 h
  rw [send]
  simp only [config_reactAll, sent_reactAll]
  split
  next e he => exact refused hwaits _ e rfl hflight he
  next header hok => exact sent hwaits (m.reactAll events) _ header rfl hflight rfl hok

end SingleTransfer

end UsbDisplay
