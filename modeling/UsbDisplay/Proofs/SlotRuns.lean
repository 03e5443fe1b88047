import UsbDisplay.Bench.Transfers
import UsbDisplay.Proofs.SlotSteps

/-!
Runs of a slot together with what goes on behind it. A submit gives the worker a job; the worker
makes the bulk call of its job and comes back from it, or dies in it; and the deadline of a transfer
may pass at any time, even when it is too late. A worker that comes back looks at the token of its
transfer in the same step. Every accepted submit has a story, which is told from outside: the buffer
that the owner had, the reasons for which the transfer was asked to stop while its call had not
returned, and what the call returned.
-/

namespace UsbDisplay

/-! ### Stories -/

/-- The story of an accepted submit. -/
structure Story where
  /-- The buffer that the owner had at the submit. -/
  buffer : TransferBuffer
  length : Nat
  /-- Why the transfer was asked to stop before its call returned, in the order of asking. -/
  asked : List CancelReason := []
  /-- What the bulk call returned. -/
  result? : Option (Except TransportError Nat) := none

namespace Story

def packet (t : Story) : ByteArray := t.buffer.first t.length

/-- A call that has returned is not asked to stop any more. -/
def ask (t : Story) (reason : CancelReason) : Story :=
  match t.result? with
  | none => { t with asked := t.asked ++ [reason] }
  | some _ => t

def finish (t : Story) (result : Except TransportError Nat) : Story :=
  { t with result? := some result }

/-- The outcome that a transfer must have: what its call returned decides, and if that is an error,
the reason for which it was first asked to stop. -/
def outcome? (t : Story) : Option Outcome :=
  match t.result? with
  | none => none
  | some (.ok bytes) => some (.completed bytes)
  | some (.error cause) =>
    match t.asked.head? with
    | some .deadline => some .timedOut
    | some .requested => some .cancelled
    | none => some (.failed cause)

@[simp] theorem packet_ask (t : Story) (reason : CancelReason) :
    (t.ask reason).packet = t.packet := by
  rcases t with ⟨_, _, _, _ | _⟩ <;> rfl

@[simp] theorem buffer_ask (t : Story) (reason : CancelReason) :
    (t.ask reason).buffer = t.buffer := by
  rcases t with ⟨_, _, _, _ | _⟩ <;> rfl

@[simp] theorem length_ask (t : Story) (reason : CancelReason) :
    (t.ask reason).length = t.length := by
  rcases t with ⟨_, _, _, _ | _⟩ <;> rfl

@[simp] theorem result?_ask (t : Story) (reason : CancelReason) :
    (t.ask reason).result? = t.result? := by
  rcases t with ⟨_, _, _, _ | _⟩ <;> rfl

/-- Asking a transfer to stop decides nothing by itself, and nothing that is decided already. -/
@[simp] theorem outcome?_ask (t : Story) (reason : CancelReason) :
    (t.ask reason).outcome? = t.outcome? := by
  rcases t with ⟨_, _, _, _ | _⟩ <;> rfl

/-- While the call lasts, a token records the first reason. -/
theorem head?_asked_ask {t : Story} (h : t.result? = none) {token : CancelToken}
    (htoken : t.asked.head? = token.reason?) (reason : CancelReason) :
    (t.ask reason).asked.head? = (token.cancel reason).2.reason? := by
  obtain ⟨buffer, length, asked, result?⟩ := t
  cases h
  obtain ⟨reason?⟩ := token
  cases htoken
  cases asked <;> rfl

/-- A worker that looks at the token when its call has returned finds the outcome. -/
theorem outcome?_finish {t : Story} {token : CancelToken} (h : t.asked.head? = token.reason?)
    (result : Except TransportError Nat) :
    (t.finish result).outcome? = some (.ofResult result token) := by
  cases result with
  | ok bytes => rfl
  | error cause =>
    simp only [finish, outcome?, Outcome.ofResult, h]
    rcases token with ⟨_ | _ | _⟩ <;> rfl

end Story

/-! ### Behind a slot -/

/-- The worker of a slot. A job has the number of its story. -/
inductive Worker where
  | waiting
  /-- It has a job and has not made the bulk call. -/
  | given (number : Nat) (job : Transfer)
  | calling (number : Nat) (job : Transfer)
  | gone

/-- The packet that the worker has yet to send. -/
def Worker.queued : Worker → List ByteArray
  | .given _ job => [job.packet]
  | _ => []

/-- What goes on behind a slot. -/
structure Backstage where
  worker : Worker := .waiting
  /-- The stories of all accepted submits, oldest first. -/
  stories : List Story := []
  /-- The packets of all bulk calls, in the order of the calls. -/
  calls : List ByteArray := []

/-- What can happen behind a slot. -/
inductive Move where
  /-- The worker makes its bulk call. -/
  | call
  | returned (result : Except TransportError Nat)
  /-- The worker dies in its bulk call. -/
  | died
  /-- The deadline of the transfer with this number passes. -/
  | deadline (number : Nat)

namespace Backstage

def latest? (b : Backstage) : Option Story := b.stories.getLast?

/-- Lets a move happen; if the slot notices it, there is an event. A move that cannot happen now
makes no difference. As in `Slot.react`, a call returns and is judged in one move. -/
def move (b : Backstage) : Move → Option Slot.Event × Backstage
  | .call =>
    match b.worker with
    | .given number job =>
      (none, { b with worker := .calling number job, calls := b.calls ++ [job.packet] })
    | _ => (none, b)
  | .returned result =>
    match b.worker with
    | .calling number _ =>
      (some (.returned result),
        { b with worker := .waiting, stories := b.stories.modify number (·.finish result) })
    | _ => (none, b)
  | .died =>
    match b.worker with
    | .calling .. => (some .died, { b with worker := .gone })
    | _ => (none, b)
  | .deadline number =>
    (if number + 1 = b.stories.length then some .deadline else none,
      { b with stories := b.stories.modify number (·.ask .deadline) })

/-- The events of moves, one after the other. -/
def play (b : Backstage) : List Move → List Slot.Event × Backstage
  | [] => ([], b)
  | m :: rest =>
    let (event?, b) := b.move m
    let (events, b) := b.play rest
    (event?.toList ++ events, b)

/-- The owner asks its latest transfer to stop. -/
def ask (b : Backstage) : Backstage :=
  { b with stories := b.stories.modify (b.stories.length - 1) (·.ask .requested) }

/-- The owner hands its buffer over, and the worker gets a job. -/
def give (b : Backstage) (buffer : TransferBuffer) (length : Nat) (job : Transfer) : Backstage :=
  { b with
    worker := .given b.stories.length job
    stories := b.stories ++ [{ buffer := buffer, length := length }] }

/-- The buffers that were handed over, each with the length that was to be sent. -/
def handed (b : Backstage) : List (TransferBuffer × Nat) :=
  b.stories.map fun t => (t.buffer, t.length)

/-- What the worker has to send for the submits so far. -/
def packets (b : Backstage) : List ByteArray := b.handed.map fun h => h.1.first h.2

/-- The packets that were sent and the one that the worker has yet to send. -/
def due (b : Backstage) : List ByteArray := b.calls ++ b.worker.queued

theorem getLast?_modify (stories : List Story) (number : Nat) (f : Story → Story) :
    (stories.modify number f).getLast? =
      if number + 1 = stories.length then stories.getLast?.map f else stories.getLast? := by
  rw [List.getLast?_eq_getElem?, List.getLast?_eq_getElem?, List.length_modify,
    List.getElem?_modify]
  rcases stories with _ | ⟨t, rest⟩
  · simp
  · have hiff : number = (t :: rest).length - 1 ↔ number + 1 = (t :: rest).length := by
      simp only [List.length_cons]
      omega
    simp only [hiff]
    split <;> simp

/-- A change of one story that keeps its buffer and its length keeps what was handed over. -/
theorem handed_modify {f : Story → Story}
    (hf : ∀ t, ((f t).buffer, (f t).length) = (t.buffer, t.length))
    (stories : List Story) (number : Nat) :
    (stories.modify number f).map (fun t => (t.buffer, t.length)) =
      stories.map fun t => (t.buffer, t.length) := by
  refine List.ext_getElem? fun k => ?_
  rw [List.getElem?_map, List.getElem?_modify, List.getElem?_map]
  cases stories[k]? with
  | none => simp
  | some t =>
    simp only [Option.map_eq_map, Option.map_some]
    split
    · rw [hf]
    · rfl

theorem handed_modify_ask (stories : List Story) (number : Nat) (reason : CancelReason) :
    (stories.modify number (·.ask reason)).map (fun t => (t.buffer, t.length)) =
      stories.map fun t => (t.buffer, t.length) :=
  handed_modify (fun t => by rw [t.buffer_ask, t.length_ask]) stories number

theorem handed_ask (b : Backstage) : b.ask.handed = b.handed := handed_modify_ask ..

/-- Moves send what is due and hand nothing over. -/
theorem due_move (b : Backstage) (m : Move) :
    (b.move m).2.due = b.due ∧ (b.move m).2.handed = b.handed := by
  cases m with
  | call =>
    rw [move]
    split
    next hw => exact ⟨by simp [due, hw, Worker.queued], rfl⟩
    next => exact ⟨rfl, rfl⟩
  | returned result =>
    rw [move]
    split
    next hw => exact ⟨by simp [due, hw, Worker.queued],
        handed_modify (f := (·.finish result)) (fun _ => rfl) ..⟩
    next => exact ⟨rfl, rfl⟩
  | died =>
    rw [move]
    split
    next hw => exact ⟨by simp [due, hw, Worker.queued], rfl⟩
    next => exact ⟨rfl, rfl⟩
  | deadline number => exact ⟨rfl, handed_modify_ask ..⟩

theorem due_play (b : Backstage) (moves : List Move) :
    (b.play moves).2.due = b.due ∧ (b.play moves).2.handed = b.handed := by
  induction moves generalizing b with
  | nil => exact ⟨rfl, rfl⟩
  | cons m rest ih =>
    obtain ⟨hdue, hhanded⟩ := b.due_move m
    obtain ⟨hdue', hhanded'⟩ := ih (b.move m).2
    exact ⟨hdue'.trans hdue, hhanded'.trans hhanded⟩

theorem due_give {b : Backstage} (hworker : b.worker = .waiting) (h : b.due = b.packets)
    (t : Transfer) : (b.give t.buffer t.length t).due = (b.give t.buffer t.length t).packets := by
  simp only [due, packets, handed, give, hworker, Worker.queued, List.append_nil, List.map_append,
    List.map_cons, List.map_nil] at h ⊢
  rw [h]
  rfl

end Backstage

/-! ### A slot and what is behind it -/

/-- The owner writes to its buffer, if it has it. -/
def Slot.change (s : Slot) (f : TransferBuffer → TransferBuffer) : Slot :=
  match s.buffer with
  | .error _ => s
  | .ok buffer => s.putBuffer (f buffer)

/-- A slot with what goes on behind it. -/
structure SlotStage where
  slot : Slot
  behind : Backstage := {}
  /-- Whether the owner has shut the slot down. -/
  isShut : Bool := false

namespace SlotStage

/-- What the owner of a slot can do, and what can happen by itself. Moves that come with an
operation fall into its waiting. -/
inductive Action where
  | change (f : TransferBuffer → TransferBuffer)
  | encode (fb : Framebuffer) (r : Rect)
  | submit (length : Nat)
  | poll
  | wait (meanwhile : List Move)
  | cancel
  | shutdown (meanwhile : List Move)
  | move (m : Move)

def act (p : SlotStage) : Action → SlotStage
  | .change f => { p with slot := p.slot.change f }
  | .encode fb r => { p with slot := (p.slot.encode fb r).2 }
  | .submit length =>
    match p.slot.submit length with
    | .error _ => p
    | .ok slot =>
      match p.slot.buffer?, slot.running? with
      | some buffer, some job => { p with slot := slot, behind := p.behind.give buffer length job }
      | _, _ => { p with slot := slot }
  | .poll => { p with slot := p.slot.poll.2 }
  | .wait meanwhile =>
    let (events, behind) := p.behind.play meanwhile
    { p with slot := (p.slot.wait fun _ => events).2, behind := behind }
  | .cancel => { p with slot := p.slot.cancel.2, behind := p.behind.ask }
  | .shutdown meanwhile =>
    let (events, behind) := p.behind.ask.play meanwhile
    { slot := (p.slot.shutdown fun _ => events).2, behind := behind, isShut := true }
  | .move m =>
    let (events, behind) := p.behind.play [m]
    { p with slot := p.slot.reactAll events, behind := behind }

def run (p : SlotStage) (actions : List Action) : SlotStage := actions.foldl act p

end SlotStage

end UsbDisplay
