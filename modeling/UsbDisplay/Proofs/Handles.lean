import UsbDisplay.Device.Registry
import UsbDisplay.Proofs.DeviceRuns

/-!
Handles. What a registry has under each handle is all that can be asked of it, so its operations are
described by that. The error that a handle is unknown comes from the registry alone: whatever is
done with a display, it stays the one with its handle on its line, and what goes wrong is never that
a handle is unknown (`Device.AnswersFor`).
-/

namespace UsbDisplay

namespace Registry

variable {r : Registry} {handle : Nat} {d : Device}

theorem id_of_find? (h : r.find? handle = some d) : d.id = handle := by
  simpa using List.find?_some h

theorem device_of_find? (h : r.find? handle = some d) : r.device handle = .ok d := by
  rw [device, h]

theorem device_of_none (h : r.find? handle = none) :
    r.device handle = .error (.unknownDevice handle) := by
  rw [device, h]

theorem remove_of_find? (h : r.find? handle = some d) :
    r.remove handle = .ok (d, { r with devices := r.devices.filter (·.id != handle) }) := by
  rw [remove, h]

theorem remove_of_none (h : r.find? handle = none) :
    r.remove handle = .error (.unknownDevice handle) := by
  rw [remove, h]

theorem find?_put (r : Registry) (d : Device) (handle : Nat) :
    (r.put d).find? handle = (r.find? handle).map fun e => if handle = d.id then d else e := by
  have hsame : (fun e : Device => e.id == handle) ∘ (fun e => if e.id == d.id then d else e) =
      fun e => e.id == handle := by
    funext e
    by_cases he : e.id = d.id <;> simp [he]
  rw [find?, put, List.find?_map, hsame]
  refine Option.map_congr fun e he => ?_
  have hid : e.id = handle := id_of_find? he
  simp [hid]

theorem find?_put_self {e : Device} (h : r.find? d.id = some e) :
    (r.put d).find? d.id = some d := by
  simp [find?_put, h]

theorem find?_put_of_ne (r : Registry) (h : handle ≠ d.id) :
    (r.put d).find? handle = r.find? handle := by
  simp [find?_put, h]

/-- What a registry has when the display with one handle is gone. -/
theorem find?_filter (r : Registry) (gone handle : Nat) :
    { r with devices := r.devices.filter (·.id != gone) }.find? handle =
      if handle = gone then none else r.find? handle := by
  rw [find?, find?, List.find?_filter]
  split
  next h =>
    refine List.find?_eq_none.2 fun e _ => ?_
    simp [h]
  next h =>
    congr 1
    funext e
    by_cases he : e.id = handle <;> simp [he, h]

/-- What a registry has when a display has been added under the next handle. -/
theorem find?_append (r : Registry) (d : Device) (next handle : Nat) :
    { r with nextId := next, devices := r.devices ++ [d] }.find? handle =
      (r.find? handle).or (if d.id = handle then some d else none) := by
  rw [find?, find?, List.find?_append]
  congr 1
  by_cases h : d.id = handle <;> simp [h]

/-- The socket of the display with a handle. -/
def place? (r : Registry) (handle : Nat) : Option Nat := (r.find? handle).map Device.socket

theorem place?_of_find? (h : r.find? handle = some d) : r.place? handle = some d.socket := by
  rw [place?, h]
  rfl

theorem place?_filter (r : Registry) (gone handle : Nat) :
    { r with devices := r.devices.filter (·.id != gone) }.place? handle =
      if handle = gone then none else r.place? handle := by
  rw [place?, find?_filter]
  split <;> rfl

theorem place?_append (r : Registry) (d : Device) (next handle : Nat) :
    { r with nextId := next, devices := r.devices ++ [d] }.place? handle =
      (r.place? handle).or (if d.id = handle then some d.socket else none) := by
  rw [place?, find?_append, Option.map_or]
  split <;> rfl

end Registry

/-! ### What can go wrong -/

/-- Whether an error is one of a register line: an exchange that failed, or an answer without bytes.
-/
def Error.isOfLine : Error → Bool
  | .transport _ | .shortRead _ => true
  | _ => false

namespace Register

variable {σ : Type} [ControlTransport σ] {timeout : Duration} {e : Error}

theorem isOfLine_write {address : UInt16} {data : Payload} {s : σ}
    (h : (write timeout address data s).1 = .error e) : e.isOfLine = true := by
  rw [write] at h
  split at h
  · cases h
    rfl
  · cases h

theorem isOfLine_writeAll {writes : List (UInt16 × Payload)} {s : σ}
    (h : (writeAll timeout writes s).1 = .error e) : e.isOfLine = true := by
  induction writes generalizing s with
  | nil => cases h
  | cons w rest ih =>
    rw [writeAll] at h
    split at h
    next heq =>
      cases h
      exact isOfLine_write (congrArg Prod.fst heq)
    · exact ih h

theorem isOfLine_setMode {m : DisplayMode} {s : σ}
    (h : (setMode timeout m s).1 = .error e) : e.isOfLine = true := by
  rw [setMode] at h
  split at h
  next heq =>
    cases h
    exact isOfLine_write (congrArg Prod.fst heq)
  · exact isOfLine_writeAll h

theorem isOfLine_read {address : UInt16} {s : σ}
    (h : (read timeout address s).1 = .error e) : e.isOfLine = true := by
  rw [read] at h
  split at h
  · cases h
    rfl
  split at h
  · cases h
    rfl
  split at h
  · cases h
    rfl
  · cases h

theorem isOfLine_readRun {n : Nat} {address : UInt16} {s : σ}
    (h : (readRun timeout n address s).1 = .error e) : e.isOfLine = true := by
  induction n generalizing address s with
  | zero => cases h
  | succ n ih =>
    rw [readRun] at h
    split at h
    next heq =>
      cases h
      exact isOfLine_read (congrArg Prod.fst heq)
    split at h
    next heq =>
      cases h
      exact ih (congrArg Prod.fst heq)
    · cases h

end Register

theorem Slot.buffer_ne_unknown (s : Slot) (handle : Nat) :
    s.buffer ≠ .error (.unknownDevice handle) := by
  intro h
  rw [buffer] at h
  split at h <;> cases h

theorem Framebuffer.encode_ne_unknown (fb : Framebuffer) (r : Rect) (out : TransferBuffer)
    (handle : Nat) : fb.encode r out ≠ .error (.unknownDevice handle) := by
  intro h
  rw [encode] at h
  split at h
  next hheader =>
    cases h
    simp only [headerFor, UpdateHeader.within] at hheader
    split at hheader
    · cases hheader
    split at hheader
    · cases hheader
    split at hheader <;> cases hheader
  · cases h

theorem Scheduler.submit_ne_unknown (s : Scheduler) (i : SlotId) (length handle : Nat) :
    s.submit i length ≠ .error (.unknownDevice handle) := by
  intro h
  rw [submit] at h
  split at h
  next hslot =>
    cases h
    rw [Slot.submit] at hslot
    split at hslot
    · split at hslot
      · split at hslot <;> cases hslot
      · cases hslot
    · cases hslot
  · cases h

namespace Device

/-- An answer of a display, with the display after it: it is the same one on the same line, and what
went wrong, if anything, is not that a handle is unknown. -/
structure AnswersFor {α : Type} (d : Device) (answer : Except Error α) (after : Device) : Prop where
  id : after.id = d.id
  socket : after.socket = d.socket
  known : ∀ handle, answer ≠ .error (.unknownDevice handle)

variable {α : Type} {d d' : Device} {e : Error}

theorem answersFor_ok (d : Device) (a : α) : d.AnswersFor (.ok a) d :=
  ⟨rfl, rfl, fun _ h => by cases h⟩

theorem AnswersFor.of_line (h : e.isOfLine = true) (hid : d'.id = d.id)
    (hsocket : d'.socket = d.socket) : d.AnswersFor (.error e : Except Error α) d' := by
  refine ⟨hid, hsocket, fun handle heq => ?_⟩
  cases heq
  cases h

/-- A display that differs in nothing that concerns its handle or its line answers alike. -/
theorem AnswersFor.congr {answer : Except Error α} {after after' : Device}
    (h : d'.AnswersFor answer after) (hid : d'.id = d.id) (hsocket : d'.socket = d.socket)
    (hid' : after'.id = after.id) (hsocket' : after'.socket = after.socket) :
    d.AnswersFor answer after' :=
  ⟨hid'.trans (h.id.trans hid), hsocket'.trans (h.socket.trans hsocket), h.known⟩

theorem AnswersFor.map {β : Type} {answer : Except Error α} (h : d.AnswersFor answer d')
    (f : α → β) : d.AnswersFor (answer.map f) d' := by
  refine ⟨h.id, h.socket, fun handle heq => h.known handle ?_⟩
  cases answer with
  | error e => cases heq; rfl
  | ok a => cases heq

section Control

variable {σ : Type} [ControlTransport σ]

theorem answersFor_program (d : Device) (m : DisplayMode) (line : σ) :
    d.AnswersFor (d.program m line).1 (d.program m line).2.1 := by
  rw [program]
  split
  next heq => exact .of_line (Register.isOfLine_setMode (congrArg Prod.fst heq)) rfl rfl
  next => exact ⟨rfl, rfl, fun _ h => by cases h⟩

theorem chooseMode_ne_unknown (d : Device) (width height hertz handle : Nat) :
    d.chooseMode width height hertz ≠ .error (.unknownDevice handle) := by
  intro h
  rw [chooseMode] at h
  split at h
  · cases h
  · split at h <;> cases h

theorem answersFor_control (d : Device) (line : σ) (c : Control) :
    d.AnswersFor (d.control line c).1 (d.control line c).2.1 := by
  cases c with
  | enable width height hertz =>
    have hchoose := d.chooseMode_ne_unknown width height hertz
    rw [control, enable]
    split
    next e heq => exact ⟨rfl, rfl, fun handle h => hchoose handle (heq.trans (by cases h; rfl))⟩
    split
    next heq => exact .of_line (Register.isOfLine_write (congrArg Prod.fst heq)) rfl rfl
    simp only
    split
    · exact ⟨rfl, rfl, fun _ h => by cases h⟩
    · exact (answersFor_program { d with powered := true } _ _).congr rfl rfl rfl rfl
  | setMode width height hertz =>
    have hchoose := d.chooseMode_ne_unknown width height hertz
    rw [control, setMode]
    split
    next e heq => exact ⟨rfl, rfl, fun handle h => hchoose handle (heq.trans (by cases h; rfl))⟩
    · exact d.answersFor_program _ _
  | disable =>
    rw [control, disable]
    split
    next heq => exact .of_line (Register.isOfLine_write (congrArg Prod.fst heq)) rfl rfl
    · exact ⟨rfl, rfl, fun _ h => by cases h⟩

theorem answersFor_readEdid (d : Device) (block : UInt8) (line : σ) :
    d.AnswersFor (d.readEdid block line).1 d := by
  refine ⟨rfl, rfl, fun handle h => ?_⟩
  cases Register.isOfLine_readRun h

theorem of_attach {id socket : Nat} {config : Config} {line line' : σ}
    (h : attach id socket config line = (.ok d, line')) : d.id = id ∧ d.socket = socket := by
  rw [attach] at h
  split at h
  · cases h
  split at h
  · cases h
  · cases h
    exact ⟨rfl, rfl⟩

end Control

theorem answersFor_handOver (d : Device) (i : SlotId)
    {encoded : Except Error (Nat × TransferBuffer)}
    (h : ∀ handle, encoded ≠ .error (.unknownDevice handle)) :
    d.AnswersFor (d.handOver i encoded).1 (d.handOver i encoded).2 := by
  unfold handOver
  split
  next e =>
    refine ⟨rfl, rfl, fun handle heq => ?_⟩
    cases heq
    exact absurd rfl (h handle)
  simp only
  split
  next heq =>
    refine ⟨rfl, rfl, fun handle h => ?_⟩
    cases h
    exact Scheduler.submit_ne_unknown _ _ _ _ heq
  · exact ⟨rfl, rfl, fun _ h => by cases h⟩

theorem answersFor_send (d : Device) (fb : Framebuffer) (rect : Rect) (i : SlotId) :
    d.AnswersFor (d.send fb rect i).1 (d.send fb rect i).2 := by
  rw [send_eq]
  split
  · exact ⟨rfl, rfl, fun _ h => by cases h⟩
  split
  next heq =>
    refine ⟨rfl, rfl, fun handle h => ?_⟩
    cases h
    exact Slot.buffer_ne_unknown _ _ heq
  next buffer _ =>
    exact (answersFor_handOver _ i (fb.encode_ne_unknown rect buffer)).congr rfl rfl rfl rfl

theorem answersFor_submitMerged (d : Device) (fb : Framebuffer) (merged : Rect) (now : Duration) :
    d.AnswersFor (d.submitMerged fb merged now).1 (d.submitMerged fb merged now).2 := by
  obtain ⟨lost, damage, htake⟩ := d.takeLost_eq d.active.other
  have hsend := answersFor_send { d with inFlightDamage := damage } fb
    ((merged ∪ lost).align fb.width fb.height) d.active
  rw [submitMerged_eq]
  simp only [htake, book]
  split
  next e _ heq =>
    rw [heq] at hsend
    exact ⟨hsend.id, hsend.socket, fun handle h => hsend.known handle (by cases h; rfl)⟩
  next heq =>
    rw [heq] at hsend
    exact ⟨hsend.id, hsend.socket, fun _ h => by cases h⟩

theorem answersFor_submitGathered (d : Device) (fb : Framebuffer) (merged : Rect) (now : Duration)
    (meanwhile : Scheduler → List Scheduler.Event) :
    d.AnswersFor (d.submitGathered fb merged now meanwhile).1
      (d.submitGathered fb merged now meanwhile).2 := by
  rw [submitGathered_eq]
  split
  · exact ⟨rfl, rfl, fun _ h => by cases h⟩
  split
  · exact ⟨rfl, rfl, fun _ h => by cases h⟩
  next s _ =>
    exact (answersFor_submitMerged { d with scheduler := s } fb merged now).congr rfl rfl rfl rfl

theorem answersFor_submitFrame (d : Device) (fb : Framebuffer) (damage : Rect) (now : Duration)
    (meanwhile : Scheduler → List Scheduler.Event) :
    d.AnswersFor (d.submitFrame fb damage now meanwhile).1
      (d.submitFrame fb damage now meanwhile).2 := by
  cases hpace : d.isThrottled now with
  | true =>
    rw [submitFrame_of_throttled d fb damage meanwhile hpace]
    exact ⟨rfl, rfl, fun _ h => by cases h⟩
  | false =>
    generalize hpoll : d.scheduler.poll d.active.other = polled
    obtain ⟨_ | _, s⟩ := polled
    · rw [submitFrame_of_busy fb damage _ hpace hpoll]
      exact (answersFor_submitGathered { d with scheduler := s } ..).congr rfl rfl rfl rfl
    · obtain ⟨lost, inFlight, htake⟩ := { d with scheduler := s }.takeLost_eq d.active.other
      rw [submitFrame_of_idle fb damage _ hpace hpoll htake]
      exact (answersFor_submitGathered { d with scheduler := s, inFlightDamage := inFlight }
        ..).congr rfl rfl rfl rfl

end Device

end UsbDisplay
