import UsbDisplay.Adapter
import UsbDisplay.Proofs.SlotAlternation

/-!
Runs of an attached display: submits, waits, mode sets and power switches in any order, and between
them and during the waits whatever can happen to a transfer. A run of the device is a run of the
machine with one outstanding transfer (`Device.Models.run`), and an attached device starts as the
machine starts.
-/

namespace UsbDisplay

namespace Device

/-- The calls that set a display up. -/
inductive Control where
  | enable (width height hertz : Nat)
  | setMode (width height hertz : Nat)
  | disable

/-- What can happen to an attached display. Events that fall into a wait come with it; a setup call
comes with the line that it finds. -/
inductive Action (σ : Type) where
  | submit (fb : Framebuffer) (damage : Rect) (now : Duration) (meanwhile : List Scheduler.Event)
  | waitIdle (meanwhile : PerSlot (List Scheduler.Event))
  | event (e : Scheduler.Event)
  | cancel (i : SlotId)
  | control (c : Control) (line : σ)

/-- What the pipeline answers to an action. -/
inductive Answer where
  | frame (result : Except Error FrameStatus)
  | idle (result : Bool)
  | none

def Answer.isSent : Answer → Bool
  | .frame (.ok (.sent _)) => true
  | _ => false

/-- The framebuffer that is passed with an action. -/
def Action.frame? {σ : Type} : Action σ → Option Framebuffer
  | .submit fb .. => some fb
  | _ => none

section Control

variable {σ : Type} [ControlTransport σ]

def control (d : Device) (line : σ) : Control → Except Error Unit × Device × σ
  | .enable width height hertz => d.enable width height hertz line
  | .setMode width height hertz => d.setMode width height hertz line
  | .disable => d.disable line

/-- A setup call changes the mode and the power, and nothing else. -/
theorem control_eq (d : Device) (line : σ) (c : Control) :
    ∃ mode powered, (d.control line c).2.1 = { d with mode := mode, powered := powered } := by
  have hprogram : ∀ (d : Device) mode (line : σ), ∃ mode',
      (d.program mode line).2.1 = { d with mode := mode' } := by
    intro d mode line
    rw [program]
    split
    · exact ⟨_, rfl⟩
    · exact ⟨_, rfl⟩
  cases c with
  | enable width height hertz =>
    rw [control, enable]
    split
    · exact ⟨d.mode, d.powered, rfl⟩
    split
    · exact ⟨d.mode, d.powered, rfl⟩
    simp only
    split
    · exact ⟨d.mode, true, rfl⟩
    · obtain ⟨mode', h⟩ := hprogram { d with powered := true } _ _
      exact ⟨mode', true, h⟩
  | setMode width height hertz =>
    rw [control, setMode]
    split
    · exact ⟨d.mode, d.powered, rfl⟩
    · obtain ⟨mode', h⟩ := hprogram d _ _
      exact ⟨mode', d.powered, h⟩
  | disable =>
    rw [control, disable]
    split
    · exact ⟨d.mode, d.powered, rfl⟩
    · exact ⟨d.mode, false, rfl⟩

/-- Carries out an action. -/
def act (d : Device) : Action σ → Answer × Device
  | .submit fb damage now meanwhile =>
    let (result, d) := d.submitFrame fb damage now fun _ => meanwhile
    (.frame result, d)
  | .waitIdle meanwhile =>
    let (result, d) := d.waitIdle fun i _ => meanwhile.get i
    (.idle result, d)
  | .event e => (.none, { d with scheduler := d.scheduler.react e })
  | .cancel i => (.none, { d with scheduler := (d.scheduler.cancel i).2 })
  | .control c line => (.none, (d.control line c).2.1)

/-- Carries out actions one after the other. -/
def run (d : Device) : List (Action σ) → List Answer × Device
  | [] => ([], d)
  | a :: rest =>
    let (answer, d) := d.act a
    let (answers, d) := d.run rest
    (answer :: answers, d)

end Control

end Device

namespace SingleTransfer

open Device (Action Answer)

variable {σ : Type}

/-- What the machine makes of an action. It has no mode and no power. -/
def act (m : SingleTransfer) : Action σ → Answer × SingleTransfer
  | .submit fb damage now meanwhile =>
    let (result, m) := m.submit fb damage now meanwhile
    (.frame result, m)
  | .waitIdle meanwhile =>
    let (result, m) := m.waitIdle meanwhile
    (.idle result, m)
  | .event e => (.none, m.react e)
  | .cancel _ | .control .. => (.none, m)

def run (m : SingleTransfer) : List (Action σ) → List Answer × SingleTransfer
  | [] => ([], m)
  | a :: rest =>
    let (answer, m) := m.act a
    let (answers, m) := m.run rest
    (answer :: answers, m)

theorem run_append (m : SingleTransfer) (first second : List (Action σ)) :
    (m.run (first ++ second)).2 = ((m.run first).2.run second).2 := by
  induction first generalizing m with
  | nil => rfl
  | cons a rest ih => exact ih _

end SingleTransfer

namespace Device

variable {σ : Type} [ControlTransport σ] {d : Device} {m : SingleTransfer}

theorem Models.control (h : d.Models m) (line : σ) (c : Control) :
    (d.control line c).2.1.Models m := by
  obtain ⟨mode, powered, heq⟩ := d.control_eq line c
  rw [heq]
  exact { h with }

/-- Every action is an action of the machine with the same answer. -/
theorem Models.act (h : d.Models m) (a : Action σ) :
    (d.act a).1 = (m.act a).1 ∧ (d.act a).2.Models (m.act a).2 := by
  cases a with
  | submit fb damage now meanwhile =>
    obtain ⟨hanswer, hmodels⟩ := h.submitFrame fb damage now meanwhile
    exact ⟨congrArg Answer.frame hanswer, hmodels⟩
  | waitIdle meanwhile =>
    obtain ⟨hanswer, hmodels⟩ := h.waitIdle meanwhile
    exact ⟨congrArg Answer.idle hanswer, hmodels⟩
  | event e => exact ⟨rfl, h.react e⟩
  | cancel i => exact ⟨rfl, h.cancel i⟩
  | control c line => exact ⟨rfl, h.control line c⟩

/-- Every run is a run of the machine with the same answers. -/
theorem Models.run (h : d.Models m) (actions : List (Action σ)) :
    (d.run actions).1 = (m.run actions).1 ∧ (d.run actions).2.Models (m.run actions).2 := by
  induction actions generalizing d m with
  | nil => exact ⟨rfl, h⟩
  | cons a rest ih =>
    obtain ⟨hanswer, hmodels⟩ := h.act a
    obtain ⟨hanswers, hrest⟩ := ih hmodels
    exact ⟨congr (congrArg List.cons hanswer) hanswers, hrest⟩

/-- A device that has just been attached is the machine at its start. -/
theorem Models.of_attach {id socket : Nat} {config : Config} {line line' : σ}
    (h : attach id socket config line = (.ok d, line')) :
    d.Models { config := config } := by
  rw [attach] at h
  split at h
  · cases h
  split at h
  · cases h
  next scheduler hcreate =>
  cases h
  obtain ⟨hfirst, hsecond⟩ := Scheduler.slots_of_create hcreate
  obtain ⟨hsound, hidle, -⟩ := Slot.sound_of_create hfirst
  obtain ⟨hsound', ⟨b, hidle'⟩, hlast⟩ := Slot.sound_of_create hsecond
  refine ⟨rfl, rfl, rfl, rfl, ?_, hidle, .inl ?_, fun _ => rfl, fun h => ?_⟩
  · intro i
    cases i with
    | first => exact hsound
    | second => exact hsound'
  · show (scheduler.slot .second).progress = _
    rw [Slot.progress_of_idle hidle', hlast]
    rfl
  · cases h

end Device

/-- The settings of a display for framebuffers of one column and one row. -/
def Config.oneColumn : Config := { maxWidth := 16, maxHeight := 1 }

theorem attach_oneColumn : ∃ d line, Device.attach 0 0 .oneColumn ({} : Adapter) = (.ok d, line) :=
  ⟨_, _, rfl⟩

end UsbDisplay
