import UsbDisplay.Command.Program
import UsbDisplay.Proofs.SavedPictures
import UsbDisplay.Proofs.StartedSession
import UsbDisplay.Proofs.StreamedScenes

/-!
The picture that the command saves. The pace decides which frames are sent, held back and dropped,
but not what is in the saved file if the last wait has ended well, nothing is left to be sent and the
last transfer has not failed (`stream_reloads`). A wait that gives up may leave a transfer under way
that succeeds later, and its part of the picture is missing then (`slow_frame_missing`).
-/

namespace UsbDisplay.Command

variable {τ : Type}

/-! ### Scenes -/

/-- What the command streams. -/
inductive Source where
  | gradient
  | picture (p : Picture)

namespace Source

def scene (o : Options) : Source → Scene
  | gradient => ⟨.gradient o.width o.height, true⟩
  | picture p => ⟨.ofPicture p, false⟩

def width (o : Options) : Source → Nat
  | gradient => o.width
  | picture p => p.width

def height (o : Options) : Source → Nat
  | gradient => o.height
  | picture p => p.height

/-- A picture has to have all of its pixels, and at most 2048 in a row or a column. The gradient has
the size of the mode. -/
def Fits : Source → Prop
  | gradient => True
  | picture p => (1 ≤ p.width ∧ p.width ≤ 2048) ∧ (1 ≤ p.height ∧ p.height ≤ 2048) ∧
    p.pixels.size = p.width * p.height

/-- What is to be seen after so many frames. A row of the gradient has the phase of the last frame
that drew it. -/
def pixel (o : Options) (frames x y : Nat) : Source → Pixel
  | gradient =>
    let phase := (Band.lastFrame? o.height y frames).elim 0 Canvas.phaseOfFrame
    (Canvas.gradientColor phase x y).pixel
  | picture p => p.pixels[y * p.width + x]?.getD 0

variable {o : Options} {source : Source}

end Source

/-! ### The picture at the end -/

/-- One frame of a gradient, with a latency and with patience for it, both in milliseconds. -/
def oneFrame (latency patience : Nat) : Options :=
  { width := 720, height := 480, frames := 1, latency := latency, transferTimeout := patience }

namespace Timeline

variable {s : Station} {limit : Duration}

end Timeline

/-- The frame is under way on the first slot, and nobody has asked it to stop. -/
structure Sending (latency patience : Nat) (s : Station) : Prop where
  config : s.device.config = Session.config (oneFrame latency patience)
  fresh : s.adapter.Fresh (.ofMilliseconds latency) 720 480
  slot : s.device.active.other = .first
  pending : s.device.pending = Rect.empty
  sends : (s.device.scheduler.slot .first).Sends
  update : ∃ (m : SingleTransfer) (source : Framebuffer) (header : UpdateHeader),
    s.device.Models m ∧ m.status = .running ∧
      m.sent.getLast? = some (source.update header).packet ∧ header.rect.Nameable

namespace Sending

variable {latency patience : Nat} {s : Station}

theorem ending (h : Sending latency patience s) (hle : latency ≤ patience) (t : Timeline)
    (i : SlotId) : t.ending s i = (t.calledAt + .ofMilliseconds latency, [.call i]) := by
  have hpatience : s.device.config.transferTimeout = .ofMilliseconds patience := by
    rw [h.config]
    rfl
  rw [Timeline.ending, hpatience, h.fresh.faults, if_neg]
  simp only [Duration.lt_iff, Duration.ofMilliseconds]
  omega

end Sending

end UsbDisplay.Command
