import UsbDisplay.Proofs.DeviceRuns

/-!
Framebuffers within the limits of a device. Alignment, header, transfer buffers and the two slots
have to agree on what can be sent. They do: a framebuffer that is not greater than the settings
allow, and that a header can name, is never refused (`Device.submitFrame_ok`), whatever its damage
and whatever is still pending, so pending damage cannot get stuck.
-/

namespace UsbDisplay

namespace Rect

/-- An aligned rectangle of a framebuffer of at most 255 whole columns can be named. -/
theorem nameable_align {r : Rect} {width height : Nat} (hwidth : width ≤ 4095)
    (hheight : height ≤ 65535) (h : (r.align width height).isEmpty = false) :
    (r.align width height).Nameable := by
  obtain ⟨hcolumns, hrows⟩ := isEmpty_eq_false_iff.1 h
  rw [align_of_nonempty h] at hcolumns hrows ⊢
  simp only [alignUp, alignDown, lastColumn, lastRow, columnWidth, maxCoordinate] at hcolumns hrows ⊢
  constructor <;> dsimp only <;> omega

theorem x2_align_le {r : Rect} {width height : Nat} (h : (r.align width height).isEmpty = false) :
    (r.align width height).x2 ≤ width := by
  rw [align_of_nonempty h]
  simp only [lastColumn, alignDown, columnWidth]
  omega

end Rect

namespace Framebuffer

variable {fb : Framebuffer} {r : Rect}

/-- What remains of damage after alignment has a header, and its packet is not longer than that of
the whole framebuffer. -/
theorem header_of_align (hwidth : fb.width ≤ 4095) (hheight : fb.height ≤ 65535)
    (h : (r.align fb.width fb.height).isEmpty = false) :
    ∃ header : UpdateHeader, (r.align fb.width fb.height).Nameable ∧
      header.rect = r.align fb.width fb.height ∧ header.width.toNat ≤ fb.width ∧
      packetLength header.width.toNat header.height.toNat ≤ packetLength fb.width fb.height := by
  have hname := Rect.nameable_align hwidth hheight h
  obtain ⟨header, hrect⟩ := UpdateHeader.exists_rect_eq hname
  have hx2 := Rect.x2_align_le h
  have hy2 := r.y2_align_le fb.width fb.height
  rw [← hrect] at hx2 hy2
  simp only [UpdateHeader.rect] at hx2 hy2
  have hcolumns : header.width.toNat ≤ fb.width := by omega
  have hrows : header.height.toNat ≤ fb.height := by omega
  refine ⟨header, hname, hrect, hcolumns, ?_⟩
  have hpixels := Nat.mul_le_mul (Nat.mul_le_mul_right 2 hcolumns) hrows
  simp only [packetLength]
  omega

theorem headerFor_align (hwidth : fb.width ≤ 4095) (hheight : fb.height ≤ 65535)
    (h : (r.align fb.width fb.height).isEmpty = false) {capacity lineCapacity : Nat}
    (hcapacity : packetLength fb.width fb.height ≤ capacity) (hline : fb.width ≤ lineCapacity) :
    ∃ header, fb.headerFor (r.align fb.width fb.height) capacity lineCapacity = .ok header := by
  obtain ⟨header, hname, hrect, hcolumns, hpacket⟩ := header_of_align hwidth hheight h
  have hsmall : fb.height < 2147483648 := by omega
  have hclip := clipRows_align hsmall r
  refine ⟨header, headerFor_eq_ok_iff.2 ⟨?_, ?_, ?_, by omega, by omega⟩⟩
  · rwa [hclip]
  · rwa [hclip]
  · rw [Rect.coordinateOfSize_of_lt (by omega)]
    exact Rect.x2_align_le h

end Framebuffer

/-- A packet of a framebuffer that fits is not longer than the buffers. -/
theorem Config.packetLength_le {config : Config} {width height : Nat}
    (hwidth : width ≤ config.maxWidth) (hheight : height ≤ config.maxHeight) :
    packetLength width height ≤ config.bufferCapacity := by
  have hpixels := Nat.mul_le_mul (Nat.mul_le_mul_right 2 hwidth) hheight
  simp only [bufferCapacity, packetLength]
  omega

namespace SingleTransfer

variable {m : SingleTransfer}

/-- A frame that had something to send before the wait has something to send after it. -/
theorem isEmpty_merged_reactAll {damage : Rect} {width height : Nat}
    (h : ((m.merged damage).align width height).isEmpty = false)
    (events : List Scheduler.Event) :
    (((m.reactAll events).merged damage).align width height).isEmpty = false := by
  by_cases hfailed : m.status = .failed
  · rw [reactAll_of_not_inFlight (by rw [hfailed]; rfl)]
    exact h
  · rw [merged, lost_of_ne_failed hfailed, Rect.align_union_empty] at h
    rw [merged, pending_reactAll]
    exact Rect.isEmpty_align_union _ h

/-- The machine refuses no framebuffer within its limits. -/
theorem submit_ok {fb : Framebuffer} (hwidth : fb.width ≤ min m.config.maxWidth 4095)
    (hheight : fb.height ≤ min m.config.maxHeight 65535) (damage : Rect) (now : Duration)
    (events : List Scheduler.Event) : ∃ status, (m.submit fb damage now events).1 = .ok status := by
  refine submit_cases (P := fun r => ∃ status, r.1 = .ok status) m fb damage now events
    ?throttled ?nothing ?dropped ?refused ?sent
  case throttled =>
    exact fun _ => ⟨_, rfl⟩
  case nothing =>
    exact fun _ => ⟨_, rfl⟩
  case dropped =>
    exact fun _ _ _ _ => ⟨_, rfl⟩
  case refused =>
    rintro hwaits _ e rfl - he
    simp only [waits, Bool.and_eq_true, Bool.not_eq_true'] at hwaits
    have hpacket : packetLength fb.width fb.height ≤ m.config.bufferCapacity :=
      Config.packetLength_le (by omega) (by omega)
    have hline : fb.width ≤ m.config.lineCapacity := by
      rw [Config.lineCapacity]
      omega
    obtain ⟨header, hok⟩ := Framebuffer.headerFor_align (by omega) (by omega)
      (isEmpty_merged_reactAll hwaits.2 events) hpacket hline
    rw [hok] at he
    cases he
  case sent =>
    exact fun _ _ _ _ _ _ _ _ => ⟨_, rfl⟩

theorem config_act {σ : Type} (m : SingleTransfer) (a : Device.Action σ) :
    (m.act a).2.config = m.config := by
  have hback : ∀ m : SingleTransfer, m.handBack.config = m.config := by
    intro m
    rw [handBack]
    split <;> rfl
  cases a with
  | submit fb damage now events =>
    refine submit_cases (P := fun r => r.2.config = m.config) m fb damage now events
      ?throttled ?nothing ?dropped ?refused ?sent
    case throttled =>
      exact fun _ => rfl
    case nothing =>
      exact fun _ => hback m
    case dropped =>
      rintro - _ rfl -
      exact m.config_reactAll events
    case refused =>
      rintro - _ e rfl - -
      exact (hback _).trans (m.config_reactAll events)
    case sent =>
      exact fun _ _ _ _ _ _ _ _ => rfl
  | waitIdle events =>
    simp only [act, waitIdle]
    split <;> simp
  | event e => exact m.config_reactAll [e]
  | cancel i => rfl
  | control c line => rfl

/-- The settings never change. -/
theorem config_run {σ : Type} (m : SingleTransfer) (actions : List (Device.Action σ)) :
    (m.run actions).2.config = m.config := by
  induction actions generalizing m with
  | nil => rfl
  | cons a rest ih => exact (ih _).trans (m.config_act a)

end SingleTransfer

namespace Device

/-- Of a submit's wait only the events that fall into it matter. -/
theorem submitFrame_eq_of_events (d : Device) (fb : Framebuffer) (damage : Rect) (now : Duration)
    (meanwhile : Scheduler → List Scheduler.Event) :
    d.submitFrame fb damage now meanwhile =
      d.submitFrame fb damage now
        fun _ => meanwhile (d.scheduler.poll d.active.other).2 := by
  cases hpace : d.isThrottled now with
  | true =>
    rw [submitFrame_of_throttled d fb damage _ hpace, submitFrame_of_throttled d fb damage _ hpace]
  | false =>
    generalize hpoll : d.scheduler.poll d.active.other = polled
    obtain ⟨_ | _, s⟩ := polled
    · rw [submitFrame_of_busy fb damage _ hpace hpoll, submitFrame_of_busy fb damage _ hpace hpoll]
      rfl
    · obtain ⟨lost, inFlight, htake⟩ := { d with scheduler := s }.takeLost_eq d.active.other
      rw [submitFrame_of_idle fb damage _ hpace hpoll htake,
        submitFrame_of_idle fb damage _ hpace hpoll htake]
      rfl

variable {d : Device} {m : SingleTransfer}

theorem Models.accepts (h : d.Models m) {fb : Framebuffer}
    (hwidth : fb.width ≤ min d.config.maxWidth 4095)
    (hheight : fb.height ≤ min d.config.maxHeight 65535) (damage : Rect) (now : Duration)
    (meanwhile : Scheduler → List Scheduler.Event) :
    ∃ status, (d.submitFrame fb damage now meanwhile).1 = .ok status := by
  rw [h.config] at hwidth hheight
  rw [submitFrame_eq_of_events, (h.submitFrame fb damage now _).1]
  exact SingleTransfer.submit_ok hwidth hheight damage now _

/-- A framebuffer within the limits of a device is never refused, in no state that the device can
come to and with any damage still pending. Whatever alignment leaves of its damage has a header that
names exactly that, and packet and line of it fit the buffers of both slots. -/
theorem submitFrame_ok {σ : Type} [ControlTransport σ] {id socket : Nat} {config : Config}
    {line line' : σ} (h : attach id socket config line = (.ok d, line'))
    (actions : List (Action σ)) {fb : Framebuffer}
    (hwidth : fb.width ≤ min config.maxWidth 4095)
    (hheight : fb.height ≤ min config.maxHeight 65535) (pending damage : Rect) (now : Duration)
    (meanwhile : Scheduler → List Scheduler.Event) :
    let reached := (d.run actions).2
    (∃ status,
      ({ reached with pending := pending }.submitFrame fb damage now meanwhile).1 = .ok status) ∧
    ∀ r : Rect, (r.align fb.width fb.height).isEmpty = false →
      ∃ header, UpdateHeader.ofRect (r.align fb.width fb.height) = .ok header ∧
        header.rect = r.align fb.width fb.height ∧
        ∀ i b, (reached.scheduler.slot i).held? = some b →
          packetLength header.width.toNat header.height.toNat ≤ b.capacity ∧
            header.width.toNat ≤ b.lineCapacity := by
  intro reached
  have hreached := ((Models.of_attach h).run actions).2
  have hconfig : reached.config = config :=
    hreached.config.trans (SingleTransfer.config_run { config := config } actions)
  refine ⟨?_, fun r hr => ?_⟩
  · refine (hreached.setPending pending).accepts ?_ ?_ damage now meanwhile
    · exact hconfig ▸ hwidth
    · exact hconfig ▸ hheight
  · obtain ⟨header, hname, hrect, hcolumns, hpacket⟩ :=
      Framebuffer.header_of_align (by omega) (by omega) hr
    refine ⟨header, UpdateHeader.ofRect_eq_ok_iff.2 ⟨hname, hrect⟩, hrect, fun i b hb => ?_⟩
    have hsound := hreached.sound i
    have hfits : packetLength fb.width fb.height ≤ config.bufferCapacity :=
      Config.packetLength_le (by omega) (by omega)
    rw [hsound.capacity b hb, hsound.lineCapacity b hb, hconfig, Config.lineCapacity]
    omega

end Device

end UsbDisplay
