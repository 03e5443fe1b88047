import UsbDisplay.Proofs.CheckedEncoding
import UsbDisplay.Proofs.FittingFrames

/-!
Frames that a device refuses. A frame is refused only for its aligned damage, if no header can name
that or the buffers are too small for it, and only after it has waited its turn
(`Device.submitFrame_refused`). By then damage that was lost has left its slot; it is pending
afterwards, together with all other damage, so that the next frame that can be sent shows it.
-/

namespace UsbDisplay

theorem exists_error_iff {ε α : Type} (x : Except ε α) :
    (∃ e, x = .error e) ↔ ¬ ∃ a, x = .ok a := by
  cases x <;> simp

/-! ### Rectangles that cannot be sent -/

namespace Rect

/-- A rectangle beyond what a header can name, or whose packet or line is too long. -/
def Exceeds (r : Rect) (capacity lineCapacity : Nat) : Prop :=
  4080 < r.x1 ∨ 4080 < r.x2 - r.x1 ∨ 65535 < r.y1 ∨ 65535 < r.y2 - r.y1 ∨
    lineCapacity < r.x2 - r.x1 ∨ capacity < 16 + 2 * (r.x2 - r.x1) * (r.y2 - r.y1)

instance (r : Rect) (capacity lineCapacity : Nat) : Decidable (r.Exceeds capacity lineCapacity) :=
  inferInstanceAs (Decidable (_ ∨ _))

theorem nameable_align_of_not_exceeds {r : Rect} {width height capacity lineCapacity : Nat}
    (h : (r.align width height).isEmpty = false)
    (hlimits : ¬ (r.align width height).Exceeds capacity lineCapacity) :
    (r.align width height).Nameable := by
  obtain ⟨hcolumns, hrows⟩ := isEmpty_eq_false_iff.1 h
  simp only [Exceeds, not_or, Int.not_lt] at hlimits
  obtain ⟨hleft, hwide, htop, hhigh, -⟩ := hlimits
  have hright := lastColumn_mod width
  refine ⟨hcolumns, hrows, ?_, ?_, ?_, ?_, hleft, hwide, htop, hhigh⟩ <;>
    rw [align_of_nonempty h] <;> simp only [alignUp, alignDown, columnWidth] <;> omega

end Rect

namespace Framebuffer

/-- What alignment leaves of damage has a header unless it exceeds a limit. -/
theorem headerFor_align_ok_iff {fb : Framebuffer} {r : Rect} (hwidth : fb.width < 2147483648)
    (hheight : fb.height < 2147483648) (h : (r.align fb.width fb.height).isEmpty = false)
    (capacity lineCapacity : Nat) :
    (∃ header, fb.headerFor (r.align fb.width fb.height) capacity lineCapacity = .ok header) ↔
      ¬ (r.align fb.width fb.height).Exceeds capacity lineCapacity := by
  have hclip := clipRows_align hheight r
  have hy2 := r.y2_align_le fb.width fb.height
  constructor
  · rintro ⟨header, hok⟩
    obtain ⟨hn, hrect, -, hcap, hline⟩ := headerFor_eq_ok_iff.1 hok
    obtain ⟨hlength, hcolumns⟩ := packetLength_of_rect_eq hheight hrect
    rw [hclip] at hn
    rw [Int.min_eq_left hy2] at hlength
    obtain ⟨-, -, -, -, -, -, hleft, hwide, htop, hhigh⟩ := hn
    rw [Rect.Exceeds]
    omega
  · intro hlimits
    have hn := Rect.nameable_align_of_not_exceeds h hlimits
    obtain ⟨header, hrect⟩ := UpdateHeader.exists_rect_eq hn
    rw [← hclip] at hn hrect
    obtain ⟨hlength, hcolumns⟩ := packetLength_of_rect_eq hheight hrect
    rw [Int.min_eq_left hy2] at hlength
    simp only [Rect.Exceeds, not_or, Int.not_lt] at hlimits
    obtain ⟨-, -, -, -, hline, hcap⟩ := hlimits
    refine ⟨header, headerFor_eq_ok_iff.2 ⟨hn, hrect, ?_, by omega, by omega⟩⟩
    rw [Rect.coordinateOfSize_of_lt hwidth]
    exact Rect.x2_align_le h

end Framebuffer

/-! ### Submits of the machine -/

namespace SingleTransfer

variable {σ : Type} {m : SingleTransfer}

/-- A submit that comes to its wait ends as the machine after the wait has it. -/
theorem submit_of_waits {fb : Framebuffer} {damage : Rect} {now : Duration}
    (h : m.waits fb damage now = true) (events : List Scheduler.Event) :
    m.submit fb damage now events = (m.reactAll events).conclude fb damage now := by
  simp only [waits, Bool.and_eq_true, Bool.not_eq_true'] at h
  rw [submit, h.1, h.2]
  rfl

/-- A frame is refused if it has waited its turn and there is no header for its damage. -/
theorem submit_error_iff {fb : Framebuffer} {damage : Rect} {now : Duration}
    {events : List Scheduler.Event} :
    (∃ e, (m.submit fb damage now events).1 = .error e) ↔
      m.waits fb damage now = true ∧ (m.reactAll events).status.isInFlight = false ∧
        ∃ e, fb.headerFor (((m.reactAll events).merged damage).align fb.width fb.height)
          m.config.bufferCapacity m.config.lineCapacity = .error e := by
  constructor
  · refine submit_cases (P := fun r => (∃ e, r.1 = .error e) → _) m fb damage now events
      ?throttled ?nothing ?dropped ?refused ?sent
    case throttled =>
      rintro - ⟨e, ⟨⟩⟩
    case nothing =>
      rintro - ⟨e, ⟨⟩⟩
    case dropped =>
      rintro - _ - - ⟨e, ⟨⟩⟩
    case refused =>
      rintro hwaits _ e rfl hflight he -
      exact ⟨hwaits, hflight, e, he⟩
    case sent =>
      rintro - _ _ _ - - - - ⟨e, ⟨⟩⟩
  · rintro ⟨hwaits, hflight, e, he⟩
    refine ⟨e, ?_⟩
    rw [submit_of_waits hwaits, conclude, hflight, send]
    simp only [config_reactAll, he, Bool.false_eq_true, if_false]

theorem submit_of_error {fb : Framebuffer} {damage : Rect} {now : Duration}
    {events : List Scheduler.Event} {e : Error}
    (h : (m.submit fb damage now events).1 = .error e) :
    (m.submit fb damage now events).2 =
      { (m.reactAll events).handBack with pending := (m.reactAll events).merged damage } := by
  obtain ⟨hwaits, hflight, e', he⟩ := submit_error_iff.1 ⟨e, h⟩
  rw [submit_of_waits hwaits, conclude, hflight, send]
  simp only [config_reactAll, he, Bool.false_eq_true, if_false]

/-- Without a transfer in flight only frames change the machine. -/
theorem act_of_not_inFlight (h : m.status.isInFlight = false) {a : Device.Action σ}
    (ha : a.frame? = none) : (m.act a).2 = m := by
  cases a with
  | submit fb damage now events => cases ha
  | waitIdle events =>
    simp only [act, waitIdle, reactAll_of_not_inFlight h]
    split <;> rfl
  | event e => exact react_of_not_inFlight h e
  | cancel i => rfl
  | control c line => rfl

theorem run_of_not_inFlight (h : m.status.isInFlight = false) {actions : List (Device.Action σ)}
    (hactions : ∀ a ∈ actions, a.frame? = none) : (m.run actions).2 = m := by
  induction actions with
  | nil => rfl
  | cons a rest ih =>
    have hact := act_of_not_inFlight h (hactions a List.mem_cons_self)
    have hrest := ih fun b hb => hactions b (List.mem_cons_of_mem a hb)
    show ((m.act a).2.run rest).2 = m
    rw [hact, hrest]

/-- Without a transfer in flight, and nothing lost, a frame that does not come too soon is sent if
there is something to send and a header for it. -/
theorem submit_of_settled {fb : Framebuffer} {damage : Rect} {now : Duration}
    (events : List Scheduler.Event) (hflight : m.status.isInFlight = false)
    (hlost : m.status ≠ .failed) (hpace : m.isThrottled now = false)
    (hrect : ((m.pending ∪ damage).align fb.width fb.height).isEmpty = false)
    {header : UpdateHeader} (hheader : fb.headerFor ((m.pending ∪ damage).align fb.width fb.height)
      m.config.bufferCapacity m.config.lineCapacity = .ok header) :
    (m.submit fb damage now events).1 =
      .ok (.sent ((m.pending ∪ damage).align fb.width fb.height)) := by
  have hmerged : (m.merged damage).align fb.width fb.height =
      (m.pending ∪ damage).align fb.width fb.height := by
    rw [merged, lost_of_ne_failed hlost, Rect.align_union_empty]
  rw [submit, hpace, hmerged, hrect, reactAll_of_not_inFlight hflight, conclude, hflight, send]
  simp only [hmerged, hheader, Bool.false_eq_true, if_false]

end SingleTransfer

/-! ### Submits of a device -/

namespace Device

/-- The damage of the frame before, if its transfer has failed and the slot still has it. -/
def lostDamage (d : Device) : Rect :=
  if (d.scheduler.slot d.active.other).progress = .failed then
    d.inFlightDamage.get d.active.other
  else Rect.empty

/-- All damage that a frame has to show: what is pending, its own, and what was lost. -/
def mergedDamage (d : Device) (damage : Rect) : Rect := (d.pending ∪ damage) ∪ d.lostDamage

/-- The device when it has looked at the slot of the frame before and has waited for it. -/
def waited (d : Device) (meanwhile : Scheduler → List Scheduler.Event) : Device :=
  { d with
    scheduler := ((d.scheduler.poll d.active.other).2.wait d.active.other meanwhile).2 }

/-- Whether the transfer of the frame before has not ended. -/
def isBusy (d : Device) : Bool := (d.scheduler.slot d.active.other).progress.isInFlight

/-- The damage that a submit aligns. It waits only if there is something to show, and then takes in
what was lost during the wait. -/
def gathered (d : Device) (width height : Nat) (damage : Rect)
    (meanwhile : Scheduler → List Scheduler.Event) : Rect :=
  if ((d.mergedDamage damage).align width height).isEmpty then d.mergedDamage damage
  else (d.waited meanwhile).mergedDamage damage

variable {d : Device} {m : SingleTransfer}

theorem Models.lostDamage (h : d.Models m) : d.lostDamage = m.lost := by
  rw [Device.lostDamage, SingleTransfer.lost]
  rcases h.progress with hp | ⟨hp, hm, hempty⟩
  · rw [hp]
    split
    next hfailed => exact h.damage (by rw [hfailed]; decide)
    next => rfl
  · rw [hp, hm, if_pos rfl, if_neg (by decide), hempty]

theorem Models.mergedDamage (h : d.Models m) (damage : Rect) :
    d.mergedDamage damage = m.merged damage := by
  rw [Device.mergedDamage, h.lostDamage, h.merged_eq]

theorem Models.waited (h : d.Models m) (events : List Scheduler.Event) :
    (d.waited fun _ => events).Models (m.reactAll events) :=
  (h.poll d.active.other).wait d.active.other events

/-- When a submit is refused, in terms of the device. -/
theorem Models.submitFrame_error_iff (h : d.Models m) {fb : Framebuffer}
    (hwidth : fb.width < 2147483648) (hheight : fb.height < 2147483648) (damage : Rect)
    (now : Duration) (events : List Scheduler.Event) :
    (∃ e, (d.submitFrame fb damage now fun _ => events).1 = .error e) ↔
      d.isThrottled now = false ∧ (d.waited fun _ => events).isBusy = false ∧
        ((d.gathered fb.width fb.height damage fun _ => events).align fb.width
          fb.height).isEmpty = false ∧
        ((d.gathered fb.width fb.height damage fun _ => events).align fb.width fb.height).Exceeds
          d.config.bufferCapacity d.config.lineCapacity := by
  have hwaited := h.waited events
  have hbusy : (d.waited fun _ => events).isBusy = (m.reactAll events).status.isInFlight :=
    hwaited.isInFlight
  rw [(h.submitFrame fb damage now events).1, SingleTransfer.submit_error_iff, ← hbusy,
    SingleTransfer.waits, ← h.isThrottled, ← h.mergedDamage, ← hwaited.mergedDamage, gathered,
    ← h.config, Bool.and_eq_true, Bool.not_eq_true', Bool.not_eq_true', and_assoc]
  cases hfirst : ((d.mergedDamage damage).align fb.width fb.height).isEmpty with
  | true => simp [hfirst]
  | false =>
    -- what could be shown before the wait can be shown after it
    have hrect : (((d.waited fun _ => events).mergedDamage damage).align fb.width
        fb.height).isEmpty = false := by
      rw [h.mergedDamage] at hfirst
      rw [hwaited.mergedDamage]
      exact SingleTransfer.isEmpty_merged_reactAll hfirst events
    have hheader := Framebuffer.headerFor_align_ok_iff hwidth hheight hrect d.config.bufferCapacity
      d.config.lineCapacity
    have herror := exists_error_iff (fb.headerFor (((d.waited fun _ => events).mergedDamage
      damage).align fb.width fb.height) d.config.bufferCapacity d.config.lineCapacity)
    rw [if_neg (by decide), hrect, herror, hheader, Classical.not_not]
    simp

/-- A refused submit hands nothing to a slot. Besides the wait it changes only what is known of
damage. -/
theorem Models.submitMerged_of_error (h : d.Models m) {b : TransferBuffer}
    (hidle : (d.scheduler.slot d.active.other).state = .idle b) {fb : Framebuffer} {merged : Rect}
    {now : Duration} {e : Error} (he : (d.submitMerged fb merged now).1 = .error e) :
    ∃ inFlight pending, (d.submitMerged fb merged now).2 =
      { d with inFlightDamage := inFlight, pending := pending } := by
  obtain ⟨inFlight, htake, hback⟩ := h.takeLost hidle
  simp only [submitMerged_eq, htake] at he ⊢
  generalize merged ∪ m.lost = merged at *
  cases hheader : fb.headerFor (merged.align fb.width fb.height) d.config.bufferCapacity
      d.config.lineCapacity with
  | error e' =>
    have hsend := hback.send_of_error hheader
    simp only at hsend
    rw [hsend]
    exact ⟨inFlight, merged, rfl⟩
  | ok header =>
    obtain ⟨slot, hsend, -⟩ := hback.send_of_ok hheader
    simp only at hsend
    rw [hsend] at he
    cases he

theorem Models.submitGathered_of_error (h : d.Models m) {fb : Framebuffer} {merged : Rect}
    {now : Duration} {events : List Scheduler.Event} {e : Error}
    (he : (d.submitGathered fb merged now fun _ => events).1 = .error e) :
    ∃ inFlight pending, (d.submitGathered fb merged now fun _ => events).2 =
      { d with
        scheduler := (d.scheduler.wait d.active.other fun _ => events).2
        inFlightDamage := inFlight
        pending := pending } := by
  have hwait := h.wait d.active.other events
  have hidle := @Scheduler.idle_of_wait d.scheduler d.active.other fun _ => events
  rw [Device.submitGathered_eq] at he ⊢
  split at he
  · cases he
  next hrect =>
  rw [if_neg hrect]
  generalize (d.scheduler.wait d.active.other fun _ => events) = waited at *
  obtain ⟨_ | _, s⟩ := waited
  · cases he
  · obtain ⟨b, hb⟩ := hidle rfl
    obtain ⟨inFlight, pending, heq⟩ := hwait.submitMerged_of_error hb he
    exact ⟨inFlight, pending, heq⟩

theorem Models.submitFrame_of_error (h : d.Models m) {fb : Framebuffer} {damage : Rect}
    {now : Duration} {events : List Scheduler.Event} {e : Error}
    (he : (d.submitFrame fb damage now fun _ => events).1 = .error e) :
    ∃ inFlight pending, (d.submitFrame fb damage now fun _ => events).2 =
      { d.waited fun _ => events with inFlightDamage := inFlight, pending := pending } := by
  have hpolled := h.poll d.active.other
  have hidle := Scheduler.idle_of_poll (s := d.scheduler) (i := d.active.other)
  cases hpace : d.isThrottled now with
  | true =>
    rw [submitFrame_of_throttled d fb damage _ hpace] at he
    cases he
  | false =>
    rw [Device.waited]
    generalize hpoll : d.scheduler.poll d.active.other = polled at *
    obtain ⟨_ | _, s⟩ := polled
    · rw [submitFrame_of_busy fb damage _ hpace hpoll] at he ⊢
      exact hpolled.submitGathered_of_error he
    · obtain ⟨b, hb⟩ := hidle rfl
      obtain ⟨inFlight, htake, hback⟩ := hpolled.takeLost hb
      rw [submitFrame_of_idle fb damage _ hpace hpoll htake] at he ⊢
      exact hback.submitGathered_of_error he

/-- What a refused frame leaves of a device, which was `waited` after the wait. -/
structure Unharmed (d waited after : Device) (damage : Rect) : Prop where
  /-- No slot was given a transfer, so no worker makes a bulk call. -/
  scheduler : after.scheduler = waited.scheduler
  no_packet : ∀ i, (after.scheduler.slot i).packet? = none
  /-- Each slot has its buffer, with the bytes that it had wherever it was. -/
  buffer : ∀ i, ∃ b, (d.scheduler.slot i).held? = some b ∧
    (after.scheduler.slot i).buffer? = some b
  config : after.config = d.config
  active : after.active = d.active
  lastSend : after.lastSend = d.lastSend
  mode : after.mode = d.mode
  powered : after.powered = d.powered
  pending : after.pending = (d.pending ∪ damage) ∪ waited.lostDamage
  /-- The slot of a failed transfer has given its damage up, and nothing is lost a second time. -/
  handedBack : (waited.scheduler.slot d.active.other).progress = .failed →
    after.inFlightDamage.get d.active.other = Rect.empty
  lost : after.lostDamage = Rect.empty

/-- The buffer that a slot has after the wait is the one that it had before. -/
theorem held?_of_waited {meanwhile : Scheduler → List Scheduler.Event} {i : SlotId}
    {b : TransferBuffer} (h : ((d.waited meanwhile).scheduler.slot i).held? = some b) :
    (d.scheduler.slot i).held? = some b :=
  Scheduler.held?_of_poll (Scheduler.held?_of_reactAll (Scheduler.held?_of_poll h))

/-- When the frame before has come to its end, both slots are idle. -/
theorem Models.idle_of_waited (h : d.Models m) {events : List Scheduler.Event}
    (hflight : (m.reactAll events).status.isInFlight = false) (i : SlotId) :
    ∃ b, ((d.waited fun _ => events).scheduler.slot i).state = .idle b := by
  have hwaited := h.waited events
  by_cases hi : i = d.active.other
  · rw [hi]
    have hended := (h.poll d.active.other).wait_fst d.active.other events
    rw [SingleTransfer.isBusy, hflight, Bool.false_and] at hended
    have hidle := Scheduler.idle_of_wait hended
    exact hidle
  · obtain rfl : i = d.active := by rw [SlotId.eq_other_of_ne hi, SlotId.other_other]
    exact hwaited.idle

theorem Models.unharmed (h : d.Models m) {fb : Framebuffer} {damage : Rect} {now : Duration}
    {events : List Scheduler.Event} {e : Error}
    (he : (d.submitFrame fb damage now fun _ => events).1 = .error e) :
    Unharmed d (d.waited fun _ => events) (d.submitFrame fb damage now fun _ => events).2
      damage := by
  have hwaited := h.waited events
  obtain ⟨hanswer, hafter⟩ := h.submitFrame fb damage now events
  obtain ⟨inFlight, pending, heq⟩ := h.submitFrame_of_error he
  rw [hanswer] at he
  obtain ⟨-, hflight, -⟩ := SingleTransfer.submit_error_iff.1 ⟨e, he⟩
  have hidle := h.idle_of_waited hflight
  have hback := (m.reactAll events).status_handBack_ne_failed
  rw [SingleTransfer.submit_of_error he] at hafter
  rw [heq] at hafter ⊢
  refine ⟨rfl, fun i => ?_, fun i => ?_, rfl, rfl, rfl, rfl, rfl, ?_, fun hfailed => ?_, ?_⟩
  · obtain ⟨b, hb⟩ := hidle i
    simp only [Slot.packet?, Slot.running?, hb, Option.map_none]
  · obtain ⟨b, hb⟩ := hidle i
    have hheld : ((d.waited fun _ => events).scheduler.slot i).held? = some b := by
      simp only [Slot.held?, hb]
    refine ⟨b, held?_of_waited hheld, ?_⟩
    simp only [Slot.buffer?, hb]
  · rw [hwaited.lostDamage]
    exact hafter.pending.trans (hwaited.merged_eq damage)
  · -- the slot has still failed while the machine has handed the damage back
    rcases hafter.progress with hp | ⟨-, -, hempty⟩
    · exact absurd (hp.symm.trans hfailed) hback
    · exact hempty
  · exact hafter.lostDamage.trans (SingleTransfer.lost_of_ne_failed hback)

/-- With no transfer in flight and nothing lost, the next frame is sent, if it does not come too soon
and no limit is in its way. -/
theorem Models.sent_of_settled {σ : Type} [ControlTransport σ] (h : d.Models m)
    (hflight : m.status.isInFlight = false) (hlost : m.status ≠ .failed)
    {between : List (Action σ)} (hbetween : ∀ a ∈ between, a.frame? = none) {fb : Framebuffer}
    (hwidth : fb.width < 2147483648) (hheight : fb.height < 2147483648) {damage : Rect}
    {now : Duration} (events : List Scheduler.Event)
    (hpace : (d.run between).2.isThrottled now = false)
    (hrect : ((d.pending ∪ damage).align fb.width fb.height).isEmpty = false)
    (hlimits : ¬ ((d.pending ∪ damage).align fb.width fb.height).Exceeds d.config.bufferCapacity
      d.config.lineCapacity) :
    ((d.run between).2.submitFrame fb damage now fun _ => events).1 =
      .ok (.sent ((d.pending ∪ damage).align fb.width fb.height)) := by
  have hnext := (h.run between).2
  rw [SingleTransfer.run_of_not_inFlight hflight hbetween] at hnext
  obtain ⟨header, hheader⟩ :=
    (Framebuffer.headerFor_align_ok_iff hwidth hheight hrect _ _).2 hlimits
  rw [hnext.isThrottled] at hpace
  rw [h.pending] at hrect hheader ⊢
  rw [h.config] at hheader
  rw [(hnext.submitFrame fb damage now events).1]
  exact SingleTransfer.submit_of_settled events hflight hlost hpace hrect hheader

/-- After a refused frame no transfer is in flight, and nothing is lost. -/
theorem Models.settled_of_error (h : d.Models m) {fb : Framebuffer} {damage : Rect}
    {now : Duration} {events : List Scheduler.Event} {e : Error}
    (he : (d.submitFrame fb damage now fun _ => events).1 = .error e) :
    ∃ m' : SingleTransfer, (d.submitFrame fb damage now fun _ => events).2.Models m' ∧
      m'.status.isInFlight = false ∧ m'.status ≠ .failed := by
  obtain ⟨hanswer, hafter⟩ := h.submitFrame fb damage now events
  rw [hanswer] at he
  obtain ⟨-, hflight, -⟩ := SingleTransfer.submit_error_iff.1 ⟨e, he⟩
  rw [SingleTransfer.submit_of_error he] at hafter
  exact ⟨_, hafter, (m.reactAll events).isInFlight_handBack.trans hflight,
    (m.reactAll events).status_handBack_ne_failed⟩

/-- A frame is refused exactly if it does not come too soon, the frame before has come to its end,
and what is to be shown of all damage exceeds a limit. The device is none the worse for it: all
damage is pending afterwards, and the next frame shows it as soon as it can be sent. -/
theorem submitFrame_refused {σ : Type} [ControlTransport σ] {id socket : Nat} {config : Config}
    {line line' : σ} (h : attach id socket config line = (.ok d, line'))
    (actions : List (Action σ)) {fb : Framebuffer} (hwidth : fb.width < 2147483648)
    (hheight : fb.height < 2147483648) (damage : Rect) (now : Duration)
    (meanwhile : Scheduler → List Scheduler.Event) :
    let reached := (d.run actions).2
    let waited := reached.waited meanwhile
    let answer := (reached.submitFrame fb damage now meanwhile).1
    let after := (reached.submitFrame fb damage now meanwhile).2
    let rect := (reached.gathered fb.width fb.height damage meanwhile).align fb.width fb.height
    ((∃ e, answer = .error e) ↔ reached.isThrottled now = false ∧ waited.isBusy = false ∧
      rect.isEmpty = false ∧ rect.Exceeds config.bufferCapacity config.lineCapacity) ∧
    ∀ e, answer = .error e → reached.Unharmed waited after damage ∧
      ∀ between : List (Action σ), (∀ a ∈ between, a.frame? = none) →
      ∀ fb' : Framebuffer, fb'.width < 2147483648 → fb'.height < 2147483648 →
      ∀ (damage' : Rect) (now' : Duration) (meanwhile' : Scheduler → List Scheduler.Event),
        let next := (after.run between).2
        let rect' := (after.pending ∪ damage').align fb'.width fb'.height
        next.isThrottled now' = false → rect'.isEmpty = false →
          ¬ rect'.Exceeds config.bufferCapacity config.lineCapacity →
          (next.submitFrame fb' damage' now' meanwhile').1 = .ok (.sent rect') := by
  intro reached waited answer after rect
  have hreached := ((Models.of_attach h).run actions).2
  have hconfig : reached.config = config :=
    hreached.config.trans (SingleTransfer.config_run { config := config } actions)
  have hanswer : answer = (reached.submitFrame fb damage now fun _ =>
      meanwhile (reached.scheduler.poll reached.active.other).2).1 :=
    congrArg Prod.fst (reached.submitFrame_eq_of_events ..)
  have hafter : after = (reached.submitFrame fb damage now fun _ =>
      meanwhile (reached.scheduler.poll reached.active.other).2).2 :=
    congrArg Prod.snd (reached.submitFrame_eq_of_events ..)
  refine ⟨?_, fun e he => ?_⟩
  · rw [hanswer, ← hconfig]
    exact hreached.submitFrame_error_iff hwidth hheight damage now _
  · rw [hanswer] at he
    rw [hafter]
    have hunharmed := hreached.unharmed he
    obtain ⟨m', hmodels, hflight, hlost⟩ := hreached.settled_of_error he
    refine ⟨hunharmed, fun between hbetween fb' hwidth' hheight' damage' now' meanwhile' => ?_⟩
    intro next rect' hpace hrect hlimits
    rw [← hconfig, ← hunharmed.config] at hlimits
    rw [submitFrame_eq_of_events]
    exact hmodels.sent_of_settled hflight hlost hbetween hwidth' hheight' _ hpace hrect hlimits

end Device

end UsbDisplay
