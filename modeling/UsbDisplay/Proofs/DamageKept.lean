import UsbDisplay.Proofs.DeviceRuns

/-!
No damage that can be shown is lost. A ledger goes with a display and writes down which submit the
latest transfer of each slot belongs to, and which transfers have ended with success. A point of
damage that is usable in all framebuffers from its submit on is, at any time after it, still
pending, or in the damage of a transfer that has not been delivered, or in a rectangle that was
encoded after the damage and has been delivered (`Ledger.damage_kept`). What is usable ends with the
last whole column below the greatest coordinate, however wide the framebuffer is; damage beyond that
is dropped (`Ledger.damage_lost_at_maxCoordinate`).
-/

namespace UsbDisplay

open Device (Action Answer)

/-- The part of a framebuffer that can be shown: its whole columns, as far as coordinates go. -/
def Framebuffer.usable (fb : Framebuffer) : Rect := .usable fb.width fb.height

namespace Device

/-- Whether the latest transfer of a slot is in flight or has ended without success. -/
def isUndelivered (d : Device) (i : SlotId) : Bool :=
  (d.scheduler.slot i).progress.isUndelivered

/-- Whether the latest transfer of a slot has ended with success. -/
def hasDelivered (d : Device) (i : SlotId) : Bool :=
  (d.scheduler.slot i).outcome?.any Outcome.isSuccess

theorem hasDelivered_iff {d : Device} {i : SlotId} :
    d.hasDelivered i = true ↔ (d.scheduler.slot i).progress = .settled :=
  Slot.progress_eq_settled_iff.symm

end Device

/-- A rectangle that was sent, and the submit that encoded it, counted from 0. -/
structure Shipment where
  call : Nat
  rect : Rect

/-- A display and what is known about its transfers. -/
structure Ledger where
  device : Device
  /-- Submits so far. -/
  calls : Nat := 0
  /-- What the latest transfer of each slot carries. -/
  latest : PerSlot (Option Shipment) := ⟨none, none⟩
  /-- What has been delivered. -/
  delivered : List Shipment := []

namespace Ledger

/-- What the slots carry after an answer. -/
def carried (l : Ledger) : Answer → PerSlot (Option Shipment)
  | .frame (.ok (.sent rect)) => l.latest.set l.device.active (some ⟨l.calls, rect⟩)
  | _ => l.latest

section Runs

variable {σ : Type} [ControlTransport σ]

def act (l : Ledger) (a : Action σ) : Ledger :=
  let (answer, d) := l.device.act a
  let latest := l.carried answer
  { device := d
    calls := if a.frame?.isSome then l.calls + 1 else l.calls
    latest := latest
    delivered := l.delivered ++ SlotId.all.filterMap fun i =>
      if d.hasDelivered i && !l.device.hasDelivered i then latest.get i else none }

def run (l : Ledger) (actions : List (Action σ)) : Ledger := actions.foldl act l

theorem delivered_act (l : Ledger) (a : Action σ) :
    (l.act a).delivered = l.delivered ++ SlotId.all.filterMap fun i =>
      if (l.device.act a).2.hasDelivered i && !l.device.hasDelivered i then (l.act a).latest.get i
      else none := rfl

theorem mem_delivered_act {l : Ledger} {s : Shipment} (a : Action σ) (h : s ∈ l.delivered) :
    s ∈ (l.act a).delivered :=
  List.mem_append_left _ h

theorem mem_delivered_of_settled {l : Ledger} {s : Shipment} (a : Action σ) {i : SlotId}
    (hlatest : (l.act a).latest.get i = some s)
    (hbefore : (l.device.scheduler.slot i).progress ≠ .settled)
    (hafter : ((l.device.act a).2.scheduler.slot i).progress = .settled) :
    s ∈ (l.act a).delivered := by
  rw [delivered_act]
  refine List.mem_append_right _ (List.mem_filterMap.2 ⟨i, by cases i <;> decide, ?_⟩)
  rw [Device.hasDelivered_iff.2 hafter,
    Bool.eq_false_iff.2 fun h => hbefore (Device.hasDelivered_iff.1 h)]
  exact hlatest

end Runs

/-- Where a point of the damage of submit `i` can be. -/
def Keeps (l : Ledger) (m : SingleTransfer) (i : Nat) (p : Point) : Prop :=
  p ∈ m.pending ∨
    (m.status.isUndelivered = true ∧ p ∈ m.rect ∧
      ∃ s, l.latest.get m.nextSlot.other = some s ∧ s.rect = m.rect ∧ i ≤ s.call) ∨
    ∃ s ∈ l.delivered, i ≤ s.call ∧ p ∈ s.rect

end Ledger

namespace SingleTransfer

variable {m : SingleTransfer}

/-- An undelivered transfer stays so, or it has been running and is delivered. -/
theorem status_reactAll (h : m.status.isUndelivered = true) (events : List Scheduler.Event) :
    (m.reactAll events).status.isUndelivered = true ∨
      m.status = .running ∧ (m.reactAll events).status = .settled := by
  induction events generalizing m with
  | nil => exact .inl h
  | cons e rest ih =>
    have hstep : (m.react e).status.isUndelivered = true ∨
        m.status = .running ∧ (m.react e).status = .settled := by
      rw [react]
      split
      · exact Slot.Progress.isUndelivered_react h e.2
      · exact .inl h
    rcases hstep with hstill | ⟨hrunning, hsettled⟩
    · rcases ih hstill with hrest | ⟨hrunning, hsettled⟩
      · exact .inl hrest
      · refine .inr ⟨?_, hsettled⟩
        rw [react] at hrunning
        split at hrunning
        · exact Slot.Progress.eq_running_of_react hrunning
        · exact hrunning
    · refine .inr ⟨hrunning, ?_⟩
      show ((m.react e).reactAll rest).status = _
      rw [reactAll_of_not_inFlight (by rw [hsettled]; rfl), hsettled]

theorem mem_merged_of_fresh {damage : Rect} {p : Point} (h : p ∈ m.pending ∪ damage) :
    p ∈ m.merged damage :=
  Rect.mem_union_left _ h

theorem mem_merged_of_failed (damage : Rect) {p : Point} (hfailed : m.status = .failed)
    (h : p ∈ m.rect) : p ∈ m.merged damage := by
  refine Rect.mem_union_right _ ?_
  rwa [lost, if_pos hfailed]

/-- An action without a framebuffer lets events happen, and no more. -/
theorem act_eq_reactAll {σ : Type} (m : SingleTransfer) {a : Action σ} (h : a.frame? = none) :
    ∃ events, (m.act a).2 = m.reactAll events := by
  cases a with
  | submit => cases h
  | waitIdle meanwhile =>
    simp only [act, waitIdle]
    split
    · exact ⟨_, rfl⟩
    · exact ⟨meanwhile.first ++ meanwhile.second, (List.foldl_append ..).symm⟩
  | event e => exact ⟨[e], rfl⟩
  | cancel i => exact ⟨[], rfl⟩
  | control c line => exact ⟨[], rfl⟩

end SingleTransfer

namespace Ledger

variable {σ : Type} [ControlTransport σ] {l : Ledger} {m : SingleTransfer} {i : Nat} {p : Point}

theorem inFlightDamage_act (d : Device) {a : Action σ} (h : a.frame? = none) :
    (d.act a).2.inFlightDamage = d.inFlightDamage := by
  cases a with
  | submit => cases h
  | control c line =>
    obtain ⟨mode, powered, heq⟩ := d.control_eq line c
    rw [Device.act, heq]
  | _ => rfl

theorem latest_act (l : Ledger) {a : Action σ} (h : a.frame? = none) :
    (l.act a).latest = l.latest := by
  cases a with
  | submit => cases h
  | _ => rfl

theorem Keeps.act (hk : l.Keeps m i p) (hm : l.device.Models m) {a : Action σ}
    (ha : a.frame? = none) : (l.act a).Keeps (m.act a).2 i p := by
  obtain ⟨-, hmodels⟩ := hm.act a
  obtain ⟨events, hevents⟩ := m.act_eq_reactAll ha
  rw [hevents] at hmodels ⊢
  have hslot := m.nextSlot_reactAll events
  rcases hk with hpending | ⟨hundelivered, hrect, s, hlatest, hs, hcall⟩ | ⟨s, hs, hkept⟩
  · exact .inl (by rwa [SingleTransfer.pending_reactAll])
  · have hlatest' : (l.act a).latest.get m.nextSlot.other = some s := by
      rw [latest_act l ha, hlatest]
    rcases SingleTransfer.status_reactAll hundelivered events with hstill | ⟨hrunning, hsettled⟩
    · refine .inr (.inl ⟨hstill, ?_, s, ?_, ?_, hcall⟩)
      · rwa [SingleTransfer.rect_reactAll]
      · rwa [hslot]
      · rwa [SingleTransfer.rect_reactAll]
    · refine .inr (.inr ⟨s, mem_delivered_of_settled a hlatest' ?_ ?_, hcall, hs ▸ hrect⟩)
      · rw [← hm.active, hm.progress_eq (by rw [hrunning]; decide), hrunning]
        decide
      · have hactive : (l.device.act a).2.active = m.nextSlot := hmodels.active.trans hslot
        have hprogress := hmodels.progress
        rw [hactive, inFlightDamage_act _ ha] at hprogress
        rcases hprogress with heq | ⟨-, -, hnone⟩
        · rw [heq, hsettled]
        · -- damage that was handed back is empty
          rw [← hm.active, hm.damage (by rw [hrunning]; decide)] at hnone
          rw [hnone] at hrect
          exact absurd hrect (Rect.not_mem_of_isEmpty Rect.isEmpty_empty p)
  · exact .inr (.inr ⟨s, mem_delivered_act a hs, hkept⟩)

/-- What is merged into a frame that is sent is carried by its transfer. -/
theorem Keeps.of_sent (hactive : l.device.active = m.nextSlot) {fb : Framebuffer} {merged : Rect}
    (husable : p ∈ fb.usable) (hcalls : i ≤ l.calls) (hp : p ∈ merged) {after : Ledger}
    (hlatest : after.latest = l.carried
      (.frame (.ok (.sent (merged.align fb.width fb.height))))) (now : Duration)
    (packet : ByteArray) :
    after.Keeps { m with
      pending := Rect.empty
      lastSend := some now
      rect := merged.align fb.width fb.height
      status := .running
      sent := m.sent ++ [packet] } i p := by
  refine .inr (.inl ⟨rfl, Rect.mem_align hp husable,
    ⟨l.calls, merged.align fb.width fb.height⟩, ?_, rfl, hcalls⟩)
  show after.latest.get (SlotId.ofIndex (m.sent ++ [packet]).length).other = _
  rw [List.length_append, List.length_singleton, SlotId.ofIndex_succ, SlotId.other_other, hlatest,
    carried, hactive]
  exact PerSlot.get_set_self ..

theorem latest_submit (hm : l.device.Models m) (fb : Framebuffer) (damage : Rect) (now : Duration)
    (meanwhile : List Scheduler.Event) :
    (l.act (.submit fb damage now meanwhile : Action σ)).latest =
      l.carried (.frame (m.submit fb damage now meanwhile).1) := by
  rw [← (hm.submitFrame fb damage now meanwhile).1]
  rfl

/-- A transfer that ends with success during the wait of a submit is written down by it. -/
theorem mem_delivered_submit (hm : l.device.Models m) {fb : Framebuffer} {damage : Rect}
    {now : Duration} {meanwhile : List Scheduler.Event} (hwaits : m.waits fb damage now = true)
    (hrunning : m.status = .running) (hsettled : (m.reactAll meanwhile).status = .settled)
    {s : Shipment}
    (hs : (l.act (.submit fb damage now meanwhile : Action σ)).latest.get m.nextSlot.other =
      some s) :
    s ∈ (l.act (.submit fb damage now meanwhile : Action σ)).delivered := by
  refine mem_delivered_of_settled _ hs ?_ ?_
  · rw [← hm.active, hm.progress_eq (by rw [hrunning]; decide), hrunning]
    decide
  · rw [← hm.active, ← hsettled]
    exact hm.progress_submitFrame fb damage now meanwhile hwaits hrunning

/-- A submit keeps what is pending and takes over the damage that it is given. -/
theorem Keeps.submit_fresh (hm : l.device.Models m) {fb : Framebuffer} {damage : Rect}
    (husable : p ∈ fb.usable) (hcalls : i ≤ l.calls) (hfresh : p ∈ m.pending ∪ damage)
    (now : Duration) (meanwhile : List Scheduler.Event) :
    (l.act (.submit fb damage now meanwhile : Action σ)).Keeps
      (m.submit fb damage now meanwhile).2 i p := by
  have hlatest := latest_submit (σ := σ) hm fb damage now meanwhile
  generalize l.act (.submit fb damage now meanwhile : Action σ) = after at *
  revert hlatest
  refine SingleTransfer.submit_cases
    (P := fun r => after.latest = l.carried (.frame r.1) → after.Keeps r.2 i p)
    m fb damage now meanwhile ?throttled ?nothing ?dropped ?refused ?sent
  case throttled =>
    exact fun _ _ => .inl hfresh
  case nothing =>
    intro hempty _
    have hmem := Rect.mem_align (SingleTransfer.mem_merged_of_fresh hfresh) husable
    exact absurd hmem (Rect.not_mem_of_isEmpty hempty p)
  case dropped =>
    rintro - _ rfl - -
    rw [← m.pending_reactAll meanwhile] at hfresh
    exact .inl (SingleTransfer.mem_merged_of_fresh hfresh)
  case refused =>
    rintro - _ e rfl - - -
    rw [← m.pending_reactAll meanwhile] at hfresh
    exact .inl (SingleTransfer.mem_merged_of_fresh hfresh)
  case sent =>
    rintro - _ rect header rfl - rfl - hlatest
    rw [← m.pending_reactAll meanwhile] at hfresh
    exact .of_sent hm.active husable hcalls (SingleTransfer.mem_merged_of_fresh hfresh) hlatest
      now _

/-- A submit keeps the damage of a transfer that is not delivered. -/
theorem Keeps.submit_carried (hm : l.device.Models m) {fb : Framebuffer} (damage : Rect)
    (husable : p ∈ fb.usable) (hcalls : i ≤ l.calls) (hundelivered : m.status.isUndelivered = true)
    (hrect : p ∈ m.rect) {s : Shipment} (hs : l.latest.get m.nextSlot.other = some s)
    (hsrect : s.rect = m.rect) (hcall : i ≤ s.call) (now : Duration)
    (meanwhile : List Scheduler.Event) :
    (l.act (.submit fb damage now meanwhile : Action σ)).Keeps
      (m.submit fb damage now meanwhile).2 i p := by
  have hlatest := latest_submit (σ := σ) hm fb damage now meanwhile
  have hdelivered := @mem_delivered_submit σ _ l m hm fb damage now meanwhile
  have hwaited := SingleTransfer.status_reactAll hundelivered meanwhile
  generalize l.act (.submit fb damage now meanwhile : Action σ) = after at *
  revert hlatest
  refine SingleTransfer.submit_cases
    (P := fun r => after.latest = l.carried (.frame r.1) → after.Keeps r.2 i p)
    m fb damage now meanwhile ?throttled ?nothing ?dropped ?refused ?sent
  case throttled =>
    intro _ hlatest
    exact .inr (.inl ⟨hundelivered, hrect, s, by rw [hlatest]; exact hs, hsrect, hcall⟩)
  case nothing =>
    intro hempty hlatest
    by_cases hfailed : m.status = .failed
    · -- a failed rectangle is merged, and then there is something to send
      have hmem := Rect.mem_align (SingleTransfer.mem_merged_of_failed damage hfailed hrect)
        husable
      exact absurd hmem (Rect.not_mem_of_isEmpty hempty p)
    · rw [SingleTransfer.handBack_of_ne_failed hfailed]
      exact .inr (.inl ⟨hundelivered, hrect, s, by rw [hlatest]; exact hs, hsrect, hcall⟩)
  case dropped =>
    rintro - _ rfl hflight hlatest
    rcases hwaited with hstill | ⟨-, hsettled⟩
    · have hslot := m.nextSlot_reactAll meanwhile
      refine .inr (.inl ⟨hstill, ?_, s, ?_, ?_, hcall⟩)
      · rwa [← m.rect_reactAll meanwhile] at hrect
      · show after.latest.get (m.reactAll meanwhile).nextSlot.other = _
        rw [hlatest, hslot]
        exact hs
      · rwa [← m.rect_reactAll meanwhile] at hsrect
    · rw [hsettled] at hflight
      cases hflight
  case refused =>
    rintro hwaits _ e rfl hflight - hlatest
    rcases hwaited with hstill | ⟨hrunning, hsettled⟩
    · rw [← m.rect_reactAll meanwhile] at hrect
      exact .inl (SingleTransfer.mem_merged_of_failed damage
        (Slot.Progress.eq_failed hstill hflight) hrect)
    · refine .inr (.inr ⟨s, hdelivered hwaits hrunning hsettled ?_, hcall, hsrect ▸ hrect⟩)
      rw [hlatest]
      exact hs
  case sent =>
    rintro hwaits _ rect header rfl hflight rfl - hlatest
    rcases hwaited with hstill | ⟨hrunning, hsettled⟩
    · rw [← m.rect_reactAll meanwhile] at hrect
      exact .of_sent hm.active husable hcalls (SingleTransfer.mem_merged_of_failed damage
        (Slot.Progress.eq_failed hstill hflight) hrect) hlatest now _
    · refine .inr (.inr ⟨s, hdelivered hwaits hrunning hsettled ?_, hcall, hsrect ▸ hrect⟩)
      -- the new frame goes to the other slot
      rw [hlatest, carried, ← hm.active, PerSlot.get_set_other, hm.active]
      exact hs

theorem Keeps.submit (hm : l.device.Models m) {fb : Framebuffer} (damage : Rect)
    (husable : p ∈ fb.usable) (hcalls : i ≤ l.calls) (hk : p ∈ damage ∨ l.Keeps m i p)
    (now : Duration) (meanwhile : List Scheduler.Event) :
    (l.act (.submit fb damage now meanwhile : Action σ)).Keeps
      (m.submit fb damage now meanwhile).2 i p := by
  rcases hk with hp | hpending | ⟨hundelivered, hrect, s, hs, hsrect, hcall⟩ | ⟨s, hs, hkept⟩
  · exact .submit_fresh hm husable hcalls (Rect.mem_union_right _ hp) now meanwhile
  · exact .submit_fresh hm husable hcalls (Rect.mem_union_left _ hpending) now meanwhile
  · exact .submit_carried hm damage husable hcalls hundelivered hrect hs hsrect hcall now meanwhile
  · exact .inr (.inr ⟨s, mem_delivered_act _ hs, hkept⟩)

theorem calls_run (l : Ledger) (actions : List (Action σ)) :
    (l.run actions).calls = l.calls + (actions.filterMap Action.frame?).length := by
  induction actions generalizing l with
  | nil => rfl
  | cons a rest ih =>
    refine (ih (l.act a)).trans ?_
    cases a with
    | submit =>
      show l.calls + 1 + _ = _
      simp only [List.filterMap_cons, Action.frame?, List.length_cons]
      omega
    | _ => rfl

theorem device_run (l : Ledger) (actions : List (Action σ)) :
    (l.run actions).device = (l.device.run actions).2 := by
  induction actions generalizing l with
  | nil => rfl
  | cons a rest ih => exact ih (l.act a)

/-- What is kept stays kept while the point is usable in all framebuffers. -/
theorem Keeps.run (hk : l.Keeps m i p) (hm : l.device.Models m) (hcalls : i ≤ l.calls)
    (actions : List (Action σ)) (husable : ∀ fb ∈ actions.filterMap Action.frame?, p ∈ fb.usable) :
    (l.run actions).Keeps (m.run actions).2 i p := by
  induction actions generalizing l m with
  | nil => exact hk
  | cons a rest ih =>
    have hnext := (hm.act a).2
    cases hframe : a.frame? with
    | none =>
      have hrest : ∀ fb ∈ rest.filterMap Action.frame?, p ∈ fb.usable := by
        rwa [List.filterMap_cons_none hframe] at husable
      refine ih (hk.act hm hframe) hnext ?_ hrest
      show i ≤ if a.frame?.isSome then l.calls + 1 else l.calls
      split <;> omega
    | some fb =>
      rw [List.filterMap_cons_some hframe] at husable
      cases a with
      | submit fb' damage now meanwhile =>
        obtain rfl : fb' = fb := Option.some.inj hframe
        have hsubmit := Keeps.submit (σ := σ) hm damage (husable fb' List.mem_cons_self) hcalls
          (.inr hk) now meanwhile
        exact ih hsubmit hnext (Nat.le_succ_of_le hcalls)
          fun fb hfb => husable fb (List.mem_cons_of_mem _ hfb)
      | _ => cases hframe

/-- Of the damage of a submit no point is lost that is usable in its framebuffer and in those of all
later submits: it is pending, or a transfer that is not delivered carries it, or a rectangle that
was encoded at this submit or later has it and has been delivered. -/
theorem damage_kept {id socket : Nat} {config : Config} {line line' : σ} {d : Device}
    (h : Device.attach id socket config line = (.ok d, line')) (before after : List (Action σ))
    (fb : Framebuffer) {damage : Rect} (now : Duration) (meanwhile : List Scheduler.Event)
    (hp : p ∈ damage)
    (husable : ∀ fb' ∈ fb :: after.filterMap Action.frame?, p ∈ fb'.usable) :
    let actions := before ++ .submit fb damage now meanwhile :: after
    let reached := (d.run actions).2
    p ∈ reached.pending ∨
      (∃ i, p ∈ reached.inFlightDamage.get i ∧ reached.isUndelivered i = true) ∨
      ∃ s ∈ (Ledger.run { device := d } actions).delivered,
        (before.filterMap Action.frame?).length ≤ s.call ∧ p ∈ s.rect := by
  intro actions reached
  have hstart := Device.Models.of_attach h
  have hreached := (hstart.run actions).2
  have hkept : (Ledger.run { device := d } actions).Keeps
      (SingleTransfer.run { config := config } actions).2
        (before.filterMap Action.frame?).length p := by
    have hbefore := (hstart.run before).2
    rw [← device_run { device := d } before] at hbefore
    have hcalls : (before.filterMap Action.frame?).length ≤
        (Ledger.run { device := d } before).calls := by
      rw [calls_run]
      exact Nat.le_add_left ..
    have hsubmit := Keeps.submit (σ := σ) hbefore damage (husable fb List.mem_cons_self)
      hcalls (.inl hp) now meanwhile
    have hafter := hsubmit.run (hbefore.act (.submit fb damage now meanwhile : Action σ)).2
      (Nat.le_succ_of_le hcalls) after
      fun fb' hfb => husable fb' (List.mem_cons_of_mem _ hfb)
    rw [SingleTransfer.run_append, run, List.foldl_append]
    exact hafter
  -- what the machine keeps is found again in the two slots
  rcases hkept with hpending | ⟨hundelivered, hrect, -⟩ | hdelivered
  · exact .inl (by rwa [hreached.pending])
  · have hne : (SingleTransfer.run { config := config } actions).2.status ≠ .settled := by
      intro hsettled
      rw [hsettled] at hundelivered
      cases hundelivered
    refine .inr (.inl ⟨reached.active.other, ?_, ?_⟩)
    · rwa [hreached.damage hne]
    · rwa [Device.isUndelivered, hreached.progress_eq hne]
  · exact .inr (.inr hdelivered)

theorem damage_kept_oneColumn :
    ∃ d line, Device.attach 0 0 .oneColumn ({} : Adapter) = (.ok d, line) ∧
      let actions : List (Action Adapter) :=
        [.submit (.black 16 1) ⟨3, 0, 5, 1⟩ .zero [], .event (.first, .returned (.error .stall)),
          .submit (.black 16 1) .empty (.ofSeconds 1) [], .event (.second, .returned (.ok 48))]
      let reached := (d.run actions).2
      ⟨3, 0⟩ ∈ reached.pending ∨
        (∃ i, ⟨3, 0⟩ ∈ reached.inFlightDamage.get i ∧ reached.isUndelivered i = true) ∨
        ∃ s ∈ (Ledger.run { device := d } actions).delivered, 0 ≤ s.call ∧ ⟨3, 0⟩ ∈ s.rect := by
  obtain ⟨d, line, hattach⟩ := attach_oneColumn
  exact ⟨d, line, hattach, damage_kept hattach [] _ (.black 16 1) .zero [] (by decide) (by decide)⟩

/-- Coordinates end at 2147483647. Of a framebuffer that is wider, the column that the greatest
coordinate lies in is never shown, and damage there is dropped. -/
theorem damage_lost_at_maxCoordinate :
    ∃ d line, Device.attach 0 0 .oneColumn ({} : Adapter) = (.ok d, line) ∧
      let fb := Framebuffer.black 2147483648 1
      let damage : Rect := ⟨2147483632, 0, 2147483647, 1⟩
      let p : Point := ⟨2147483640, 0⟩
      let actions : List (Action Adapter) := [.submit fb damage .zero []]
      let reached := (d.run actions).2
      damage.Representable ∧ p ∈ damage ∧ p.x < (fb.width / 16 * 16 : Nat) ∧ p.y < fb.height ∧
        ¬ (p ∈ reached.pending ∨
          (∃ i, p ∈ reached.inFlightDamage.get i ∧ reached.isUndelivered i = true) ∨
          ∃ s ∈ (Ledger.run { device := d } actions).delivered, 0 ≤ s.call ∧ p ∈ s.rect) := by
  obtain ⟨d, line, hattach⟩ := attach_oneColumn
  refine ⟨d, line, hattach, ?_⟩
  intro fb damage p actions reached
  refine ⟨by decide, by decide, by decide, by decide, ?_⟩
  have hpending : reached.pending = Rect.empty := by
    cases hattach
    rfl
  have hdamage : reached.inFlightDamage = ⟨Rect.empty, Rect.empty⟩ := by
    cases hattach
    rfl
  have hdelivered : (Ledger.run { device := d } actions).delivered = [] := by
    cases hattach
    rfl
  have hnot : p ∉ Rect.empty := Rect.not_mem_of_isEmpty Rect.isEmpty_empty p
  rintro (hp | ⟨i, hp, -⟩ | ⟨s, hs, -⟩)
  · exact hnot (hpending ▸ hp)
  · rw [hdamage] at hp
    cases i <;> exact hnot hp
  · rw [hdelivered] at hs
    cases hs

end Ledger

end UsbDisplay
