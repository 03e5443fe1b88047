import UsbDisplay.Proofs.DeviceRuns

/-!
The packets of a display on their way. A packet is queued when its frame is sent, and some time
after that, but before its bulk call returns, the worker of its slot makes the bulk call. Frames go
to the slots in turn and at most one packet is queued, so the bulk calls come in the order of the
frames (`Traffic.run_attach`).
-/

namespace UsbDisplay

open Device (Action Answer)

/-- Whether the bulk call of a slot's transfer has not returned. -/
def Device.isRunning (d : Device) (i : SlotId) : Bool := (d.scheduler.slot i).packet?.isSome

/-- A display and what has happened on its line. -/
structure Traffic where
  device : Device
  answers : List Answer := []
  /-- The slot and the packet of every frame that was sent, in order. -/
  sent : List (SlotId × ByteArray) := []
  /-- The packets that bulk calls were made with, in order. -/
  calls : List ByteArray := []
  /-- The packet that the worker of a slot has not made its bulk call with. -/
  queued : PerSlot (Option ByteArray) := ⟨none, none⟩

namespace Traffic

/-- An action, or a worker makes its bulk call. -/
inductive Step (σ : Type) where
  | act (a : Action σ)
  | call (i : SlotId)

def Step.action? {σ : Type} : Step σ → Option (Action σ)
  | .act a => some a
  | .call _ => none

/-- The worker of a slot makes its bulk call, if it has one to make. -/
def call (t : Traffic) (i : SlotId) : Traffic :=
  { t with calls := t.calls ++ (t.queued.get i).toList, queued := t.queued.set i none }

/-- A bulk call that has returned was made. -/
def callReturned (t : Traffic) (after : Device) (i : SlotId) : Traffic :=
  if t.device.isRunning i && !after.isRunning i then t.call i else t

def callAllReturned (t : Traffic) (after : Device) : Traffic :=
  (t.callReturned after .first).callReturned after .second

/-- The packet in a slot goes to its worker. -/
def enqueue (t : Traffic) (i : SlotId) : Traffic :=
  let packet := (t.device.scheduler.slot i).packet?
  { t with
    sent := t.sent ++ (packet.map fun p => (i, p)).toList
    queued := t.queued.set i packet }

variable {σ : Type} [ControlTransport σ]

def act (t : Traffic) (a : Action σ) : Traffic :=
  let (answer, d) := t.device.act a
  let next := { t.callAllReturned d with device := d, answers := t.answers ++ [answer] }
  if answer.isSent then next.enqueue t.device.active else next

def step (t : Traffic) : Step σ → Traffic
  | .act a => t.act a
  | .call i => t.call i

def run (t : Traffic) (steps : List (Step σ)) : Traffic := steps.foldl step t

end Traffic

/-- A machine that has sent a frame waits for its transfer; else nothing new runs. -/
theorem SingleTransfer.act_sent {σ : Type} (m : SingleTransfer) (a : Action σ) :
    ((m.act a).1.isSent = true ∧ (m.act a).2.status = .running ∧
        ∃ packet, (m.act a).2.sent = m.sent ++ [packet]) ∨
      ((m.act a).1.isSent = false ∧ (m.act a).2.sent = m.sent) := by
  have hback : ∀ m : SingleTransfer, m.handBack.sent = m.sent := by
    intro m
    rw [handBack]
    split <;> rfl
  cases a with
  | submit fb damage now meanwhile =>
    refine submit_cases (P := fun r => (Answer.isSent (.frame r.1) = true ∧
      r.2.status = .running ∧ ∃ packet, r.2.sent = m.sent ++ [packet]) ∨
        (Answer.isSent (.frame r.1) = false ∧ r.2.sent = m.sent)) m fb damage now meanwhile
      ?throttled ?nothing ?dropped ?refused ?sent
    case throttled =>
      exact fun _ => .inr ⟨rfl, rfl⟩
    case nothing =>
      exact fun _ => .inr ⟨rfl, hback m⟩
    case dropped =>
      rintro - _ rfl -
      exact .inr ⟨rfl, sent_reactAll m _⟩
    case refused =>
      rintro - _ e rfl - -
      exact .inr ⟨rfl, (hback _).trans (sent_reactAll m _)⟩
    case sent =>
      rintro - _ rect header rfl - - -
      exact .inl ⟨rfl, rfl, _, rfl⟩
  | waitIdle meanwhile =>
    refine .inr ⟨rfl, ?_⟩
    simp only [act, waitIdle]
    split <;> simp
  | event e => exact .inr ⟨rfl, sent_reactAll m [e]⟩
  | cancel i => exact .inr ⟨rfl, rfl⟩
  | control c line => exact .inr ⟨rfl, rfl⟩

theorem Device.Models.isRunning {d : Device} {m : SingleTransfer} (h : d.Models m) :
    d.isRunning d.active = false ∧
      (d.isRunning d.active.other = true ↔ m.status = .running) := by
  obtain ⟨b, hb⟩ := h.idle
  constructor
  · rw [Device.isRunning, Slot.packet?, Slot.running?, hb]
    rfl
  · rw [Device.isRunning, Slot.packet?_isSome]
    rcases h.progress with hp | ⟨hp, hm, -⟩
    · rw [hp]
    · rw [hp, hm]
      decide

namespace Traffic

variable {t : Traffic} {m : SingleTransfer}

/-- The calls are those of the frames that were sent, less the one whose packet is queued, which is
that of the running transfer. -/
structure Ordered (t : Traffic) (m : SingleTransfer) : Prop where
  models : t.device.Models m
  packets : t.sent.map Prod.snd = m.sent
  slots : ∀ k (x : SlotId × ByteArray), t.sent[k]? = some x → x.1 = .ofIndex k
  answered : t.answers.countP Answer.isSent = t.sent.length
  called : m.sent = t.calls ++ (t.queued.get t.device.active.other).toList
  unqueued : t.queued.get t.device.active = none
  running : t.queued.get t.device.active.other ≠ none → m.status = .running

theorem Ordered.call (h : t.Ordered m) (i : SlotId) : (t.call i).Ordered m := by
  by_cases hi : i = t.device.active
  · have hcall : t.call i = t := by
      rw [Traffic.call, hi, h.unqueued, Option.toList_none, List.append_nil, ← h.unqueued,
        PerSlot.set_get]
    rw [hcall]
    exact h
  · obtain rfl : i = t.device.active.other := SlotId.eq_other_of_ne hi
    exact {
      models := h.models
      packets := h.packets
      slots := h.slots
      answered := h.answered
      called := by
        show m.sent = (t.calls ++ _) ++
          ((t.queued.set _ none).get t.device.active.other).toList
        rw [PerSlot.get_set_self, Option.toList_none, List.append_nil]
        exact h.called
      unqueued := by
        show (t.queued.set _ none).get t.device.active = none
        rw [PerSlot.get_set_of_ne _ (SlotId.other_ne _).symm, h.unqueued]
      running := fun hne => absurd (PerSlot.get_set_self ..) hne }

/-- Making calls changes neither the device nor what was answered and sent. -/
theorem callAllReturned_eq (t : Traffic) (after : Device) :
    ∃ calls queued, t.callAllReturned after = { t with calls := calls, queued := queued } := by
  have hone : ∀ (t : Traffic) i, ∃ calls queued,
      t.callReturned after i = { t with calls := calls, queued := queued } := by
    intro t i
    rw [callReturned]
    split
    · exact ⟨_, _, rfl⟩
    · exact ⟨t.calls, t.queued, rfl⟩
  obtain ⟨calls, queued, hfirst⟩ := hone t .first
  obtain ⟨calls', queued', hsecond⟩ := hone { t with calls := calls, queued := queued } .second
  exact ⟨calls', queued', by rw [callAllReturned, hfirst, hsecond]⟩

theorem Ordered.callReturned (h : t.Ordered m) (after : Device) (i : SlotId) :
    (t.callReturned after i).Ordered m := by
  rw [Traffic.callReturned]
  split
  · exact h.call i
  · exact h

theorem Ordered.callAllReturned (h : t.Ordered m) (after : Device) :
    (t.callAllReturned after).Ordered m :=
  (h.callReturned after .first).callReturned after .second

theorem Ordered.queued_callReturned (h : t.Ordered m) (after : Device) {i : SlotId}
    (hqueued : (t.callReturned after i).queued.get i ≠ none) : after.isRunning i = true := by
  cases hafter : after.isRunning i with
  | true => rfl
  | false =>
    -- a transfer that had still run would have had its call made
    have hrunning : t.device.isRunning i = false := by
      cases hbefore : t.device.isRunning i with
      | false => rfl
      | true =>
        refine absurd ?_ hqueued
        rw [Traffic.callReturned, hbefore, hafter]
        exact PerSlot.get_set_self ..
    have hsame : t.callReturned after i = t := by
      rw [Traffic.callReturned, hrunning]
      rfl
    rw [hsame] at hqueued
    have hother : i = t.device.active.other := by
      refine SlotId.eq_other_of_ne fun hi => hqueued ?_
      rw [hi, h.unqueued]
    rw [hother] at hqueued hrunning
    rw [h.models.isRunning.2.2 (h.running hqueued)] at hrunning
    cases hrunning

/-- When the returned calls are made, only a transfer that still runs can be queued. -/
theorem Ordered.queued_callAllReturned (h : t.Ordered m) (after : Device) {i : SlotId}
    (hqueued : (t.callAllReturned after).queued.get i ≠ none) : after.isRunning i = true := by
  cases i with
  | second => exact (h.callReturned after .first).queued_callReturned after hqueued
  | first =>
    refine h.queued_callReturned after fun hnone => hqueued ?_
    rw [Traffic.callAllReturned, Traffic.callReturned.eq_1 _ after .second]
    split
    · exact hnone
    · exact hnone

variable {σ : Type} [ControlTransport σ]

/-- An action that sends no frame leaves the order as it is. -/
theorem Ordered.unsent (h : t.Ordered m) {d : Device} {next : SingleTransfer} {answer : Answer}
    (hmodels : d.Models next) (hsent : answer.isSent = false) (hpackets : next.sent = m.sent)
    (hrunning : t.queued.get d.active.other ≠ none → next.status = .running) :
    { t with device := d, answers := t.answers ++ [answer] }.Ordered next := by
  have hactive : d.active = t.device.active := by
    rw [hmodels.active, SingleTransfer.nextSlot, hpackets, h.models.active]
    rfl
  exact {
    models := hmodels
    packets := h.packets.trans hpackets.symm
    slots := h.slots
    answered := by
      rw [List.countP_append, h.answered, List.countP_singleton, if_neg (by rw [hsent]; decide)]
      rfl
    called := by
      show next.sent = t.calls ++ (t.queued.get d.active.other).toList
      rw [hactive, hpackets]
      exact h.called
    unqueued := by
      show t.queued.get d.active = none
      rw [hactive]
      exact h.unqueued
    running := hrunning }

/-- A frame is queued behind the calls of all frames before it. -/
theorem Ordered.enqueue (h : t.Ordered m) {d : Device} {next : SingleTransfer} {answer : Answer}
    (hmodels : d.Models next) (hsent : answer.isSent = true) {packet : ByteArray}
    (hpackets : next.sent = m.sent ++ [packet]) (hrunning : next.status = .running)
    (hnone : t.queued.get d.active = none) :
    ({ t with device := d, answers := t.answers ++ [answer] }.enqueue
      t.device.active).Ordered next := by
  have hactive : d.active = t.device.active.other := by
    rw [hmodels.active, SingleTransfer.nextSlot, hpackets, h.models.active, List.length_append,
      List.length_singleton, SlotId.ofIndex_succ]
    rfl
  have hother : d.active.other = t.device.active := by rw [hactive, SlotId.other_other]
  have hpacket : (d.scheduler.slot t.device.active).packet? = some packet := by
    rw [← hother, hmodels.packet hrunning, hpackets, List.getLast?_concat]
  have hlength : t.sent.length = m.sent.length := by rw [← h.packets, List.length_map]
  simp only [Traffic.enqueue, hpacket, Option.map_some, Option.toList_some]
  exact {
    models := hmodels
    packets := by rw [hpackets, List.map_append, h.packets]; rfl
    slots := by
      intro k x hx
      rw [List.getElem?_append] at hx
      split at hx
      · exact h.slots k x hx
      next hk =>
        -- the only index behind the earlier frames is the new one
        have hlast : k - t.sent.length = 0 := by
          cases hk' : k - t.sent.length with
          | zero => rfl
          | succ n => rw [hk'] at hx; cases hx
        rw [hlast] at hx
        cases hx
        rw [h.models.active, show k = m.sent.length by omega]
        rfl
    answered := by
      rw [List.countP_append, h.answered, List.length_append, List.countP_singleton, if_pos hsent]
      rfl
    called := by
      have hcalled := h.called
      rw [← hactive, hnone, Option.toList_none, List.append_nil] at hcalled
      show next.sent =
        t.calls ++ ((t.queued.set t.device.active (some packet)).get d.active.other).toList
      rw [hother, PerSlot.get_set_self, hpackets, hcalled]
      rfl
    unqueued := by
      show (t.queued.set t.device.active (some packet)).get d.active = none
      rw [PerSlot.get_set_of_ne _ (by rw [hactive]; exact SlotId.other_ne _), hnone]
    running := fun _ => hrunning }

theorem Ordered.act (h : t.Ordered m) (a : Action σ) : (t.act a).Ordered (m.act a).2 := by
  obtain ⟨hanswer, hmodels⟩ := h.models.act a
  obtain ⟨calls, queued, hcalls⟩ := t.callAllReturned_eq (t.device.act a).2
  have hreturned := h.callAllReturned (t.device.act a).2
  have hqueued := fun i => h.queued_callAllReturned (t.device.act a).2 (i := i)
  rw [hcalls] at hreturned hqueued
  simp only [Traffic.act, hcalls]
  generalize t.device.act a = acted at *
  obtain ⟨answer, d⟩ := acted
  simp only at hanswer hmodels hqueued ⊢
  rcases m.act_sent a with ⟨hsent, hrunning, packet, hpackets⟩ | ⟨hsent, hpackets⟩
  · rw [hanswer, if_pos hsent]
    have hnone : queued.get d.active = none := by
      cases hget : queued.get d.active with
      | none => rfl
      | some p =>
        have hrun := hqueued d.active (by rw [hget]; exact Option.some_ne_none p)
        rw [hmodels.isRunning.1] at hrun
        cases hrun
    exact hreturned.enqueue hmodels hsent hpackets hrunning hnone
  · rw [hanswer, if_neg (by rw [hsent]; decide)]
    exact hreturned.unsent hmodels hsent hpackets fun hne => hmodels.isRunning.2.1 (hqueued _ hne)

theorem answers_act (t : Traffic) (a : Action σ) :
    (t.act a).answers = t.answers ++ [(t.device.act a).1] := by
  obtain ⟨calls, queued, hcalls⟩ := t.callAllReturned_eq (t.device.act a).2
  simp only [act, hcalls, enqueue]
  split <;> rfl

theorem device_act (t : Traffic) (a : Action σ) : (t.act a).device = (t.device.act a).2 := by
  obtain ⟨calls, queued, hcalls⟩ := t.callAllReturned_eq (t.device.act a).2
  simp only [act, hcalls, enqueue]
  split <;> rfl

theorem device_run (t : Traffic) (steps : List (Step σ)) :
    (t.run steps).device = (t.device.run (steps.filterMap Step.action?)).2 := by
  induction steps generalizing t with
  | nil => rfl
  | cons s rest ih =>
    cases s with
    | call i => exact ih (t.call i)
    | act a =>
      refine (ih (t.act a)).trans ?_
      rw [device_act]
      rfl

/-- A run with its bulk calls is a run of the machine, and the calls stay in order. -/
theorem Ordered.run (h : t.Ordered m) (steps : List (Step σ)) :
    (t.run steps).answers = t.answers ++ (m.run (steps.filterMap Step.action?)).1 ∧
      (t.run steps).Ordered (m.run (steps.filterMap Step.action?)).2 := by
  induction steps generalizing t m with
  | nil => exact ⟨(List.append_nil _).symm, h⟩
  | cons s rest ih =>
    cases s with
    | call i => exact ih (h.call i)
    | act a =>
      obtain ⟨hanswers, hrest⟩ := ih (h.act a)
      refine ⟨hanswers.trans ?_, hrest⟩
      rw [answers_act, (h.models.act a).1, List.append_assoc]
      rfl

end Traffic

end UsbDisplay
