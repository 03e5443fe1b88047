import UsbDisplay.Proofs.SlotRuns

/-!
A slot and what is behind it stay in step. The worker has a job exactly while the slot has a running
transfer, and the latest story is that of this transfer; a slot that has its buffer has seen the
outcome of the latest story (`Slot.Fits`). Whatever the owner and the worker do, this stays so
(`SlotStage.Sound.run`).
-/

namespace UsbDisplay

/-! ### The slot fits what is behind it -/

/-- A story is that of the running transfer: it is the latest, nothing has come back, the buffer is
the one that was handed over, and the worker sends its packet. -/
structure Backstage.Underway (b : Backstage) (t : Transfer) (story : Story) : Prop where
  latest : b.latest? = some story
  result : story.result? = none
  buffer : story.buffer = t.buffer
  asked : story.asked.head? = t.token.reason?
  worker : ∃ job, job.packet = story.packet ∧
    (b.worker = .given (b.stories.length - 1) job ∨ b.worker = .calling (b.stories.length - 1) job)

/-- A slot shows the outcome of the latest story, and there is one, unless there is no story. -/
structure Slot.Shows (s : Slot) (b : Backstage) : Prop where
  last : s.lastOutcome = b.latest?.bind Story.outcome?
  told : ∀ story, b.latest? = some story → story.outcome?.isSome = true

/-- How a slot and what is behind it go together, wherever the buffer is. -/
inductive Slot.Fits (s : Slot) (b : Backstage) : Prop where
  | idle {buffer : TransferBuffer} (state : s.state = .idle buffer) (worker : b.worker = .waiting)
    (shows : s.Shows b)
  | running {t : Transfer} {story : Story} (state : s.state = .running t)
    (underway : b.Underway t story) (last : s.lastOutcome = none)
  | ended {buffer : TransferBuffer} {outcome : Outcome} {token : CancelToken} {story : Story}
    (state : s.state = .ended buffer outcome token) (worker : b.worker = .waiting)
    (latest : b.latest? = some story) (returned : story.buffer = buffer)
    (outcome : story.outcome? = some outcome) (last : s.lastOutcome = none)
  | lost {token : CancelToken} (state : s.state = .lost token) (worker : b.worker = .gone)
    (last : s.lastOutcome = none)
  | released (state : s.state = .released) (worker : b.worker = .waiting)
    (shows : s.Shows b)

/-- Behind a slot nothing is new but that the latest transfer was asked to stop. -/
structure Backstage.Asked (b b' : Backstage) (reason : CancelReason) : Prop where
  worker : b'.worker = b.worker
  length : b'.stories.length = b.stories.length
  latest : b'.latest? = b.latest?.map (·.ask reason)

namespace Backstage

variable {b b' : Backstage} {reason : CancelReason}

/-- A cancel asks the latest transfer, if there is one. -/
theorem asked_ask (b : Backstage) : b.Asked b.ask .requested := by
  refine ⟨rfl, List.length_modify .., ?_⟩
  rw [latest?, ask, getLast?_modify]
  split
  · rfl
  next h =>
    have hnil : b.stories = [] := List.length_eq_zero_iff.1 (by omega)
    rw [latest?, hnil]
    rfl

theorem underway_give (b : Backstage) (t : Transfer) (h : t.token = .fresh) :
    (b.give t.buffer t.length t).Underway t { buffer := t.buffer, length := t.length } := by
  have hlength : (b.give t.buffer t.length t).stories.length = b.stories.length + 1 :=
    List.length_append
  refine ⟨List.getLast?_concat, rfl, rfl, ?_, t, rfl, .inl ?_⟩
  · rw [h]
    rfl
  · rw [hlength]
    rfl

theorem Underway.getLast?_modify_latest {t : Transfer} {story : Story} (h : b.Underway t story)
    (f : Story → Story) :
    (b.stories.modify (b.stories.length - 1) f).getLast? = some (f story) := by
  have hlatest := h.latest
  rw [latest?] at hlatest
  have hne : b.stories ≠ [] := by
    rintro hnil
    rw [hnil] at hlatest
    cases hlatest
  have hpos := List.length_pos_iff.2 hne
  rw [getLast?_modify, if_pos (by omega), hlatest]
  rfl

theorem Asked.shows (h : b.Asked b' reason) {s : Slot} (hshows : s.Shows b) : s.Shows b' where
  last := by
    rw [hshows.last, h.latest]
    cases b.latest? with
    | none => rfl
    | some story => exact (story.outcome?_ask reason).symm
  told asked hasked := by
    rw [h.latest] at hasked
    obtain ⟨story, hstory, rfl⟩ := Option.map_eq_some_iff.1 hasked
    rw [Story.outcome?_ask]
    exact hshows.told story hstory

theorem Asked.underway (h : b.Asked b' reason) {t : Transfer} {story : Story}
    (hstory : b.Underway t story) :
    b'.Underway { t with token := (t.token.cancel reason).2 } (story.ask reason) := by
  obtain ⟨job, hpacket, hworker⟩ := hstory.worker
  refine ⟨?_, ?_, ?_, Story.head?_asked_ask hstory.result hstory.asked reason, job, ?_, ?_⟩
  · rw [h.latest, hstory.latest]
    rfl
  · rw [Story.result?_ask]
    exact hstory.result
  · rw [Story.buffer_ask]
    exact hstory.buffer
  · rw [Story.packet_ask]
    exact hpacket
  · rw [h.worker, h.length]
    exact hworker

end Backstage

namespace Slot

/-- Asks the transfer of a slot to stop, as its deadline or its owner does. -/
def ask (s : Slot) : CancelReason → Slot
  | .deadline => s.react .deadline
  | .requested => s.cancel.2

@[simp] theorem lastOutcome_ask (s : Slot) (reason : CancelReason) :
    (s.ask reason).lastOutcome = s.lastOutcome := by
  rcases s with ⟨_, _ | _ | _ | _ | _, _, _, _⟩ <;> cases reason <;> rfl

/-- Without a running transfer nothing that happens is noticed. -/
theorem reactAll_of_not_running {s : Slot} (h : s.running? = none) (events : List Event) :
    s.reactAll events = s := by
  induction events with
  | nil => rfl
  | cons e rest ih =>
    have hself : s.react e = s := by
      rcases s with ⟨_, _ | _ | _ | _ | _, _, _, _⟩ <;> first | rfl | cases h
    rw [reactAll, List.foldl_cons, hself]
    exact ih

theorem shutdown_of_found {s : Slot} (h : s.poll.1 = true) (meanwhile : Slot → List Event) :
    s.shutdown meanwhile = s.poll.2.release := by
  rw [shutdown]
  generalize s.poll = polled at *
  obtain ⟨_ | _, s'⟩ := polled
  · cases h
  · rfl

theorem shutdown_of_not_found {s : Slot} (h : s.poll.1 = false) (meanwhile : Slot → List Event) :
    s.shutdown meanwhile = (s.poll.2.cancel.2.wait meanwhile).2.release := by
  rw [shutdown]
  generalize s.poll = polled at *
  obtain ⟨_ | _, s'⟩ := polled
  · rfl
  · cases h

namespace Fits

variable {s : Slot} {b b' : Backstage}

theorem ask {reason : CancelReason} (h : s.Fits b) (hasked : b.Asked b' reason) :
    (s.ask reason).Fits b' := by
  have hlast' := s.lastOutcome_ask reason
  cases h with
  | idle hstate hworker hshows =>
    have hself : s.ask reason = s := by
      cases reason <;> simp only [Slot.ask, react, cancel, hstate]
    rw [hself]
    exact .idle hstate (hasked.worker.trans hworker) (hasked.shows hshows)
  | running hstate hunderway hlast =>
    refine .running ?_ (hasked.underway hunderway) (hlast'.trans hlast)
    cases reason <;> simp only [Slot.ask, react, cancel, hstate]
  | @ended buffer outcome token story hstate hworker hlatest hreturned houtcome hlast =>
    obtain ⟨token', hstate'⟩ : ∃ token', (s.ask reason).state = .ended buffer outcome token' := by
      cases reason <;> simp [Slot.ask, react, cancel, hstate]
    have hlatest' : b'.latest? = some (story.ask reason) := by
      rw [hasked.latest, hlatest]
      rfl
    refine .ended hstate' (hasked.worker.trans hworker) hlatest' ?_ ?_ (hlast'.trans hlast)
    · rw [Story.buffer_ask]
      exact hreturned
    · rw [Story.outcome?_ask]
      exact houtcome
  | lost hstate hworker hlast =>
    obtain ⟨token', hstate'⟩ : ∃ token', (s.ask reason).state = .lost token' := by
      cases reason <;> simp [Slot.ask, react, cancel, hstate]
    exact .lost hstate' (hasked.worker.trans hworker) (hlast'.trans hlast)
  | released hstate hworker hshows =>
    have hself : s.ask reason = s := by
      cases reason <;> simp only [Slot.ask, react, cancel, hstate]
    rw [hself]
    exact .released hstate (hasked.worker.trans hworker) (hasked.shows hshows)

/-- Nothing that the slot could notice has happened behind it. -/
theorem of_latest (h : s.Fits b) (hworker : b'.worker = b.worker)
    (hlength : b'.stories.length = b.stories.length) (hlatest : b'.latest? = b.latest?) :
    s.Fits b' := by
  cases h with
  | idle hstate hw hshows =>
    exact .idle hstate (hworker.trans hw) ⟨hlatest ▸ hshows.last, hlatest ▸ hshows.told⟩
  | running hstate hunderway hlast =>
    obtain ⟨job, hpacket, hw⟩ := hunderway.worker
    refine .running hstate ⟨hlatest.trans hunderway.latest, hunderway.result, hunderway.buffer,
      hunderway.asked, job, hpacket, ?_⟩ hlast
    rw [hworker, hlength]
    exact hw
  | ended hstate hw hl hreturned houtcome hlast =>
    exact .ended hstate (hworker.trans hw) (hlatest.trans hl) hreturned houtcome hlast
  | lost hstate hw hlast => exact .lost hstate (hworker.trans hw) hlast
  | released hstate hw hshows =>
    exact .released hstate (hworker.trans hw) ⟨hlatest ▸ hshows.last, hlatest ▸ hshows.told⟩

theorem of_idle (h : s.Fits b) {buffer : TransferBuffer} (hidle : s.state = .idle buffer) :
    b.worker = .waiting ∧ s.Shows b := by
  cases h with
  | idle _ hworker hshows => exact ⟨hworker, hshows⟩
  | running hstate _ _ => cases hidle.symm.trans hstate
  | ended hstate _ _ _ _ _ => cases hidle.symm.trans hstate
  | lost hstate _ _ => cases hidle.symm.trans hstate
  | released hstate _ _ => cases hidle.symm.trans hstate

/-- A worker with a job works for the transfer that the slot has running. -/
theorem underway (h : s.Fits b) (hwaiting : b.worker ≠ .waiting) (hgone : b.worker ≠ .gone) :
    ∃ t story, s.state = .running t ∧ b.Underway t story ∧ s.lastOutcome = none := by
  cases h with
  | running hstate hunderway hlast => exact ⟨_, _, hstate, hunderway, hlast⟩
  | idle _ hworker _ => exact absurd hworker hwaiting
  | ended _ hworker _ _ _ _ => exact absurd hworker hwaiting
  | lost _ hworker _ => exact absurd hworker hgone
  | released _ hworker _ => exact absurd hworker hwaiting

theorem of_calling (h : s.Fits b) {number : Nat} {job : Transfer}
    (hw : b.worker = .calling number job) :
    ∃ t story, s.state = .running t ∧ b.Underway t story ∧ s.lastOutcome = none ∧
      number = b.stories.length - 1 := by
  obtain ⟨t, story, hstate, hunderway, hlast⟩ := h.underway (by rw [hw]; nofun) (by rw [hw]; nofun)
  obtain ⟨job', -, hw' | hw'⟩ := hunderway.worker
  · cases hw.symm.trans hw'
  · cases hw.symm.trans hw'
    exact ⟨t, story, hstate, hunderway, hlast, rfl⟩

theorem of_given (h : s.Fits b) {number : Nat} {job : Transfer}
    (hw : b.worker = .given number job) :
    ∃ t story, s.state = .running t ∧ b.Underway t story ∧ s.lastOutcome = none ∧
      job.packet = story.packet ∧ number = b.stories.length - 1 := by
  obtain ⟨t, story, hstate, hunderway, hlast⟩ := h.underway (by rw [hw]; nofun) (by rw [hw]; nofun)
  obtain ⟨job', hpacket, hw' | hw'⟩ := hunderway.worker
  · cases hw.symm.trans hw'
    exact ⟨t, story, hstate, hunderway, hlast, hpacket, rfl⟩
  · cases hw.symm.trans hw'

/-- The slot has changed in nothing that matters to what is behind it. -/
theorem of_state (h : s.Fits b) {s' : Slot} (hstate : s'.state = s.state)
    (hlast : s'.lastOutcome = s.lastOutcome) : s'.Fits b := by
  cases h with
  | idle hs hworker hshows =>
    exact .idle (hstate.trans hs) hworker ⟨hlast.trans hshows.last, hshows.told⟩
  | running hs hunderway hnone => exact .running (hstate.trans hs) hunderway (hlast.trans hnone)
  | ended hs hworker hlatest hreturned houtcome hnone =>
    exact .ended (hstate.trans hs) hworker hlatest hreturned houtcome (hlast.trans hnone)
  | lost hs hworker hnone => exact .lost (hstate.trans hs) hworker (hlast.trans hnone)
  | released hs hworker hshows =>
    exact .released (hstate.trans hs) hworker ⟨hlast.trans hshows.last, hshows.told⟩

theorem move (h : s.Fits b) (m : Move) :
    (s.reactAll (b.move m).1.toList).Fits (b.move m).2 := by
  cases m with
  | call =>
    rw [Backstage.move]
    split
    next number job hw =>
      obtain ⟨t, story, hstate, hunderway, hlast, hpacket, rfl⟩ := h.of_given hw
      exact .running hstate ⟨hunderway.latest, hunderway.result, hunderway.buffer, hunderway.asked,
        job, hpacket, .inr rfl⟩ hlast
    next => exact h
  | returned result =>
    rw [Backstage.move]
    split
    next number job hw =>
      obtain ⟨t, story, hstate, hunderway, hlast, rfl⟩ := h.of_calling hw
      simp only [Option.toList_some, reactAll, List.foldl_cons, List.foldl_nil, react, hstate]
      -- the token has recorded the reason that comes first in the story
      exact .ended rfl rfl (hunderway.getLast?_modify_latest (·.finish result)) hunderway.buffer
        (Story.outcome?_finish hunderway.asked result) hlast
    next => exact h
  | died =>
    rw [Backstage.move]
    split
    next number job hw =>
      obtain ⟨t, story, hstate, hunderway, hlast, rfl⟩ := h.of_calling hw
      simp only [Option.toList_some, reactAll, List.foldl_cons, List.foldl_nil, react, hstate]
      exact .lost rfl rfl hlast
    next => exact h
  | deadline number =>
    have hlatest := Backstage.getLast?_modify b.stories number (·.ask .deadline)
    rw [Backstage.move]
    -- the deadline of an earlier transfer has a token that the slot does not have any more
    split
    next heq =>
      rw [if_pos heq] at hlatest
      have hasked : b.Asked { b with stories := b.stories.modify number (·.ask .deadline) }
          .deadline := ⟨rfl, List.length_modify .., hlatest⟩
      exact h.ask hasked
    next hne =>
      rw [if_neg hne] at hlatest
      exact h.of_latest rfl (List.length_modify ..) hlatest

theorem play (h : s.Fits b) (moves : List Move) :
    (s.reactAll (b.play moves).1).Fits (b.play moves).2 := by
  induction moves generalizing s b with
  | nil => exact h
  | cons m rest ih =>
    rw [Backstage.play, reactAll, List.foldl_append]
    exact ih (h.move m)

/-- An owner that looks takes back what has come back, and then sees the outcome. -/
theorem poll (h : s.Fits b) : s.poll.2.Fits b := by
  rw [Slot.poll]
  split
  next => exact h
  next => exact h
  next buffer outcome token hended =>
    cases h with
    | @ended _ _ _ story hstate hworker hlatest _ houtcome _ =>
      cases hended.symm.trans hstate
      refine .idle rfl hworker ⟨?_, fun story' hstory' => ?_⟩
      · rw [hlatest]
        exact houtcome.symm
      · cases hlatest.symm.trans hstory'
        rw [houtcome]
        rfl
    | idle hstate _ _ => cases hended.symm.trans hstate
    | running hstate _ _ => cases hended.symm.trans hstate
    | lost hstate _ _ => cases hended.symm.trans hstate
    | released hstate _ _ => cases hended.symm.trans hstate
  next => exact h.of_state rfl rfl
  next => exact h.of_state rfl rfl

theorem wait (h : s.Fits b) (moves : List Move) :
    (s.wait fun _ => (b.play moves).1).2.Fits (b.play moves).2 := (h.play moves).poll

theorem cancel (h : s.Fits b) : s.cancel.2.Fits b.ask := h.ask b.asked_ask

theorem release (h : s.Fits b) : s.release.2.Fits b := by
  rw [Slot.release]
  split
  next buffer hidle =>
    obtain ⟨hworker, hshows⟩ := h.of_idle hidle
    exact .released rfl hworker ⟨hshows.last, hshows.told⟩
  next => exact h.of_state rfl rfl

/-- A shutdown that finds the buffer does not wait, and what happens then is not noticed. -/
theorem shutdown (h : s.Fits b) (moves : List Move) :
    (s.shutdown fun _ => (b.ask.play moves).1).2.Fits (b.ask.play moves).2 := by
  cases hfound : s.poll.1 with
  | true =>
    obtain ⟨buffer, hstate⟩ := idle_of_poll (s := s) (by simpa using hfound)
    -- an idle slot takes no notice of the cancel and of the moves, so they can be put before
    have hplayed := h.poll.cancel.play moves
    rw [cancel_of_idle hstate, reactAll_of_not_running (by rw [running?, hstate])] at hplayed
    rw [shutdown_of_found hfound]
    exact hplayed.release
  | false =>
    rw [shutdown_of_not_found hfound]
    exact (h.poll.cancel.wait moves).release

theorem putBuffer (h : s.Fits b) (buffer : TransferBuffer) : (s.putBuffer buffer).Fits b := by
  rw [Slot.putBuffer]
  split
  next old hidle =>
    obtain ⟨hworker, hshows⟩ := h.of_idle hidle
    exact .idle rfl hworker ⟨hshows.last, hshows.told⟩
  next => exact h

end Fits

/-! ### Submits, and what keeps a slot open -/

/-- An accepted submit starts a transfer that was asked nothing, and forgets the last outcome. -/
theorem of_submit {s s' : Slot} {length : Nat} (h : s.submit length = .ok s') :
    ∃ (buffer : TransferBuffer) (hle : length ≤ buffer.capacity),
      s.state = .idle buffer ∧ s.isOpen = true ∧
        s' = { s with
          state := .running { buffer := buffer, length := length, length_le_capacity := hle }
          lastOutcome := none } := by
  rw [submit] at h
  split at h
  next buffer hstate =>
    split at h
    next hle =>
      split at h
      next hopen =>
        cases h
        exact ⟨buffer, hle, hstate, hopen, rfl⟩
      next => cases h
    next => cases h
  next => cases h

/-- The slot is as open as before, and its buffer is given up only if it was so before. -/
structure Keeps (s s' : Slot) : Prop where
  isOpen : s'.isOpen = s.isOpen
  released : s'.state = .released → s.state = .released

namespace Keeps

variable {s s' s'' : Slot}

theorem refl (s : Slot) : s.Keeps s := ⟨rfl, id⟩

theorem trans (h : s.Keeps s') (h' : s'.Keeps s'') : s.Keeps s'' :=
  ⟨h'.isOpen.trans h.isOpen, h.released ∘ h'.released⟩

end Keeps

theorem keeps_react (s : Slot) (e : Event) : s.Keeps (s.react e) := by
  rcases s with ⟨_, _ | _ | _ | _ | _, _, _, _⟩ <;> cases e <;> exact ⟨rfl, fun h => by cases h <;> rfl⟩

theorem keeps_reactAll (s : Slot) (events : List Event) : s.Keeps (s.reactAll events) := by
  induction events generalizing s with
  | nil => exact .refl s
  | cons e rest ih => exact (s.keeps_react e).trans (ih _)

theorem keeps_poll (s : Slot) : s.Keeps s.poll.2 := by
  rcases s with ⟨_, _ | _ | _ | _ | _, _, _, _⟩ <;> exact ⟨rfl, fun h => by cases h <;> rfl⟩

theorem keeps_cancel (s : Slot) : s.Keeps s.cancel.2 := by
  rcases s with ⟨_, _ | _ | _ | _ | _, _, _, _⟩ <;> exact ⟨rfl, fun h => by cases h <;> rfl⟩

theorem keeps_putBuffer (s : Slot) (buffer : TransferBuffer) : s.Keeps (s.putBuffer buffer) := by
  rcases s with ⟨_, _ | _ | _ | _ | _, _, _, _⟩ <;> exact ⟨rfl, fun h => by cases h <;> rfl⟩

theorem isOpen_shutdown (s : Slot) (meanwhile : Slot → List Event) :
    (s.shutdown meanwhile).2.isOpen = false := by
  have hrelease : ∀ s : Slot, s.release.2.isOpen = false := by
    rintro ⟨_, _ | _ | _ | _ | _, _, _, _⟩ <;> rfl
  rw [shutdown]
  split <;> exact hrelease _

end Slot

namespace SlotStage

/-- What holds of a slot and what is behind it throughout a run. -/
structure Sound (p : SlotStage) : Prop where
  fits : p.slot.Fits p.behind
  due : p.behind.due = p.behind.packets
  isOpen : p.slot.isOpen = !p.isShut
  kept : p.isShut = false → p.slot.state ≠ .released

namespace Sound

variable {p : SlotStage}

theorem due_of_handed (h : p.Sound) {behind : Backstage} (hdue : behind.due = p.behind.due)
    (hhanded : behind.handed = p.behind.handed) : behind.due = behind.packets := by
  rw [hdue, h.due, Backstage.packets, Backstage.packets, hhanded]

/-- The owner and the worker go on, and the way between them stays as it is. -/
theorem keep (h : p.Sound) {slot : Slot} {behind : Backstage} (hfits : slot.Fits behind)
    (hkeeps : p.slot.Keeps slot) (hdue : behind.due = p.behind.due)
    (hhanded : behind.handed = p.behind.handed) :
    Sound { p with slot := slot, behind := behind } where
  fits := hfits
  due := h.due_of_handed hdue hhanded
  isOpen := hkeeps.isOpen.trans h.isOpen
  kept hshut hstate := h.kept hshut (hkeeps.released hstate)

theorem submit (h : p.Sound) (length : Nat) : (p.act (.submit length)).Sound := by
  rw [act]
  split
  · exact h
  next slot hsubmit =>
    obtain ⟨buffer, hle, hstate, -, rfl⟩ := Slot.of_submit hsubmit
    have hbuffer : p.slot.buffer? = some buffer := by rw [Slot.buffer?, hstate]
    -- a slot that has its buffer has a worker that waits, so no earlier packet is still due
    have hwaiting := (h.fits.of_idle hstate).1
    simp only [hbuffer, Slot.running?]
    exact ⟨.running rfl (p.behind.underway_give _ rfl) rfl,
      Backstage.due_give hwaiting h.due _, h.isOpen, fun _ hreleased => by cases hreleased⟩

theorem act (h : p.Sound) (a : Action) : (p.act a).Sound := by
  cases a with
  | change f =>
    rw [SlotStage.act, Slot.change]
    split
    · exact h
    · exact h.keep (h.fits.putBuffer _) (p.slot.keeps_putBuffer _) rfl rfl
  | encode fb r =>
    rw [SlotStage.act, Slot.encode_eq]
    split
    · exact h
    split
    · exact h
    · exact h.keep (h.fits.putBuffer _) (p.slot.keeps_putBuffer _) rfl rfl
  | submit length => exact h.submit length
  | poll => exact h.keep h.fits.poll p.slot.keeps_poll rfl rfl
  | wait meanwhile =>
    obtain ⟨hdue, hhanded⟩ := p.behind.due_play meanwhile
    exact h.keep (h.fits.wait meanwhile) ((p.slot.keeps_reactAll _).trans (Slot.keeps_poll _)) hdue
      hhanded
  | cancel => exact h.keep h.fits.cancel p.slot.keeps_cancel rfl p.behind.handed_ask
  | shutdown meanwhile =>
    obtain ⟨hdue, hhanded⟩ := p.behind.ask.due_play meanwhile
    have hsame := h.due_of_handed hdue (hhanded.trans p.behind.handed_ask)
    exact ⟨h.fits.shutdown meanwhile, hsame, p.slot.isOpen_shutdown _, fun hopen => by cases hopen⟩
  | move m =>
    obtain ⟨hdue, hhanded⟩ := p.behind.due_play [m]
    exact h.keep (h.fits.play [m]) (p.slot.keeps_reactAll _) hdue hhanded

theorem run (h : p.Sound) (actions : List Action) : (p.run actions).Sound := by
  induction actions generalizing p with
  | nil => exact h
  | cons a rest ih => exact ih (h.act a)

/-- A slot that has just been created. -/
theorem of_create {index : Nat} {config : Config} {s : Slot}
    (h : Slot.create index config = .ok s) : Sound { slot := s } := by
  obtain ⟨hsound, ⟨buffer, hstate⟩, hlast⟩ := Slot.sound_of_create h
  refine ⟨.idle hstate rfl ⟨hlast, nofun⟩, rfl, hsound.isOpen, fun _ hreleased => ?_⟩
  cases hstate.symm.trans hreleased

end Sound

end SlotStage

end UsbDisplay
