import UsbDisplay.Proofs.BufferOwnership
import UsbDisplay.Proofs.TwoSlots

/-!
A slot after its shutdown. Nothing is handed to the worker any more, so what is sent was handed over
before, and every submit is refused. A shutdown that waits in vain leaves the transfer to its
worker; if that comes back after all, its buffer is taken back at most once, and stays unused
(`SlotStage.shutdown_is_final`).
-/

namespace UsbDisplay

/-! ### The latest transfer -/

/-- The outcome of a transfer that fails when it was asked to stop for this reason. -/
def CancelReason.outcome : CancelReason → Outcome
  | deadline => .timedOut
  | requested => .cancelled

theorem Story.outcome?_of_asked {t : Story} {cause : TransportError} {reason : CancelReason}
    (hresult : t.result? = some (.error cause)) (hasked : t.asked.head? = some reason) :
    t.outcome? = some reason.outcome := by
  rw [outcome?, hresult]
  simp only [hasked]
  cases reason <;> rfl

theorem Story.result?_of_outcome {t : Story} (h : t.outcome?.isSome = true) :
    t.result?.isSome = true := by
  rw [outcome?] at h
  split at h
  · cases h
  next heq => rw [heq]; rfl
  next heq => rw [heq]; rfl

namespace Backstage

/-- The call of the latest transfer has returned. -/
def HasReturned (b : Backstage) : Prop :=
  ∃ story, b.latest? = some story ∧ story.result?.isSome = true

/-- The latest transfer was asked to stop, and this was the first reason. -/
def FirstAsked (b : Backstage) (reason : CancelReason) : Prop :=
  ∃ story, b.latest? = some story ∧ story.asked.head? = some reason

/-- What a move can change of the latest story. -/
theorem latest?_move (b : Backstage) (m : Move) :
    (b.move m).2.latest? = b.latest? ∨
      (b.move m).2.latest? = b.latest?.map (·.ask .deadline) ∨
      ∃ result, m = .returned result ∧
        (b.move m).2.latest? = b.latest?.map (·.finish result) := by
  cases m with
  | call =>
    rw [move]
    split <;> exact .inl rfl
  | returned result =>
    rw [move]
    split
    next number job _ =>
      have hlatest := getLast?_modify b.stories number (·.finish result)
      split at hlatest
      · exact .inr (.inr ⟨result, rfl, hlatest⟩)
      · exact .inl hlatest
    next => exact .inl rfl
  | died =>
    rw [move]
    split <;> exact .inl rfl
  | deadline number =>
    have hlatest := getLast?_modify b.stories number (·.ask .deadline)
    split at hlatest
    · exact .inr (.inl hlatest)
    · exact .inl hlatest

variable {b : Backstage} {reason : CancelReason}

/-- What deadlines and an end keep of the latest story holds however the play goes on. -/
theorem exists_latest_play {P : Story → Prop} (ask : ∀ story, P story → P (story.ask .deadline))
    (finish : ∀ story result, P story → P (story.finish result))
    (h : ∃ story, b.latest? = some story ∧ P story) (moves : List Move) :
    ∃ story, (b.play moves).2.latest? = some story ∧ P story := by
  induction moves generalizing b with
  | nil => exact h
  | cons m rest ih =>
    refine ih ?_
    obtain ⟨story, hlatest, hstory⟩ := h
    rcases b.latest?_move m with hsame | hasked | ⟨result, -, hfinished⟩
    · exact ⟨story, hsame.trans hlatest, hstory⟩
    · exact ⟨_, hasked.trans (congrArg _ hlatest), ask story hstory⟩
    · exact ⟨_, hfinished.trans (congrArg _ hlatest), finish story result hstory⟩

theorem hasReturned_ask_iff : b.ask.HasReturned ↔ b.HasReturned := by
  rw [HasReturned, HasReturned, b.asked_ask.latest]
  cases b.latest? with
  | none => simp
  | some story => simp

theorem HasReturned.play (h : b.HasReturned) (moves : List Move) : (b.play moves).2.HasReturned :=
  exists_latest_play (P := fun story => story.result?.isSome = true)
    (fun story hresult => by rwa [Story.result?_ask]) (fun _ _ _ => rfl) h moves

theorem head?_asked_ask {story : Story} (h : story.asked.head? = some reason)
    (later : CancelReason) : (story.ask later).asked.head? = some reason := by
  rw [Story.ask]
  split
  · rw [List.head?_append, h]
    rfl
  · exact h

theorem FirstAsked.ask (h : b.FirstAsked reason) : b.ask.FirstAsked reason := by
  obtain ⟨story, hlatest, hasked⟩ := h
  exact ⟨story.ask .requested, b.asked_ask.latest.trans (congrArg _ hlatest),
    head?_asked_ask hasked _⟩

/-- The first reason stays. -/
theorem FirstAsked.play (h : b.FirstAsked reason) (moves : List Move) :
    (b.play moves).2.FirstAsked reason :=
  exists_latest_play (P := fun story => story.asked.head? = some reason)
    (fun _ hasked => head?_asked_ask hasked _) (fun _ _ hasked => hasked) h moves

/-- A worker that has died has not returned from the call of its transfer. -/
def Unreturned (b : Backstage) : Prop := b.worker = .gone → ¬ b.HasReturned

theorem Unreturned.ask (h : b.Unreturned) : b.ask.Unreturned :=
  fun hworker hreturned => h hworker (hasReturned_ask_iff.1 hreturned)

end Backstage

/-- The transfer has ended, and the owner has not looked since. -/
def Slot.HasEnded (s : Slot) : Prop :=
  ∃ buffer outcome token, s.state = .ended buffer outcome token

namespace Slot.Fits

variable {s : Slot} {b : Backstage}

theorem unreturned_move (h : s.Fits b) (hgone : b.Unreturned) (m : Move) :
    (b.move m).2.Unreturned := by
  cases m with
  | call =>
    rw [Backstage.move]
    split
    · rintro ⟨⟩
    · exact hgone
  | returned result =>
    rw [Backstage.move]
    split
    · rintro ⟨⟩
    · exact hgone
  | died =>
    rw [Backstage.move]
    split
    next number job hw =>
      obtain ⟨t, story, -, hunderway, -⟩ := h.of_calling hw
      rintro - ⟨story', hlatest, hresult⟩
      cases hlatest.symm.trans hunderway.latest
      rw [hunderway.result] at hresult
      cases hresult
    next => exact hgone
  | deadline number =>
    rintro hworker ⟨story, hlatest, hresult⟩
    rcases b.latest?_move (.deadline number) with hsame | hasked | ⟨_, ⟨⟩, -⟩
    · exact hgone hworker ⟨story, hsame.symm.trans hlatest, hresult⟩
    · obtain ⟨story', hlatest', rfl⟩ := Option.map_eq_some_iff.1 (hasked.symm.trans hlatest)
      rw [Story.result?_ask] at hresult
      exact hgone hworker ⟨story', hlatest', hresult⟩

theorem unreturned_play (h : s.Fits b) (hgone : b.Unreturned) (moves : List Move) :
    (b.play moves).2.Unreturned := by
  induction moves generalizing s b with
  | nil => exact hgone
  | cons m rest ih => exact ih (h.move m) (h.unreturned_move hgone m)

/-- While a transfer has not been taken back, it has ended exactly if its call has returned. -/
theorem hasEnded_iff (h : s.Fits b) (hgone : b.Unreturned) :
    s.HasEnded ↔ s.token?.isSome = true ∧ b.HasReturned := by
  rw [HasEnded]
  cases h with
  | idle hstate _ _ => simp [hstate, token?]
  | running hstate hunderway _ =>
    have hnot : ¬ b.HasReturned := by
      rintro ⟨story', hlatest, hresult⟩
      cases hlatest.symm.trans hunderway.latest
      rw [hunderway.result] at hresult
      cases hresult
    simp [hstate, hnot]
  | ended hstate _ hlatest _ houtcome _ =>
    have hreturned : b.HasReturned :=
      ⟨_, hlatest, Story.result?_of_outcome (by rw [houtcome]; rfl)⟩
    simp [hstate, token?, hreturned]
  | lost hstate hworker _ => simp [hstate, hgone hworker]
  | released hstate _ _ => simp [hstate, token?]

end Slot.Fits

/-! ### Winding down -/

namespace Slot

/-- A transfer is taken back at most once, and none begins. -/
structure Winds (s s' : Slot) : Prop where
  token : s'.token?.isSome = true → s.token?.isSome = true
  buffer : s.buffer? = none → s'.buffer?.isSome = true → s.token?.isSome = true ∧ s'.token? = none

variable {s s' s'' : Slot}

theorem Winds.refl (s : Slot) : s.Winds s where
  token := id
  buffer haway hback := by
    rw [haway] at hback
    cases hback

theorem Winds.trans (h : s.Winds s') (h' : s'.Winds s'') : s.Winds s'' where
  token := h.token ∘ h'.token
  buffer haway hback := by
    cases hmiddle : s'.buffer? with
    | none =>
      obtain ⟨htoken, hnone⟩ := h'.buffer hmiddle hback
      exact ⟨h.token htoken, hnone⟩
    | some buffer =>
      obtain ⟨htoken, hnone⟩ := h.buffer haway (hmiddle ▸ rfl)
      refine ⟨htoken, Option.not_isSome_iff_eq_none.1 fun hsome => ?_⟩
      have hboth := h'.token hsome
      rw [hnone] at hboth
      cases hboth

/-- Nothing is taken back. -/
theorem Winds.of_away (htoken : s'.token?.isSome = true → s.token?.isSome = true)
    (hbuffer : s.buffer? = none → s'.buffer? = none) : s.Winds s' where
  token := htoken
  buffer haway hback := by
    rw [hbuffer haway] at hback
    cases hback

/-- Nothing that happens by itself takes a transfer back. -/
theorem isSome_token?_react (s : Slot) (e : Event) :
    (s.react e).token?.isSome = s.token?.isSome := by
  rcases s with ⟨_, _ | _ | _ | _ | _, _, _, _⟩ <;> cases e <;> rfl

theorem isSome_token?_reactAll (s : Slot) (events : List Event) :
    (s.reactAll events).token?.isSome = s.token?.isSome := by
  induction events generalizing s with
  | nil => rfl
  | cons e rest ih => exact (ih _).trans (s.isSome_token?_react e)

theorem isSome_token?_cancel (s : Slot) : s.cancel.2.token?.isSome = s.token?.isSome := by
  rcases s with ⟨_, _ | _ | _ | _ | _, _, _, _⟩ <;> rfl

theorem winds_reactAll (s : Slot) (events : List Event) : s.Winds (s.reactAll events) :=
  .of_away (s.isSome_token?_reactAll events ▸ id) fun haway => (s.buffer?_reactAll events).trans haway

theorem winds_poll (s : Slot) : s.Winds s.poll.2 := by
  rcases s with ⟨_, _ | _ | _ | _ | _, _, _, _⟩
  case ended => exact { token := nofun, buffer := fun _ _ => ⟨rfl, rfl⟩ }
  all_goals exact .of_away id id

theorem winds_cancel (s : Slot) : s.Winds s.cancel.2 :=
  .of_away (s.isSome_token?_cancel ▸ id) fun haway => s.buffer?_cancel.trans haway

theorem winds_putBuffer (s : Slot) (buffer : TransferBuffer) : s.Winds (s.putBuffer buffer) := by
  rcases s with ⟨_, _ | _ | _ | _ | _, _, _, _⟩
  case idle => exact .of_away id nofun
  all_goals exact .refl _

theorem winds_release (s : Slot) : s.Winds s.release.2 := by
  rcases s with ⟨_, _ | _ | _ | _ | _, _, _, _⟩ <;> exact .of_away id fun _ => rfl

theorem winds_shutdown (s : Slot) (meanwhile : Slot → List Event) :
    s.Winds (s.shutdown meanwhile).2 := by
  cases hfound : s.poll.1 with
  | true =>
    rw [shutdown_of_found hfound]
    exact s.winds_poll.trans (winds_release _)
  | false =>
    rw [shutdown_of_not_found hfound]
    exact ((s.winds_poll.trans (winds_cancel _)).trans
      ((winds_reactAll _ _).trans (winds_poll _))).trans (winds_release _)

theorem release_poll_fst (s : Slot) :
    s.poll.2.release.1 = true ↔ s.buffer?.isSome = true ∨ s.HasEnded := by
  rcases s with ⟨_, _ | _ | _ | _ | _, _, _, _⟩ <;> simp [poll, release, buffer?, HasEnded]

/-- A shutdown has the buffer at its end if it was there before, or if the transfer ended in time. -/
theorem shutdown_fst (s : Slot) (events : List Event) :
    (s.shutdown fun _ => events).1 = true ↔
      s.buffer?.isSome = true ∨ (s.cancel.2.reactAll events).HasEnded := by
  rcases s with ⟨_, _ | _ | _ | _ | _, _, _, _⟩
  case idle => exact iff_of_true rfl (.inl rfl)
  case running =>
    rw [shutdown_of_not_found rfl, wait, release_poll_fst, buffer?_reactAll, buffer?_cancel]
    rfl
  case ended =>
    rw [reactAll_of_not_running rfl]
    exact iff_of_true rfl (.inr ⟨_, _, _, rfl⟩)
  -- neither a dead worker nor a released buffer comes back
  all_goals
    rw [shutdown_of_not_found rfl, wait, release_poll_fst, reactAll_of_not_running rfl,
      reactAll_of_not_running rfl]
    simp [poll, cancel, buffer?, HasEnded]

/-- A shutdown takes the transfer back if it succeeds, and leaves it out otherwise. -/
theorem isSome_token?_shutdown (s : Slot) (meanwhile : Slot → List Event) :
    (s.shutdown meanwhile).2.token?.isSome =
      (s.token?.isSome && !(s.shutdown meanwhile).1) := by
  have hlook : ∀ s : Slot,
      s.poll.2.release.2.token?.isSome = (s.token?.isSome && !s.poll.2.release.1) := by
    rintro ⟨_, _ | _ | _ | _ | _, _, _, _⟩ <;> rfl
  cases hfound : s.poll.1 with
  | true =>
    rw [shutdown_of_found hfound]
    exact hlook s
  | false =>
    have hpoll : s.poll.2.token?.isSome = s.token?.isSome := by
      rcases s with ⟨_, _ | _ | _ | _ | _, _, _, _⟩ <;> first | rfl | cases hfound
    rw [shutdown_of_not_found hfound, wait, hlook, isSome_token?_reactAll, isSome_token?_cancel,
      hpoll]

end Slot

/-! ### A slot that is shut down -/

namespace SlotStage

variable {p : SlotStage}

/-- What an action changes behind a slot: a play, which may follow on a request to stop, or a new
job, which only an open slot takes. -/
theorem Sound.behind_act (h : p.Sound) (a : Action) :
    (∃ moves, (p.act a).behind = (p.behind.play moves).2) ∨
      (∃ moves, (p.act a).behind = (p.behind.ask.play moves).2) ∨
      p.isShut = false ∧ ∃ buffer length job, (p.act a).behind = p.behind.give buffer length job := by
  cases a with
  | change f => exact .inl ⟨[], rfl⟩
  | encode fb r => exact .inl ⟨[], rfl⟩
  | submit length =>
    rw [SlotStage.act]
    split
    · exact .inl ⟨[], rfl⟩
    next slot hsubmit =>
      obtain ⟨buffer, hle, hstate, hopen, rfl⟩ := Slot.of_submit hsubmit
      have hbuffer : p.slot.buffer? = some buffer := Slot.buffer?_of_idle hstate
      have hshut := h.isOpen
      rw [hopen, eq_comm, Bool.not_eq_true'] at hshut
      simp only [hbuffer, Slot.running?]
      exact .inr (.inr ⟨hshut, _, _, _, rfl⟩)
  | poll => exact .inl ⟨[], rfl⟩
  | wait meanwhile => exact .inl ⟨meanwhile, rfl⟩
  | cancel => exact .inr (.inl ⟨[], rfl⟩)
  | shutdown meanwhile => exact .inr (.inl ⟨meanwhile, rfl⟩)
  | move m => exact .inl ⟨[m], rfl⟩

theorem Sound.unreturned_act (h : p.Sound) (hgone : p.behind.Unreturned) (a : Action) :
    (p.act a).behind.Unreturned := by
  rcases h.behind_act a with ⟨moves, hplay⟩ | ⟨moves, hplay⟩ | ⟨-, buffer, length, job, hgive⟩
  · rw [hplay]
    exact h.fits.unreturned_play hgone moves
  · rw [hplay]
    exact h.fits.cancel.unreturned_play hgone.ask moves
  · rw [hgive]
    exact nofun

theorem Sound.unreturned_run (h : p.Sound) (hgone : p.behind.Unreturned) (actions : List Action) :
    (p.run actions).behind.Unreturned := by
  induction actions generalizing p with
  | nil => exact hgone
  | cons a rest ih => exact ih (h.act a) (h.unreturned_act hgone a)

/-- A slot that has been shut down. -/
structure Closed (p : SlotStage) : Prop where
  sound : p.Sound
  shut : p.isShut = true

namespace Closed

theorem act (h : p.Closed) (a : Action) : (p.act a).Closed := by
  refine ⟨h.sound.act a, ?_⟩
  cases a with
  | submit length =>
    rw [SlotStage.act]
    split
    · exact h.shut
    · split <;> exact h.shut
  | shutdown meanwhile => rfl
  | _ => exact h.shut

theorem run (h : p.Closed) (actions : List Action) : (p.run actions).Closed := by
  induction actions generalizing p with
  | nil => exact h
  | cons a rest ih => exact ih (h.act a)

/-- What every action on a closed slot keeps holds after a run of them. -/
theorem run_induction {P : SlotStage → Prop} (h : p.Closed) (start : P p)
    (step : ∀ p : SlotStage, p.Closed → P p → ∀ a, P (p.act a)) (actions : List Action) :
    P (p.run actions) := by
  induction actions generalizing p with
  | nil => exact start
  | cons a rest ih => exact ih (h.act a) (step p h start a)

theorem of_shutdown (h : p.Sound) (meanwhile : List Move) : (p.act (.shutdown meanwhile)).Closed :=
  ⟨h.act _, rfl⟩

/-- The worker gets nothing new. -/
theorem behind_act (h : p.Closed) (a : Action) :
    (∃ moves, (p.act a).behind = (p.behind.play moves).2) ∨
      ∃ moves, (p.act a).behind = (p.behind.ask.play moves).2 := by
  rcases h.sound.behind_act a with hplay | hplay | ⟨hopen, -⟩
  · exact .inl hplay
  · exact .inr hplay
  · cases hopen.symm.trans h.shut

theorem handed_run (h : p.Closed) (actions : List Action) :
    (p.run actions).behind.handed = p.behind.handed := by
  refine h.run_induction (P := fun q => q.behind.handed = p.behind.handed) rfl ?_ actions
  intro q hq hsame a
  rw [← hsame]
  rcases hq.behind_act a with ⟨moves, hplay⟩ | ⟨moves, hplay⟩
  · rw [hplay]
    exact (q.behind.due_play moves).2
  · rw [hplay]
    exact (q.behind.ask.due_play moves).2.trans q.behind.handed_ask

theorem firstAsked_run (h : p.Closed) {reason : CancelReason} (hasked : p.behind.FirstAsked reason)
    (actions : List Action) : (p.run actions).behind.FirstAsked reason := by
  refine h.run_induction (P := fun q => q.behind.FirstAsked reason) hasked ?_ actions
  intro q hq hasked a
  rcases hq.behind_act a with ⟨moves, hplay⟩ | ⟨moves, hplay⟩
  · rw [hplay]
    exact hasked.play moves
  · rw [hplay]
    exact hasked.ask.play moves

/-- Every submit is refused. -/
theorem submit_eq (h : p.Closed) (length : Nat) :
    p.slot.submit length = .error (match p.slot.buffer? with
      | none => .slotBusy p.slot.index
      | some buffer =>
        if buffer.capacity < length then .lengthExceedsBuffer length buffer.capacity
        else .workerGone p.slot.index) := by
  rw [h.sound.submit_eq_error_iff, refusal?, h.shut]
  cases p.slot.buffer? with
  | none => rfl
  | some buffer =>
    simp only
    split <;> rfl

theorem act_submit (h : p.Closed) (length : Nat) : p.act (.submit length) = p := by
  simp only [SlotStage.act, h.submit_eq length]

theorem winds_act (h : p.Closed) (a : Action) : p.slot.Winds (p.act a).slot := by
  cases a with
  | change f =>
    rw [SlotStage.act, Slot.change]
    split
    · exact .refl _
    · exact p.slot.winds_putBuffer _
  | encode fb r =>
    rw [SlotStage.act, Slot.encode_eq]
    split
    · exact .refl _
    split
    · exact .refl _
    · exact p.slot.winds_putBuffer _
  | submit length =>
    rw [h.act_submit length]
    exact .refl _
  | poll => exact p.slot.winds_poll
  | wait meanwhile => exact (p.slot.winds_reactAll _).trans (Slot.winds_poll _)
  | cancel => exact p.slot.winds_cancel
  | shutdown meanwhile => exact p.slot.winds_shutdown _
  | move m => exact p.slot.winds_reactAll _

theorem winds_run (h : p.Closed) (actions : List Action) : p.slot.Winds (p.run actions).slot :=
  h.run_induction (P := fun q => p.slot.Winds q.slot) (.refl _)
    (fun _ hq hwinds a => hwinds.trans (hq.winds_act a)) actions

end Closed

/-- How many times in a run a transfer is taken back. -/
def reclaims (p : SlotStage) : List Action → Nat
  | [] => 0
  | a :: rest =>
    (p.slot.token?.isSome && (p.act a).slot.token?.isNone).toNat + (p.act a).reclaims rest

/-- After a shutdown the transfer that is still out is taken back once, or stays out. -/
theorem Closed.reclaims_add (h : p.Closed) (actions : List Action) :
    p.reclaims actions + (p.run actions).slot.token?.isSome.toNat = p.slot.token?.isSome.toNat := by
  induction actions generalizing p with
  | nil => exact Nat.zero_add _
  | cons a rest ih =>
    have hrest := ih (h.act a)
    have htoken := (h.winds_act a).token
    have hstep : (p.slot.token?.isSome && (p.act a).slot.token?.isNone).toNat +
        (p.act a).slot.token?.isSome.toNat = p.slot.token?.isSome.toNat := by
      cases hafter : (p.act a).slot.token? with
      | none => simp
      | some token =>
        rw [hafter] at htoken
        simp [htoken rfl]
    rw [reclaims, Nat.add_assoc]
    exact (congrArg _ hrest).trans hstep

/-! ### Shutdowns -/

/-- What a shutdown answers if these moves fall into its wait. -/
def shutdownAnswer (p : SlotStage) (meanwhile : List Move) : Bool :=
  (p.slot.shutdown fun _ => (p.behind.ask.play meanwhile).1).1

/-- A shutdown has the buffer at its end if the slot had it before, or if the transfer that was not
yet taken back had ended or ended in the wait. -/
theorem Sound.shutdownAnswer_iff (h : p.Sound) (hgone : p.behind.Unreturned)
    (meanwhile : List Move) :
    p.shutdownAnswer meanwhile = true ↔ p.slot.buffer?.isSome = true ∨
      p.slot.token?.isSome = true ∧ (p.act (.shutdown meanwhile)).behind.HasReturned := by
  have hfits := h.fits.cancel.play meanwhile
  have hended := hfits.hasEnded_iff (h.fits.cancel.unreturned_play hgone.ask meanwhile)
  rw [Slot.isSome_token?_reactAll, Slot.isSome_token?_cancel] at hended
  rw [shutdownAnswer, Slot.shutdown_fst]
  exact or_congr_right hended

/-- A transfer that has ended is taken back by the next look, and after a shutdown its buffer stays
in the slot. -/
theorem Closed.taken_back (h : p.Closed) (hgone : p.behind.Unreturned)
    (htoken : p.slot.token?.isSome = true) (hreturned : p.behind.HasReturned) :
    p.slot.poll.1 = true ∧ ∃ buffer, (p.act .poll).slot.buffer? = some buffer ∧
      p.behind.handed.getLast?.map Prod.fst = some buffer ∧
      ∀ length ≤ buffer.capacity,
        (p.act .poll).slot.submit length = .error (.workerGone (p.act .poll).slot.index) ∧
        (p.act .poll).act (.submit length) = p.act .poll := by
  obtain ⟨buffer, outcome, token, hstate⟩ :=
    (h.sound.fits.hasEnded_iff hgone).2 ⟨htoken, hreturned⟩
  have haway : p.slot.buffer? = none := by rw [Slot.buffer?, hstate]
  have hback : (p.act .poll).slot.buffer? = some buffer := by
    simp only [SlotStage.act, Slot.poll, hstate, Slot.buffer?]
  have hlooked : (p.act .poll).Closed := h.act .poll
  refine ⟨by rw [Slot.poll, hstate], buffer, hback, h.sound.returned .poll haway hback,
    fun length hle => ⟨?_, hlooked.act_submit length⟩⟩
  rw [hlooked.submit_eq length, hback]
  exact congrArg _ (if_neg (Nat.not_lt.2 hle))

/-- A transfer that was asked to stop and has failed shows the reason, once it is taken back. -/
theorem Sound.outcome_of_failed (h : p.Sound) {reason : CancelReason}
    (hasked : p.behind.FirstAsked reason) {story : Story} {cause : TransportError}
    (hlatest : p.behind.latest? = some story) (hresult : story.result? = some (.error cause)) :
    story.outcome? = some reason.outcome ∧
      (p.slot.token? = none → p.slot.lastOutcome = some reason.outcome) := by
  obtain ⟨story', hlatest', hhead⟩ := hasked
  cases hlatest.symm.trans hlatest'
  have houtcome := Story.outcome?_of_asked hresult hhead
  refine ⟨houtcome, fun htaken => ?_⟩
  rw [h.fits.lastOutcome, htaken, hlatest]
  exact houtcome

/-- The reason for which a running transfer stops at a shutdown is that of its deadline only if that
has passed before. -/
theorem Sound.firstAsked_ask (h : p.Sound) {t : Transfer} (hrunning : p.slot.running? = some t) :
    p.behind.ask.FirstAsked
      (if t.token.reason? = some .deadline then .deadline else .requested) := by
  cases h.fits with
  | running hstate hunderway _ =>
    rw [Slot.running?, hstate] at hrunning
    cases hrunning
    refine ⟨_, p.behind.asked_ask.latest.trans (congrArg _ hunderway.latest), ?_⟩
    rw [Story.head?_asked_ask hunderway.result hunderway.asked]
    rcases t.token with ⟨_ | _ | _⟩ <;> rfl
  | idle hstate _ _ => simp [Slot.running?, hstate] at hrunning
  | ended hstate _ _ _ _ _ => simp [Slot.running?, hstate] at hrunning
  | lost hstate _ _ => simp [Slot.running?, hstate] at hrunning
  | released hstate _ _ => simp [Slot.running?, hstate] at hrunning

/-- Whatever a slot has been through and whatever its shutdown comes to, nothing is sent afterwards
but what was handed over before, and every submit is refused. The shutdown succeeds exactly if the
slot has the buffer, or if its transfer has ended or ends in the wait. A transfer that it asks to
stop and that fails was cancelled, unless its deadline had passed before. After a success the buffer
is gone for good. Otherwise the transfer is taken back at most once, as soon as it has ended and the
owner looks; only then the slot has a buffer again, and no submit takes it. -/
theorem shutdown_is_final {index : Nat} {config : Config} {s : Slot}
    (h : Slot.create index config = .ok s) (before : List Action) (meanwhile : List Move)
    (after : List Action) :
    let p := run { slot := s } before
    let q := p.act (.shutdown meanwhile)
    let r := q.run after
    (p.shutdownAnswer meanwhile = true ↔ p.slot.buffer?.isSome = true ∨
      p.slot.token?.isSome = true ∧ (p.behind.HasReturned ∨ q.behind.HasReturned)) ∧
    (∀ t, p.slot.running? = some t → ∀ story cause, r.behind.latest? = some story →
      story.result? = some (.error cause) →
      let outcome := if t.token.reason? = some .deadline then Outcome.timedOut else .cancelled
      story.outcome? = some outcome ∧
        (r.slot.token? = none → r.slot.lastOutcome = some outcome)) ∧
    r.behind.handed = p.behind.handed ∧
    r.behind.calls ++ r.behind.worker.queued =
      p.behind.handed.map (fun h => h.1.first h.2) ∧
    (∀ length, r.act (.submit length) = r ∧
      r.slot.submit length = .error (match r.slot.buffer? with
        | none => .slotBusy r.slot.index
        | some buffer =>
          if buffer.capacity < length then .lengthExceedsBuffer length buffer.capacity
          else .workerGone r.slot.index)) ∧
    (p.shutdownAnswer meanwhile = true → r.slot.buffer? = none) ∧
    q.reclaims after ≤ 1 ∧
    (r.slot.buffer?.isSome = true → q.reclaims after = 1) ∧
    (p.shutdownAnswer meanwhile = false → p.slot.token?.isSome = true →
      q.reclaims after = 0 → r.behind.HasReturned →
      r.slot.poll.1 = true ∧ ∃ buffer, (r.act .poll).slot.buffer? = some buffer ∧
        p.behind.handed.getLast?.map Prod.fst = some buffer ∧
        ∀ length ≤ buffer.capacity,
          (r.act .poll).slot.submit length = .error (.workerGone (r.act .poll).slot.index) ∧
          (r.act .poll).act (.submit length) = r.act .poll) := by
  intro p q r
  have hstart : Sound { slot := s } := .of_create h
  have hp : p.Sound := hstart.run before
  have hgone : p.behind.Unreturned := hstart.unreturned_run nofun before
  have hq : q.Closed := .of_shutdown hp meanwhile
  have hr : r.Closed := hq.run after
  have hhanded : r.behind.handed = p.behind.handed :=
    (hq.handed_run after).trans ((p.behind.ask.due_play meanwhile).2.trans p.behind.handed_ask)
  have hreclaims : q.reclaims after + r.slot.token?.isSome.toNat = q.slot.token?.isSome.toNat :=
    hq.reclaims_add after
  have hout : q.slot.token?.isSome = (p.slot.token?.isSome && !p.shutdownAnswer meanwhile) :=
    p.slot.isSome_token?_shutdown _
  have hback_of_out := (hq.winds_run after).buffer (p.slot.buffer?_shutdown _)
  refine ⟨?_, ?_, hhanded, ?_, fun length => ⟨hr.act_submit length, hr.submit_eq length⟩, ?_, ?_,
    ?_, ?_⟩
  · have hlater : p.behind.HasReturned → q.behind.HasReturned := fun hreturned =>
      (Backstage.hasReturned_ask_iff.2 hreturned).play meanwhile
    rw [hp.shutdownAnswer_iff hgone, or_iff_right_of_imp hlater]
  · intro t hrunning story cause hlatest hresult outcome
    have hasked := hq.firstAsked_run ((hp.firstAsked_ask hrunning).play meanwhile) after
    have hshown := hr.sound.outcome_of_failed hasked hlatest hresult
    rwa [apply_ite CancelReason.outcome] at hshown
  · rw [← hhanded]
    exact hr.sound.due
  · intro hanswer
    rw [hanswer, Bool.not_true, Bool.and_false] at hout
    refine Option.not_isSome_iff_eq_none.1 fun hback => ?_
    exact absurd (hback_of_out hback).1 (by simp [hout])
  · have hle := Bool.toNat_le q.slot.token?.isSome
    omega
  · intro hback
    obtain ⟨htoken, hnone⟩ := hback_of_out hback
    rw [htoken, hnone] at hreclaims
    exact hreclaims
  · intro hanswer htoken hzero hreturned
    rw [hanswer, htoken] at hout
    rw [hzero, hout, Nat.zero_add] at hreclaims
    have hrtoken : r.slot.token?.isSome = true := Bool.toNat_eq_one.1 hreclaims
    have hrgone : r.behind.Unreturned :=
      hq.sound.unreturned_run (hp.unreturned_act hgone _) after
    rw [← hhanded]
    exact hr.taken_back hrgone hrtoken hreturned

/-- A transfer of two bytes is under way. -/
def underWay : List Action := [.submit 2, .move .call]

/-- A slot that is shut down while a transfer of it is under way, which fails after the wait. -/
def endedLate (s : Slot) : SlotStage :=
  ((run { slot := s } underWay).act (.shutdown [])).run [.move (.returned (.error .stall))]

theorem shutdown_is_final_endedLate :
    ∃ s, Slot.create 0 .oneColumn = .ok s ∧
      (run { slot := s } underWay).shutdownAnswer [] = false ∧
      ((endedLate s).slot.poll.1 = true ∧ ∃ buffer,
        ((endedLate s).act .poll).slot.buffer? = some buffer ∧
          ((endedLate s).act .poll).slot.submit 2 = .error (.workerGone 0)) ∧
      ∃ story, (endedLate s).behind.latest? = some story ∧ story.outcome? = some .cancelled := by
  have hcreate : Slot.create 0 .oneColumn = .ok _ := rfl
  refine ⟨_, hcreate, ?_⟩
  obtain ⟨-, houtcome, -, -, -, -, -, -, hback⟩ :=
    shutdown_is_final hcreate underWay [] [.move (.returned (.error .stall))]
  obtain ⟨hfound, buffer, hbuffer, -, hrefused⟩ := hback rfl rfl rfl ⟨_, rfl, rfl⟩
  have hfits : 2 ≤ buffer.capacity := by
    cases hbuffer
    decide
  exact ⟨rfl, ⟨hfound, buffer, hbuffer, (hrefused 2 hfits).1⟩, _, rfl,
    (houtcome _ rfl _ _ rfl rfl).1⟩

end SlotStage

end UsbDisplay
