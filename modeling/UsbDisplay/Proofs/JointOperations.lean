import UsbDisplay.Proofs.ClosedSlot

/-!
What the owner of two slots does with both of them: it waits until both are idle, or shuts both
down, within one deadline. Either comes to a few operations on single slots
(`SchedulerStage.perform`), so each slot still goes through a run of its own. A wait for both
succeeds exactly if both buffers are there afterwards, and a shutdown of both exactly if each buffer
was there or came back in time; before it waits, it asks both transfers to stop. Nothing that is
done with one slot touches the other (`SchedulerStage.independent_run`). Only a wait for both makes
the second slot depend on the first: it does not look at the second while the first is stuck
(`SchedulerStage.waitIdle_passes_over_second`).
-/

namespace UsbDisplay

theorem SlotId.ofIndex_eq_iff {n k : Nat} : ofIndex n = ofIndex k ↔ n % 2 = k % 2 := by
  unfold ofIndex
  split <;> split <;> simp <;> omega

namespace Slot

/-- An owner that looks finds the buffer exactly if it has it afterwards. -/
theorem poll_fst_eq_isSome (s : Slot) : s.poll.1 = s.poll.2.buffer?.isSome := by
  rcases s with ⟨_, _ | _ | _ | _ | _, _, _, _⟩ <;> rfl

@[simp] theorem lastOutcome_reactAll (s : Slot) (events : List Event) :
    (s.reactAll events).lastOutcome = s.lastOutcome := by
  induction events generalizing s with
  | nil => rfl
  | cons e rest ih =>
    refine (ih (s.react e)).trans ?_
    rcases s with ⟨_, _ | _ | _ | _ | _, _, _, _⟩ <;> cases e <;> rfl

/-- A transfer whose end is noticed in a look is taken back. -/
theorem token?_poll_of_hasEnded {s : Slot} (h : s.HasEnded) : s.poll.2.token? = none := by
  obtain ⟨buffer, outcome, token, hstate⟩ := h
  simp only [poll, hstate, token?]

end Slot

/-- A transfer was asked for these reasons, and then by its owner, before anything else. -/
def Story.RequestedAfter (t : Story) (reasons : List CancelReason) : Prop :=
  ∃ later, t.asked = reasons ++ .requested :: later

theorem Story.requestedAfter_ask {t : Story} (h : t.result? = none) :
    (t.ask .requested).RequestedAfter t.asked := by
  refine ⟨[], ?_⟩
  simp only [ask, h]

theorem Story.RequestedAfter.ask {t : Story} {reasons : List CancelReason}
    (h : t.RequestedAfter reasons) (reason : CancelReason) :
    (t.ask reason).RequestedAfter reasons := by
  obtain ⟨later, hasked⟩ := h
  rw [Story.ask]
  split
  · exact ⟨later ++ [reason], by rw [hasked, List.append_assoc]; rfl⟩
  · exact ⟨later, hasked⟩

namespace Backstage

/-- The latest transfer was asked for these reasons, and then by its owner, before anything else. -/
def RequestedAfter (b : Backstage) (reasons : List CancelReason) : Prop :=
  ∃ story, b.latest? = some story ∧ story.RequestedAfter reasons

variable {b : Backstage} {reasons : List CancelReason}

theorem requestedAfter_ask {story : Story} (hlatest : b.latest? = some story)
    (hresult : story.result? = none) : b.ask.RequestedAfter story.asked :=
  ⟨_, b.asked_ask.latest.trans (congrArg _ hlatest), story.requestedAfter_ask hresult⟩

theorem RequestedAfter.ask (h : b.RequestedAfter reasons) : b.ask.RequestedAfter reasons := by
  obtain ⟨story, hlatest, hasked⟩ := h
  exact ⟨_, b.asked_ask.latest.trans (congrArg _ hlatest), hasked.ask .requested⟩

theorem RequestedAfter.play (h : b.RequestedAfter reasons) (moves : List Move) :
    (b.play moves).2.RequestedAfter reasons :=
  exists_latest_play (P := (·.RequestedAfter reasons)) (fun _ hasked => hasked.ask .deadline)
    (fun _ _ hasked => hasked) h moves

end Backstage

namespace SlotStage

variable {p : SlotStage}

/-- The latest transfer is taken back, and its outcome is the one that the owner sees. -/
def TakenBack (p : SlotStage) : Prop :=
  p.slot.token? = none ∧ ∃ story outcome, p.behind.latest? = some story ∧
    story.outcome? = some outcome ∧ p.slot.lastOutcome = some outcome

theorem Sound.takenBack (h : p.Sound) (htoken : p.slot.token? = none)
    (hreturned : p.behind.HasReturned) : p.TakenBack := by
  obtain ⟨story, hlatest, -⟩ := hreturned
  obtain ⟨outcome, houtcome⟩ := Option.isSome_iff_exists.1 (h.fits.outcome?_isSome htoken hlatest)
  refine ⟨htoken, story, outcome, hlatest, houtcome, ?_⟩
  rw [h.fits.lastOutcome, htoken, hlatest]
  exact houtcome

/-- Whoever looks for a transfer that has returned takes it back. -/
theorem Sound.takenBack_wait (h : p.Sound) (hgone : p.behind.Unreturned) {moves : List Move}
    (htoken : p.slot.token?.isSome = true)
    (hreturned : (p.act (.wait moves)).behind.HasReturned) : (p.act (.wait moves)).TakenBack := by
  refine (h.act (.wait moves)).takenBack (Slot.token?_poll_of_hasEnded ?_) hreturned
  refine ((h.fits.play moves).hasEnded_iff (h.fits.unreturned_play hgone moves)).2 ⟨?_, hreturned⟩
  rw [Slot.isSome_token?_reactAll]
  exact htoken

theorem Sound.takenBack_poll (h : p.Sound) (hgone : p.behind.Unreturned)
    (htoken : p.slot.token?.isSome = true) (hreturned : p.behind.HasReturned) :
    (p.act .poll).TakenBack :=
  (h.act .poll).takenBack
    (Slot.token?_poll_of_hasEnded ((h.fits.hasEnded_iff hgone).2 ⟨htoken, hreturned⟩)) hreturned

/-- What happens to a slot without a running transfer does not bring a transfer back. -/
theorem Sound.hasReturned_of_moves (h : p.Sound) (hgone : p.behind.Unreturned) {moves : List Move}
    (hmoves : p.slot.running?.isSome = true → moves = []) (htoken : p.slot.token?.isSome = true)
    (hreturned : (p.run (moves.map .move)).behind.HasReturned) : p.behind.HasReturned := by
  cases hrunning : p.slot.running? with
  | some t =>
    rw [hmoves (hrunning ▸ rfl)] at hreturned
    exact hreturned
  | none =>
    have hfits := h.fits.play moves
    rw [run_moves] at hreturned
    rw [Slot.reactAll_of_not_running hrunning] at hfits
    have hended := (hfits.hasEnded_iff (h.fits.unreturned_play hgone moves)).2 ⟨htoken, hreturned⟩
    exact ((h.fits.hasEnded_iff hgone).1 hended).2

/-- A transfer that is asked to stop, and what happens by itself then, leave the owner with what it
has. -/
theorem slot_cancel_moves (p : SlotStage) (moves : List Move) :
    ((p.act .cancel).run (moves.map .move)).slot.buffer? = p.slot.buffer? ∧
      ((p.act .cancel).run (moves.map .move)).slot.token?.isSome = p.slot.token?.isSome := by
  rw [run_moves]
  exact ⟨(Slot.buffer?_reactAll ..).trans (Slot.buffer?_cancel _),
    (Slot.isSome_token?_reactAll ..).trans (Slot.isSome_token?_cancel _)⟩

/-- The answer of a shutdown, when something may happen after it. Nothing does while the transfer
is running still. -/
theorem Sound.shutdownAnswer_then (h : p.Sound) (hgone : p.behind.Unreturned)
    (meanwhile : List Move) {after : List Move}
    (hafter : (p.act (.shutdown meanwhile)).slot.running?.isSome = true → after = []) :
    p.shutdownAnswer meanwhile = true ↔ p.slot.buffer?.isSome = true ∨
      p.slot.token?.isSome = true ∧
        ((p.act (.shutdown meanwhile)).run (after.map .move)).behind.HasReturned := by
  have hshut : (p.act (.shutdown meanwhile)).Sound := h.act _
  have hshutGone := h.unreturned_act hgone (.shutdown meanwhile)
  have hanswer := h.shutdownAnswer_iff hgone meanwhile
  rw [hanswer]
  refine or_congr_right (and_congr_right fun htoken => ⟨fun hreturned => ?_, fun hreturned => ?_⟩)
  · rw [run_moves]
    exact hreturned.play after
  · cases hfound : p.shutdownAnswer meanwhile with
    | true =>
      rcases hanswer.1 hfound with hbuffer | ⟨-, hback⟩
      · exact absurd ⟨hbuffer, htoken⟩ p.slot.not_buffer_and_token
      · exact hback
    | false =>
      refine hshut.hasReturned_of_moves hshutGone hafter ?_ hreturned
      have hout := p.slot.isSome_token?_shutdown fun _ => (p.behind.ask.play meanwhile).1
      exact hout.trans (by rw [htoken]; exact congrArg Bool.not hfound)

/-- A shutdown takes a transfer back that has returned in time. -/
theorem Sound.takenBack_shutdown (h : p.Sound) (hgone : p.behind.Unreturned)
    (meanwhile after : List Move)
    (hafter : (p.act (.shutdown meanwhile)).slot.running?.isSome = true → after = [])
    (htoken : p.slot.token?.isSome = true)
    (hreturned : ((p.act (.shutdown meanwhile)).run (after.map .move)).behind.HasReturned) :
    ((p.act (.shutdown meanwhile)).run (after.map .move)).TakenBack := by
  have hfound := (h.shutdownAnswer_then hgone meanwhile hafter).2 (.inr ⟨htoken, hreturned⟩)
  have hout := p.slot.isSome_token?_shutdown fun _ => (p.behind.ask.play meanwhile).1
  refine ((h.act _).run _).takenBack (Option.not_isSome_iff_eq_none.1 ?_) hreturned
  rw [run_moves, Slot.isSome_token?_reactAll]
  have hnone : (p.act (.shutdown meanwhile)).slot.token?.isSome = false :=
    hout.trans (by rw [htoken]; exact congrArg Bool.not hfound)
  simp [hnone]

end SlotStage

namespace Scheduler

/-- A wait succeeds exactly if the buffer is there afterwards. -/
theorem wait_fst_eq_isSome (s : Scheduler) (i : SlotId) (meanwhile : Scheduler → List Event) :
    (s.wait i meanwhile).1 = ((s.wait i meanwhile).2.slot i).buffer?.isSome := by
  rw [wait, slot_poll, if_pos rfl]
  exact Slot.poll_fst_eq_isSome _

theorem waitIdle_of_found (s : Scheduler) (meanwhile : SlotId → Scheduler → List Event)
    (h : (s.wait .first (meanwhile .first)).1 = true) :
    s.waitIdle meanwhile =
      (s.wait .first (meanwhile .first)).2.wait .second (meanwhile .second) := by
  rw [waitIdle]
  generalize s.wait .first (meanwhile .first) = waited at *
  obtain ⟨_ | _, s'⟩ := waited
  · cases h
  · rfl

theorem waitIdle_of_not_found (s : Scheduler) (meanwhile : SlotId → Scheduler → List Event)
    (h : (s.wait .first (meanwhile .first)).1 = false) :
    s.waitIdle meanwhile = (false, (s.wait .first (meanwhile .first)).2) := by
  rw [waitIdle]
  generalize s.wait .first (meanwhile .first) = waited at *
  obtain ⟨_ | _, s'⟩ := waited
  · rfl
  · cases h

end Scheduler

namespace SchedulerStage

/-! ### Single slots -/

/-- The slot that an operation is for. -/
def Operation.target : Operation → SlotId
  | .change i _ | .submit i _ | .poll i | .wait i _ | .cancel i | .shutdown i _ | .move i _ => i

/-- What happens by itself during an operation. -/
def Operation.moves : Operation → List (SlotId × Move)
  | .wait _ meanwhile | .shutdown _ meanwhile => meanwhile
  | _ => []

variable {p : SchedulerStage} {i j : SlotId}

/-- To the other slot an operation is what happens meanwhile. -/
theorem Operation.view_of_ne {op : Operation} (h : op.target ≠ j) :
    op.view j = (ofSlot j op.moves).map .move := by
  cases op <;> simp_all [Operation.target, Operation.view, Operation.moves, ofSlot]

theorem stage_act_of_ne (p : SchedulerStage) (op : Operation) (h : op.target ≠ j) :
    (p.act op).stage j = (p.stage j).run ((ofSlot j op.moves).map .move) := by
  rw [stage_act, Operation.view_of_ne h]

/-- What happens by itself changes neither who has the buffer nor what the owner has seen. -/
theorem slot_act_of_ne (p : SchedulerStage) (op : Operation) (h : op.target ≠ j) :
    ((p.act op).scheduler.slot j).buffer? = (p.scheduler.slot j).buffer? ∧
      ((p.act op).scheduler.slot j).lastOutcome = (p.scheduler.slot j).lastOutcome ∧
      ((p.act op).scheduler.slot j).token?.isSome = (p.scheduler.slot j).token?.isSome := by
  have hslot : (p.act op).scheduler.slot j = (p.scheduler.slot j).reactAll _ :=
    congrArg SlotStage.slot ((p.stage_act_of_ne op h).trans ((p.stage j).run_moves _))
  rw [hslot]
  exact ⟨Slot.buffer?_reactAll .., Slot.lastOutcome_reactAll .., Slot.isSome_token?_reactAll ..⟩

theorem fst_shutdownSlot (s : Scheduler) (i : SlotId) (events : List Scheduler.Event) :
    (s.shutdownSlot i fun _ => events).1 =
      ((s.slot i).shutdown fun _ => ofSlot i events).1 := by
  have hfst : (s.poll i).1 = (s.slot i).poll.1 := rfl
  cases hfound : (s.slot i).poll.1 with
  | true =>
    rw [Scheduler.shutdownSlot_of_found (hfst.trans hfound), Slot.shutdown_of_found hfound]
    show ((s.poll i).2.slot i).release.1 = _
    rw [Scheduler.slot_poll, if_pos rfl]
  | false =>
    rw [Scheduler.shutdownSlot_of_not_found (hfst.trans hfound),
      Slot.shutdown_of_not_found hfound]
    show ((((s.poll i).2.cancel i).2.wait i fun _ => events).2.slot i).release.1 = _
    rw [slot_wait, if_pos rfl, Scheduler.slot_cancel, if_pos rfl, Scheduler.slot_poll, if_pos rfl]

/-! ### Both slots -/

/-- What the owner can do with one slot or with both. What happens while it waits for one of them
comes with the operation, slot by slot. -/
inductive Call where
  | single (op : Operation)
  | waitIdle (meanwhile : PerSlot (List (SlotId × Move)))
  | shutdown (meanwhile : PerSlot (List (SlotId × Move)))

/-- What falls into the wait of a shutdown. There is no wait if the buffer is found. -/
def duringWait (p : SchedulerStage) (i : SlotId) (meanwhile : List (SlotId × Move)) :
    List (SlotId × Move) :=
  if (p.scheduler.poll i).1 then [] else meanwhile

/-- Both transfers have been asked to stop. -/
def asked (p : SchedulerStage) : SchedulerStage := (p.act (.cancel .first)).act (.cancel .second)

/-- A shutdown of both slots has dealt with the first. -/
def halfShut (p : SchedulerStage) (meanwhile : List (SlotId × Move)) : SchedulerStage :=
  p.asked.act (.shutdown .first (p.asked.duringWait .first meanwhile))

/-- What falls into the wait for the second slot in a shutdown of both. If the first transfer is
running still, the deadline has passed. -/
def secondMoves (p : SchedulerStage) (meanwhile : PerSlot (List (SlotId × Move))) :
    List (SlotId × Move) :=
  let half := p.halfShut meanwhile.first
  if (half.scheduler.slot .first).running?.isSome then []
  else half.duringWait .second meanwhile.second

/-- The operations on single slots that a call comes to. The second slot is not waited for if the
first is not idle. -/
def steps (p : SchedulerStage) : Call → List Operation
  | .single op => [op]
  | .waitIdle meanwhile =>
    .wait .first meanwhile.first ::
      if ((p.act (.wait .first meanwhile.first)).scheduler.slot .first).buffer?.isSome then
        [.wait .second meanwhile.second]
      else []
  | .shutdown meanwhile =>
    [.cancel .first, .cancel .second,
      .shutdown .first (p.asked.duringWait .first meanwhile.first),
      .shutdown .second (p.secondMoves meanwhile)]

def perform (p : SchedulerStage) (c : Call) : SchedulerStage := p.run (p.steps c)

def performAll (p : SchedulerStage) (calls : List Call) : SchedulerStage := calls.foldl perform p

/-- What calls come to is a run of operations on single slots. -/
theorem exists_performAll_eq_run (p : SchedulerStage) (calls : List Call) :
    ∃ ops, p.performAll calls = p.run ops := by
  induction calls generalizing p with
  | nil => exact ⟨[], rfl⟩
  | cons c rest ih =>
    obtain ⟨ops, hops⟩ := ih (p.perform c)
    refine ⟨p.steps c ++ ops, ?_⟩
    rw [run, List.foldl_append]
    exact hops

/-- The events that fall into the waits of a shutdown of both slots. -/
def shutdownEvents (p : SchedulerStage) (meanwhile : PerSlot (List (SlotId × Move))) :
    PerSlot (List Scheduler.Event) :=
  let first := p.asked.behind
  let second := (p.halfShut meanwhile.first).behind
  ⟨(play (first.set .first (first.get .first).ask)
      (p.asked.duringWait .first meanwhile.first)).1,
    (play (second.set .second (second.get .second).ask) (p.secondMoves meanwhile)).1⟩

/-! ### Waiting for both -/

/-- The events that fall into the waits for both slots. -/
def waitEvents (p : SchedulerStage) (meanwhile : PerSlot (List (SlotId × Move))) :
    PerSlot (List Scheduler.Event) :=
  ⟨(play p.behind meanwhile.first).1,
    (play (play p.behind meanwhile.first).2 meanwhile.second).1⟩

theorem perform_waitIdle_of_found {meanwhile : PerSlot (List (SlotId × Move))}
    (h : ((p.act (.wait .first meanwhile.first)).scheduler.slot .first).buffer?.isSome = true) :
    p.perform (.waitIdle meanwhile) =
      (p.act (.wait .first meanwhile.first)).act (.wait .second meanwhile.second) := by
  simp only [perform, steps, h, if_true]
  rfl

theorem perform_waitIdle_of_not_found {meanwhile : PerSlot (List (SlotId × Move))}
    (h : ((p.act (.wait .first meanwhile.first)).scheduler.slot .first).buffer?.isSome = false) :
    p.perform (.waitIdle meanwhile) = p.act (.wait .first meanwhile.first) := by
  simp only [perform, steps, h, Bool.false_eq_true, if_false]
  rfl

/-- A wait for both slots makes of them what it comes to on single slots, and succeeds exactly if
both buffers are there afterwards. -/
theorem waitIdle_eq (p : SchedulerStage) (meanwhile : PerSlot (List (SlotId × Move))) :
    (p.scheduler.waitIdle fun i _ => (p.waitEvents meanwhile).get i).2 =
        (p.perform (.waitIdle meanwhile)).scheduler ∧
      ((p.scheduler.waitIdle fun i _ => (p.waitEvents meanwhile).get i).1 = true ↔
        ∀ i, ((p.perform (.waitIdle meanwhile)).scheduler.slot i).buffer?.isSome = true) := by
  have hanswer := p.scheduler.wait_fst_eq_isSome .first fun _ => (play p.behind meanwhile.first).1
  cases hfound : ((p.act (.wait .first meanwhile.first)).scheduler.slot .first).buffer?.isSome with
  | true =>
    have hwaited := p.scheduler.waitIdle_of_found
      (fun i _ => (p.waitEvents meanwhile).get i) (hanswer.trans hfound)
    rw [hwaited, perform_waitIdle_of_found hfound]
    refine ⟨rfl, ?_⟩
    have hkept := ((p.act (.wait .first meanwhile.first)).slot_act_of_ne
      (.wait .second meanwhile.second) (SlotId.other_ne .first)).1
    rw [Scheduler.wait_fst_eq_isSome]
    constructor
    · rintro hsecond (_ | _)
      · rw [hkept]
        exact hfound
      · exact hsecond
    · exact fun hboth => hboth .second
  | false =>
    have hwaited := p.scheduler.waitIdle_of_not_found
      (fun i _ => (p.waitEvents meanwhile).get i) (hanswer.trans hfound)
    rw [hwaited, perform_waitIdle_of_not_found hfound]
    refine ⟨rfl, (fun hanswer => by cases hanswer), fun hboth => ?_⟩
    rw [hboth .first] at hfound
    cases hfound

/-! ### Shutting both down -/

theorem shutDown_eq (s : Scheduler) {i : SlotId} {events : List Scheduler.Event}
    (h : (s.poll i).1 = true → events = []) :
    shutDown s i events = (s.shutdownSlot i fun _ => events).2 := by
  rw [shutDown]
  split
  next hfound => rw [h hfound]; rfl
  · rfl

/-- No events fall into a wait that there is not. -/
theorem events_duringWait (b : PerSlot Backstage) (p : SchedulerStage) (i : SlotId)
    (meanwhile : List (SlotId × Move)) :
    (p.scheduler.poll i).1 = true → (play b (p.duringWait i meanwhile)).1 = [] := by
  intro hfound
  rw [duringWait, if_pos hfound]
  rfl

theorem events_secondMoves (b : PerSlot Backstage) (p : SchedulerStage)
    (meanwhile : PerSlot (List (SlotId × Move))) :
    ((p.halfShut meanwhile.first).scheduler.poll .second).1 = true →
      (play b (p.secondMoves meanwhile)).1 = [] := by
  intro hfound
  rw [secondMoves]
  split
  · rfl
  · exact events_duringWait _ _ _ _ hfound

theorem perform_shutdown (p : SchedulerStage) (meanwhile : PerSlot (List (SlotId × Move))) :
    p.perform (.shutdown meanwhile) =
      (p.halfShut meanwhile.first).act (.shutdown .second (p.secondMoves meanwhile)) := rfl

/-- What a shutdown of a slot answers is decided by that slot and what is behind it. -/
theorem fst_shutdownSlot_play (p : SchedulerStage) (i : SlotId) (moves : List (SlotId × Move)) :
    (p.scheduler.shutdownSlot i fun _ =>
        (play (p.behind.set i (p.behind.get i).ask) moves).1).1 =
      (p.stage i).shutdownAnswer (ofSlot i moves) := by
  obtain ⟨hevents, -⟩ := play_eq (p.behind.set i (p.behind.get i).ask) moves i
  rw [PerSlot.get_set_self] at hevents
  rw [fst_shutdownSlot, hevents]
  rfl

/-- A shutdown of both slots asks both transfers to stop and then shuts one slot down after the
other. -/
theorem shutdown_eq (p : SchedulerStage) (meanwhile : PerSlot (List (SlotId × Move))) :
    (p.scheduler.shutdown fun i _ => (p.shutdownEvents meanwhile).get i) =
      ((p.asked.stage .first).shutdownAnswer
          (ofSlot .first (p.asked.duringWait .first meanwhile.first)) &&
        ((p.halfShut meanwhile.first).stage .second).shutdownAnswer
          (ofSlot .second (p.secondMoves meanwhile)),
        (p.perform (.shutdown meanwhile)).scheduler) := by
  have hhalf : (p.halfShut meanwhile.first).scheduler =
      (p.asked.scheduler.shutdownSlot .first fun _ => (p.shutdownEvents meanwhile).first).2 :=
    shutDown_eq _ (events_duringWait _ _ _ _)
  have hboth : (p.perform (.shutdown meanwhile)).scheduler =
      ((p.halfShut meanwhile.first).scheduler.shutdownSlot .second fun _ =>
        (p.shutdownEvents meanwhile).second).2 :=
    shutDown_eq _ (events_secondMoves _ _ _)
  rw [← fst_shutdownSlot_play, ← fst_shutdownSlot_play, hboth, hhalf]
  rfl

theorem stage_asked (p : SchedulerStage) (i : SlotId) :
    p.asked.stage i = (p.stage i).act .cancel := by
  rw [asked, stage_act, stage_act]
  cases i <;> rfl

/-- What a shutdown of both slots is to the first: another wait may follow, unless the deadline has
passed. -/
theorem stage_first_shutdown (p : SchedulerStage) (meanwhile : PerSlot (List (SlotId × Move))) :
    ∃ moves after, moves = ofSlot .first (p.asked.duringWait .first meanwhile.first) ∧
      ((p.asked.stage .first).act (.shutdown moves) =
        (p.halfShut meanwhile.first).stage .first) ∧
      (((p.asked.stage .first).act (.shutdown moves)).slot.running?.isSome = true → after = []) ∧
      (p.perform (.shutdown meanwhile)).stage .first =
        ((p.asked.stage .first).act (.shutdown moves)).run (after.map .move) := by
  have hhalf : (p.asked.stage .first).act
      (.shutdown (ofSlot .first (p.asked.duringWait .first meanwhile.first))) =
        (p.halfShut meanwhile.first).stage .first := by
    rw [halfShut, stage_act]
    rfl
  refine ⟨_, ofSlot .first (p.secondMoves meanwhile), rfl, hhalf, fun hrunning => ?_, ?_⟩
  · rw [hhalf] at hrunning
    have hnone : p.secondMoves meanwhile = [] := if_pos hrunning
    rw [hnone]
    rfl
  · rw [perform_shutdown, hhalf,
      stage_act_of_ne _ (.shutdown .second _) (SlotId.other_ne .first)]
    rfl

/-- What a shutdown of both slots is to the second: it may wait for the first before. -/
theorem stage_second_shutdown (p : SchedulerStage) (meanwhile : PerSlot (List (SlotId × Move))) :
    ∃ before : List Move, (p.halfShut meanwhile.first).stage .second =
        ((p.stage .second).act .cancel).run (before.map .move) ∧
      (p.perform (.shutdown meanwhile)).stage .second =
        ((p.halfShut meanwhile.first).stage .second).act
          (.shutdown (ofSlot .second (p.secondMoves meanwhile))) := by
  refine ⟨ofSlot .second (p.asked.duringWait .first meanwhile.first), ?_, ?_⟩
  · rw [halfShut, stage_act_of_ne _ (.shutdown .first _) (SlotId.other_ne .second),
      stage_asked]
    rfl
  · rw [perform_shutdown, stage_act]
    rfl

/-- Two slots of which each is in step with what is behind it. -/
structure Sound (p : SchedulerStage) : Prop where
  stage : ∀ i, (p.stage i).Sound
  unreturned : ∀ i, (p.behind.get i).Unreturned

namespace Sound

theorem of_create {config : Config} {s : Scheduler} (h : Scheduler.create config = .ok s) :
    Sound { scheduler := s } where
  stage := sound_stage h
  unreturned i := by cases i <;> exact nofun

theorem run (h : p.Sound) (ops : List Operation) : (p.run ops).Sound where
  stage i := by
    rw [stage_run]
    exact (h.stage i).run _
  unreturned i := by
    have hgone := (h.stage i).unreturned_run (h.unreturned i) (ops.flatMap (·.view i))
    rwa [← stage_run] at hgone

theorem act (h : p.Sound) (op : Operation) : (p.act op).Sound := h.run [op]

theorem performAll (h : p.Sound) (calls : List Call) : (p.performAll calls).Sound := by
  obtain ⟨ops, hops⟩ := p.exists_performAll_eq_run calls
  rw [hops]
  exact h.run ops

theorem asked (h : p.Sound) : p.asked.Sound := (h.act _).act _

theorem halfShut (h : p.Sound) (meanwhile : List (SlotId × Move)) : (p.halfShut meanwhile).Sound :=
  h.asked.act _

/-- A shutdown of both slots succeeds exactly if each of them had its buffer or a transfer that
returned in time. -/
theorem shutdownAnswer_iff (h : p.Sound) (meanwhile : PerSlot (List (SlotId × Move))) :
    ((p.asked.stage .first).shutdownAnswer
          (ofSlot .first (p.asked.duringWait .first meanwhile.first)) &&
        ((p.halfShut meanwhile.first).stage .second).shutdownAnswer
          (ofSlot .second (p.secondMoves meanwhile))) = true ↔
      ∀ i, (p.scheduler.slot i).buffer?.isSome = true ∨
        (p.scheduler.slot i).token?.isSome = true ∧
          ((p.perform (.shutdown meanwhile)).behind.get i).HasReturned := by
  have hfirst : (p.asked.stage .first).shutdownAnswer
        (ofSlot .first (p.asked.duringWait .first meanwhile.first)) = true ↔
      (p.scheduler.slot .first).buffer?.isSome = true ∨
        (p.scheduler.slot .first).token?.isSome = true ∧
          ((p.perform (.shutdown meanwhile)).behind.get .first).HasReturned := by
    obtain ⟨moves, after, rfl, -, hafter, hstage⟩ := p.stage_first_shutdown meanwhile
    rw [(h.asked.stage .first).shutdownAnswer_then (h.asked.unreturned .first) _ hafter, ← hstage,
      stage_asked]
    obtain ⟨hbuffer, htoken⟩ := (p.stage .first).slot_cancel_moves []
    exact or_congr (iff_of_eq (congrArg (Option.isSome · = true) hbuffer))
      (and_congr_left' (iff_of_eq (congrArg (· = true) htoken)))
  have hsecond : ((p.halfShut meanwhile.first).stage .second).shutdownAnswer
        (ofSlot .second (p.secondMoves meanwhile)) = true ↔
      (p.scheduler.slot .second).buffer?.isSome = true ∨
        (p.scheduler.slot .second).token?.isSome = true ∧
          ((p.perform (.shutdown meanwhile)).behind.get .second).HasReturned := by
    obtain ⟨before, hhalf, hstage⟩ := p.stage_second_shutdown meanwhile
    rw [((h.halfShut meanwhile.first).stage .second).shutdownAnswer_iff
      ((h.halfShut meanwhile.first).unreturned .second), ← hstage, hhalf]
    obtain ⟨hbuffer, htoken⟩ := (p.stage .second).slot_cancel_moves before
    rw [hbuffer, htoken]
    rfl
  rw [Bool.and_eq_true, hfirst, hsecond]
  constructor
  · rintro ⟨hone, htwo⟩ (_ | _)
    · exact hone
    · exact htwo
  · exact fun hboth => ⟨hboth .first, hboth .second⟩

/-- A shutdown of both slots asks a transfer to stop before anything happens in its waits, whichever
slot it waits for first. -/
theorem requested_shutdown (p : SchedulerStage) (meanwhile : PerSlot (List (SlotId × Move)))
    {i : SlotId} {story : Story} (hlatest : (p.stories i).getLast? = some story)
    (hresult : story.result? = none) :
    ((p.perform (.shutdown meanwhile)).behind.get i).RequestedAfter story.asked := by
  have hasked : (p.stage i).behind.ask.RequestedAfter story.asked :=
    Backstage.requestedAfter_ask hlatest hresult
  cases i with
  | first =>
    obtain ⟨moves, after, -, -, -, hstage⟩ := p.stage_first_shutdown meanwhile
    rw [stage_asked, SlotStage.run_moves] at hstage
    show ((p.perform (.shutdown meanwhile)).stage .first).behind.RequestedAfter story.asked
    rw [hstage]
    exact (hasked.ask.play moves).play after
  | second =>
    obtain ⟨before, hhalf, hstage⟩ := p.stage_second_shutdown meanwhile
    rw [hhalf, SlotStage.run_moves] at hstage
    show ((p.perform (.shutdown meanwhile)).stage .second).behind.RequestedAfter story.asked
    rw [hstage]
    exact (hasked.play before).ask.play (ofSlot .second (p.secondMoves meanwhile))

/-- A shutdown of both slots takes back whatever returns in time, be the other slot stuck or not. -/
theorem takenBack_shutdown (h : p.Sound) (meanwhile : PerSlot (List (SlotId × Move))) {i : SlotId}
    (htoken : (p.scheduler.slot i).token?.isSome = true)
    (hreturned : ((p.perform (.shutdown meanwhile)).behind.get i).HasReturned) :
    ((p.perform (.shutdown meanwhile)).stage i).TakenBack := by
  cases i with
  | first =>
    obtain ⟨moves, after, -, -, hafter, hstage⟩ := p.stage_first_shutdown meanwhile
    have hback : ((p.perform (.shutdown meanwhile)).stage .first).behind.HasReturned := hreturned
    rw [hstage] at hback ⊢
    refine (h.asked.stage .first).takenBack_shutdown (h.asked.unreturned .first) moves after hafter
      ?_ hback
    rw [stage_asked]
    exact ((p.stage .first).slot_cancel_moves []).2.trans htoken
  | second =>
    obtain ⟨before, hhalf, hstage⟩ := p.stage_second_shutdown meanwhile
    have hback : ((p.perform (.shutdown meanwhile)).stage .second).behind.HasReturned := hreturned
    rw [hstage] at hback ⊢
    refine ((h.halfShut meanwhile.first).stage .second).takenBack_shutdown
      ((h.halfShut meanwhile.first).unreturned .second) _ [] (fun _ => rfl) ?_ hback
    rw [hhalf]
    exact ((p.stage .second).slot_cancel_moves before).2.trans htoken

/-- Whoever looks for a transfer of one slot, once or at the end of a wait, takes it back if it has
returned. -/
theorem takenBack_look (h : p.Sound) {i : SlotId} {op : Operation}
    (hop : op = .poll i ∨ ∃ meanwhile, op = .wait i meanwhile)
    (htoken : (p.scheduler.slot i).token?.isSome = true)
    (hreturned : ((p.act op).behind.get i).HasReturned) : ((p.act op).stage i).TakenBack := by
  have hback : ((p.act op).stage i).behind.HasReturned := hreturned
  rcases hop with rfl | ⟨meanwhile, rfl⟩
  · have hview : (Operation.poll i).view i = [.poll] := by simp [Operation.view]
    rw [stage_act, hview] at hback ⊢
    exact (h.stage i).takenBack_poll (h.unreturned i) htoken hback
  · have hview : (Operation.wait i meanwhile).view i = [.wait (ofSlot i meanwhile)] := by
      simp [Operation.view]
    rw [stage_act, hview] at hback ⊢
    exact (h.stage i).takenBack_wait (h.unreturned i) htoken hback

/-- A wait for both slots takes back what has returned, but it does not look at the second slot
while the first is stuck. -/
theorem takenBack_waitIdle (h : p.Sound) (meanwhile : PerSlot (List (SlotId × Move))) {i : SlotId}
    (hlooked : i = .first ∨
      ((p.perform (.waitIdle meanwhile)).scheduler.slot .first).buffer?.isSome = true)
    (htoken : (p.scheduler.slot i).token?.isSome = true)
    (hreturned : ((p.perform (.waitIdle meanwhile)).behind.get i).HasReturned) :
    ((p.perform (.waitIdle meanwhile)).stage i).TakenBack := by
  have hwaited : (p.act (.wait .first meanwhile.first)).Sound := h.act _
  cases hfound : ((p.act (.wait .first meanwhile.first)).scheduler.slot .first).buffer?.isSome with
  | true =>
    have hkept := (p.act (.wait .first meanwhile.first)).slot_act_of_ne
      (.wait .second meanwhile.second) (SlotId.other_ne .first)
    rw [perform_waitIdle_of_found hfound] at hreturned ⊢
    cases i with
    | first =>
      refine ((hwaited.act _).stage .first).takenBack (Option.not_isSome_iff_eq_none.1 ?_) hreturned
      exact fun hsome => Slot.not_buffer_and_token _ ⟨hkept.1 ▸ hfound, hsome⟩
    | second =>
      refine hwaited.takenBack_look (.inr ⟨_, rfl⟩) ?_ hreturned
      exact (p.slot_act_of_ne (.wait .first meanwhile.first)
        (SlotId.other_ne .second)).2.2.trans htoken
  | false =>
    rw [perform_waitIdle_of_not_found hfound] at hlooked hreturned ⊢
    rcases hlooked with rfl | hidle
    · exact h.takenBack_look (.inr ⟨_, rfl⟩) htoken hreturned
    · rw [hfound] at hidle
      cases hidle

end Sound

/-- Whatever is done with two slots and whatever happens behind them: an operation for the slot of
one index leaves the slot of another as it is, apart from what happens there by itself. A wait for
both succeeds exactly if both buffers are there at its end. A shutdown of both asks the transfers of
both slots to stop before it waits, and succeeds exactly if each slot had its buffer or a transfer
that returned in time. A transfer that has returned is taken back, with its outcome, by the next
look and by a shutdown, however stuck the other slot is; a wait for both leaves that of the second
slot where it is as long as the first is stuck. -/
theorem independent_run {config : Config} {s : Scheduler} (h : Scheduler.create config = .ok s)
    (calls : List Call) :
    let p := performAll { scheduler := s } calls
    (∀ (n k : Nat) (op : Operation), op.target = .ofIndex n → n % 2 ≠ k % 2 →
      let before := p.scheduler.slot (.ofIndex k)
      let after := (p.act op).scheduler.slot (.ofIndex k)
      after.buffer? = before.buffer? ∧ after.lastOutcome = before.lastOutcome ∧
        after.token?.isSome = before.token?.isSome ∧
        (ofSlot (.ofIndex k) op.moves = [] →
          (p.act op).stage (.ofIndex k) = p.stage (.ofIndex k))) ∧
    (∀ meanwhile, let q := p.perform (.waitIdle meanwhile)
      ∃ answer, (p.scheduler.waitIdle fun i _ => (p.waitEvents meanwhile).get i) =
          (answer, q.scheduler) ∧
        (answer = true ↔ ∀ i, (q.scheduler.slot i).buffer?.isSome = true) ∧
        ∀ i, i = .first ∨ (q.scheduler.slot .first).buffer?.isSome = true →
          (p.scheduler.slot i).token?.isSome = true → (q.behind.get i).HasReturned →
          (q.stage i).TakenBack) ∧
    (∀ meanwhile, let q := p.perform (.shutdown meanwhile)
      ∃ answer, (p.scheduler.shutdown fun i _ => (p.shutdownEvents meanwhile).get i) =
          (answer, q.scheduler) ∧
        (answer = true ↔ ∀ i, (p.scheduler.slot i).buffer?.isSome = true ∨
          (p.scheduler.slot i).token?.isSome = true ∧ (q.behind.get i).HasReturned) ∧
        (∀ i story, (p.stories i).getLast? = some story → story.result? = none →
          (q.behind.get i).RequestedAfter story.asked) ∧
        ∀ i, (p.scheduler.slot i).token?.isSome = true → (q.behind.get i).HasReturned →
          (q.stage i).TakenBack) ∧
    ∀ i op, op = .poll i ∨ (∃ meanwhile, op = .wait i meanwhile) →
      (p.scheduler.slot i).token?.isSome = true → ((p.act op).behind.get i).HasReturned →
      ((p.act op).stage i).TakenBack := by
  intro p
  have hp : p.Sound := (Sound.of_create h).performAll calls
  refine ⟨fun n k op htarget hne => ?_, fun meanwhile => ?_, fun meanwhile => ?_,
    fun i op hop htoken hreturned => hp.takenBack_look hop htoken hreturned⟩
  · have hother : op.target ≠ .ofIndex k :=
      fun heq => hne (SlotId.ofIndex_eq_iff.1 (htarget.symm.trans heq))
    obtain ⟨hbuffer, hlast, htoken⟩ := p.slot_act_of_ne op hother
    refine ⟨hbuffer, hlast, htoken, fun hnone => ?_⟩
    rw [p.stage_act_of_ne op hother, hnone]
    rfl
  · obtain ⟨hscheduler, hanswer⟩ := p.waitIdle_eq meanwhile
    exact ⟨_, Prod.ext rfl hscheduler, hanswer, fun i => hp.takenBack_waitIdle meanwhile⟩
  · exact ⟨_, p.shutdown_eq meanwhile, hp.shutdownAnswer_iff meanwhile,
      fun i story => Sound.requested_shutdown p meanwhile, fun i => hp.takenBack_shutdown meanwhile⟩

/-- Both slots have a transfer under way. -/
def bothUnderWay : List Call :=
  [.single (.submit .first 2), .single (.move .first .call), .single (.submit .second 3),
    .single (.move .second .call)]

/-- The second transfer returns while the first is waited for, which is stuck. -/
def secondReturns : PerSlot (List (SlotId × Move)) := ⟨[(.second, .returned (.ok 3))], []⟩

theorem independent_run_stuckFirst :
    ∃ s, Scheduler.create .oneColumn = .ok s ∧
      let p := performAll { scheduler := s } bothUnderWay
      let q := p.perform (.shutdown secondReturns)
      (p.scheduler.shutdown fun i _ => (p.shutdownEvents secondReturns).get i) =
          (false, q.scheduler) ∧
        (q.behind.get .first).RequestedAfter [] ∧ (q.stage .second).TakenBack ∧
        ((p.act (.cancel .first)).scheduler.slot .second).buffer? =
          (p.scheduler.slot .second).buffer? := by
  have hcreate : Scheduler.create .oneColumn = .ok _ := rfl
  refine ⟨_, hcreate, ?_⟩
  obtain ⟨hother, -, hshutdown, -⟩ := independent_run hcreate bothUnderWay
  obtain ⟨answer, hanswer, -, hrequested, htaken⟩ := hshutdown secondReturns
  have hfalse : answer = false := (congrArg Prod.fst hanswer).symm.trans rfl
  rw [hfalse] at hanswer
  exact ⟨hanswer, hrequested .first _ rfl rfl, htaken .second rfl ⟨_, rfl, rfl⟩,
    (hother 0 1 (.cancel .first) rfl (by decide)).1⟩

/-- A wait for both slots gives up at the first while that is stuck. The transfer of the second has
returned, and is left where it is. -/
theorem waitIdle_passes_over_second :
    ∃ s, Scheduler.create .oneColumn = .ok s ∧
      let p := performAll { scheduler := s } bothUnderWay
      let q := p.perform (.waitIdle secondReturns)
      (p.scheduler.waitIdle fun i _ => (p.waitEvents secondReturns).get i) =
          (false, q.scheduler) ∧
        (p.scheduler.slot .second).token?.isSome = true ∧ (q.behind.get .second).HasReturned ∧
        (q.scheduler.slot .second).buffer? = none ∧
        (q.scheduler.slot .second).lastOutcome = none ∧ ¬ (q.stage .second).TakenBack := by
  have hcreate : Scheduler.create .oneColumn = .ok _ := rfl
  refine ⟨_, hcreate, rfl, rfl, ⟨_, rfl, rfl⟩, rfl, rfl, ?_⟩
  rintro ⟨htoken, -⟩
  cases htoken

end SchedulerStage

end UsbDisplay
