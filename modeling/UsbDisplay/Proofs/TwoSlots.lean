import UsbDisplay.Proofs.DeviceRuns
import UsbDisplay.Proofs.WorkerInStep

/-!
Two slots with what goes on behind each. Each slot goes through a run of its own, whatever happens on
the other (`SchedulerStage.stage_run`). So what is known of a run of one slot holds of both; the
outcome that a slot shows is that of the story of its latest transfer, once the buffer is back
(`Slot.Fits.lastOutcome`).
-/

namespace UsbDisplay

/-! ### One slot -/

/-- Until the buffer of a transfer is back there is no outcome; then it is that of its story. -/
theorem Slot.Fits.lastOutcome {s : Slot} {b : Backstage} (h : s.Fits b) :
    s.lastOutcome = if s.token?.isSome then none else b.latest?.bind Story.outcome? := by
  cases h with
  | idle hstate _ hshows => simpa [Slot.token?, hstate] using hshows.last
  | running hstate _ hlast => simpa [Slot.token?, hstate] using hlast
  | ended hstate _ _ _ _ hlast => simpa [Slot.token?, hstate] using hlast
  | lost hstate _ hlast => simpa [Slot.token?, hstate] using hlast
  | released hstate _ hshows => simpa [Slot.token?, hstate] using hshows.last

/-- Once the buffer of a transfer is back its bulk call has returned. -/
theorem Slot.Fits.outcome?_isSome {s : Slot} {b : Backstage} (h : s.Fits b) (htoken : s.token? = none)
    {story : Story} (hlatest : b.latest? = some story) : story.outcome?.isSome = true := by
  cases h with
  | idle _ _ hshows => exact hshows.told story hlatest
  | released _ _ hshows => exact hshows.told story hlatest
  | running hstate _ _ => simp [Slot.token?, hstate] at htoken
  | ended hstate _ _ _ _ _ => simp [Slot.token?, hstate] at htoken
  | lost hstate _ _ => simp [Slot.token?, hstate] at htoken

theorem Slot.buffer?_of_idle {s : Slot} {buffer : TransferBuffer} (h : s.state = .idle buffer) :
    s.buffer? = some buffer := by
  rw [Slot.buffer?, h]

/-! ### Two slots -/

/-- Two slots with what goes on behind each. -/
structure SchedulerStage where
  scheduler : Scheduler
  behind : PerSlot Backstage := ⟨{}, {}⟩
  /-- Which slots their owner has shut down. -/
  isShut : PerSlot Bool := ⟨false, false⟩

namespace SchedulerStage

/-- What the owner of two slots can do, and what can happen by itself. Moves that come with an
operation fall into its waiting, on either slot. To wait for both slots, or to shut both down, is to
do so one after the other. -/
inductive Operation where
  | change (i : SlotId) (f : TransferBuffer → TransferBuffer)
  | submit (i : SlotId) (length : Nat)
  | poll (i : SlotId)
  | wait (i : SlotId) (meanwhile : List (SlotId × Move))
  | cancel (i : SlotId)
  | shutdown (i : SlotId) (meanwhile : List (SlotId × Move))
  | move (i : SlotId) (m : Move)

/-- The events of moves behind both slots, one after the other. -/
def play (b : PerSlot Backstage) :
    List (SlotId × Move) → List Scheduler.Event × PerSlot Backstage
  | [] => ([], b)
  | (i, m) :: rest =>
    let (event?, own) := (b.get i).move m
    let (events, b) := play (b.set i own) rest
    (event?.toList.map (i, ·) ++ events, b)

/-- Shuts slot `i` down, and lets events happen. If the buffer is there the shutdown does not wait,
and the events come after it. -/
def shutDown (s : Scheduler) (i : SlotId) (events : List Scheduler.Event) : Scheduler :=
  if (s.poll i).1 then (s.shutdownSlot i fun _ => []).2.reactAll events
  else (s.shutdownSlot i fun _ => events).2

def act (p : SchedulerStage) : Operation → SchedulerStage
  | .change i f =>
    { p with scheduler := p.scheduler.setSlot i ((p.scheduler.slot i).change f) }
  | .submit i length =>
    match p.scheduler.submit i length with
    | .error _ => p
    | .ok scheduler =>
      match (p.scheduler.slot i).buffer?, (scheduler.slot i).running? with
      | some buffer, some job =>
        { p with
          scheduler := scheduler
          behind := p.behind.set i ((p.behind.get i).give buffer length job) }
      | _, _ => { p with scheduler := scheduler }
  | .poll i => { p with scheduler := (p.scheduler.poll i).2 }
  | .wait i meanwhile =>
    let (events, behind) := play p.behind meanwhile
    { p with scheduler := (p.scheduler.wait i fun _ => events).2, behind := behind }
  | .cancel i =>
    { p with
      scheduler := (p.scheduler.cancel i).2
      behind := p.behind.set i (p.behind.get i).ask }
  | .shutdown i meanwhile =>
    let (events, behind) := play (p.behind.set i (p.behind.get i).ask) meanwhile
    { scheduler := shutDown p.scheduler i events
      behind := behind
      isShut := p.isShut.set i true }
  | .move i m =>
    let (events, behind) := play p.behind [(i, m)]
    { p with scheduler := p.scheduler.reactAll events, behind := behind }

def run (p : SchedulerStage) (ops : List Operation) : SchedulerStage := ops.foldl act p

/-- One of the slots, with what goes on behind it. -/
def stage (p : SchedulerStage) (j : SlotId) : SlotStage :=
  ⟨p.scheduler.slot j, p.behind.get j, p.isShut.get j⟩

/-! ### Each slot by itself -/

/-- What is for slot `j`. -/
def ofSlot {α : Type} (j : SlotId) (l : List (SlotId × α)) : List α :=
  l.filterMap fun x => if x.1 = j then some x.2 else none

/-- What an operation is to slot `j`. -/
def Operation.view (j : SlotId) : Operation → List SlotStage.Action
  | .change i f => if i = j then [.change f] else []
  | .submit i length => if i = j then [.submit length] else []
  | .poll i => if i = j then [.poll] else []
  | .wait i meanwhile =>
    if i = j then [.wait (ofSlot j meanwhile)] else (ofSlot j meanwhile).map .move
  | .cancel i => if i = j then [.cancel] else []
  | .shutdown i meanwhile =>
    if i = j then [.shutdown (ofSlot j meanwhile)] else (ofSlot j meanwhile).map .move
  | .move i m => if i = j then [.move m] else []

variable {j : SlotId}

theorem ofSlot_append {α : Type} (j : SlotId) (l l' : List (SlotId × α)) :
    ofSlot j (l ++ l') = ofSlot j l ++ ofSlot j l' := List.filterMap_append

theorem ofSlot_map_self {α : Type} (j : SlotId) (l : List α) : ofSlot j (l.map (j, ·)) = l := by
  induction l with
  | nil => rfl
  | cons a rest ih =>
    have hhead : ofSlot j ((j, a) :: rest.map (j, ·)) = a :: ofSlot j (rest.map (j, ·)) := by
      simp [ofSlot]
    rw [List.map_cons, hhead, ih]

theorem ofSlot_map_of_ne {α : Type} {i j : SlotId} (h : i ≠ j) (l : List α) :
    ofSlot j (l.map (i, ·)) = [] := by
  refine List.filterMap_eq_nil_iff.2 fun x hx => ?_
  obtain ⟨a, -, rfl⟩ := List.mem_map.1 hx
  exact if_neg h

theorem slot_reactAll (s : Scheduler) (events : List Scheduler.Event) (j : SlotId) :
    (s.reactAll events).slot j = (s.slot j).reactAll (ofSlot j events) := by
  induction events generalizing s with
  | nil => rfl
  | cons e rest ih =>
    have hreact := s.slot_react e j
    refine (ih (s.react e)).trans ?_
    rw [hreact]
    by_cases heq : e.1 = j
    · simp [ofSlot, heq, Slot.reactAll]
    · simp [ofSlot, heq, Ne.symm heq]

theorem play_eq (b : PerSlot Backstage) (moves : List (SlotId × Move)) (j : SlotId) :
    ofSlot j (play b moves).1 = ((b.get j).play (ofSlot j moves)).1 ∧
      (play b moves).2.get j = ((b.get j).play (ofSlot j moves)).2 := by
  induction moves generalizing b with
  | nil => exact ⟨rfl, rfl⟩
  | cons x rest ih =>
    obtain ⟨i, m⟩ := x
    obtain ⟨hevents, hbehind⟩ := ih (b.set i ((b.get i).move m).2)
    by_cases heq : i = j
    · subst heq
      have hcons : ofSlot i ((i, m) :: rest) = m :: ofSlot i rest := by simp [ofSlot]
      rw [PerSlot.get_set_self] at hevents hbehind
      rw [hcons]
      refine ⟨?_, hbehind⟩
      simp only [play, Backstage.play, ofSlot_append, ofSlot_map_self, hevents]
    · have hcons : ofSlot j ((i, m) :: rest) = ofSlot j rest := by simp [ofSlot, heq]
      rw [PerSlot.get_set_of_ne _ (Ne.symm heq)] at hevents hbehind
      rw [hcons]
      refine ⟨?_, hbehind⟩
      simp only [play, ofSlot_append, ofSlot_map_of_ne heq, hevents, List.nil_append]

end SchedulerStage

/-- Moves one after the other are a single play. -/
theorem SlotStage.run_moves (p : SlotStage) (moves : List Move) :
    p.run (moves.map .move) =
      { p with
        slot := p.slot.reactAll (p.behind.play moves).1
        behind := (p.behind.play moves).2 } := by
  induction moves generalizing p with
  | nil => rfl
  | cons m rest ih =>
    refine (ih (p.act (.move m))).trans ?_
    simp only [SlotStage.act, Backstage.play, List.append_nil, Slot.reactAll, List.foldl_append]

namespace Scheduler

theorem shutdownSlot_of_found {s : Scheduler} {i : SlotId} (h : (s.poll i).1 = true)
    (meanwhile : Scheduler → List Event) : s.shutdownSlot i meanwhile = (s.poll i).2.release i := by
  rw [shutdownSlot]
  generalize s.poll i = polled at *
  obtain ⟨_ | _, s'⟩ := polled
  · cases h
  · rfl

theorem shutdownSlot_of_not_found {s : Scheduler} {i : SlotId} (h : (s.poll i).1 = false)
    (meanwhile : Scheduler → List Event) :
    s.shutdownSlot i meanwhile = (((s.poll i).2.cancel i).2.wait i meanwhile).2.release i := by
  rw [shutdownSlot]
  generalize s.poll i = polled at *
  obtain ⟨_ | _, s'⟩ := polled
  · rfl
  · cases h

end Scheduler

namespace SchedulerStage

theorem slot_wait (s : Scheduler) (i j : SlotId) (events : List Scheduler.Event) :
    (s.wait i fun _ => events).2.slot j =
      if j = i then ((s.slot j).wait fun _ => ofSlot j events).2
      else (s.slot j).reactAll (ofSlot j events) := by
  rw [Scheduler.wait, Scheduler.slot_poll, slot_reactAll]
  rfl

/-- A shutdown of a slot is the shutdown of that slot; to the other slot it is a wait. -/
theorem slot_shutDown (s : Scheduler) (i j : SlotId) (events : List Scheduler.Event) :
    (shutDown s i events).slot j =
      if j = i then ((s.slot j).shutdown fun _ => ofSlot j events).2
      else (s.slot j).reactAll (ofSlot j events) := by
  have hfst : (s.poll i).1 = (s.slot i).poll.1 := rfl
  rw [shutDown]
  cases hfound : (s.slot i).poll.1 with
  | true =>
    rw [if_pos (hfst.trans hfound), Scheduler.shutdownSlot_of_found (hfst.trans hfound),
      slot_reactAll, Scheduler.slot_release, Scheduler.slot_poll]
    by_cases heq : j = i
    · subst heq
      obtain ⟨buffer, hidle⟩ := Slot.idle_of_poll (s := s.slot j) (by simpa using hfound)
      rw [if_pos rfl, if_pos rfl, if_pos rfl, Slot.shutdown_of_found hfound]
      -- the slot has given its buffer up, and notices nothing
      exact Slot.reactAll_of_not_running (by simp [Slot.release, hidle, Slot.running?]) _
    · rw [if_neg heq, if_neg heq, if_neg heq]
  | false =>
    rw [if_neg (by rw [hfst, hfound]; simp), Scheduler.shutdownSlot_of_not_found (hfst.trans hfound),
      Scheduler.slot_release, slot_wait, Scheduler.slot_cancel, Scheduler.slot_poll]
    by_cases heq : j = i
    · subst heq
      rw [if_pos rfl, if_pos rfl, if_pos rfl, if_pos rfl, if_pos rfl,
        Slot.shutdown_of_not_found hfound]
    · rw [if_neg heq, if_neg heq, if_neg heq, if_neg heq, if_neg heq]

theorem stage_submit (p : SchedulerStage) (i : SlotId) (length : Nat) (j : SlotId) :
    (p.act (.submit i length)).stage j =
      if i = j then (p.stage j).act (.submit length) else p.stage j := by
  simp only [act, Scheduler.submit]
  cases hsubmit : (p.scheduler.slot i).submit length with
  | error e =>
    by_cases heq : i = j
    · subst heq
      simp only [SlotStage.act, stage, hsubmit, if_true]
    · simp only [if_neg heq]
  | ok slot =>
    obtain ⟨buffer, hle, hstate, -, rfl⟩ := Slot.of_submit hsubmit
    have hbuffer : (p.scheduler.slot i).buffer? = some buffer := by rw [Slot.buffer?, hstate]
    simp only [hbuffer, Scheduler.slot_setSlot_self, Slot.running?]
    by_cases heq : i = j
    · subst heq
      simp only [SlotStage.act, stage, hsubmit, hbuffer, Slot.running?,
        Scheduler.slot_setSlot_self, PerSlot.get_set_self, if_true]
    · simp only [stage, Scheduler.slot_setSlot, if_neg heq, if_neg (Ne.symm heq),
        PerSlot.get_set_of_ne _ (Ne.symm heq)]

/-- An operation is to each slot what it is to that slot by itself. -/
theorem stage_act (p : SchedulerStage) (op : Operation) (j : SlotId) :
    (p.act op).stage j = (p.stage j).run (op.view j) := by
  cases op with
  | change i f =>
    by_cases heq : i = j
    · subst heq
      simp [act, stage, Operation.view, SlotStage.run, SlotStage.act]
    · simp [act, stage, Operation.view, SlotStage.run, Scheduler.slot_setSlot, heq, Ne.symm heq]
  | submit i length =>
    rw [stage_submit, Operation.view]
    split <;> rfl
  | poll i =>
    by_cases heq : i = j
    · subst heq
      simp [act, stage, Operation.view, SlotStage.run, SlotStage.act, Scheduler.slot_poll]
    · simp [act, stage, Operation.view, SlotStage.run, Scheduler.slot_poll, heq, Ne.symm heq]
  | wait i meanwhile =>
    obtain ⟨hevents, hbehind⟩ := play_eq p.behind meanwhile j
    by_cases heq : i = j
    · subst heq
      simp [act, stage, Operation.view, SlotStage.run, SlotStage.act, slot_wait, hevents, hbehind]
    · simp [act, stage, Operation.view, SlotStage.run_moves, slot_wait, hevents, hbehind, heq,
        Ne.symm heq]
  | cancel i =>
    by_cases heq : i = j
    · subst heq
      simp [act, stage, Operation.view, SlotStage.run, SlotStage.act, Scheduler.slot_cancel]
    · simp [act, stage, Operation.view, SlotStage.run, Scheduler.slot_cancel,
        PerSlot.get_set_of_ne, heq, Ne.symm heq]
  | shutdown i meanwhile =>
    obtain ⟨hevents, hbehind⟩ := play_eq (p.behind.set i (p.behind.get i).ask) meanwhile j
    by_cases heq : i = j
    · subst heq
      rw [PerSlot.get_set_self] at hevents hbehind
      simp [act, stage, Operation.view, SlotStage.run, SlotStage.act, slot_shutDown, hevents,
        hbehind]
    · rw [PerSlot.get_set_of_ne _ (Ne.symm heq)] at hevents hbehind
      simp [act, stage, Operation.view, SlotStage.run_moves, slot_shutDown, hevents, hbehind,
        PerSlot.get_set_of_ne, heq, Ne.symm heq]
  | move i m =>
    obtain ⟨hevents, hbehind⟩ := play_eq p.behind [(i, m)] j
    by_cases heq : i = j
    · subst heq
      have hown : ofSlot i [(i, m)] = [m] := ofSlot_map_self i [m]
      simp [act, stage, Operation.view, SlotStage.run, SlotStage.act, slot_reactAll, hevents,
        hbehind, hown]
    · have hnone : ofSlot j [(i, m)] = [] := ofSlot_map_of_ne heq [m]
      simp [act, stage, Operation.view, SlotStage.run, slot_reactAll, hevents, hbehind, hnone, heq,
        Backstage.play, Slot.reactAll]

/-- In a run each slot goes through a run of its own. -/
theorem stage_run (p : SchedulerStage) (ops : List Operation) (j : SlotId) :
    (p.run ops).stage j = (p.stage j).run (ops.flatMap (·.view j)) := by
  induction ops generalizing p with
  | nil => rfl
  | cons op rest ih =>
    refine (ih (p.act op)).trans ?_
    rw [stage_act, List.flatMap_cons, SlotStage.run, SlotStage.run, SlotStage.run,
      List.foldl_append]

theorem sound_stage {config : Config} {s : Scheduler} (h : Scheduler.create config = .ok s)
    (j : SlotId) : (stage { scheduler := s } j).Sound := by
  obtain ⟨hfirst, hsecond⟩ := Scheduler.slots_of_create h
  cases j with
  | first => exact SlotStage.Sound.of_create hfirst
  | second => exact SlotStage.Sound.of_create hsecond

/-- The stories of the accepted submits of a slot. -/
def stories (p : SchedulerStage) (i : SlotId) : List Story := (p.behind.get i).stories

end SchedulerStage

end UsbDisplay
