import Mathlib.Data.List.Induction
import UsbDisplay.Proofs.JobHistories
import UsbDisplay.Proofs.SeparateTransfers
import UsbDisplay.Proofs.TwoSlots

/-!
Whose doing the outcome of a transfer is. The worker looks at the token of a transfer only after its
bulk call has returned and the watchdog was told so, and what the owner and the watchdog have asked
of this transfer by then decides, if the call has failed (`Parties.Event.Fits`). What is asked later
comes too late, and what is asked of a transfer makes no difference to any other
(`Parties.Accounted.sameBut_cancel`, `Parties.Accounted.sameBut_fire`). A worker that dies in its
call leaves no outcome behind (`Parties.ownOutcomes_runBoth`).
-/

namespace UsbDisplay.Parties

/-! ### Slots with and without a worker -/

theorem Chronicle.mem_verdicts_iff (c : Chronicle) {done : Completion} :
    done ∈ c.verdicts ↔ .judged done ∈ c.history := by
  rw [verdicts, List.mem_filterMap]
  constructor
  · rintro ⟨e, he, hdone⟩
    cases e <;> cases hdone
    exact he
  · exact fun he => ⟨_, he, rfl⟩

theorem Chronicle.mem_returns_iff (c : Chronicle) {number : Nat}
    {result : Except TransportError Nat} :
    (number, result) ∈ c.returns ↔ .returned number result ∈ c.history := by
  rw [returns, List.mem_filterMap]
  constructor
  · rintro ⟨e, he, hresult⟩
    cases e <;> cases hresult
    exact he
  · exact fun he => ⟨_, he, rfl⟩

/-- What holds as long as the worker has not died in a call. -/
structure Alive (c : Chronicle) : Prop where
  order : InOrder c
  placed : Placed c
  judged : Judged c

/-- What is left when the worker has died in a call: no buffer, and nothing on its way. -/
structure Dead (c : Chronicle) : Prop where
  gone : c.state.worker = .gone
  away : c.state.owner.buffer? = none
  jobs : c.state.jobs = []
  completions : c.state.completions = []
  returned_once : (c.returns.map Prod.fst).Nodup
  judged_once : (c.verdicts.map Completion.number).Nodup

section Steps

variable {c : Chronicle} {a : Action} {next : State} {event? : Option Event}

theorem Alive.step (h : Alive c) (hs : Step c.state a next event?) : Alive (c.after next event?) :=
  ⟨h.order.step hs, h.placed.step hs, h.judged.step hs⟩

theorem Alive.orderly (h : Alive c) (ht : Told c) : Orderly c where
  outbound job hmem := h.order.number_lt hmem
  completions there done hmem := by
    have hin : done ∈ c.state.inbound := List.mem_append_left _ hmem
    have hverdict : done ∈ c.verdicts := by
      rw [← h.order.receipts there]
      exact List.mem_append_right _ hin
    have haloft : done.number ∈ c.state.aloft := List.mem_append_left _ (List.mem_map_of_mem hin)
    exact ⟨c.mem_verdicts_iff.1 hverdict, (ht.inFlight _ (h.placed.inFlight _ haloft)).1⟩
  result number result hresult :=
    c.mem_returns_iff.1 (h.judged.result (number, result) hresult)

theorem Alive.returned_once (h : Alive c) : (c.returns.map Prod.fst).Nodup := by
  have hprefix : c.returns.map Prod.fst <+: List.range c.state.tokens.length := ⟨_, h.order.returns⟩
  exact List.nodup_range.sublist hprefix.sublist

theorem Alive.die (h : Alive c) {job : Job} (calling : c.state.worker = .calling job) :
    Dead (c.after { c.state with worker := .gone, jobs := [] } (some .released)) := by
  -- one buffer at most, and the worker has it in its call
  have one := h.placed.holders_le_one
  rw [State.holders_eq, calling, Worker.load_calling] at one
  refine ⟨rfl, ?_, rfl, List.eq_nil_of_length_eq_zero ?_, ?_, ?_⟩
  · have hnone : c.state.owner.buffer?.toList.length = 0 := by omega
    exact Option.toList_eq_nil_iff.1 (List.eq_nil_of_length_eq_zero hnone)
  · show c.state.completions.length = 0
    omega
  · simpa using h.returned_once
  · simpa using h.order.verdicts_nodup

theorem Dead.step (h : Dead c) (hs : Step c.state a next event?) : Dead (c.after next event?) := by
  obtain ⟨gone, away, jobs, completions, hreturned, hjudged⟩ := h
  cases hs with
  | fill _ held | submit held | giveUp held => exact nomatch held.symm.trans away
  | receive _ _ arrived => exact nomatch arrived.symm.trans completions
  | take worker | arm worker | finishCall _ worker | disarm worker | judge worker | report _ worker
    | reportInVain _ worker | quit _ worker => exact nomatch worker.symm.trans gone
  | part | abandon => exact ⟨gone, rfl, jobs, rfl, by simpa using hreturned, by simpa using hjudged⟩
  | close => exact ⟨gone, rfl, jobs, completions, by simpa using hreturned, by simpa using hjudged⟩
  | _ => exact ⟨gone, away, jobs, completions, by simpa using hreturned, by simpa using hjudged⟩

theorem Dead.orderly (h : Dead c) : Orderly c where
  outbound job hmem := by simp [State.outbound, h.gone, h.jobs, Worker.unjudged] at hmem
  completions _ done hmem := by simp [h.completions] at hmem
  result number result hresult := by simp [h.gone, Worker.result?] at hresult

theorem Told.die (h : Told c) :
    Told (c.after { c.state with worker := .gone, jobs := [] } (some .released)) where
  coherent := h.coherent.concat trivial
  numbers := by simpa using h.numbers
  token number := by
    have hsame : firstAsk number (c.history ++ [.released]) = firstAsk number c.history := by
      rw [firstAsk_append]
      exact Option.or_none
    exact (h.token number).trans (congrArg CancelToken.mk hsame.symm)
  lastOutcome := by
    rw [Chronicle.after, Option.toList_some, shown_append_singleton]
    exact h.lastOutcome
  inFlight := by simpa [Chronicle.after] using h.inFlight
  held := h.held
  watchdog := h.watchdog
  notices := h.notices

end Steps

/-! ### Runs -/

/-- What holds of a slot at every moment, whether its worker is alive or not. -/
structure Accounted (c : Chronicle) : Prop where
  told : Told c
  worker : Alive c ∨ Dead c

namespace Accounted

variable {c : Chronicle}

theorem start (buffer : TransferBuffer) : Accounted (.start buffer) where
  told := {
    coherent := by
      intro before e after hsplit
      cases before <;> cases hsplit
    numbers := rfl
    token := fun _ => rfl
    lastOutcome := rfl
    inFlight := nofun
    held := fun _ _ hsome => nomatch hsome
    watchdog := nofun
    notices := nofun }
  worker := .inl ⟨Chronicle.inOrder_run buffer [], Chronicle.placed_run buffer [],
    Chronicle.judged_run buffer []⟩

theorem orderly (h : Accounted c) : Orderly c := by
  rcases h.worker with alive | dead
  · exact alive.orderly h.told
  · exact dead.orderly

theorem happen (h : Accounted c) (e : Happening) : Accounted (c.happen e) := by
  cases e with
  | step a =>
    rw [Chronicle.happen, Chronicle.act]
    split
    · exact h
    next hstep =>
      have hs := State.step_of_eq_some hstep
      exact ⟨h.told.step h.orderly hs, h.worker.imp (·.step hs) (·.step hs)⟩
  | death =>
    rw [Chronicle.happen, Chronicle.die]
    split
    next calling =>
      refine ⟨h.told.die, .inr ?_⟩
      rcases h.worker with alive | dead
      · exact alive.die calling
      · cases calling.symm.trans dead.gone
    · exact h

theorem runAll (h : Accounted c) (happenings : List Happening) : Accounted (c.runAll happenings) := by
  induction happenings generalizing c with
  | nil => exact h
  | cons e rest ih => exact ih (h.happen e)

theorem returned_once (h : Accounted c) : (c.returns.map Prod.fst).Nodup := by
  rcases h.worker with alive | dead
  · exact alive.returned_once
  · exact dead.returned_once

theorem judged_once (h : Accounted c) : (c.verdicts.map Completion.number).Nodup := by
  rcases h.worker with alive | dead
  · exact alive.order.verdicts_nodup
  · exact dead.judged_once

/-- A slot that shows an outcome, and was not shut down, takes the next job, with a token that was
asked nothing. -/
theorem accepts (h : Accounted c) (there : c.state.owner.isThere = true)
    (isOpen : c.state.owner.isOpen = true) {outcome : Outcome}
    (hlast : c.state.owner.lastOutcome = some outcome) :
    ∃ buffer, c.state.owner.buffer? = some buffer ∧ ∀ length ≤ buffer.capacity,
      ∃ next event?, c.state.step (.owner (.submit length)) = some (next, event?) ∧
        next.owner.lastOutcome = none ∧ next.token c.state.tokens.length = .fresh := by
  have hsome := h.told.held there isOpen (by rw [hlast]; rfl)
  obtain ⟨buffer, held⟩ := Option.isSome_iff_exists.1 hsome
  refine ⟨buffer, held, fun length hle => ?_⟩
  rcases h.worker with alive | dead
  · have htaken := alive.placed.submit_isSome there held isOpen hle
    obtain ⟨⟨next, event?⟩, hstep⟩ := Option.isSome_iff_exists.1 htaken
    refine ⟨next, event?, hstep, ?_⟩
    cases State.step_of_eq_some hstep with
    | submit => exact ⟨rfl, by simp [State.token]⟩
  · cases held.symm.trans dead.away

end Accounted

/-! ### Runs that differ in what one job was asked -/

/-- What an owner shows is not of job `k`, if this is not the job that was submitted last. -/
theorem shown_blur {k : Nat} {history : List Event}
    (hnumbers : ∀ before done after, history = before ++ .received done :: after →
      (before.filterMap Event.submitted?).length = done.number + 1)
    (hne : (history.filterMap Event.submitted?).length ≠ k + 1) :
    shown (history.filterMap (Event.blur? k)) = shown history := by
  induction history using List.reverseRecOn with
  | nil => rfl
  | append_singleton before e ih =>
    have hlatest (hquiet : e.submitted? = none) :
        (before.filterMap Event.submitted?).length ≠ k + 1 := by
      rwa [List.filterMap_append, List.filterMap_cons_none hquiet, List.filterMap_nil,
        List.append_nil] at hne
    have hearlier (hquiet : e.submitted? = none) :
        shown (before.filterMap (Event.blur? k)) = shown before := by
      refine ih (fun first done after h => ?_) (hlatest hquiet)
      exact hnumbers first done (after ++ [e]) (by rw [h, List.append_assoc, List.cons_append])
    rw [List.filterMap_append, shown_append_singleton]
    cases e with
    | submitted job => simp [Event.blur?, shown_append_singleton]
    | received done =>
      have hlast : (before.filterMap Event.submitted?).length = done.number + 1 :=
        hnumbers before done [] rfl
      have hother : done.number ≠ k := by
        have := hlatest rfl
        omega
      simp [Event.blur?, Completion.blur_of_ne hother, shown_append_singleton]
    | cancelled number | fired number =>
      by_cases h : number = k <;> simp [Event.blur?, h, shown_append_singleton, hearlier rfl]
    | _ => simp [Event.blur?, shown_append_singleton, hearlier rfl]

/-- Two slots of which the same is to be told of all jobs but `k`. -/
structure SameBut (k : Nat) (c c' : Chronicle) : Prop where
  verdicts : c'.verdicts.filter (·.number ≠ k) = c.verdicts.filter (·.number ≠ k)
  receipts : c'.receipts.filter (·.number ≠ k) = c.receipts.filter (·.number ≠ k)
  lastOutcome : c.submits.length ≠ k + 1 →
    c'.state.owner.lastOutcome = c.state.owner.lastOutcome

namespace Accounted

variable {c c' : Chronicle} {k : Nat}

theorem lastOutcome_blur (h : Accounted c) (hne : c.submits.length ≠ k + 1) :
    c.state.owner.lastOutcome = shown (c.blur k).history := by
  refine h.told.lastOutcome.trans (shown_blur (fun before done after hsplit => ?_) hne).symm
  exact (h.told.coherent before _ after hsplit).2

theorem sameBut (h : Accounted c) (h' : Accounted c') (hblur : c'.blur k = c.blur k)
    (happenings : List Happening) : SameBut k (c.runAll happenings) (c'.runAll happenings) := by
  have hsame := Chronicle.blur_runAll_congr hblur happenings
  obtain ⟨hverdicts, hreceipts⟩ := Chronicle.filter_of_blur_eq hsame
  refine ⟨hverdicts, hreceipts, fun hne => ?_⟩
  have hne' : (c'.runAll happenings).submits.length ≠ k + 1 := by
    rwa [← Chronicle.submits_blur, hsame, Chronicle.submits_blur]
  rw [(h'.runAll happenings).lastOutcome_blur hne', hsame,
    ← (h.runAll happenings).lastOutcome_blur hne]

theorem letBe (h : Accounted c) : Accounted c.letBe where
  told := { h.told with watchdog := by rintro number (⟨⟨⟩⟩ | ⟨⟨⟩⟩) }
  worker := h.worker.imp
    (fun alive => ⟨{ alive.order with }, { alive.placed with }, { alive.judged with }⟩)
    fun dead => { dead with }

/-- Whether a job is cancelled makes no difference to the outcome of any other. -/
theorem sameBut_cancel (h : Accounted c) (hflight : c.state.owner.inFlight? = some k)
    (happenings : List Happening) :
    SameBut k (c.runAll happenings) ((c.act (.owner .cancel)).runAll happenings) :=
  h.sameBut (h.happen (.step (.owner .cancel))) (Chronicle.blur_cancel hflight) happenings

theorem sameBut_fire (h : Accounted c) (hexpired : c.state.watchdog = .expired k)
    (happenings : List Happening) :
    SameBut k (c.letBe.runAll happenings) ((c.act (.watchdog .fire)).runAll happenings) :=
  h.letBe.sameBut (h.happen (.step (.watchdog .fire))) (Chronicle.blur_fire hexpired) happenings

end Accounted

/-- The outcomes of a slot are those of its jobs, each by itself. -/
structure OwnOutcomes (c : Chronicle) : Prop where
  /-- The worker decides on an outcome by what the call of the job has returned, and by what was
  asked of this job first, of all that was asked before. The owner gets it for the job that it has
  submitted last, and it asks this job alone to stop, until it has taken it back. -/
  coherent : Coherent c.history
  returned_once : (c.returns.map Prod.fst).Nodup
  judged_once : (c.verdicts.map Completion.number).Nodup
  /-- A job was asked what the history tells, and nothing else. -/
  token : ∀ number, c.state.token number = ⟨firstAsk number c.history⟩
  lastOutcome : c.state.owner.lastOutcome = shown c.history
  /-- Whether a job is cancelled makes no difference to the outcome of any other, whatever happens
  afterwards; -/
  cancel : ∀ k, c.state.owner.inFlight? = some k → ∀ happenings,
    SameBut k (c.runAll happenings) ((c.act (.owner .cancel)).runAll happenings)
  /-- nor does it make one whether its deadline asks it to stop, or lets it be. -/
  deadline : ∀ k, c.state.watchdog = .expired k → ∀ happenings,
    SameBut k (c.letBe.runAll happenings) ((c.act (.watchdog .fire)).runAll happenings)
  accepts : c.state.owner.isThere = true → c.state.owner.isOpen = true →
    ∀ outcome, c.state.owner.lastOutcome = some outcome →
      ∃ buffer, c.state.owner.buffer? = some buffer ∧ ∀ length ≤ buffer.capacity,
        ∃ next event?, c.state.step (.owner (.submit length)) = some (next, event?) ∧
          next.owner.lastOutcome = none ∧ next.token c.state.tokens.length = .fresh

theorem Accounted.ownOutcomes {c : Chronicle} (h : Accounted c) : OwnOutcomes c where
  coherent := h.told.coherent
  returned_once := h.returned_once
  judged_once := h.judged_once
  token := h.told.token
  lastOutcome := h.told.lastOutcome
  cancel _ hflight := h.sameBut_cancel hflight
  deadline _ hexpired := h.sameBut_fire hexpired
  accepts there isOpen _ hlast := h.accepts there isOpen hlast

open SchedulerStage (ofSlot)

/-- What happens to one slot is nothing to the other. -/
theorem get_runBoth (p : PerSlot Chronicle) (happenings : List (SlotId × Happening)) (i : SlotId) :
    (runBoth p happenings).get i = (p.get i).runAll (ofSlot i happenings) := by
  induction happenings generalizing p with
  | nil => rfl
  | cons x rest ih =>
    obtain ⟨j, e⟩ := x
    refine (ih _).trans ?_
    by_cases hsame : j = i
    · subst hsame
      rw [PerSlot.get_set_self]
      simp [ofSlot, Chronicle.runAll]
    · rw [PerSlot.get_set_of_ne _ (Ne.symm hsame)]
      simp [ofSlot, hsame]

theorem Chronicle.runAll_steps (c : Chronicle) (actions : List Action) :
    c.runAll (actions.map .step) = c.run actions := by
  rw [runAll, List.foldl_map]
  rfl

/-- On two slots, whatever happens to them: the outcome of each transfer is decided by its own bulk
call, and by what was asked of it before the worker looked at its token. As long as no worker dies,
`Slot` shows its owner the same. -/
theorem ownOutcomes_runBoth (buffers : PerSlot TransferBuffer)
    (happenings : List (SlotId × Happening)) (i : SlotId) :
    let c := (runBoth ⟨.start buffers.first, .start buffers.second⟩ happenings).get i
    c = (Chronicle.start (buffers.get i)).runAll (ofSlot i happenings) ∧ OwnOutcomes c ∧
    ∀ actions, ofSlot i happenings = actions.map .step → c.state.owner.isThere = true →
      ∀ index,
        let slot := ((Chronicle.start (buffers.get i)).moves actions).foldl SlotMove.apply
          { index := index, state := .idle (buffers.get i) }
        slot.lastOutcome = c.state.owner.lastOutcome ∧ slot.buffer? = c.state.owner.buffer? ∧
        ∀ length, (c.state.step (.owner (.submit length))).isSome = true ↔
          ∃ next, slot.submit length = .ok next := by
  intro c
  have hstart : (PerSlot.mk (Chronicle.start buffers.first) (.start buffers.second)).get i =
      .start (buffers.get i) := by cases i <;> rfl
  have hc : c = (Chronicle.start (buffers.get i)).runAll (ofSlot i happenings) :=
    (get_runBoth _ happenings i).trans (congrArg (Chronicle.runAll · _) hstart)
  refine ⟨hc, ?_, fun actions hactions there index => ?_⟩
  · rw [hc]
    exact ((Accounted.start _).runAll _).ownOutcomes
  · rw [hactions, Chronicle.runAll_steps] at hc
    rw [hc] at there ⊢
    obtain ⟨hshown, hbuffer, hsubmit⟩ :=
      Chronicle.shownBy_run index (buffers.get i) actions there
    exact ⟨hshown.lastOutcome, hbuffer, hsubmit⟩

/-- A transfer that succeeds although it was asked to stop, and one that its deadline stops when its
call has returned already. -/
def stoppedTwice : List Action :=
  [.owner (.submit 0), .worker .take, .worker .arm, .watchdog .notice, .owner .cancel,
    .worker (.finishCall (.ok 0)), .worker .disarm, .watchdog .notice, .worker .judge,
    .worker .report, .owner .poll,
    .owner (.submit 0), .worker .take, .worker .arm, .watchdog .notice, .watchdog .expire,
    .worker (.finishCall (.error .stall)), .watchdog .fire, .owner .cancel, .worker .disarm,
    .worker .judge, .worker .report, .owner .poll]

theorem ownOutcomes_runBoth_stoppedTwice :
    let happenings := stoppedTwice.map fun a => (SlotId.first, Happening.step a)
    let c := (runBoth ⟨.start ⟨.empty, #[]⟩, .start ⟨.empty, #[]⟩⟩ happenings).get .first
    ofSlot .first happenings = stoppedTwice.map .step ∧ c.state.owner.isThere = true ∧
      c.receipts.map Completion.outcome = [.completed 0, .timedOut] ∧
      let slot := ((Chronicle.start ⟨.empty, #[]⟩).moves stoppedTwice).foldl SlotMove.apply
        { index := 0, state := .idle ⟨.empty, #[]⟩ }
      slot.lastOutcome = some .timedOut ∧ ∃ next, slot.submit 0 = .ok next := by
  intro happenings c
  obtain ⟨-, hown, hslot⟩ :=
    ownOutcomes_runBoth ⟨⟨.empty, #[]⟩, ⟨.empty, #[]⟩⟩ happenings .first
  obtain ⟨hlast, -, hsubmit⟩ := hslot stoppedTwice rfl rfl 0
  refine ⟨rfl, rfl, rfl, hlast.trans rfl, (hsubmit 0).1 ?_⟩
  obtain ⟨buffer, -, htakes⟩ := hown.accepts rfl rfl .timedOut rfl
  obtain ⟨next, event?, hstep, -⟩ := htakes 0 (Nat.zero_le _)
  rw [hstep]
  rfl

/-- A transfer that nobody has asked to stop when its call returns is cancelled all the same, if it
is asked before the worker looks at its token; and one that is asked after that is not. -/
theorem cancelled_after_return :
    let run := (Chronicle.start ⟨.empty, #[]⟩).run
    let called : List Action :=
      [.owner (.submit 0), .worker .take, .worker .arm, .worker (.finishCall (.error .stall))]
    let early := run (called ++ [.owner .cancel, .worker .disarm, .worker .judge, .worker .report,
      .owner .poll])
    let late := run (called ++ [.worker .disarm, .worker .judge, .owner .cancel, .worker .report,
      .owner .poll])
    (run called).returns = [(0, .error .stall)] ∧ firstAsk 0 (run called).history = none ∧
      early.state.owner.lastOutcome = some .cancelled ∧
      firstAsk 0 late.history = some .requested ∧
      late.state.owner.lastOutcome = some (.failed .stall) :=
  ⟨rfl, rfl, rfl, rfl, rfl⟩

end UsbDisplay.Parties
