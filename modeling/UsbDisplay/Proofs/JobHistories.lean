import UsbDisplay.Proofs.PartiesAsSlot
import UsbDisplay.Proofs.PartiesInStep

/-!
What the history of a slot tells of its jobs: why each was first asked to stop, and which outcome the
owner has (`Parties.Told`). The worker decides on the outcome of a job by what its call has returned
and by what this job was asked before, so every event fits the history before it
(`Parties.Event.Fits`).
-/

namespace UsbDisplay.Parties

/-! ### What a history tells of a job -/

/-- Why an event asks a job to stop, if it does. -/
def Event.ask? (number : Nat) : Event → Option CancelReason
  | cancelled n => if n = number then some .requested else none
  | fired n => if n = number then some .deadline else none
  | _ => none

/-- Why a job was first asked to stop, as far as a history goes. -/
def firstAsk (number : Nat) (history : List Event) : Option CancelReason :=
  history.findSome? (Event.ask? number)

/-- The outcome that an owner has after a history: that of the completion it has taken last, unless
it has submitted another job since. -/
def shown (history : List Event) : Option Outcome :=
  history.foldl (fun last e =>
    match e with
    | .submitted _ => none
    | .received done => some done.outcome
    | _ => last) none

/-- What an event has to be like after the history before it. -/
def Event.Fits (before : List Event) : Event → Prop
  | submitted job => job.number = (before.filterMap submitted?).length
  | judged done =>
    ∃ result, .returned done.number result ∈ before ∧
      done.outcome = .ofResult result ⟨firstAsk done.number before⟩
  | received done =>
    .judged done ∈ before ∧ (before.filterMap submitted?).length = done.number + 1
  | cancelled number =>
    (before.filterMap submitted?).length = number + 1 ∧
      ∀ done, .received done ∈ before → done.number ≠ number
  | _ => True

theorem firstAsk_append (number : Nat) (before after : List Event) :
    firstAsk number (before ++ after) = (firstAsk number before).or (firstAsk number after) :=
  List.findSome?_append

theorem shown_append_singleton (history : List Event) (e : Event) :
    shown (history ++ [e]) =
      match e with
      | .submitted _ => none
      | .received done => some done.outcome
      | _ => shown history := by
  rw [shown, List.foldl_append]
  rfl

/-- Every event of a history fits what was before it. -/
def Coherent (history : List Event) : Prop :=
  ∀ before e after, history = before ++ e :: after → e.Fits before

theorem Coherent.concat {history : List Event} (h : Coherent history) {e : Event}
    (he : e.Fits history) : Coherent (history ++ [e]) := by
  intro before e' after hsplit
  rcases List.eq_nil_or_concat after with rfl | ⟨rest, last, rfl⟩
  · obtain ⟨rfl, hlast⟩ := List.append_inj' hsplit rfl
    cases hlast
    exact he
  · rw [List.concat_eq_append, ← List.cons_append, ← List.append_assoc] at hsplit
    exact h before e' rest (List.append_inj' hsplit rfl).1

/-! ### One step -/

/-- What a slot remembers is what its history tells. -/
structure Told (c : Chronicle) : Prop where
  coherent : Coherent c.history
  numbers : c.submits.length = c.state.tokens.length
  token : ∀ number, c.state.token number = ⟨firstAsk number c.history⟩
  lastOutcome : c.state.owner.lastOutcome = shown c.history
  /-- The owner waits for the job that it has submitted last, and has not taken it back. -/
  inFlight : ∀ number ∈ c.state.owner.inFlight?, c.state.tokens.length = number + 1 ∧
    ∀ done, .received done ∈ c.history → done.number ≠ number
  held : c.state.owner.isThere = true → c.state.owner.isOpen = true →
    c.state.owner.lastOutcome.isSome = true → c.state.owner.buffer?.isSome = true
  /-- The watchdog only hears of jobs that were submitted. -/
  watchdog : ∀ number, c.state.watchdog = .armed number ∨ c.state.watchdog = .expired number →
    number < c.state.tokens.length
  notices : ∀ number, .arm number ∈ c.state.notices → number < c.state.tokens.length

/-- What is on its way in a slot was submitted, and what comes back was told in the history. -/
structure Orderly (c : Chronicle) : Prop where
  outbound : ∀ job ∈ c.state.outbound, job.number < c.state.tokens.length
  completions : c.state.owner.isThere = true → ∀ done ∈ c.state.completions,
    .judged done ∈ c.history ∧ c.state.tokens.length = done.number + 1
  result : ∀ number result, c.state.worker.result? = some (number, result) →
    .returned number result ∈ c.history

theorem cancel_snd (t : CancelToken) (reason : CancelReason) :
    (t.cancel reason).2 = ⟨t.reason?.or (some reason)⟩ := by
  rcases t with ⟨_ | _⟩ <;> rfl

/-- A job is asked to stop, and no other one. -/
theorem token_cancelJob_eq {s : State} {history : List Event} {asked : Nat}
    (hlt : asked < s.tokens.length) {reason : CancelReason} {e : Event}
    (he : ∀ number, e.ask? number = if asked = number then some reason else none)
    (h : ∀ number, s.token number = ⟨firstAsk number history⟩) (number : Nat) :
    (s.cancelJob asked reason).token number = ⟨firstAsk number (history ++ [e])⟩ := by
  have hlast : firstAsk number [e] = if asked = number then some reason else none := by
    rw [firstAsk, List.findSome?_singleton, he]
  rw [firstAsk_append, hlast]
  by_cases hsame : asked = number
  · subst hsame
    rw [State.token_cancelJob_of_lt hlt, cancel_snd, h, if_pos rfl]
  · rw [s.token_cancelJob_of_ne hsame, h, if_neg hsame, Option.or_none]

section Steps

variable {c : Chronicle} {a : Action} {next : State} {event? : Option Event}

theorem Told.fits (h : Told c) (ho : Orderly c) (hs : Step c.state a next event?) :
    ∀ e ∈ event?, e.Fits c.history := by
  have hnumbers : (c.history.filterMap Event.submitted?).length = c.state.tokens.length := h.numbers
  intro e he
  cases hs with
  | submit =>
    cases he
    exact hnumbers.symm
  | cancel aloft =>
    cases he
    obtain ⟨hlast, hnew⟩ := h.inFlight _ aloft
    exact ⟨hnumbers.trans hlast, hnew⟩
  | receive there _ arrived =>
    cases he
    obtain ⟨hjudged, hlast⟩ := ho.completions there _ (arrived ▸ List.mem_cons_self)
    exact ⟨hjudged, hnumbers.trans hlast⟩
  | judge disarmed =>
    cases he
    exact ⟨_, ho.result _ _ (by rw [disarmed]; rfl), by rw [h.token]⟩
  | arm | finishCall | heedArm | fire | giveUp | abandon | reportInVain =>
    cases he
    trivial
  | _ => cases he

theorem Told.step_token (h : Told c) (hs : Step c.state a next event?) (number : Nat) :
    next.token number = ⟨firstAsk number (c.history ++ event?.toList)⟩ := by
  have hquiet : ∀ events, firstAsk number events = none →
      c.state.token number = ⟨firstAsk number (c.history ++ events)⟩ := by
    intro events hnone
    rw [firstAsk_append, hnone, Option.or_none, h.token]
  cases hs with
  | submit => exact (State.getD_append_fresh ..).trans (hquiet _ rfl)
  | cancel aloft =>
    refine token_cancelJob_eq ?_ (fun _ => rfl) h.token number
    have := (h.inFlight _ aloft).1
    omega
  | fire expired =>
    exact token_cancelJob_eq (h.watchdog _ (.inr expired)) (fun _ => rfl) h.token number
  | _ => exact hquiet _ rfl

theorem Told.received_lt (h : Told c) {done : Completion} (hmem : .received done ∈ c.history) :
    done.number < c.state.tokens.length := by
  obtain ⟨before, after, hsplit⟩ := List.append_of_mem hmem
  have hfits : (before.filterMap Event.submitted?).length = done.number + 1 :=
    (h.coherent before _ after hsplit).2
  have hnumbers := h.numbers
  rw [Chronicle.submits, hsplit, List.filterMap_append, List.length_append] at hnumbers
  omega

theorem Told.step_inFlight (h : Told c) (hs : Step c.state a next event?) :
    ∀ number ∈ next.owner.inFlight?, next.tokens.length = number + 1 ∧
      ∀ done, .received done ∈ (c.after next event?).history → done.number ≠ number := by
  have hold := h.inFlight
  cases hs with
  | submit =>
    -- the job is new: what was taken back before has an earlier number
    rintro number ⟨⟩
    refine ⟨by simp, fun done hmem => ?_⟩
    have hreceived : .received done ∈ c.history := by simpa [Chronicle.after] using hmem
    have := h.received_lt hreceived
    omega
  | receive => rintro number ⟨⟩
  | _ => simpa [Chronicle.after] using hold

theorem Told.step_watchdog (h : Told c) (ho : Orderly c) (hs : Step c.state a next event?) :
    (∀ number, next.watchdog = .armed number ∨ next.watchdog = .expired number →
      number < next.tokens.length) ∧
      ∀ number, .arm number ∈ next.notices → number < next.tokens.length := by
  have hwatchdog := h.watchdog
  have hnotices := h.notices
  cases hs with
  | submit =>
    constructor
    · intro number hnumber
      have := hwatchdog number hnumber
      simp
      omega
    · intro number hnumber
      have := hnotices number hnumber
      simp
      omega
  | @arm job taken =>
    have hjob := ho.outbound job (by simp [State.outbound, taken, Worker.unjudged])
    refine ⟨hwatchdog, fun number hmem => ?_⟩
    rcases List.mem_append.1 hmem with hold | hnew
    · exact hnotices number hold
    · cases List.mem_singleton.1 hnew
      exact hjob
  | disarm => exact ⟨hwatchdog, by simpa using hnotices⟩
  | heedArm idle hnext =>
    refine ⟨?_, fun number hmem => hnotices number (hnext ▸ List.mem_cons_of_mem _ hmem)⟩
    rintro number (⟨⟨⟩⟩ | ⟨⟨⟩⟩)
    exact hnotices _ (hnext ▸ List.mem_cons_self)
  | passDisarm idle hnext =>
    exact ⟨hwatchdog, fun number hmem => hnotices number (hnext ▸ List.mem_cons_of_mem _ hmem)⟩
  | endWait armed hnext =>
    refine ⟨?_, fun number hmem => hnotices number (hnext ▸ List.mem_cons_of_mem _ hmem)⟩
    rintro number (⟨⟨⟩⟩ | ⟨⟨⟩⟩)
  | expire armed =>
    refine ⟨?_, hnotices⟩
    rintro number (⟨⟨⟩⟩ | ⟨⟨⟩⟩)
    exact hwatchdog _ (.inl armed)
  | fire =>
    refine ⟨?_, by simpa using hnotices⟩
    rintro number (⟨⟨⟩⟩ | ⟨⟨⟩⟩)
  | retire =>
    refine ⟨?_, hnotices⟩
    rintro number (⟨⟨⟩⟩ | ⟨⟨⟩⟩)
  | cancel => exact ⟨by simpa using hwatchdog, by simpa using hnotices⟩
  | _ => exact ⟨hwatchdog, hnotices⟩

theorem Told.step (h : Told c) (ho : Orderly c) (hs : Step c.state a next event?) :
    Told (c.after next event?) where
  coherent := by
    have hfits := h.fits ho hs
    rw [Chronicle.after]
    cases event? with
    | none => simpa using h.coherent
    | some e => exact h.coherent.concat (hfits e rfl)
  numbers := by
    have hnumbers := h.numbers
    cases hs with
    | submit => simp [hnumbers]
    | _ => simpa using hnumbers
  token := h.step_token hs
  lastOutcome := by
    have hlast := h.lastOutcome
    cases hs with
    | submit => simp [Chronicle.after, shown_append_singleton]
    | receive => simp [Chronicle.after, shown_append_singleton]
    | _ => simpa [Chronicle.after, shown_append_singleton] using hlast
  inFlight := h.step_inFlight hs
  held := by
    have hheld := h.held
    cases hs with
    | fill | receive => exact fun _ _ _ => rfl
    | submit =>
      intro _ _ hsome
      cases hsome
    | close | giveUp =>
      intro _ isOpen
      cases isOpen
    | part | abandon =>
      intro there
      cases there
    | _ => exact hheld
  watchdog := (h.step_watchdog ho hs).1
  notices := (h.step_watchdog ho hs).2

end Steps

end UsbDisplay.Parties
