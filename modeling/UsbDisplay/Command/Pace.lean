import UsbDisplay.Station

/-!
How time passes for a command. A display and its adapter do not know the time; what falls into a
call is up to a pace, which may be any (`Pace`). The command itself runs at the pace of a clock that
only moves while somebody waits or sleeps (`Timeline`).
-/

namespace UsbDisplay.Command

/-- What falls into one call: what the clock says, what happens on the line during the call, and
what happens there while a second slot is waited for. -/
structure Moment where
  now : Duration := .zero
  moves : List LineMove := []
  later : List LineMove := []

/-- What falls into each call of a display on its line, and what time it is after the call. -/
structure Pace (τ : Type) where
  /-- Whether a submit waits, and how long, shows in its answer. -/
  submit : τ → Station → Moment × (Except Error FrameStatus → τ)
  wait : τ → Station → (limit : Duration) → Moment × τ
  sleep : τ → Station → Duration → Moment × τ

/-- A clock, and when the bulk call was made that has not returned, if there is one. -/
structure Timeline where
  now : Duration := .zero
  calledAt : Duration := .zero
  deriving DecidableEq, Repr

namespace Timeline

/-- When the bulk call of a slot returns, and what happens then. It takes as long as the latency of
the adapter, but is stopped when its deadline is earlier than that. -/
def ending (t : Timeline) (s : Station) (i : SlotId) : Duration × List LineMove :=
  let patience := s.device.config.transferTimeout
  let latency := s.adapter.faults.latency
  if patience < latency then (t.calledAt + patience, [.deadline i, .call i])
  else (t.calledAt + latency, [.call i])

/-- Lets time pass until the bulk call has returned, but not longer than the limit. -/
def await (t : Timeline) (s : Station) (limit : Duration) : List LineMove × Timeline :=
  match SlotId.all.find? fun i => (s.device.scheduler.slot i).running?.isSome with
  | none => ([], t)
  | some i =>
    let (due, moves) := t.ending s i
    if t.now + limit < due then ([], { t with now := t.now + limit })
    else (moves, if t.now < due then { t with now := due } else t)

/-- The time after a submit that took until `waited` if it came to its wait. -/
def submitted (t waited : Timeline) (answer : Except Error FrameStatus) : Timeline :=
  match answer with
  | .ok (.sent _) => { waited with calledAt := waited.now }
  | _ => if Station.waited answer then waited else t

/-- The pace of a clock that moves only while something is waited for. -/
def pace : Pace Timeline where
  submit t s :=
    let (moves, waited) := t.await s s.device.config.grace
    ({ now := t.now, moves := moves }, t.submitted waited)
  wait t s limit :=
    let (moves, t) := t.await s limit
    ({ now := t.now, moves := moves }, t)
  sleep t s d :=
    let (moves, _) := t.await s d
    ({ now := t.now, moves := moves }, { t with now := t.now + d })

end Timeline

end UsbDisplay.Command
