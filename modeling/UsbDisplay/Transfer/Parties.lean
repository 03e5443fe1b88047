import UsbDisplay.Transfer.Scheduler

/-!
What goes on behind a transfer slot, one step at a time. Three parties work independently and talk
through queues. The owner puts a job with its buffer into one queue and takes completions from
another. The worker takes a job, tells the watchdog to arm, makes the bulk call, tells the watchdog
to disarm and sends the buffer back. The watchdog waits for a notice; once armed, it waits for
another one, and asks the transfer to stop if none comes in time. Any party may take its next step
at any moment.

Jobs are numbered in the order in which they are submitted, and every job has a token of its own.
The watchdog looks at the number in a notice to arm and at nothing else: whatever notice comes while
it is armed ends its wait. Between the end of its patience and the moment when it asks the transfer
to stop, the others may go on as far as they can.

A bulk call returns some time with some result. A worker that dies in its call is no step of the
parties; it comes on top of them (`Happening.death`).
-/

namespace UsbDisplay.Parties

/-- A buffer on its way to the bulk call. -/
structure Job where
  number : Nat
  buffer : TransferBuffer
  length : Nat

/-- A buffer on its way back. -/
structure Completion where
  number : Nat
  buffer : TransferBuffer
  outcome : Outcome

/-- What the worker tells the watchdog. -/
inductive Notice where
  | arm (number : Nat)
  | disarm (number : Nat)
  deriving DecidableEq, Repr

structure Owner where
  buffer? : Option TransferBuffer
  /-- The job that has not come back. -/
  inFlight? : Option Nat := none
  lastOutcome : Option Outcome := none
  /-- Whether the way to the worker is open. -/
  isOpen : Bool := true
  /-- Whether it has found the worker gone while it did not have the buffer. -/
  workerLost : Bool := false
  /-- Whether it still takes completions. -/
  isThere : Bool := true

/-- How far the worker is. -/
inductive Worker where
  | waiting
  | taken (job : Job)
  | calling (job : Job)
  | returned (job : Job) (result : Except TransportError Nat)
  | disarmed (job : Job) (result : Except TransportError Nat)
  | finished (completion : Completion)
  | gone

def Worker.isGone : Worker → Bool
  | gone => true
  | _ => false

inductive Watchdog where
  | idle
  /-- It waits for the end of this job. -/
  | armed (number : Nat)
  /-- It has waited long enough. -/
  | expired (number : Nat)
  | gone
  deriving DecidableEq, Repr

structure State where
  owner : Owner
  jobs : List Job := []
  worker : Worker := .waiting
  notices : List Notice := []
  watchdog : Watchdog := .idle
  completions : List Completion := []
  /-- The tokens of all jobs so far, by number. -/
  tokens : List CancelToken := []

/-- A slot with a buffer that has sent nothing. -/
def State.start (buffer : TransferBuffer) : State where
  owner := { buffer? := some buffer }

/-- The most jobs, and the most completions, that a queue takes; a sender waits for room. Notices
are never refused. -/
def queueLimit : Nat := 1

inductive OwnerAction where
  /-- It changes its buffer. -/
  | fill (buffer : TransferBuffer)
  | submit (length : Nat)
  | cancel
  /-- It looks for a completion, once or at the end of a wait. -/
  | poll
  /-- It closes the way to the worker and gives up its buffer. -/
  | close
  /-- It takes no completions any more. -/
  | leave

inductive WorkerAction where
  | take
  | arm
  | finishCall (result : Except TransportError Nat)
  | disarm
  /-- It looks why the transfer was asked to stop, if it was. -/
  | judge
  | report
  | leave

inductive WatchdogAction where
  | notice
  /-- It has waited long enough, and no notice has come. -/
  | expire
  /-- It asks the transfer to stop. -/
  | fire
  | leave

/-- One step of one party. -/
inductive Action where
  | owner (a : OwnerAction)
  | worker (a : WorkerAction)
  | watchdog (a : WatchdogAction)

/-- What a step leaves behind in the history of a slot. -/
inductive Event where
  | submitted (job : Job)
  /-- The worker has told the watchdog to arm, and makes its bulk call. -/
  | begun (number : Nat)
  | returned (number : Nat) (result : Except TransportError Nat)
  /-- The worker has made this completion. -/
  | judged (completion : Completion)
  /-- The owner has taken this completion. -/
  | received (completion : Completion)
  /-- The watchdog was armed for this job. -/
  | armed (number : Nat)
  /-- The watchdog, armed for this job, has asked it to stop. -/
  | fired (number : Nat)
  /-- The owner has asked this job to stop. -/
  | cancelled (number : Nat)
  /-- Nobody has the buffer any more. -/
  | released

namespace State

def token (s : State) (number : Nat) : CancelToken := s.tokens[number]?.getD .fresh

def cancelJob (s : State) (number : Nat) (reason : CancelReason) : State :=
  { s with tokens := s.tokens.modify number fun t => (t.cancel reason).2 }

/-- A step of the owner, with what it leaves in the history; `none` if it cannot be taken now. -/
def ownerStep (s : State) (a : OwnerAction) : Option (State × Option Event) :=
  if s.owner.isThere then
    match a with
    | .fill buffer =>
      match s.owner.buffer? with
      | none => none
      | some old =>
        if buffer.capacity = old.capacity then
          some ({ s with owner := { s.owner with buffer? := some buffer } }, none)
        else none
    | .submit length =>
      match s.owner.buffer? with
      | none => none
      | some buffer =>
        if length ≤ buffer.capacity ∧ s.owner.isOpen ∧ ¬ s.worker.isGone ∧
            s.jobs.length < queueLimit then
          let job : Job := ⟨s.tokens.length, buffer, length⟩
          some ({ s with
            owner := { s.owner with
              buffer? := none, inFlight? := some job.number, lastOutcome := none }
            jobs := s.jobs ++ [job]
            tokens := s.tokens ++ [.fresh] }, some (.submitted job))
        else none
    | .cancel =>
      s.owner.inFlight?.map fun number => (s.cancelJob number .requested, some (.cancelled number))
    | .poll =>
      match s.owner.buffer?, s.completions with
      | some _, _ => some (s, none)
      | none, c :: rest =>
        some ({ s with
          owner := { s.owner with
            buffer? := some c.buffer, inFlight? := none, lastOutcome := some c.outcome }
          completions := rest }, some (.received c))
      | none, [] =>
        if s.worker.isGone then
          some ({ s with owner := { s.owner with workerLost := true } }, none)
        else some (s, none)
    | .close =>
      some ({ s with owner := { s.owner with buffer? := none, isOpen := false } },
        if s.owner.buffer?.isNone then none else some .released)
    | .leave =>
      if s.owner.isOpen then none
      else
        -- what is still in the queue goes away with the one who could have taken it
        some ({ s with
          owner := { s.owner with buffer? := none, isThere := false }
          completions := [] },
          if s.owner.buffer?.isNone && s.completions.isEmpty then none else some .released)
  else none

/-- A step of the worker, with what it leaves in the history; `none` if it cannot be taken now. -/
def workerStep (s : State) : WorkerAction → Option (State × Option Event)
  | .take =>
    match s.worker, s.jobs with
    | .waiting, job :: rest => some ({ s with worker := .taken job, jobs := rest }, none)
    | _, _ => none
  | .arm =>
    match s.worker with
    | .taken job =>
      some ({ s with worker := .calling job, notices := s.notices ++ [.arm job.number] },
        some (.begun job.number))
    | _ => none
  | .finishCall result =>
    match s.worker with
    | .calling job =>
      some ({ s with worker := .returned job result }, some (.returned job.number result))
    | _ => none
  | .disarm =>
    match s.worker with
    | .returned job result =>
      some ({ s with
        worker := .disarmed job result
        notices := s.notices ++ [.disarm job.number] }, none)
    | _ => none
  | .judge =>
    match s.worker with
    | .disarmed job result =>
      let c : Completion := ⟨job.number, job.buffer, .ofResult result (s.token job.number)⟩
      some ({ s with worker := .finished c }, some (.judged c))
    | _ => none
  | .report =>
    match s.worker with
    | .finished c =>
      if s.owner.isThere then
        if s.completions.length < queueLimit then
          some ({ s with worker := .waiting, completions := s.completions ++ [c] }, none)
        else none
      else some ({ s with worker := .gone }, some .released)
    | _ => none
  | .leave =>
    match s.worker, s.jobs with
    | .waiting, [] => if s.owner.isOpen then none else some ({ s with worker := .gone }, none)
    | _, _ => none

/-- A step of the watchdog, with what it leaves in the history; `none` if it cannot be taken now.
-/
def watchdogStep (s : State) : WatchdogAction → Option (State × Option Event)
  | .notice =>
    match s.watchdog, s.notices with
    | .idle, .arm number :: rest =>
      some ({ s with watchdog := .armed number, notices := rest }, some (.armed number))
    | .idle, .disarm _ :: rest => some ({ s with notices := rest }, none)
    | .armed _, _ :: rest => some ({ s with watchdog := .idle, notices := rest }, none)
    | _, _ => none
  | .expire =>
    match s.watchdog, s.notices with
    | .armed number, [] => some ({ s with watchdog := .expired number }, none)
    | _, _ => none
  | .fire =>
    match s.watchdog with
    | .expired number =>
      some ({ s.cancelJob number .deadline with watchdog := .idle }, some (.fired number))
    | _ => none
  | .leave =>
    match s.worker, s.watchdog, s.notices with
    | .gone, .idle, [] => some ({ s with watchdog := .gone }, none)
    | .gone, .armed _, [] => some ({ s with watchdog := .gone }, none)
    | _, _, _ => none

/-- One step, with what it leaves in the history; `none` if it cannot be taken now. -/
def step (s : State) : Action → Option (State × Option Event)
  | .owner a => s.ownerStep a
  | .worker a => s.workerStep a
  | .watchdog a => s.watchdogStep a

end State

/-- A slot with its history. -/
structure Chronicle where
  state : State
  history : List Event := []

namespace Chronicle

def start (buffer : TransferBuffer) : Chronicle where
  state := .start buffer

/-- The slot is in another state, and the history goes on. -/
def after (c : Chronicle) (next : State) (event? : Option Event) : Chronicle where
  state := next
  history := c.history ++ event?.toList

/-- Lets a party take a step; one that cannot be taken now makes no difference. -/
def act (c : Chronicle) (a : Action) : Chronicle :=
  match c.state.step a with
  | none => c
  | some (next, event?) => c.after next event?

def run (c : Chronicle) (actions : List Action) : Chronicle := actions.foldl act c

end Chronicle

/-- What can happen to a slot, also in a call that takes the worker down. -/
inductive Happening where
  | step (a : Action)
  /-- The worker dies in its bulk call. It takes the buffer along, and what is in its queue. -/
  | death

namespace Chronicle

/-- Lets the worker die, if it is in its call. -/
def die (c : Chronicle) : Chronicle :=
  match c.state.worker with
  | .calling _ => c.after { c.state with worker := .gone, jobs := [] } (some .released)
  | _ => c

def happen (c : Chronicle) : Happening → Chronicle
  | .step a => c.act a
  | .death => c.die

def runAll (c : Chronicle) (happenings : List Happening) : Chronicle := happenings.foldl happen c

end Chronicle

/-- Two slots with their histories. What happens, happens to one of them. -/
def runBoth (p : PerSlot Chronicle) (happenings : List (SlotId × Happening)) : PerSlot Chronicle :=
  happenings.foldl (fun p (i, h) => p.set i ((p.get i).happen h)) p

end UsbDisplay.Parties
