import UsbDisplay.Error
import UsbDisplay.Transfer.Cancel

/-!
How a transfer ended. What its own bulk call returned decides, and only where the call failed the
first reason for which that transfer was asked to stop: a deadline makes it timed out, a request
makes it cancelled, and without either the failure itself is the outcome.
-/

namespace UsbDisplay

inductive Outcome where
  | completed (bytes : Nat)
  | timedOut
  | cancelled
  | failed (cause : TransportError)
  deriving DecidableEq, Repr

namespace Outcome

/-- The outcome of a transfer whose bulk call returned `result` while its token was `token`. -/
def ofResult (result : Except TransportError Nat) (token : CancelToken) : Outcome :=
  match result with
  | .ok bytes => completed bytes
  | .error cause =>
    match token.reason? with
    | some .deadline => timedOut
    | some .requested => cancelled
    | none => failed cause

def isSuccess : Outcome → Bool
  | completed _ => true
  | _ => false

/-- An outcome as the number of bytes sent or an error; `limit` is the deadline that is reported. -/
def toResult (limit : Duration) : Outcome → Except Error Nat
  | completed bytes => .ok bytes
  | timedOut => .error (.timeout limit)
  | cancelled => .error (.transport .cancelled)
  | failed cause => .error (.transport cause)

@[simp] theorem ofResult_ok (bytes : Nat) (token : CancelToken) :
    ofResult (.ok bytes) token = completed bytes := rfl

@[simp] theorem ofResult_error_fresh (cause : TransportError) :
    ofResult (.error cause) .fresh = failed cause := rfl

end Outcome

end UsbDisplay
