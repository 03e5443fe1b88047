/-!
Cancellation. A token carries the reason why its transfer was asked to stop; the first reason stays
and later ones are turned down. Several handles may share one token, so a table of handles keeps one
cell per token and says which cell each handle refers to.
-/

namespace UsbDisplay

/-- Why a transfer was asked to stop. -/
inductive CancelReason where
  | deadline
  | requested
  deriving DecidableEq, Repr

/-- The state of a token: the reason that came first, if any came. -/
structure CancelToken where
  reason? : Option CancelReason := none
  deriving DecidableEq, Repr, Inhabited

namespace CancelToken

def fresh : CancelToken := {}

def isCancelled (t : CancelToken) : Bool := t.reason?.isSome

/-- Asks to stop. The flag says whether this reason is the one that was recorded. -/
def cancel (t : CancelToken) (reason : CancelReason) : Bool × CancelToken :=
  match t.reason? with
  | none => (true, ⟨some reason⟩)
  | some _ => (false, t)

@[simp] theorem isCancelled_fresh : fresh.isCancelled = false := rfl

@[simp] theorem cancel_fresh (reason : CancelReason) :
    fresh.cancel reason = (true, ⟨some reason⟩) := rfl

@[simp] theorem isCancelled_cancel (t : CancelToken) (reason : CancelReason) :
    (t.cancel reason).2.isCancelled = true := by
  rcases t with ⟨_ | _⟩ <;> rfl

theorem cancel_of_isCancelled {t : CancelToken} (h : t.isCancelled = true) (reason : CancelReason) :
    t.cancel reason = (false, t) := by
  rcases t with ⟨_ | _⟩
  · cases h
  · rfl

end CancelToken

/-- Handles on tokens. `cells` holds the tokens in the order in which they were made, `handles` the
cell of each handle. -/
structure TokenTable where
  cells : List CancelToken := []
  handles : List Nat := []
  deriving DecidableEq, Repr

namespace TokenTable

def create (t : TokenTable) : TokenTable :=
  ⟨t.cells ++ [.fresh], t.handles ++ [t.cells.length]⟩

/-- Another handle on the token of handle `i`. -/
def share (t : TokenTable) (i : Nat) : TokenTable :=
  match t.handles[i]? with
  | none => t
  | some cell => { t with handles := t.handles ++ [cell] }

def token? (t : TokenTable) (i : Nat) : Option CancelToken :=
  t.handles[i]?.bind fun cell => t.cells[cell]?

def cancel (t : TokenTable) (i : Nat) (reason : CancelReason) : Bool × TokenTable :=
  match t.handles[i]? with
  | none => (false, t)
  | some cell =>
    match t.cells[cell]? with
    | none => (false, t)
    | some token =>
      let (first, token) := token.cancel reason
      (first, { t with cells := t.cells.set cell token })

/-- The tokens of all handles, in the order of the handles. -/
def tokens (t : TokenTable) : List CancelToken :=
  t.handles.map fun cell => (t.cells[cell]?).getD .fresh

end TokenTable

end UsbDisplay
