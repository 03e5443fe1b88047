import Mathlib.Data.List.Basic
import UsbDisplay.Transfer.Cancel

/-!
Tokens that several handles share. Handles are clones of each other if they go back to the same
handle that was made with a token of its own (`TokenTable.origin`). The first cancel of a token is
the only one that takes effect, whichever clone it comes through; from then on every clone gives its
reason, also one that is made later, and what is done with a token leaves all others alone
(`TokenTable.History.first_cancel_wins`).
-/

namespace UsbDisplay

/-- A token has the reason that it had before, or the new one if it had none. -/
theorem CancelToken.cancel_eq (t : CancelToken) (reason : CancelReason) :
    t.cancel reason = (t.reason?.isNone, ⟨some (t.reason?.getD reason)⟩) := by
  rcases t with ⟨_ | _⟩ <;> rfl

namespace TokenTable

/-! ### What is done with tokens -/

/-- What can be done with tokens by way of their handles. -/
inductive Action where
  | create
  | share (i : Nat)
  | cancel (i : Nat) (reason : CancelReason)
  | isCancelled (i : Nat)
  | reason (i : Nat)

/-- The handle that an action is about. -/
def Action.subject? : Action → Option Nat
  | create => none
  | share i | cancel i _ | isCancelled i | reason i => some i

/-- What an action gives. -/
inductive Answer where
  | handle (i : Nat)
  | flag (b : Bool)
  | reason (reason? : Option CancelReason)
  deriving DecidableEq

/-- What an action gives, with the tokens after it; nothing can be done with a handle that does not
exist. -/
def perform? (t : TokenTable) : Action → Option (Answer × TokenTable)
  | .create => some (.handle t.handles.length, t.create)
  | .share i => (t.token? i).map fun _ => (.handle t.handles.length, t.share i)
  | .cancel i reason => (t.token? i).map fun _ =>
      (.flag (t.cancel i reason).1, (t.cancel i reason).2)
  | .isCancelled i => (t.token? i).map fun token => (.flag token.isCancelled, t)
  | .reason i => (t.token? i).map fun token => (.reason token.reason?, t)

/-- An action that was taken, with what it gave. -/
abbrev Event := Action × Answer

/-- Tokens with all that was done with them, oldest first. -/
structure History where
  table : TokenTable := {}
  events : List Event := []

/-- For each handle the one that it goes back to: a handle that was shared from another one goes
back to where that one does. -/
def origin (events : List Event) : Nat → Nat :=
  events.foldl
    (fun origin e => match e with
      | (.share i, .handle j) => fun k => if k = j then origin i else origin k
      | _ => origin)
    id

/-- The reason and the answer of an event that cancels a clone of a handle, given where handles go
back to. -/
def cancelOf? (origin : Nat → Nat) (i : Nat) : Event → Option (CancelReason × Bool)
  | (.cancel j reason, .flag b) => if origin j = origin i then some (reason, b) else none
  | _ => none

namespace History

def act (h : History) (a : Action) : History :=
  match h.table.perform? a with
  | none => h
  | some (answer, t) => ⟨t, h.events ++ [(a, answer)]⟩

def run (h : History) (actions : List Action) : History := actions.foldl act h

/-- How many handles there are. -/
def size (h : History) : Nat := h.table.handles.length

/-- What an action would give. -/
def answer? (h : History) (a : Action) : Option Answer := (h.table.perform? a).map Prod.fst

/-- Whether two handles are clones of each other, or the same. -/
def Clones (h : History) (i j : Nat) : Prop := origin h.events i = origin h.events j

instance (h : History) (i j : Nat) : Decidable (h.Clones i j) :=
  inferInstanceAs (Decidable (_ = _))

/-- The cancels of a handle and its clones, with their reasons and answers, oldest first. -/
def cancels (h : History) (i : Nat) : List (CancelReason × Bool) :=
  h.events.filterMap (cancelOf? (origin h.events) i)

end History

/-! ### Tables -/

variable {t : TokenTable} {i j : Nat} {token : CancelToken} {reason : CancelReason}

theorem lt_of_getElem? {α : Type} {xs : List α} {i : Nat} {x : α} (h : xs[i]? = some x) :
    i < xs.length :=
  (List.getElem?_eq_some_iff.1 h).1

theorem getElem?_append_of_some {α : Type} {xs : List α} {i : Nat} {x : α} (h : xs[i]? = some x)
    (more : List α) : (xs ++ more)[i]? = some x := by
  rw [List.getElem?_append_left (lt_of_getElem? h), h]

theorem token?_eq_some_iff :
    t.token? i = some token ↔ ∃ cell, t.handles[i]? = some cell ∧ t.cells[cell]? = some token :=
  Option.bind_eq_some_iff

theorem lt_of_token? (h : t.token? i = some token) : i < t.handles.length := by
  obtain ⟨cell, hcell, -⟩ := token?_eq_some_iff.1 h
  exact lt_of_getElem? hcell

theorem token?_create_of_some (h : t.token? i = some token) : t.create.token? i = some token := by
  obtain ⟨cell, hcell, htoken⟩ := token?_eq_some_iff.1 h
  exact token?_eq_some_iff.2
    ⟨cell, getElem?_append_of_some hcell _, getElem?_append_of_some htoken _⟩

theorem token?_create_self (t : TokenTable) : t.create.token? t.handles.length = some .fresh :=
  token?_eq_some_iff.2 ⟨t.cells.length, List.getElem?_concat_length, List.getElem?_concat_length⟩

theorem share_eq (h : t.token? i = some token) :
    ∃ cell, t.handles[i]? = some cell ∧ t.share i = { t with handles := t.handles ++ [cell] } := by
  obtain ⟨cell, hcell, -⟩ := token?_eq_some_iff.1 h
  exact ⟨cell, hcell, by rw [share, hcell]⟩

theorem cancel_eq (h : t.token? i = some token) (reason : CancelReason) :
    ∃ cell, t.handles[i]? = some cell ∧ t.cells[cell]? = some token ∧ t.cancel i reason =
      ((token.cancel reason).1, { t with cells := t.cells.set cell (token.cancel reason).2 }) := by
  obtain ⟨cell, hcell, htoken⟩ := token?_eq_some_iff.1 h
  refine ⟨cell, hcell, htoken, ?_⟩
  rw [cancel, hcell]
  simp only [htoken]

@[simp] theorem handles_cancel (t : TokenTable) (i : Nat) (reason : CancelReason) :
    (t.cancel i reason).2.handles = t.handles := by
  rw [cancel]
  split
  · rfl
  split <;> rfl

/-- A cancel changes the token of its handle, and so that of all handles with the same cell. -/
theorem token?_cancel_of_eq (h : t.token? i = some token) (hj : t.handles[j]? = t.handles[i]?) :
    (t.cancel i reason).2.token? j = some (token.cancel reason).2 := by
  obtain ⟨cell, hcell, htoken, hcancel⟩ := cancel_eq h reason
  rw [hcancel]
  refine token?_eq_some_iff.2 ⟨cell, hj.trans hcell, ?_⟩
  exact List.getElem?_set_self (lt_of_getElem? htoken)

theorem token?_cancel_of_ne (h : t.token? i = some token) (hj : t.handles[j]? ≠ t.handles[i]?) :
    (t.cancel i reason).2.token? j = t.token? j := by
  obtain ⟨cell, hcell, -, hcancel⟩ := cancel_eq h reason
  rw [hcancel, token?, token?]
  cases hother : t.handles[j]? with
  | none => rfl
  | some other =>
    refine List.getElem?_set_ne fun heq => hj ?_
    rw [hother, hcell, heq]

/-! ### Where handles go back to -/

theorem origin_share (events : List Event) (i j : Nat) :
    origin (events ++ [(.share i, .handle j)]) =
      fun k => if k = j then origin events i else origin events k := by
  rw [origin, List.foldl_append]
  rfl

theorem origin_append {a : Action} (ha : ∀ i, a ≠ .share i) (answer : Answer)
    (events : List Event) : origin (events ++ [(a, answer)]) = origin events := by
  rw [origin, List.foldl_append, List.foldl_cons, List.foldl_nil]
  cases a with
  | share i => exact absurd rfl (ha i)
  | create | cancel | isCancelled | reason => rfl

theorem cancelOf?_eq_none {a : Action} (ha : ∀ i reason, a ≠ .cancel i reason) (answer : Answer)
    (origin : Nat → Nat) (i : Nat) : cancelOf? origin i (a, answer) = none := by
  cases a with
  | cancel i reason => exact absurd rfl (ha i reason)
  | create | share | isCancelled | reason => rfl

/-- All that matters of a cancel is whether its handle goes back to the same one. -/
theorem cancelOf?_congr {origin origin' : Nat → Nat} {e : Event} {i i' : Nat}
    (h : ∀ j reason, e.1 = .cancel j reason → (origin j = origin i ↔ origin' j = origin' i')) :
    cancelOf? origin i e = cancelOf? origin' i' e := by
  obtain ⟨a, answer⟩ := e
  cases a with
  | cancel j reason =>
    cases answer with
    | flag b => simp only [cancelOf?, h j reason rfl]
    | handle | reason => rfl
  | create | share | isCancelled | reason => rfl

namespace History

variable {h : History}

theorem cancels_congr (hij : h.Clones i j) : h.cancels i = h.cancels j :=
  List.filterMap_congr fun _ _ => cancelOf?_congr fun k _ _ => by rw [show origin _ i = _ from hij]

theorem size_create (h : History) (events : List Event) :
    (History.mk h.table.create events).size = h.size + 1 :=
  List.length_append

theorem size_share (hi : h.table.token? i = some token) (events : List Event) :
    (History.mk (h.table.share i) events).size = h.size + 1 := by
  obtain ⟨cell, -, hshare⟩ := share_eq hi
  rw [hshare]
  exact List.length_append

/-- What is neither a share nor a cancel leaves the cancels of a handle as they are. -/
theorem cancels_append {a : Action} (hshare : ∀ i, a ≠ .share i)
    (hcancel : ∀ i reason, a ≠ .cancel i reason) (answer : Answer) (t : TokenTable) (i : Nat) :
    (History.mk t (h.events ++ [(a, answer)])).cancels i = h.cancels i := by
  rw [cancels, origin_append hshare, List.filterMap_append, List.filterMap_cons_none
    (cancelOf?_eq_none hcancel answer _ i), List.filterMap_nil, List.append_nil, cancels]

/-- An action does nothing, adds a handle, cancels a token, or asks about one. -/
theorem act_cases (h : History) (a : Action) :
    h.act a = h ∨
      a = .create ∧ h.act a = ⟨h.table.create, h.events ++ [(.create, .handle h.size)]⟩ ∨
      (∃ i token, a = .share i ∧ h.table.token? i = some token ∧
        h.act a = ⟨h.table.share i, h.events ++ [(.share i, .handle h.size)]⟩) ∨
      (∃ i reason, a = .cancel i reason ∧ i < h.size ∧
        h.act a = ⟨(h.table.cancel i reason).2,
          h.events ++ [(.cancel i reason, .flag (h.table.cancel i reason).1)]⟩) ∨
      (∀ i, a ≠ .share i) ∧ (∀ i reason, a ≠ .cancel i reason) ∧ a ≠ .create ∧
        ∃ answer, h.act a = ⟨h.table, h.events ++ [(a, answer)]⟩ := by
  rw [act]
  cases a with
  | create => exact .inr (.inl ⟨rfl, rfl⟩)
  | share i =>
    rw [perform?]
    cases htoken : h.table.token? i with
    | none => exact .inl rfl
    | some token => exact .inr (.inr (.inl ⟨i, token, rfl, htoken, rfl⟩))
  | cancel i reason =>
    rw [perform?]
    cases htoken : h.table.token? i with
    | none => exact .inl rfl
    | some token =>
      exact .inr (.inr (.inr (.inl ⟨i, reason, rfl, lt_of_token? htoken, rfl⟩)))
  | isCancelled i | reason i =>
    rw [perform?]
    cases htoken : h.table.token? i with
    | none => exact .inl rfl
    | some token =>
      exact .inr (.inr (.inr (.inr ⟨fun _ => Action.noConfusion, fun _ _ => Action.noConfusion,
        Action.noConfusion, _, rfl⟩)))

/-- The cells say of each handle where it goes back to and how it was cancelled. -/
structure Sound (h : History) : Prop where
  origin_of_le : ∀ i, h.size ≤ i → origin h.events i = i
  origin_lt : ∀ i, i < h.size → origin h.events i < h.size
  cell_iff : ∀ i j, i < h.size → j < h.size →
    (h.table.handles[i]? = h.table.handles[j]? ↔ h.Clones i j)
  cancel_lt : ∀ e ∈ h.events, ∀ j reason, e.1 = .cancel j reason → j < h.size
  created : ∀ i, (.create, .handle i) ∈ h.events → i < h.size ∧ origin h.events i = i
  shared : ∀ i j, (.share i, .handle j) ∈ h.events → i < h.size ∧ j < h.size ∧ h.Clones i j
  token : ∀ i, i < h.size → h.table.token? i = some ⟨(h.cancels i).head?.map Prod.fst⟩
  /-- The first cancel, and no other one, has taken effect. -/
  answer : ∀ i, i < h.size → ∀ k entry, (h.cancels i)[k]? = some entry → entry.2 = decide (k = 0)

namespace Sound

theorem start : Sound {} where
  origin_of_le _ _ := rfl
  origin_lt _ hi := absurd hi (Nat.not_lt_zero _)
  cell_iff _ _ hi := absurd hi (Nat.not_lt_zero _)
  cancel_lt _ he := absurd he List.not_mem_nil
  created _ he := absurd he List.not_mem_nil
  shared _ _ he := absurd he List.not_mem_nil
  token _ hi := absurd hi (Nat.not_lt_zero _)
  answer _ hi := absurd hi (Nat.not_lt_zero _)

theorem cell_lt (s : h.Sound) {cell : Nat} (hcell : h.table.handles[i]? = some cell) :
    cell < h.table.cells.length := by
  obtain ⟨_, hcell', htoken⟩ := token?_eq_some_iff.1 (s.token i (lt_of_getElem? hcell))
  obtain rfl := Option.some.inj (hcell.symm.trans hcell')
  exact lt_of_getElem? htoken

/-- A handle that does not exist has not been cancelled. -/
theorem cancels_of_le (s : h.Sound) (hi : h.size ≤ i) : h.cancels i = [] := by
  refine List.filterMap_eq_nil_iff.2 fun e he => ?_
  obtain ⟨a, answer⟩ := e
  cases a with
  | cancel j reason =>
    have hj := s.cancel_lt _ he j reason rfl
    have horigin := s.origin_lt j hj
    cases answer with
    | flag b =>
      rw [cancelOf?, s.origin_of_le i hi, if_neg (by omega)]
    | handle | reason => rfl
  | create | share | isCancelled | reason => rfl

/-- Asking about a token adds nothing to what is known. -/
theorem look (s : h.Sound) {a : Action} (hshare : ∀ i, a ≠ .share i)
    (hcancel : ∀ i reason, a ≠ .cancel i reason) (hcreate : a ≠ .create) (answer : Answer) :
    Sound ⟨h.table, h.events ++ [(a, answer)]⟩ := by
  have horigin := origin_append hshare answer h.events
  have hcancels := cancels_append (h := h) hshare hcancel answer h.table
  constructor
  case origin_of_le => exact horigin ▸ s.origin_of_le
  case origin_lt => exact horigin ▸ s.origin_lt
  case cell_iff =>
    simp only [Clones, horigin]
    exact s.cell_iff
  case cancel_lt =>
    intro e he
    rcases List.mem_append.1 he with he | he
    · exact s.cancel_lt e he
    · rw [List.mem_singleton.1 he]
      exact fun j reason ha => absurd ha (hcancel j reason)
  case created =>
    intro i he
    rw [horigin]
    rcases List.mem_append.1 he with he | he
    · exact s.created i he
    · exact absurd (congrArg Prod.fst (List.mem_singleton.1 he)).symm hcreate
  case shared =>
    intro i j he
    simp only [Clones, horigin]
    rcases List.mem_append.1 he with he | he
    · exact s.shared i j he
    · exact absurd (congrArg Prod.fst (List.mem_singleton.1 he)).symm (hshare i)
  case token =>
    intro i
    rw [hcancels]
    exact s.token i
  case answer =>
    intro i
    rw [hcancels]
    exact s.answer i

/-- The cell of a new token belongs to no other handle. -/
theorem create_cell_iff (s : h.Sound) (hi : i < h.size + 1) (hj : j < h.size + 1) :
    h.table.create.handles[i]? = h.table.create.handles[j]? ↔ h.Clones i j := by
  have hself : origin h.events h.size = h.size := s.origin_of_le h.size (Nat.le_refl _)
  have hold {k : Nat} (hk : k < h.size) : h.table.create.handles[k]? = h.table.handles[k]? :=
    List.getElem?_append_left hk
  have hnew : h.table.create.handles[h.size]? = some h.table.cells.length :=
    List.getElem?_concat_length
  have hcell {k : Nat} : h.table.handles[k]? ≠ some h.table.cells.length := by
    intro hcell
    exact Nat.lt_irrefl _ (s.cell_lt hcell)
  have horigin {k : Nat} (hk : k < h.size) : origin h.events k ≠ h.size :=
    Nat.ne_of_lt (s.origin_lt k hk)
  rw [Clones]
  rcases Nat.lt_succ_iff_lt_or_eq.1 hi with hi | rfl <;>
    rcases Nat.lt_succ_iff_lt_or_eq.1 hj with hj | rfl
  · rw [hold hi, hold hj]
    exact s.cell_iff i j hi hj
  · rw [hold hi, hnew, hself]
    exact iff_of_false hcell (horigin hi)
  · rw [hold hj, hnew, hself]
    exact iff_of_false hcell.symm (horigin hj).symm
  · exact iff_of_true rfl rfl

/-- A new token has no clones, and nothing has come of it. -/
theorem create (s : h.Sound) :
    Sound ⟨h.table.create, h.events ++ [(.create, .handle h.size)]⟩ := by
  have hshare (i : Nat) : Action.create ≠ .share i := Action.noConfusion
  have hcancel (i : Nat) (reason : CancelReason) : Action.create ≠ .cancel i reason :=
    Action.noConfusion
  have horigin := origin_append hshare (.handle h.size) h.events
  have hcancels := cancels_append (h := h) hshare hcancel (.handle h.size) h.table.create
  have hself : origin h.events h.size = h.size := s.origin_of_le h.size (Nat.le_refl _)
  constructor
  all_goals rw [size_create]
  case origin_of_le =>
    intro i hi
    rw [horigin]
    exact s.origin_of_le i (Nat.le_of_succ_le hi)
  case origin_lt =>
    intro i hi
    rw [horigin]
    rcases Nat.lt_succ_iff_lt_or_eq.1 hi with hi | rfl
    · exact Nat.lt_succ_of_lt (s.origin_lt i hi)
    · rw [hself]
      exact hi
  case cell_iff =>
    simp only [Clones, horigin]
    exact fun i j => s.create_cell_iff
  case cancel_lt =>
    intro e he j reason ha
    rcases List.mem_append.1 he with he | he
    · exact Nat.lt_succ_of_lt (s.cancel_lt e he j reason ha)
    · rw [List.mem_singleton.1 he] at ha
      cases ha
  case created =>
    intro i he
    rw [horigin]
    rcases List.mem_append.1 he with he | he
    · exact ⟨Nat.lt_succ_of_lt (s.created i he).1, (s.created i he).2⟩
    · cases List.mem_singleton.1 he
      exact ⟨Nat.lt_succ_self _, hself⟩
  case shared =>
    intro i j he
    simp only [Clones, horigin]
    rcases List.mem_append.1 he with he | he
    · obtain ⟨hi, hj, hclones⟩ := s.shared i j he
      exact ⟨Nat.lt_succ_of_lt hi, Nat.lt_succ_of_lt hj, hclones⟩
    · cases List.mem_singleton.1 he
  case token =>
    intro i hi
    rw [hcancels]
    rcases Nat.lt_succ_iff_lt_or_eq.1 hi with hi | rfl
    · exact token?_create_of_some (s.token i hi)
    · rw [s.cancels_of_le (Nat.le_refl _)]
      exact token?_create_self h.table
  case answer =>
    intro i hi
    rw [hcancels]
    rcases Nat.lt_succ_iff_lt_or_eq.1 hi with hi | rfl
    · exact s.answer i hi
    · rw [s.cancels_of_le (Nat.le_refl _)]
      intro k entry hentry
      cases hentry

/-- Whatever is asked of a clone is asked of the handle that it was made from. -/
theorem share_like (s : h.Sound) (hi : h.table.token? i = some token) {k : Nat}
    (hk : k < h.size + 1) :
    ∃ b < h.size, (k < h.size → b = k) ∧
      (h.table.share i).handles[k]? = h.table.handles[b]? ∧
      (h.table.share i).token? k = h.table.token? b ∧
      origin (h.events ++ [(.share i, .handle h.size)]) k = origin h.events b ∧
      (History.mk (h.table.share i) (h.events ++ [(.share i, .handle h.size)])).cancels k =
        h.cancels b := by
  obtain ⟨cell, hcell, hshare⟩ := share_eq hi
  have horigin := origin_share h.events i h.size
  obtain ⟨b, hb, hold, hhandle, hback⟩ : ∃ b < h.size, (k < h.size → b = k) ∧
      (h.table.share i).handles[k]? = h.table.handles[b]? ∧
      origin (h.events ++ [(.share i, .handle h.size)]) k = origin h.events b := by
    rw [hshare, horigin]
    rcases Nat.lt_succ_iff_lt_or_eq.1 hk with hk | rfl
    · exact ⟨k, hk, fun _ => rfl, List.getElem?_append_left hk, if_neg (Nat.ne_of_lt hk)⟩
    · exact ⟨i, lt_of_getElem? hcell, fun hk => absurd hk (Nat.lt_irrefl _),
        List.getElem?_concat_length.trans hcell.symm, if_pos rfl⟩
  refine ⟨b, hb, hold, hhandle, ?_, hback, ?_⟩
  · rw [token?, token?, hhandle, hshare]
  · rw [cancels, List.filterMap_append, List.filterMap_cons_none
      (cancelOf?_eq_none (fun _ _ => Action.noConfusion) _ _ k), List.filterMap_nil,
      List.append_nil, cancels]
    refine List.filterMap_congr fun e he => cancelOf?_congr fun j reason ha => ?_
    have hj : j ≠ h.size := Nat.ne_of_lt (s.cancel_lt e he j reason ha)
    rw [hback, horigin]
    simp only [if_neg hj]

/-- A clone is like the handle that it was made from. -/
theorem share (s : h.Sound) (hi : h.table.token? i = some token) :
    Sound ⟨h.table.share i, h.events ++ [(.share i, .handle h.size)]⟩ := by
  constructor
  all_goals rw [size_share hi]
  case origin_of_le =>
    intro k hk
    rw [origin_share]
    exact (if_neg (by omega)).trans (s.origin_of_le k (Nat.le_of_succ_le hk))
  case origin_lt =>
    intro k hk
    obtain ⟨b, hb, -, -, -, hback, -⟩ := s.share_like hi hk
    rw [hback]
    exact Nat.lt_succ_of_lt (s.origin_lt b hb)
  case cell_iff =>
    intro k l hk hl
    obtain ⟨b, hb, -, hhandle, -, hback, -⟩ := s.share_like hi hk
    obtain ⟨c, hc, -, hhandle', -, hback', -⟩ := s.share_like hi hl
    rw [Clones, hback, hback', hhandle, hhandle']
    exact s.cell_iff b c hb hc
  case cancel_lt =>
    intro e he j reason ha
    rcases List.mem_append.1 he with he | he
    · exact Nat.lt_succ_of_lt (s.cancel_lt e he j reason ha)
    · rw [List.mem_singleton.1 he] at ha
      cases ha
  case created =>
    intro k he
    rcases List.mem_append.1 he with he | he
    · obtain ⟨hk, horigin⟩ := s.created k he
      obtain ⟨b, -, hold, -, -, hback, -⟩ := s.share_like hi (Nat.lt_succ_of_lt hk)
      exact ⟨Nat.lt_succ_of_lt hk, by rw [hback, hold hk, horigin]⟩
    · cases List.mem_singleton.1 he
  case shared =>
    intro k l he
    rw [Clones, origin_share]
    rcases List.mem_append.1 he with he | he
    · obtain ⟨hk, hl, hclones⟩ := s.shared k l he
      refine ⟨Nat.lt_succ_of_lt hk, Nat.lt_succ_of_lt hl, ?_⟩
      simp only [if_neg (Nat.ne_of_lt hk), if_neg (Nat.ne_of_lt hl)]
      exact hclones
    · cases List.mem_singleton.1 he
      refine ⟨Nat.lt_succ_of_lt (lt_of_token? hi), Nat.lt_succ_self _, ?_⟩
      simp only [ite_self, if_true]
  case token =>
    intro k hk
    obtain ⟨b, hb, -, -, htoken, -, hcancels⟩ := s.share_like hi hk
    rw [htoken, hcancels]
    exact s.token b hb
  case answer =>
    intro k hk
    obtain ⟨b, hb, -, -, -, -, hcancels⟩ := s.share_like hi hk
    rw [hcancels]
    exact s.answer b hb

/-- A cancel is noted for all clones of its handle, and for no other one. -/
theorem cancels_cancel (i : Nat) (reason : CancelReason) (first : Bool) (t : TokenTable) (k : Nat) :
    (History.mk t (h.events ++ [(.cancel i reason, .flag first)])).cancels k =
      h.cancels k ++ if h.Clones i k then [(reason, first)] else [] := by
  have horigin := origin_append (a := .cancel i reason) (fun _ => Action.noConfusion) (.flag first)
    h.events
  rw [cancels, horigin, List.filterMap_append, cancels]
  congr 1
  split
  next hclones => exact List.filterMap_cons_some (if_pos hclones)
  next hapart => exact List.filterMap_cons_none (if_neg hapart)

/-- A cancel takes effect if no clone was cancelled before it. -/
theorem fst_cancel (s : h.Sound) (hi : i < h.size) (reason : CancelReason) :
    (h.table.cancel i reason).1 = (h.cancels i).isEmpty := by
  obtain ⟨cell, -, -, hcancel⟩ := cancel_eq (s.token i hi) reason
  rw [hcancel, CancelToken.cancel_eq]
  cases h.cancels i <;> rfl

/-- All clones have the reason of the first cancel among them. -/
theorem token?_cancel (s : h.Sound) {k : Nat} (hi : i < h.size) (hk : k < h.size)
    (hclones : h.Clones i k) (reason : CancelReason) (first : Bool) :
    (h.table.cancel i reason).2.token? k =
      some ⟨(h.cancels k ++ [(reason, first)]).head?.map Prod.fst⟩ := by
  have hcell := (s.cell_iff i k hi hk).2 hclones
  rw [token?_cancel_of_eq (s.token i hi) hcell.symm, CancelToken.cancel_eq, cancels_congr hclones]
  cases h.cancels k <;> rfl

theorem cancel (s : h.Sound) (hi : i < h.size) (reason : CancelReason) :
    Sound ⟨(h.table.cancel i reason).2,
      h.events ++ [(.cancel i reason, .flag (h.table.cancel i reason).1)]⟩ := by
  have horigin := origin_append (a := .cancel i reason) (fun _ => Action.noConfusion)
    (.flag (h.table.cancel i reason).1) h.events
  have hsize : (History.mk (h.table.cancel i reason).2
      (h.events ++ [(.cancel i reason, .flag (h.table.cancel i reason).1)])).size = h.size := by
    rw [size, handles_cancel]
    rfl
  constructor
  all_goals rw [hsize]
  case origin_of_le => exact horigin ▸ s.origin_of_le
  case origin_lt => exact horigin ▸ s.origin_lt
  case cell_iff =>
    simp only [Clones, horigin, handles_cancel]
    exact s.cell_iff
  case cancel_lt =>
    intro e he j other ha
    rcases List.mem_append.1 he with he | he
    · exact s.cancel_lt e he j other ha
    · rw [List.mem_singleton.1 he] at ha
      cases ha
      exact hi
  case created =>
    intro k he
    rw [horigin]
    rcases List.mem_append.1 he with he | he
    · exact s.created k he
    · cases List.mem_singleton.1 he
  case shared =>
    intro k l he
    simp only [Clones, horigin]
    rcases List.mem_append.1 he with he | he
    · exact s.shared k l he
    · cases List.mem_singleton.1 he
  case token =>
    intro k hk
    rw [cancels_cancel]
    split
    next hclones => exact s.token?_cancel hi hk hclones reason _
    next hapart =>
      have hcell := fun heq => hapart ((s.cell_iff i k hi hk).1 heq)
      rw [token?_cancel_of_ne (s.token i hi) (Ne.symm hcell), List.append_nil]
      exact s.token k hk
  case answer =>
    intro k hk n entry hentry
    rw [cancels_cancel, s.fst_cancel hi] at hentry
    split at hentry
    next hclones =>
      rw [List.getElem?_append, cancels_congr hclones] at hentry
      split at hentry
      · exact s.answer k hk n entry hentry
      next hn =>
        -- the cancel is the last entry, and the first if there was none before
        have hlast := lt_of_getElem? hentry
        rw [List.length_singleton] at hlast
        obtain rfl : n = (h.cancels k).length := by omega
        rw [Nat.sub_self] at hentry
        cases hentry
        cases h.cancels k <;> rfl
    next hapart =>
      rw [List.append_nil] at hentry
      exact s.answer k hk n entry hentry

theorem act (s : h.Sound) (a : Action) : (h.act a).Sound := by
  rcases h.act_cases a with hact | ⟨-, hact⟩ | ⟨i, token, -, hi, hact⟩ |
    ⟨i, reason, -, hi, hact⟩ | ⟨hshare, hcancel, hcreate, answer, hact⟩ <;> rw [hact]
  · exact s
  · exact s.create
  · exact s.share hi
  · exact s.cancel hi reason
  · exact s.look hshare hcancel hcreate answer

theorem run (s : h.Sound) (actions : List Action) : (h.run actions).Sound := by
  induction actions generalizing h with
  | nil => exact s
  | cons a rest ih => exact ih (s.act a)

/-! ### What stays -/

/-- Cancels of a handle that is there are only added to. -/
theorem cancels_prefix_act (s : h.Sound) (hi : i < h.size) (a : Action) :
    i < (h.act a).size ∧ h.cancels i <+: (h.act a).cancels i := by
  rcases h.act_cases a with hact | ⟨-, hact⟩ | ⟨j, token, -, hj, hact⟩ |
    ⟨j, reason, -, -, hact⟩ | ⟨hshare, hcancel, -, answer, hact⟩ <;> rw [hact]
  · exact ⟨hi, List.prefix_refl _⟩
  · rw [cancels_append (fun _ => Action.noConfusion) fun _ _ => Action.noConfusion, size_create]
    exact ⟨Nat.lt_succ_of_lt hi, List.prefix_refl _⟩
  · obtain ⟨b, -, hb, -, -, -, hcancels⟩ := s.share_like hj (Nat.lt_succ_of_lt hi)
    rw [hcancels, hb hi, size_share hj]
    exact ⟨Nat.lt_succ_of_lt hi, List.prefix_refl _⟩
  · rw [cancels_cancel, size, handles_cancel]
    exact ⟨hi, List.prefix_append _ _⟩
  · rw [cancels_append hshare hcancel]
    exact ⟨hi, List.prefix_refl _⟩

theorem cancels_prefix_run (s : h.Sound) (hi : i < h.size) (more : List Action) :
    i < (h.run more).size ∧ h.cancels i <+: (h.run more).cancels i := by
  induction more generalizing h with
  | nil => exact ⟨hi, List.prefix_refl _⟩
  | cons a rest ih =>
    obtain ⟨hsize, hprefix⟩ := s.cancels_prefix_act hi a
    obtain ⟨hsize', hprefix'⟩ := ih (s.act a) hsize
    exact ⟨hsize', hprefix.trans hprefix'⟩

/-- What is done with other tokens leaves a token alone. -/
theorem token?_act_of_apart (s : h.Sound) {a : Action} (hi : i < h.size)
    (hapart : ∀ j, a.subject? = some j → ¬ h.Clones j i) :
    (h.act a).table.token? i = h.table.token? i := by
  rcases h.act_cases a with hact | ⟨-, hact⟩ | ⟨j, token, -, hj, hact⟩ |
    ⟨j, reason, rfl, hj, hact⟩ | ⟨-, -, -, answer, hact⟩ <;> rw [hact]
  · rw [s.token i hi]
    exact token?_create_of_some (s.token i hi)
  · obtain ⟨b, -, hb, -, htoken, -⟩ := s.share_like hj (Nat.lt_succ_of_lt hi)
    rw [htoken, hb hi]
  · refine token?_cancel_of_ne (s.token j hj) fun hcell => hapart j rfl ?_
    exact (s.cell_iff j i hj hi).1 hcell.symm

/-- What is asked of a handle is answered by the cancels that came before. -/
theorem answers (s : h.Sound) (hi : i < h.size) :
    h.answer? (.isCancelled i) = some (.flag (!(h.cancels i).isEmpty)) ∧
      h.answer? (.reason i) = some (.reason ((h.cancels i).head?.map Prod.fst)) ∧
      ∀ reason, h.answer? (.cancel i reason) = some (.flag (h.cancels i).isEmpty) := by
  refine ⟨?_, ?_, fun reason => ?_⟩
  · rw [answer?, perform?, s.token i hi]
    cases h.cancels i <;> rfl
  · rw [answer?, perform?, s.token i hi]
    rfl
  · rw [answer?, perform?, s.token i hi, ← s.fst_cancel hi reason]
    rfl

/-- A handle that has clones is there. -/
theorem lt_of_clones (s : h.Sound) (hi : i < h.size) (hij : h.Clones i j) : j < h.size := by
  by_contra hj
  have horigin := s.origin_lt i hi
  rw [show origin h.events i = origin h.events j from hij, s.origin_of_le j (Nat.le_of_not_lt hj)]
    at horigin
  exact hj horigin

end Sound

/-- Of all cancels that come through clones of each other the first one gives true, and no other.
Before it a token is not cancelled; from then on every clone, also one that is made later, is
cancelled for the reason of the first. Handles on tokens that were made apart are no clones, and
what is done through one of them leaves the token of the other alone. -/
theorem first_cancel_wins (actions : List Action) :
    let h := History.run {} actions
    (∀ i, i < h.size →
      (∀ k entry, (h.cancels i)[k]? = some entry → entry.2 = decide (k = 0)) ∧
        (h.cancels i = [] →
          h.answer? (.isCancelled i) = some (.flag false) ∧
            h.answer? (.reason i) = some (.reason none) ∧
            ∀ reason, h.answer? (.cancel i reason) = some (.flag true)) ∧
        ∀ first rest, h.cancels i = first :: rest → ∀ more j, (h.run more).Clones i j →
          (h.run more).answer? (.isCancelled j) = some (.flag true) ∧
            (h.run more).answer? (.reason j) = some (.reason (some first.1)) ∧
            ∀ reason, (h.run more).answer? (.cancel j reason) = some (.flag false)) ∧
      (∀ i j, (.share i, .handle j) ∈ h.events → h.Clones i j) ∧
      (∀ i j, (.create, .handle i) ∈ h.events → (.create, .handle j) ∈ h.events → i ≠ j →
        ¬ h.Clones i j) ∧
      ∀ a i, i < h.size → (∀ j, a.subject? = some j → ¬ h.Clones j i) →
        (h.act a).table.token? i = h.table.token? i := by
  intro h
  have s : h.Sound := Sound.start.run actions
  refine ⟨fun i hi => ⟨s.answer i hi, fun hnone => ?_, fun first rest hfirst more j hj => ?_⟩,
    fun i j he => (s.shared i j he).2.2, fun i j hi hj hne hclones => ?_,
    fun a i hi => s.token?_act_of_apart hi⟩
  · have hanswers := s.answers hi
    rwa [hnone] at hanswers
  · have s' : (h.run more).Sound := s.run more
    obtain ⟨hi', later, hlater⟩ := s.cancels_prefix_run hi more
    have hanswers := s'.answers (s'.lt_of_clones hi' hj)
    rwa [← cancels_congr hj, ← hlater, hfirst] at hanswers
  · rw [Clones, (s.created i hi).2, (s.created j hj).2] at hclones
    exact hne hclones

/-- A deadline passes for a clone, and then the token is cancelled through the handle that it was
made from. -/
def lateRequest : List Action :=
  [.create, .create, .share 0, .cancel 2 .deadline, .cancel 0 .requested]

theorem first_cancel_wins_lateRequest :
    let h := History.run {} lateRequest
    0 < h.size ∧ h.cancels 0 = [(.deadline, true), (.requested, false)] ∧
      (h.run [.share 2]).Clones 0 3 ∧
      (h.run [.share 2]).answer? (.reason 3) = some (.reason (some .deadline)) ∧
      (.create, .handle 0) ∈ h.events ∧ (.create, .handle 1) ∈ h.events ∧ ¬ h.Clones 0 1 ∧
      1 < h.size ∧ (h.act (.cancel 0 .deadline)).table.token? 1 = some .fresh := by
  intro h
  have hcancels : h.cancels 0 = [(.deadline, true), (.requested, false)] := by decide
  obtain ⟨hanswers, -, hapart, halone⟩ := first_cancel_wins lateRequest
  have hclones : (h.run [.share 2]).Clones 0 3 := by decide
  have hsize : 0 < h.size := by decide
  have hsize' : 1 < h.size := by decide
  have hmade : (.create, .handle 0) ∈ h.events := List.mem_cons_self
  have hmade' : (.create, .handle 1) ∈ h.events := List.mem_cons_of_mem _ List.mem_cons_self
  obtain ⟨-, -, hlater⟩ := hanswers 0 hsize
  obtain ⟨-, hreason, -⟩ := hlater _ _ hcancels [.share 2] 3 hclones
  have hne : ¬ h.Clones 0 1 := hapart 0 1 hmade hmade' (by decide)
  refine ⟨hsize, hcancels, hclones, hreason, hmade, hmade', hne, hsize', ?_⟩
  exact halone (.cancel 0 .deadline) 1 hsize' fun j hj => by cases hj; exact hne

end History

end TokenTable

end UsbDisplay
