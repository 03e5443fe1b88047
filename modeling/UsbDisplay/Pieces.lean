/-!
Runs of bytes cut into pieces of at most a given size, and pieces joined to a run. Joining undoes
cutting (`join_pieces`). A slice is cut out only where all of it is there (`slice?`).
-/

namespace UsbDisplay.Pieces

def join (pieces : List ByteArray) : ByteArray :=
  pieces.foldl (· ++ ·) .empty

theorem foldl_append (pieces : List ByteArray) (start : ByteArray) :
    pieces.foldl (· ++ ·) start = start ++ join pieces := by
  induction pieces generalizing start with
  | nil => simp [join]
  | cons p rest ih =>
    have h := ih p
    simp only [join, List.foldl_cons, ByteArray.empty_append] at h ⊢
    rw [ih, h, ByteArray.append_assoc]
    rfl

@[simp] theorem join_nil : join [] = .empty := rfl

@[simp] theorem join_cons (p : ByteArray) (rest : List ByteArray) :
    join (p :: rest) = p ++ join rest := by
  rw [join, List.foldl_cons, ByteArray.empty_append, foldl_append]

theorem join_append (pieces more : List ByteArray) :
    join (pieces ++ more) = join pieces ++ join more := by
  rw [join, List.foldl_append, foldl_append]
  rfl

/-- The pieces of what begins at `start`, all but the last one `size` bytes long. -/
def piecesFrom (size : Nat) (bytes : ByteArray) (start : Nat) : List ByteArray :=
  if 0 < size ∧ start + size < bytes.size then
    bytes.extract start (start + size) :: piecesFrom size bytes (start + size)
  else [bytes.extract start bytes.size]
termination_by bytes.size - start
decreasing_by omega

theorem join_piecesFrom (size : Nat) (bytes : ByteArray) (start : Nat) :
    join (piecesFrom size bytes start) = bytes.extract start bytes.size := by
  fun_induction piecesFrom size bytes start with
  | case1 start h ih =>
    rw [join_cons, ih, ByteArray.extract_append_extract]
    congr 1 <;> omega
  | case2 start h => simp

def pieces (size : Nat) (bytes : ByteArray) : List ByteArray :=
  piecesFrom size bytes 0

theorem join_pieces (size : Nat) (bytes : ByteArray) : join (pieces size bytes) = bytes := by
  simp [pieces, join_piecesFrom]

theorem size_le_of_mem_piecesFrom {size start : Nat} {bytes p : ByteArray} (hs : 0 < size)
    (h : p ∈ piecesFrom size bytes start) : p.size ≤ size := by
  fun_induction piecesFrom size bytes start with
  | case1 start hc ih =>
    rcases List.mem_cons.1 h with rfl | h
    · simp only [ByteArray.size_extract]
      omega
    · exact ih h
  | case2 start hc =>
    rw [List.mem_singleton.1 h, ByteArray.size_extract]
    omega

theorem size_le_of_mem_pieces {size : Nat} {bytes p : ByteArray} (hs : 0 < size)
    (h : p ∈ pieces size bytes) : p.size ≤ size :=
  size_le_of_mem_piecesFrom hs h

end UsbDisplay.Pieces

namespace UsbDisplay

/-- The bytes from `start` to `stop`, if there are all of them. -/
def slice? (bytes : ByteArray) (start stop : Nat) : Option ByteArray :=
  if start ≤ stop ∧ stop ≤ bytes.size then some (bytes.extract start stop) else none

theorem slice?_eq {bytes : ByteArray} {start stop : Nat} (h : start ≤ stop)
    (hstop : stop ≤ bytes.size) : slice? bytes start stop = some (bytes.extract start stop) :=
  if_pos ⟨h, hstop⟩

end UsbDisplay
