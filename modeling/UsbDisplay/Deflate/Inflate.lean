import UsbDisplay.Deflate.PrefixCode
import UsbDisplay.Word

/-!
Inflation: a run of blocks, each of which holds bytes as they are or symbols of prefix codes. A
symbol is a byte, the end of the block, or a length that is followed by a distance; the latter two
say which bytes of the output so far are repeated. Every symbol takes at least one bit, so a block
comes to an end; what would reach before the start of the output is refused.
-/

namespace UsbDisplay.Inflate

def endOfBlock : Nat := 256

/-- Least length and number of extra bits, from symbol 257 on. -/
def lengthRanges : Array (Nat × Nat) := #[
  (3, 0), (4, 0), (5, 0), (6, 0), (7, 0), (8, 0), (9, 0), (10, 0),
  (11, 1), (13, 1), (15, 1), (17, 1), (19, 2), (23, 2), (27, 2), (31, 2),
  (35, 3), (43, 3), (51, 3), (59, 3), (67, 4), (83, 4), (99, 4), (115, 4),
  (131, 5), (163, 5), (195, 5), (227, 5), (258, 0)]

/-- Least distance and number of extra bits of each distance symbol. -/
def distanceRanges : Array (Nat × Nat) := #[
  (1, 0), (2, 0), (3, 0), (4, 0), (5, 1), (7, 1), (9, 2), (13, 2),
  (17, 3), (25, 3), (33, 4), (49, 4), (65, 5), (97, 5), (129, 6), (193, 6),
  (257, 7), (385, 7), (513, 8), (769, 8), (1025, 9), (1537, 9), (2049, 10), (3073, 10),
  (4097, 11), (6145, 11), (8193, 12), (12289, 12), (16385, 13), (24577, 13)]

/-- A number from a range: its least value and some extra bits. -/
def ranged? (ranges : Array (Nat × Nat)) (i : Nat) (s : BitSource) : Option (Nat × BitSource) :=
  match ranges[i]? with
  | none => none
  | some (least, extra) => (s.take? extra).map fun (v, s) => (least + v, s)

theorem remaining_ranged?_le {ranges : Array (Nat × Nat)} {i v : Nat} {s t : BitSource}
    (h : ranged? ranges i s = some (v, t)) : t.remaining ≤ s.remaining := by
  unfold ranged? at h
  split at h
  · cases h
  · obtain ⟨⟨w, u⟩, hu, he⟩ := Option.map_eq_some_iff.1 h
    simp only [Prod.mk.injEq] at he
    obtain ⟨-, rfl⟩ := he
    have := BitSource.remaining_take? hu
    omega

/-- The codes of a block: one for bytes and lengths, one for distances. -/
structure Codes where
  symbols : PrefixCode
  distances : PrefixCode

/-- What a symbol says. -/
inductive Step where
  | byte (b : UInt8)
  | done
  | repeated (length distance : Nat)

/-- Whether a symbol ends a block: the one that is meant to, and those after the last length. -/
def endsBlock (symbol : Nat) : Bool :=
  symbol == endOfBlock || decide (endOfBlock + lengthRanges.size < symbol)

/-- Reads one symbol with all that belongs to it. -/
def step? (c : Codes) (s : BitSource) : Option (Step × BitSource) :=
  match c.symbols.decode s with
  | none => none
  | some (symbol, s) =>
    if symbol < endOfBlock then some (.byte symbol.toUInt8, s)
    else if endsBlock symbol then some (.done, s)
    else
      match ranged? lengthRanges (symbol - 257) s with
      | none => none
      | some (length, s) =>
        match c.distances.decode s with
        | none => none
        | some (symbol, s) =>
          (ranged? distanceRanges symbol s).map fun (distance, s) => (.repeated length distance, s)

theorem remaining_step? {c : Codes} {s t : BitSource} {x : Step} (h : step? c s = some (x, t)) :
    t.remaining < s.remaining := by
  unfold step? at h
  split at h
  · cases h
  · rename_i symbol s₁ h₁
    have := PrefixCode.remaining_decode h₁
    split at h
    · simp only [Option.some.injEq, Prod.mk.injEq] at h
      obtain ⟨-, rfl⟩ := h
      omega
    · split at h
      · simp only [Option.some.injEq, Prod.mk.injEq] at h
        obtain ⟨-, rfl⟩ := h
        omega
      · split at h
        · cases h
        · rename_i length s₂ h₂
          have := remaining_ranged?_le h₂
          split at h
          · cases h
          · rename_i symbol s₃ h₃
            have := PrefixCode.remaining_decode h₃
            obtain ⟨⟨v, u⟩, hu, he⟩ := Option.map_eq_some_iff.1 h
            simp only [Prod.mk.injEq] at he
            obtain ⟨-, rfl⟩ := he
            have := remaining_ranged?_le hu
            omega

/-- Repeats `length` bytes that begin `distance` bytes before the end; the bytes put out meanwhile
count. -/
def copyBack (out : ByteArray) (length distance : Nat) : ByteArray :=
  length.fold (fun _ _ out => out.push (out[out.size - distance]?.getD 0)) out

def symbols? (c : Codes) (s : BitSource) (out : ByteArray) : Option (ByteArray × BitSource) :=
  match h : step? c s with
  | none => none
  | some (.done, t) => some (out, t)
  | some (.byte b, t) =>
    have := remaining_step? h
    symbols? c t (out.push b)
  | some (.repeated length distance, t) =>
    have := remaining_step? h
    if out.size < distance then none else symbols? c t (copyBack out length distance)
termination_by s.remaining

/-- Reads a block of bytes as they are. Their number comes twice, the second time inverted. -/
def stored? (s : BitSource) (out : ByteArray) : Option (ByteArray × BitSource) :=
  match s.bytes? 4 with
  | none => none
  | some (head, s) =>
    match head.data.toList with
    | [a, b, c, d] =>
      let size := (Word.ofBytes b a).toNat
      if size + (Word.ofBytes d c).toNat = 65535 then
        (s.bytes? size).map fun (b, s) => (out ++ b, s)
      else none
    | _ => none

/-- The codes that need not be described. -/
def fixedCodes : Codes where
  symbols := .ofLengths (List.replicate 144 8 ++ List.replicate 112 9 ++ List.replicate 24 7 ++
    List.replicate 8 8)
  distances := .ofLengths (List.replicate 32 5)

/-- The order in which the lengths of the code for lengths come. -/
def lengthOrder : List Nat :=
  [16, 17, 18, 0, 8, 7, 9, 6, 10, 5, 11, 4, 12, 3, 13, 2, 14, 1, 15]

def triples? : (n : Nat) → BitSource → Option (List Nat × BitSource)
  | 0, s => some ([], s)
  | n + 1, s =>
    match s.take? 3 with
    | none => none
    | some (v, s) => (triples? n s).map fun (vs, s) => (v :: vs, s)

/-- The lengths of the code for lengths, in the order of its symbols. -/
def orderedLengths (read : List Nat) : List Nat :=
  (List.range 19).map fun symbol => ((lengthOrder.zip read).lookup symbol).getD 0

/-- What a symbol of the code for lengths adds to the lengths so far: a length, the last length
again, or zeros. -/
def lengthRun? (symbol : Nat) (soFar : List Nat) (s : BitSource) : Option (List Nat × BitSource) :=
  if symbol < 16 then some ([symbol], s)
  else if symbol = 16 then
    match soFar with
    | [] => none
    | last :: _ => (s.take? 2).map fun (n, s) => (List.replicate (3 + n) last, s)
  else if symbol = 17 then (s.take? 3).map fun (n, s) => (List.replicate (3 + n) 0, s)
  else (s.take? 7).map fun (n, s) => (List.replicate (11 + n) 0, s)

/-- Reads `total` lengths; `soFar` has those that were read, the last one first. A run that goes
past the total is refused. -/
def lengths? (c : PrefixCode) (total : Nat) : (tries : Nat) → List Nat → BitSource →
    Option (List Nat × BitSource)
  | 0, _, _ => none
  | tries + 1, soFar, s =>
    if soFar.length = total then some (soFar.reverse, s)
    else if total < soFar.length then none
    else
      match c.decode s with
      | none => none
      | some (symbol, s) =>
        match lengthRun? symbol soFar s with
        | none => none
        | some (run, s) => lengths? c total tries (run ++ soFar) s

/-- Whether a code for distances with these lengths can be used: a complete one, or one of at most
one codeword, which then has one bit. -/
def canBeDistances (lengths : List Nat) : Bool :=
  PrefixCode.IsComplete lengths || lengths.filter (· ≠ 0) == [] || lengths.filter (· ≠ 0) == [1]

/-- Reads the description of the codes of a block. -/
def codes? (s : BitSource) : Option (Codes × BitSource) := do
  let (symbolCount, s) ← s.take? 5
  let (distanceCount, s) ← s.take? 5
  let (lengthCount, s) ← s.take? 4
  let symbolCount := symbolCount + 257
  let distanceCount := distanceCount + 1
  guard (symbolCount ≤ 286 ∧ distanceCount ≤ 30)
  let (read, s) ← triples? (lengthCount + 4) s
  let lengthLengths := orderedLengths read
  guard (PrefixCode.IsComplete lengthLengths)
  let total := symbolCount + distanceCount
  let (lengths, s) ← lengths? (.ofLengths lengthLengths) total (total + 1) [] s
  let symbolLengths := lengths.take symbolCount
  let distanceLengths := lengths.drop symbolCount
  guard (PrefixCode.IsComplete symbolLengths)
  guard (canBeDistances distanceLengths)
  return (⟨.ofLengths symbolLengths, .ofLengths distanceLengths⟩, s)

/-- Reads the inside of a block of the given kind. -/
def block? (kind : Nat) (s : BitSource) (out : ByteArray) : Option (ByteArray × BitSource) :=
  match kind with
  | 0 => stored? s out
  | 1 => symbols? fixedCodes s out
  | 2 =>
    match codes? s with
    | none => none
    | some (codes, s) => symbols? codes s out
  | _ => none

/-- Reads blocks up to the one that is marked as the last. -/
def blocks? : (tries : Nat) → BitSource → ByteArray → Option (ByteArray × BitSource)
  | 0, _, _ => none
  | tries + 1, s, out =>
    match s.take? 1 with
    | none => none
    | some (last, s) =>
      match s.take? 2 with
      | none => none
      | some (kind, s) =>
        match block? kind s out with
        | none => none
        | some (out, s) => if last = 1 then some (out, s) else blocks? tries s out

/-- Inflates what begins at a place. Every block takes three bits, so there are no more blocks than
bits. -/
def inflate? (s : BitSource) : Option (ByteArray × BitSource) :=
  blocks? (s.remaining + 1) s .empty

end UsbDisplay.Inflate
