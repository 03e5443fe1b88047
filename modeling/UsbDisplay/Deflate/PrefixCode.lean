import UsbDisplay.Deflate.BitSource

/-!
Canonical prefix codes. The lengths of the codewords determine a code: shorter codewords come first,
codewords of one length follow the order of their symbols. A codeword takes all the places that
begin with it; a code that takes every place once is complete, and then every run of bits starts
with exactly one codeword.
-/

namespace UsbDisplay

/-- A code as the number of codewords of each length, and the symbols in the order of their
codewords. -/
structure PrefixCode where
  counts : Array Nat
  symbols : Array Nat

namespace PrefixCode

def maxLength : Nat := 15

/-- The runs of bits of the greatest length. -/
def places : Nat := 1 <<< maxLength

/-- The places that codewords of these lengths take; length zero stands for no codeword. -/
def space (lengths : List Nat) : Nat :=
  lengths.foldr (fun n taken => (if n = 0 then 0 else places >>> n) + taken) 0

/-- Whether codewords of these lengths leave no place free and none is taken twice. -/
def IsComplete (lengths : List Nat) : Bool :=
  space lengths == places

def symbolsOfLength (lengths : List Nat) (n : Nat) : List Nat :=
  (List.range lengths.length).zip lengths |>.filterMap fun (symbol, m) =>
    if m = n then some symbol else none

def ofLengths (lengths : List Nat) : PrefixCode where
  counts := ((List.range (maxLength + 1)).map fun n =>
    if n = 0 then 0 else lengths.count n).toArray
  symbols := ((List.range maxLength).flatMap fun n => symbolsOfLength lengths (n + 1)).toArray

/-- Reads a codeword bit by bit. Of the codewords of length `length`, the first one is `first` and
stands at place `index` in the order; `code` is what was read before. -/
def decodeFrom (c : PrefixCode) : (tries length code first index : Nat) → BitSource →
    Option (Nat × BitSource)
  | 0, _, _, _, _, _ => none
  | tries + 1, length, code, first, index, s =>
    match s.bit? with
    | none => none
    | some (b, s) =>
      let code := 2 * code + b
      let count := c.counts[length]?.getD 0
      if code < first + count then (c.symbols[index + (code - first)]?).map fun x => (x, s)
      else decodeFrom c tries (length + 1) code (2 * (first + count)) (index + count) s

def decode (c : PrefixCode) (s : BitSource) : Option (Nat × BitSource) :=
  c.decodeFrom maxLength 1 0 0 0 s

theorem remaining_decodeFrom {c : PrefixCode} {tries length code first index : Nat}
    {s t : BitSource} {x : Nat} (h : c.decodeFrom tries length code first index s = some (x, t)) :
    t.remaining < s.remaining := by
  induction tries generalizing length code first index s with
  | zero => cases h
  | succ tries ih =>
    simp only [decodeFrom] at h
    split at h
    · cases h
    · rename_i b s₁ hb
      have hs := BitSource.remaining_bit? hb
      split at h
      · obtain ⟨y, -, hy⟩ := Option.map_eq_some_iff.1 h
        simp only [Prod.mk.injEq] at hy
        obtain ⟨-, rfl⟩ := hy
        omega
      · have := ih h
        omega

theorem remaining_decode {c : PrefixCode} {s t : BitSource} {x : Nat}
    (h : c.decode s = some (x, t)) : t.remaining < s.remaining :=
  remaining_decodeFrom h

end PrefixCode

end UsbDisplay
