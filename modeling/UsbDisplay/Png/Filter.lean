/-!
Row filters. A filtered row holds the differences between its bytes and what is predicted from the
byte to the left, the byte above, and the byte above that one's left neighbour; where there is no
such byte, zero is taken. A filtered row starts with the number of its filter.
-/

namespace UsbDisplay.Png

/-- How the bytes of a row are predicted. -/
inductive Filter where
  | none
  | left
  | above
  | mean
  | nearest
  deriving DecidableEq, Repr

namespace Filter

def ofCode? : UInt8 → Option Filter
  | 0 => some none
  | 1 => some left
  | 2 => some above
  | 3 => some mean
  | 4 => some nearest
  | _ => Option.none

/-- Of three neighbours the one that is nearest to left plus above minus corner; of equally near
ones the first in the order left, above, corner. -/
def nearestNeighbour (left above corner : UInt8) : UInt8 :=
  let guess : Int := left.toNat + above.toNat - corner.toNat
  let toLeft := (guess - left.toNat).natAbs
  let toAbove := (guess - above.toNat).natAbs
  let toCorner := (guess - corner.toNat).natAbs
  if toLeft ≤ toAbove ∧ toLeft ≤ toCorner then left
  else if toAbove ≤ toCorner then above
  else corner

def predict (f : Filter) (left above corner : UInt8) : UInt8 :=
  match f with
  | .none => 0
  | .left => left
  | .above => above
  | .mean => UInt8.ofNat ((left.toNat + above.toNat) / 2)
  | .nearest => nearestNeighbour left above corner

/-- The byte `stride` before place `i`. -/
def before (row : ByteArray) (i stride : Nat) : UInt8 :=
  if i < stride then 0 else row[i - stride]?.getD 0

/-- Undoes the filter of a row, given the row above; `stride` is how far back the left neighbour of
a byte is. -/
def undo (f : Filter) (stride : Nat) (above row : ByteArray) : ByteArray :=
  row.size.fold
    (fun i h out => out.push (row[i] +
      f.predict (before out i stride) (above[i]?.getD 0) (before above i stride)))
    (ByteArray.emptyWithCapacity row.size)

end Filter

/-- Reads `n` filtered rows of `size` bytes each from an offset on, after those that were read
before. -/
def rows? (stride size : Nat) (bytes : ByteArray) :
    (n start : Nat) → (soFar : Array ByteArray) → Option (Array ByteArray)
  | 0, _, soFar => some soFar
  | n + 1, start, soFar =>
    if start + 1 + size ≤ bytes.size then
      match bytes[start]?.bind Filter.ofCode? with
      | none => none
      | some f =>
        let row := f.undo stride (soFar.back?.getD .empty)
          (bytes.extract (start + 1) (start + 1 + size))
        rows? stride size bytes n (start + 1 + size) (soFar.push row)
    else none

end UsbDisplay.Png
