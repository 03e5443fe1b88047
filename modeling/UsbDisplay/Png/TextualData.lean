/-!
Texts in a picture file. A text has a keyword in front, which a zero byte ends; then comes the text
itself, or first how it is compressed, in which language it is, and its keyword in that language. Of
a text no more is asked than that it has the form of its kind.
-/

namespace UsbDisplay.Png.TextualData

/-- The place of the first zero byte from an offset on. -/
def zeroFrom? (bytes : ByteArray) (start : Nat) : Option Nat :=
  if h : start < bytes.size then
    if bytes[start] = 0 then some start else zeroFrom? bytes (start + 1)
  else none

def maxKeyword : Nat := 79

def keyword? (bytes : ByteArray) : Option Nat :=
  (zeroFrom? bytes 0).filter fun n => 0 < n && n ≤ maxKeyword

/-- Whether a text that is not compressed has its form. -/
def isPlain (bytes : ByteArray) : Bool := (keyword? bytes).isSome

/-- Whether a compressed text has its form: a zero names the only method. -/
def isCompressed (bytes : ByteArray) : Bool :=
  (keyword? bytes).any fun n => bytes[n + 1]? == some 0

/-- Whether a text with a language has its form. The language is in ASCII, its keyword in UTF-8, and
so is the text unless it is compressed. -/
def isInternational (bytes : ByteArray) : Bool :=
  match keyword? bytes with
  | none => false
  | some n =>
    match bytes[n + 1]?, bytes[n + 2]?, zeroFrom? bytes (n + 3) with
    | some flag, some method, some l =>
      match zeroFrom? bytes (l + 1) with
      | none => false
      | some k =>
        (bytes.extract (n + 3) l).data.all (· < 128) &&
          (bytes.extract (l + 1) k).validateUTF8 &&
          (flag == 0 && (bytes.extract (k + 1) bytes.size).validateUTF8 ||
            flag == 1 && method == 0)
    | _, _, _ => false

end UsbDisplay.Png.TextualData
