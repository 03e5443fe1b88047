/-!
Hexadecimal text of words and bytes: lower-case digits, leading zeros kept, so that the number of
digits depends on the size of the word alone.
-/

namespace UsbDisplay.Text

/-- The last `places` hexadecimal digits of a number, most significant first. -/
def hexDigits : (places : Nat) → Nat → List Char
  | 0, _ => []
  | places + 1, n => hexDigits places (n / 16) ++ [Nat.digitChar (n % 16)]

@[simp] theorem length_hexDigits (places n : Nat) : (hexDigits places n).length = places := by
  induction places generalizing n with
  | zero => rfl
  | succ places ih => simp [hexDigits, ih]

/-- A 16-bit word with the mark of its base. -/
def hexWord (w : UInt16) : String :=
  "0x" ++ String.ofList (hexDigits 4 w.toNat)

end UsbDisplay.Text
