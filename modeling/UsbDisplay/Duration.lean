/-!
Lengths of time in nanoseconds, and their text: the largest of second, millisecond, microsecond and
nanosecond that goes at least once into the length, with as many decimal places as it takes and no
zero at the end.
-/

namespace UsbDisplay

/-- A length of time. -/
structure Duration where
  nanoseconds : Nat
  deriving DecidableEq, Repr, Inhabited

namespace Duration

def zero : Duration := ⟨0⟩

def ofMicroseconds (n : Nat) : Duration := ⟨n * 1000⟩

def ofMilliseconds (n : Nat) : Duration := ⟨n * 1000000⟩

def ofSeconds (n : Nat) : Duration := ⟨n * 1000000000⟩

def microseconds (d : Duration) : Nat := d.nanoseconds / 1000

def milliseconds (d : Duration) : Nat := d.nanoseconds / 1000000

instance : Add Duration := ⟨fun a b => ⟨a.nanoseconds + b.nanoseconds⟩⟩

/-- The time from `b` to `a`; none if `a` is the earlier. -/
instance : Sub Duration := ⟨fun a b => ⟨a.nanoseconds - b.nanoseconds⟩⟩

instance : LT Duration := ⟨fun a b => a.nanoseconds < b.nanoseconds⟩

instance (a b : Duration) : Decidable (a < b) :=
  inferInstanceAs (Decidable (a.nanoseconds < b.nanoseconds))

theorem lt_iff {a b : Duration} : a < b ↔ a.nanoseconds < b.nanoseconds := Iff.rfl

@[simp] theorem nanoseconds_add (a b : Duration) :
    (a + b).nanoseconds = a.nanoseconds + b.nanoseconds := rfl

@[simp] theorem nanoseconds_sub (a b : Duration) :
    (a - b).nanoseconds = a.nanoseconds - b.nanoseconds := rfl

/-- The last `places` decimal digits of a number, most significant first. -/
def decimalDigits : (places : Nat) → Nat → List Char
  | 0, _ => []
  | places + 1, n => decimalDigits places (n / 10) ++ [Nat.digitChar (n % 10)]

/-- A list of digits without the zeros at its end. -/
def dropFinalZeros (digits : List Char) : List Char :=
  (digits.reverse.dropWhile (· == '0')).reverse

/-- The text of `n / 10 ^ places`. -/
def decimalText (n places : Nat) : String :=
  let unit := Nat.pow 10 places
  let whole := toString (n / unit)
  match dropFinalZeros (decimalDigits places (n % unit)) with
  | [] => whole
  | digits => whole ++ "." ++ String.ofList digits

def text (d : Duration) : String :=
  if 1000000000 ≤ d.nanoseconds then decimalText d.nanoseconds 9 ++ "s"
  else if 1000000 ≤ d.nanoseconds then decimalText d.nanoseconds 6 ++ "ms"
  else if 1000 ≤ d.nanoseconds then decimalText d.nanoseconds 3 ++ "µs"
  else decimalText d.nanoseconds 0 ++ "ns"

end Duration

end UsbDisplay
