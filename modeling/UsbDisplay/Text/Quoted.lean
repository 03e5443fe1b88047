import UsbDisplay.Text.Visible

/-!
Text between double quotes. A quote or a backslash inside gets a backslash before it; tab, line
feed, carriage return and NUL have short escapes; any other character that does not show by itself
is written as its code point in hexadecimal between braces. All else stands as it is.
-/

namespace UsbDisplay.Text

/-- Hexadecimal digits of a number without leading zeros. -/
def hexNumber (n : Nat) : List Char :=
  Nat.toDigits 16 n

/-- How one character is written between quotes. -/
def quoteChar (c : Char) : List Char :=
  if c = '"' then ['\\', '"']
  else if c = '\\' then ['\\', '\\']
  else if c = '\t' then ['\\', 't']
  else if c = '\n' then ['\\', 'n']
  else if c = '\r' then ['\\', 'r']
  else if c = '\x00' then ['\\', '0']
  else if isVisible c then [c]
  else '\\' :: 'u' :: '\x7b' :: (hexNumber c.toNat ++ ['\x7d'])

def quoted (s : String) : String :=
  String.ofList ('"' :: (s.toList.flatMap quoteChar ++ ['"']))

end UsbDisplay.Text
