/-!
# Hexadecimal digits

Numbers in hexadecimal digits. They are written in lower case and read in either case.

* `hexDigits`: a number as it is written.
* `hexValue?`: the value of one digit.
* `hexNumber?`: the value of several digits.
-/

namespace ShaderHandles.Text

/-- A number in hexadecimal digits, lower case and without leading zeros. -/
def hexDigits (n : Nat) : String := String.ofList (Nat.toDigits 16 n)

/-- The value of a hexadecimal digit. -/
def hexValue? (c : Char) : Option Nat :=
  if c.isDigit then some (c.toNat - 48)
  else if 'a' ≤ c ∧ c ≤ 'f' then some (c.toNat - 87)
  else if 'A' ≤ c ∧ c ≤ 'F' then some (c.toNat - 55)
  else none

/-- The value of hexadecimal digits, the first of them the greatest. -/
def hexNumber? (digits : List Char) : Option Nat :=
  digits.foldlM (fun number c => (hexValue? c).map (number * 16 + ·)) 0

end ShaderHandles.Text
