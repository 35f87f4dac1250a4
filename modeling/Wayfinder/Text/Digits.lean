/-!
# Digits
-/

namespace Wayfinder.Text

/-- The digits of a number. -/
def digits (n : Nat) : List Char := Nat.toDigits 10 n

/-- The digits of a number, with zeros in front up to a width. -/
def padded (width n : Nat) : List Char :=
  List.replicate (width - (digits n).length) '0' ++ digits n

/-- The number that a list of digits denotes. -/
def number (cs : List Char) : Nat := Nat.ofDigitChars 10 cs 0

/-- The digits of an integer, after a minus sign if it is negative. -/
def intDigits : Int → List Char
  | .ofNat n => digits n
  | .negSucc n => '-' :: digits (n + 1)

/-- The value of a digit in base sixteen, small or capital. -/
def hexValue? (c : Char) : Option Nat :=
  let n := c.toNat
  if c.isDigit then some (n - 48)
  else if 97 ≤ n && n ≤ 102 then some (n - 87)
  else if 65 ≤ n && n ≤ 70 then some (n - 55)
  else none

theorem number_digits (n : Nat) : number (digits n) = n := by
  simp [number, digits]

end Wayfinder.Text
