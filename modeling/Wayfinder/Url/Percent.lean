import Wayfinder.Text.Digits
import Wayfinder.Text.Utf8

/-!
# Percent encoding

A character that a part of a URL cannot hold is written as its bytes, each as `%` and two digits in
base sixteen.
-/

namespace Wayfinder

namespace Url

/-! ## Sets of characters to encode -/

/-- Controls and everything beyond ASCII. -/
def inControls (c : Char) : Bool := c.toNat < 0x20 || 0x7F ≤ c.toNat

def inQuery (c : Char) : Bool := inControls c || c ∈ [' ', '"', '#', '<', '>']

def inSpecialQuery (c : Char) : Bool := inQuery c || c = '\''

def inFragment (c : Char) : Bool := inControls c || c ∈ [' ', '"', '<', '>', '\x60']

def inPath (c : Char) : Bool := inFragment c || c ∈ ['#', '?', '\x7b', '\x7d']

def inUserinfo (c : Char) : Bool :=
  inPath c || c ∈ ['/', ':', ';', '=', '@', '[', '\\', ']', '^', '|']

/-! ## Encoding and decoding -/

/-- A digit in base sixteen, with capital letters. -/
def hexDigit (n : Nat) : Char := (Nat.digitChar n).toUpper

def encodeByte (b : UInt8) : List Char := ['%', hexDigit (b.toNat / 16), hexDigit (b.toNat % 16)]

/-- A text with the characters of a set encoded. -/
def encode (set : Char → Bool) (cs : List Char) : List Char :=
  cs.flatMap fun c => if set c then (String.utf8EncodeChar c).flatMap encodeByte else [c]

/-- The bytes that a text denotes.  A `%` without two digits behind it stands for itself. -/
def decode : List Char → List UInt8
  | '%' :: a :: b :: cs =>
    match Text.hexValue? a, Text.hexValue? b with
    | some m, some n => (16 * m + n).toUInt8 :: decode cs
    | _, _ => '%'.toNat.toUInt8 :: decode (a :: b :: cs)
  | c :: cs => String.utf8EncodeChar c ++ decode cs
  | [] => []

end Url

end Wayfinder
