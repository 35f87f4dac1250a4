/-!
# Punycode

The decoding of RFC 3492: a label of a host name that starts with `xn--` holds characters beyond
ASCII as a sequence of insertions, each a number of digits in base 36 whose weights adapt to the
insertions before.
-/

namespace Wayfinder

namespace Punycode

/-- The value of a digit. -/
def digitValue? (c : Char) : Option Nat :=
  let n := c.toNat
  if 97 ≤ n && n ≤ 122 then some (n - 97)
  else if 65 ≤ n && n ≤ 90 then some (n - 65)
  else if c.isDigit then some (n - 48 + 26)
  else none

/-- The least value of the digit at position `k` that does not end a number. -/
def threshold (k bias : Nat) : Nat :=
  if k ≤ bias then 1 else if bias + 26 ≤ k then 26 else k - bias

/-- Scale a delta down, counting the steps; a delta below 2^64 takes fewer than 20. -/
def scale : (steps : Nat) → (delta k : Nat) → Nat × Nat
  | 0, delta, k => (delta, k)
  | steps + 1, delta, k => if 455 < delta then scale steps (delta / 35) (k + 36) else (delta, k)

/-- The bias after an insertion. -/
def adapt (delta points : Nat) (first : Bool) : Nat :=
  let delta := if first then delta / 700 else delta / 2
  let (delta, k) := scale 20 (delta + delta / points) 0
  k + 36 * delta / (delta + 38)

/-- One number: the position `i` after it, and the digits behind it. -/
def decodeNumber (bias : Nat) : List Char → (k weight i : Nat) → Option (Nat × List Char)
  | [], _, _, _ => none
  | c :: cs, k, weight, i =>
    match digitValue? c with
    | none => none
    | some d =>
      let t := threshold k bias
      let i := i + d * weight
      if 0x100000000 ≤ i then none
      else if d < t then some (i, cs)
      else if 0x100000000 ≤ weight * (36 - t) then none
      else decodeNumber bias cs (k + 36) (weight * (36 - t)) i

/-- Insert characters into `out` as long as digits are left, at most `fuel` times. -/
def insertAll : (fuel : Nat) → (n i bias : Nat) → (out : List Char) → List Char →
    Option (List Char)
  | _, _, _, _, out, [] => some out
  | 0, _, _, _, _, _ :: _ => none
  | fuel + 1, n, i, bias, out, c :: cs =>
    match decodeNumber bias (c :: cs) 36 1 i with
    | none => none
    | some (j, rest) =>
      let points := out.length + 1
      let m := n + j / points
      let at_ := j % points
      if m < 0xD800 ∨ (0xE000 ≤ m ∧ m < 0x110000) then
        insertAll fuel m (at_ + 1) (adapt (j - i) points (i = 0))
          (out.insertIdx at_ (Char.ofNat m)) rest
      else none

/-- The characters that an encoded text denotes.  What stands before its last hyphen is plain, and
has to be something. -/
def decode (cs : List Char) : Option (List Char) :=
  let tail := (cs.reverse.takeWhile (· ≠ '-')).reverse
  let plain := cs.take (cs.length - tail.length - 1)
  if plain = [] ∧ '-' ∈ cs then none else insertAll cs.length 128 0 72 plain tail

end Punycode

end Wayfinder
