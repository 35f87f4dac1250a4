/-!
# Text from bytes

Bytes are read as UTF-8.  Where they are no UTF-8, each longest start of a character that is not
completed, or else each single byte, is read as the replacement character.
-/

namespace Wayfinder.Text

/-- The character read in place of bytes that are no text. -/
def replacement : Char := '\uFFFD'

/-- What a byte that starts a longer character tells: its payload, the number of bytes that follow
and the range of the first of them. -/
def leadByte? (b : Nat) : Option (Nat × Nat × Nat × Nat) :=
  if 0xC2 ≤ b && b ≤ 0xDF then some (b - 0xC0, 1, 0x80, 0xBF)
  else if b == 0xE0 then some (0, 2, 0xA0, 0xBF)
  else if b == 0xED then some (0xD, 2, 0x80, 0x9F)
  else if 0xE1 ≤ b && b ≤ 0xEF then some (b - 0xE0, 2, 0x80, 0xBF)
  else if b == 0xF0 then some (0, 3, 0x90, 0xBF)
  else if 0xF1 ≤ b && b ≤ 0xF3 then some (b - 0xF0, 3, 0x80, 0xBF)
  else if b == 0xF4 then some (4, 3, 0x80, 0x8F)
  else none

/-- The character that `more` bytes complete, of which the first lies between `low` and `high`, and
the bytes behind it.  What is not completed is replaced. -/
def completeChar (code : Nat) : (more low high : Nat) → List UInt8 → Char × List UInt8
  | 0, _, _, bs => (Char.ofNat code, bs)
  | _ + 1, _, _, [] => (replacement, [])
  | more + 1, low, high, b :: bs =>
    if low ≤ b.toNat && b.toNat ≤ high then
      completeChar (64 * code + (b.toNat - 0x80)) more 0x80 0xBF bs
    else (replacement, b :: bs)

/-- The first character of bytes that start with `b`, and the bytes behind it. -/
def firstChar (b : UInt8) (bs : List UInt8) : Char × List UInt8 :=
  if b.toNat < 0x80 then (Char.ofNat b.toNat, bs)
  else match leadByte? b.toNat with
    | some (code, more, low, high) => completeChar code more low high bs
    | none => (replacement, bs)

/-- The characters of at most `fuel` bytes. -/
def decodeUtf8From : (fuel : Nat) → List UInt8 → List Char
  | 0, _ => []
  | _ + 1, [] => []
  | fuel + 1, b :: bs =>
    let (c, rest) := firstChar b bs
    c :: decodeUtf8From fuel rest

/-- The text that bytes denote. -/
def decodeUtf8 (bs : List UInt8) : String := String.ofList (decodeUtf8From bs.length bs)

/-- The bytes of a text. -/
def encodeUtf8 (s : String) : List UInt8 := s.toList.flatMap String.utf8EncodeChar

/-- The text that bytes denote, if nothing of it had to be replaced. -/
def readUtf8? (bs : List UInt8) : Option String :=
  let s := decodeUtf8 bs
  if encodeUtf8 s = bs then some s else none

end Wayfinder.Text
