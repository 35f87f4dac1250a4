import Wayfinder.Keyed
import Wayfinder.Text.Digits
import Wayfinder.Text.Pieces
import Wayfinder.Text.Utf8
import Wayfinder.Url.Basic
import Wayfinder.Url.Label
import Wayfinder.Url.Percent

/-!
# Hosts of URLs

A host is an address of version 6 in brackets, an address of version 4 in one of its many
spellings, or a domain name.  URLs whose scheme is not special have opaque hosts instead.

How a domain name beyond ASCII is written in ASCII is told by tables that grow from year to year, so
this is a parameter: `DomainMapping`.
-/

namespace Wayfinder

/-- Writes domain names beyond ASCII in ASCII: the characters of the name are folded, and each label
that still holds any beyond ASCII is encoded behind `xn--`.  What is no name has no such form. -/
class DomainMapping where
  toAscii? : List Char → Option (List Char)

/-- The mapping that knows the listed names and no others. -/
@[reducible] def DomainMapping.ofNames (names : Keyed String) : DomainMapping where
  toAscii? cs := (Keyed.find? names (String.ofList cs)).map String.toList

/-- The mapping that knows no names beyond ASCII. -/
@[reducible] def DomainMapping.asciiOnly : DomainMapping := .ofNames []

namespace Url

/-! ## Addresses of version 4 -/

/-- The number that digits denote in a base, if all of them are digits of that base. -/
def numberInBase? (base : Nat) (cs : List Char) : Option Nat :=
  let add (n : Nat) (c : Char) : Option Nat :=
    (Text.hexValue? c).bind fun d => if d < base then some (base * n + d) else none
  cs.foldlM add 0

/-- One part of an address: hexadecimal behind `0x`, octal behind `0`, decimal otherwise. -/
def ipv4Number? : List Char → Option Nat
  | [] => none
  | '0' :: 'x' :: cs => numberInBase? 16 cs
  | '0' :: 'X' :: cs => numberInBase? 16 cs
  | '0' :: c :: cs => numberInBase? 8 (c :: cs)
  | cs => numberInBase? 10 cs

/-- The parts of a domain name, without an empty one at its end. -/
def domainParts (cs : List Char) : List (List Char) :=
  let parts := Text.pieces (· = '.') cs
  if parts.length ≠ 1 ∧ parts.getLast? = some [] then parts.dropLast else parts

/-- Whether a domain name has to be an address because its last part is a number. -/
def endsInNumber (cs : List Char) : Bool :=
  match (domainParts cs).getLast? with
  | none => false
  | some last => (last ≠ [] && last.all Char.isDigit) || (ipv4Number? last).isSome

/-- The address that a domain name denotes: each part is a byte, and the last one fills up. -/
def ipv4? (cs : List Char) : Option Nat := do
  let parts := domainParts cs
  let numbers ← parts.mapM ipv4Number?
  let last ← numbers.getLast?
  let front := numbers.dropLast
  if parts.length ≤ 4 ∧ front.all (· ≤ 255) ∧ last < Nat.pow 256 (4 - front.length) then
    some (front.foldl (fun n b => 256 * n + b) 0 * Nat.pow 256 (4 - front.length) + last)
  else none

def writeIpv4 (n : Nat) : String :=
  let byte (i : Nat) : String := toString (n / Nat.pow 256 i % 256)
  byte 3 ++ "." ++ byte 2 ++ "." ++ byte 1 ++ "." ++ byte 0

/-! ## Addresses of version 6 -/

/-- The pieces read so far, the latest first, and how many of them stand before the gap. -/
structure Ipv6Pieces where
  pieces : List Nat := []
  gap : Option Nat := none

/-- How many of the eight pieces are taken; a gap stands for one at least. -/
def Ipv6Pieces.used (p : Ipv6Pieces) : Nat := p.pieces.length + (if p.gap.isSome then 1 else 0)

/-- A byte of the four at the end of an address, without leading zeros. -/
def decimalByte? (cs : List Char) : Option Nat :=
  match cs with
  | [] => none
  | '0' :: _ :: _ => none
  | _ => if cs.all Char.isDigit ∧ cs.length ≤ 3 ∧ Text.number cs ≤ 255 then some (Text.number cs)
    else none

/-- Two pieces written as an address of version 4. -/
def ipv4Pieces? (cs : List Char) : Option (Nat × Nat) := do
  match ← (Text.pieces (· = '.') cs).mapM decimalByte? with
  | [a, b, c, d] => some (256 * a + b, 256 * c + d)
  | _ => none

/-- Read pieces up to the end of a text of at most `fuel` characters. -/
def ipv6PiecesFrom : (fuel : Nat) → Ipv6Pieces → List Char → Option Ipv6Pieces
  | _, p, [] => some p
  | 0, _, _ :: _ => none
  | fuel + 1, p, c :: cs =>
    if p.used = 8 then none
    else if c = ':' then
      if p.gap.isSome then none
      else ipv6PiecesFrom fuel { p with gap := some p.pieces.length } cs
    else
      let digits := ((c :: cs).take 4).takeWhile fun c => (Text.hexValue? c).isSome
      let piece := (numberInBase? 16 digits).getD 0
      match (c :: cs).drop digits.length with
      | [] => some { p with pieces := piece :: p.pieces }
      | ':' :: [] => none
      | ':' :: rest => ipv6PiecesFrom fuel { p with pieces := piece :: p.pieces } rest
      | '.' :: _ =>
        if 6 < p.used then none
        else (ipv4Pieces? (c :: cs)).map fun (a, b) => { p with pieces := b :: a :: p.pieces }
      | _ => none

/-- The eight pieces of an address. -/
def ipv6? (cs : List Char) : Option (List Nat) := do
  let p ← match cs with
    | ':' :: ':' :: rest => ipv6PiecesFrom rest.length { gap := some 0 } rest
    | ':' :: _ => none
    | [] => none
    | [_] => none
    | _ => ipv6PiecesFrom cs.length {} cs
  let pieces := p.pieces.reverse
  match p.gap with
  | none => if pieces.length = 8 then some pieces else none
  | some n => some (pieces.take n ++ List.replicate (8 - pieces.length) 0 ++ pieces.drop n)

/-- The length of the run of zeros at the start of a list. -/
def zeroRun (l : List Nat) : Nat := (l.takeWhile (· = 0)).length

/-- The first of the longest runs of two zeros or more: where it starts and its length. -/
def longestZeroRun (l : List Nat) : Option (Nat × Nat) :=
  let runs := (List.range l.length).map fun i => (i, zeroRun (l.drop i))
  runs.foldl (fun best r =>
    if 2 ≤ r.2 ∧ best.elim 0 (·.2) < r.2 then some r else best) none

def writePieces (l : List Nat) : String :=
  ":".intercalate (l.map fun n => String.ofList (Nat.toDigits 16 n))

/-- An address with its longest run of zeros left out. -/
def writeIpv6 (l : List Nat) : String :=
  match longestZeroRun l with
  | none => writePieces l
  | some (start, length) => writePieces (l.take start) ++ "::" ++ writePieces (l.drop (start + length))

/-! ## Domain names -/

/-- What no domain name can hold. -/
def isForbidden (c : Char) : Bool :=
  c.toNat ≤ 0x20 || c.toNat = 0x7F ||
    c ∈ ['%', '#', '/', ':', '<', '>', '?', '@', '[', '\\', ']', '^', '|']

/-- A domain name of ASCII in small letters, if its labels denote what a name can hold. -/
def asciiDomain? (bytes : List UInt8) : Option (List Char) :=
  let name := bytes.map fun b => (Char.ofNat b.toNat).toLower
  if ¬ name.any isForbidden ∧ areLabels (Text.pieces (· = '.') name) then some name else none

/-- A domain name in ASCII, with all escapes decoded. -/
def domain? [DomainMapping] (cs : List Char) : Option (List Char) :=
  let bytes := decode cs
  if bytes.all (·.toNat < 128) then asciiDomain? bytes
  else (Text.readUtf8? bytes).bind fun name => DomainMapping.toAscii? name.toList

/-! ## Hosts -/

/-- The address in a pair of brackets. -/
def bracketed (cs : List Char) : Except UrlError String :=
  match cs.reverse with
  | ']' :: inner =>
    match ipv6? inner.reverse with
    | some pieces => .ok ("[" ++ writeIpv6 pieces ++ "]")
    | none => .error .invalidIpv6
  | _ => .error .invalidIpv6

/-- The host of a special URL. -/
def parseHost [DomainMapping] (cs : List Char) : Except UrlError String :=
  match cs with
  | '[' :: cs => bracketed cs
  | cs =>
    match domain? cs with
    | none => .error .invalidDomain
    | some [] => .error .emptyHost
    | some name =>
      if endsInNumber name then
        match ipv4? name with
        | some n => .ok (writeIpv4 n)
        | none => .error .invalidIpv4
      else .ok (String.ofList name)

/-- What no opaque host can hold. -/
def isForbiddenInHost (c : Char) : Bool :=
  c ∈ ['\x00', '\t', '\n', '\x0d', ' ', '#', '/', ':', '<', '>', '?', '@', '[', '\\', ']', '^', '|']

/-- The host of a URL that is not special. -/
def parseOpaqueHost (cs : List Char) : Except UrlError String :=
  match cs with
  | '[' :: cs => bracketed cs
  | cs =>
    if cs.any isForbiddenInHost then .error .invalidDomainCharacter
    else .ok (String.ofList (encode inControls cs))

end Url

end Wayfinder
