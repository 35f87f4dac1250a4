import Wayfinder.Text.CompositionTable
import Wayfinder.Text.MarkTable

/-!
# The composed form of a text

A letter and its accents can be written as one character or as several, and the accents in several
orders.  Of these spellings one is the composed form: the text is taken apart, marks that may change
places are put in the order of their classes, and then all is put together again as far as
possible.

    isComposed cs ↔ compose (sortMarks (decompose cs)) = cs
-/

namespace Wayfinder.Text

/-! ## Two characters for one -/

/-- The two parts of a Korean syllable: one of three letters ends in its last letter. -/
def syllableParts (n : Nat) : Nat × Nat :=
  let i := n - 0xAC00
  if i % 28 = 0 then (0x1100 + i / 588, 0x1161 + i % 588 / 28) else (n - i % 28, 0x11A7 + i % 28)

/-- The two parts of a composed character. -/
def parts? (c : Char) : Option (Char × Char) :=
  let n := c.toNat
  if 0xAC00 ≤ n ∧ n ≤ 0xD7A3 then
    let (a, b) := syllableParts n
    some (Char.ofNat a, Char.ofNat b)
  else (compositions.find? (·.whole = n)).map fun p => (Char.ofNat p.first, Char.ofNat p.second)

/-- The character that stands for two others. -/
def whole? (a b : Char) : Option Char :=
  let (m, n) := (a.toNat, b.toNat)
  if 0x1100 ≤ m ∧ m < 0x1113 ∧ 0x1161 ≤ n ∧ n < 0x1176 then
    some (Char.ofNat (0xAC00 + (m - 0x1100) * 588 + (n - 0x1161) * 28))
  else if 0xAC00 ≤ m ∧ m ≤ 0xD7A3 ∧ (m - 0xAC00) % 28 = 0 ∧ 0x11A7 < n ∧ n < 0x11C3 then
    some (Char.ofNat (m + (n - 0x11A7)))
  else (compositions.find? fun p => p.first = m && p.second = n).map fun p => Char.ofNat p.whole

/-! ## Whole texts -/

/-- The parts of a character, and their parts, down to a depth.  No character has more than three
levels of parts. -/
def decomposeChar : (depth : Nat) → Char → List Char
  | 0, c => [c]
  | depth + 1, c =>
    match parts? c with
    | none => [c]
    | some (a, b) => decomposeChar depth a ++ decomposeChar depth b

def decompose (cs : List Char) : List Char := cs.flatMap (decomposeChar 4)

/-- Put a character behind others, the latest first: a mark goes before marks of greater class. -/
def insertMark (c : Char) : List Char → List Char
  | [] => [c]
  | d :: ds =>
    if 0 < markClass c ∧ markClass c < markClass d then d :: insertMark c ds else c :: d :: ds

/-- A text with its marks in the order of their classes. -/
def sortMarks (cs : List Char) : List Char := (cs.foldl (fun l c => insertMark c l) []).reverse

/-- A text in the course of composition: the character that takes up what follows, what stands
before it, and the marks behind it that it could not take up.  The latest character is first. -/
structure Composing where
  before : List Char := []
  base : Option Char := none
  marks : List Char := []

def Composing.text (x : Composing) : List Char :=
  (x.marks ++ x.base.toList ++ x.before).reverse

/-- Whether a mark stands between the base and a character that keeps it from being taken up. -/
def Composing.blocks (x : Composing) (c : Char) : Bool :=
  x.marks.head?.any (markClass c ≤ markClass ·)

/-- Put one more character behind a text. -/
def Composing.add (x : Composing) (c : Char) : Composing :=
  match if x.blocks c then none else x.base.bind (whole? · c) with
  | some d => { x with base := some d }
  | none =>
    if markClass c = 0 then ⟨x.marks ++ x.base.toList ++ x.before, some c, []⟩
    else if x.base.isSome then { x with marks := c :: x.marks }
    else { x with before := c :: x.before }

/-- A text with all put together that can be. -/
def compose (cs : List Char) : List Char := (cs.foldl Composing.add {}).text

/-- Whether a text is in its composed form. -/
def isComposed (cs : List Char) : Bool := compose (sortMarks (decompose cs)) = cs

end Wayfinder.Text
