import Wayfinder.Text.Composed
import Wayfinder.Text.DirectionTable
import Wayfinder.Text.FoldTable
import Wayfinder.Text.GlyphTable
import Wayfinder.Text.JoiningTable
import Wayfinder.Url.Punycode

/-!
# Labels of domain names

The labels of a domain name are the parts between its dots.  One that starts with `xn--` stands for
characters beyond ASCII.  It denotes them only if each of them is written the one way that counts,
if joiners are where the script needs them, and if nothing in the whole name can be read in two
directions.
-/

namespace Wayfinder

namespace Url

/-! ## Characters -/

/-- Symbols that no label can denote, although they have a glyph and folding leaves them alone:
those that describe other characters, the ideographic full stop, which parts labels as a dot does,
and those that stand for what is missing. -/
def unfitSymbols : Text.CodeRanges := #[
  (0x2ff0, 0x2fff), (0x3002, 0x3002), (0x31ef, 0x31ef), (0xfffc, 0xfffd)]

/-- Whether a character can be denoted by a label: one beyond ASCII has to have a glyph and to be
its own folded form.  Two small letters and the joiners are let in although folding changes them. -/
def isLabelChar (c : Char) : Bool :=
  c.toNat < 128 || c ∈ ['ß', 'ς', '\u200c', '\u200d'] ||
    !(Text.invisible.has c || Text.folded.has c || unfitSymbols.has c)

/-! ## Joiners -/

/-- Whether the first character, leaving out what neighbours are seen through, is in one of two
tables. -/
def joins (one other : Text.CodeRanges) (cs : List Char) : Bool :=
  let isThrough (c : Char) : Bool := Text.nonspacingMarks.has c || Text.joiningThrough.has c
  (cs.dropWhile isThrough).head?.any fun c => one.has c || other.has c

/-- Whether a joiner has its place behind `before`, the nearest first, and before `after`.  Both
joiners may follow a mark that kills a vowel, and the one that keeps letters apart may stand between
letters that would join. -/
def joinerFits (c : Char) (before after : List Char) : Bool :=
  before.head?.any (Text.markClass · = 9) ||
    (c = '\u200c' && joins Text.joiningBoth Text.joiningAfter before
      && joins Text.joiningBoth Text.joiningBefore after)

/-- Whether all joiners of `rest`, which stands behind `before`, have their place. -/
def joinersFit (before : List Char) : (rest : List Char) → Bool
  | [] => true
  | c :: cs =>
    (!(c = '\u200c' || c = '\u200d') || joinerFits c before cs) && joinersFit (c :: before) cs

/-! ## Directions -/

/-- The direction of a character. -/
inductive Direction where
  | leftToRight
  | rightToLeft
  | europeanDigit
  | arabicDigit
  | mark
  | none
deriving DecidableEq

def direction (c : Char) : Direction :=
  if Text.nonspacingMarks.has c && !Text.directedMarks.has c then .mark
  else if Text.rightToLeft.has c then .rightToLeft
  else if Text.europeanDigits.has c then .europeanDigit
  else if Text.arabicDigits.has c then .arabicDigit
  else if Text.undirected.has c then .none
  else .leftToRight

/-- Whether a label has one direction: that of its first character.  Its last one, marks left out,
has that direction too or is a digit.  A label from right to left does not mix digits. -/
def hasOneDirection (label : List Char) : Bool :=
  match label.map direction with
  | [] => true
  | d :: ds =>
    let ds := (ds.reverse.dropWhile (· = .mark)).reverse
    if d = .leftToRight then
      ds.all (· ∈ [.leftToRight, .europeanDigit, .mark, .none])
        && ds.getLast?.all (· ∈ [.leftToRight, .europeanDigit])
    else if d = .rightToLeft then
      ds.all (· ≠ .leftToRight)
        && ds.getLast?.all (· ∈ [.rightToLeft, .europeanDigit, .arabicDigit])
        && !(ds.any (· = .europeanDigit) && ds.any (· = .arabicDigit))
    else false

/-- Whether no label of a domain name can be read in two directions.  All are if none holds
anything from right to left. -/
def haveOneDirection (labels : List (List Char)) : Bool :=
  !labels.any (·.any fun c => direction c ∈ [.rightToLeft, .arabicDigit])
    || labels.all hasOneDirection

/-! ## Labels -/

/-- The longest texts that are decoded, and the longest that are encoded. -/
def maxEncodedLength : Nat := 2000
def maxDecodedLength : Nat := 1000

/-- The characters that stand for an encoded label. -/
def decodedLabel? (encoded : List Char) : Option (List Char) := do
  let cs ← if encoded.length ≤ maxEncodedLength then Punycode.decode encoded else none
  if cs.any (128 ≤ ·.toNat) ∧ cs.length ≤ maxDecodedLength ∧ cs.all isLabelChar
      ∧ Text.isComposed cs ∧ ¬ cs.head?.any Text.isMark ∧ joinersFit [] cs then some cs
  else none

/-- The characters that a label in small letters denotes. -/
def label? (label : List Char) : Option (List Char) :=
  if ['x', 'n', '-', '-'].isPrefixOf label then decodedLabel? (label.drop 4) else some label

/-- Whether the labels of a domain name in small letters denote what such a name can hold. -/
def areLabels (labels : List (List Char)) : Bool :=
  match labels.mapM label? with
  | some decoded => haveOneDirection decoded
  | none => false

end Url

end Wayfinder
