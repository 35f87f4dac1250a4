import Wayfinder.Text.CaseTable

/-!
# Lower case of a text

Each character is mapped on its own, with two exceptions of the Unicode standard: `İ` becomes two
characters, and `Σ` at the end of a word becomes `ς`.  A word ends at a letter if, leaving out the
characters that case ignores, a cased letter comes before it and none comes after it.
-/

namespace Wayfinder.Text

/-- Whether, leaving out what case ignores, the next character is a cased letter. -/
def startsCased : List Char → Bool
  | [] => false
  | c :: cs => if caseIgnorable.has c then startsCased cs else cased.has c

/-- The lower case of a character that is neither `İ` nor `Σ`. -/
def lowerChar (c : Char) : Char :=
  match caseRows.findSome? (·.map? c.toNat) with
  | some n => Char.ofNat n
  | none => c

theorem lowerChar_eq (c : Char) :
    lowerChar c = ((caseRows.toList.findSome? (·.map? c.toNat)).map Char.ofNat).getD c := by
  rw [lowerChar, Array.findSome?_toList]
  cases caseRows.findSome? (·.map? c.toNat) <;> rfl

/-- The lower case of a character between the characters `before` it, the nearest first, and
those `after` it. -/
def lowerAt (before : List Char) (c : Char) (after : List Char) : List Char :=
  if c = 'İ' then ['i', '\u0307']
  else if c = 'Σ' then [if startsCased before && !startsCased after then 'ς' else 'σ']
  else [lowerChar c]

/-- The lower case of `rest`, which stands behind `before`. -/
def lowerFrom (before : List Char) : List Char → List Char
  | [] => []
  | c :: rest => lowerAt before c rest ++ lowerFrom (c :: before) rest

/-- The lower case of a text. -/
def toLower (s : String) : String := String.ofList (lowerFrom [] s.toList)

theorem toList_toLower (s : String) : (toLower s).toList = lowerFrom [] s.toList := by
  simp [toLower]

end Wayfinder.Text
