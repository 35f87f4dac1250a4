import Wayfinder.Text.Pieces
import Wayfinder.Url.Percent

/-!
# Paths of URLs

A text is resolved behind the path that stands already, one segment after the other.  A segment of
one dot adds nothing, one of two dots goes up, and any other is put at the end.  The path of a file
may start with a drive, which is never left.

Tabs and line ends do not count, but in a file they part a segment: what follows a drive then goes
into a segment of its own.

    resolvePath kind start text: the path that `text` denotes behind `start`
-/

namespace Wayfinder

namespace Url

/-! ## Characters and drives -/

/-- What is left out wherever it stands: a tab or a line end. -/
def isBreak (c : Char) : Bool := c = '\t' || c = '\n' || c = '\x0d'

def withoutBreaks (cs : List Char) : List Char := cs.filter (!isBreak ·)

/-- Whether a character ends a segment; a backslash does in special URLs. -/
def isSlash (special : Bool) (c : Char) : Bool := c = '/' || (special && c = '\\')

/-- Whether a text names a drive: a letter and a colon or a bar. -/
def isDrive : List Char → Bool
  | [c, d] => c.isAlpha && (d = ':' || d = '|')
  | _ => false

/-- Whether a text names a drive in its normal form. -/
def isNormalDrive (cs : List Char) : Bool := isDrive cs && cs.getLast? = some ':'

/-- Whether a text is a drive, or a drive and more behind a slash or a backslash. -/
def startsWithDrive (cs : List Char) : Bool :=
  isDrive (cs.take 2) && (cs.drop 2).head?.all (isSlash true)

/-- A segment with its escaped dots decoded. -/
def withDots : List Char → List Char
  | '%' :: '2' :: 'e' :: cs => '.' :: withDots cs
  | '%' :: '2' :: 'E' :: cs => '.' :: withDots cs
  | c :: cs => c :: withDots cs
  | [] => []

/-! ## Going up -/

/-- The text behind the last slash. -/
def lastSegment (path : List Char) : List Char := (path.reverse.takeWhile (· ≠ '/')).reverse

/-- The text up to the last slash. -/
def upToLastSlash (path : List Char) : List Char := (path.reverse.dropWhile (· ≠ '/')).reverse

theorem upToLastSlash_append_lastSegment (path : List Char) :
    upToLastSlash path ++ lastSegment path = path := by
  rw [upToLastSlash, lastSegment, ← List.reverse_append, List.takeWhile_append_dropWhile,
    List.reverse_reverse]

/-- A path without its last segment, unless that is the drive of a file. -/
def dropLastSegment (file : Bool) (path : List Char) : List Char :=
  if file ∧ isNormalDrive (lastSegment path) then path else upToLastSlash path

/-- A path without the slash at its end.  The slash at the root stays, and so does one behind a
drive. -/
def dropLastSlash (path : List Char) : List Char :=
  let before := path.dropLast
  if path.getLast? = some '/' ∧ '/' ∈ before ∧ ¬ startsWithDrive (lastSegment before) then before
  else path

/-- The path one level above. -/
def goUp (file : Bool) (path : List Char) : List Char := dropLastSegment file (dropLastSlash path)

/-- A path with a slash at its end. -/
def withSlash (path : List Char) : List Char :=
  if path.getLast? = some '/' then path else path ++ ['/']

/-! ## Segments -/

/-- A path and the place in it where its last segment starts. -/
structure OpenPath where
  text : List Char
  start : Nat

/-- Put more text into the last segment.  If the path is nothing but the drive of a file, a slash
comes between. -/
def OpenPath.put (file : Bool) (p : OpenPath) (part : List Char) : OpenPath :=
  if part = [] then p
  else if file ∧ isNormalDrive (p.text.drop 1) then
    ⟨p.text ++ '/' :: encode inPath part, p.start + 1⟩
  else { p with text := p.text ++ encode inPath part }

/-- A path, and whether one of its segments turned out to be its drive. -/
structure ResolvedPath where
  text : List Char
  drive : Bool := false

/-- Put a segment behind a path.  `more` tells that another one follows. -/
def ResolvedPath.add (file : Bool) (p : ResolvedPath) (more : Bool) (segment : List Char) :
    ResolvedPath :=
  let o := (Text.pieces isBreak segment).foldl (OpenPath.put file) ⟨p.text, p.text.length⟩
  let before := o.text.take o.start
  let added := o.text.drop o.start
  let slash := if more then ['/'] else []
  if withDots added = ['.', '.'] then
    let up := goUp file before
    { p with text := if more then withSlash up else up }
  else if withDots added = ['.'] then { p with text := withSlash before }
  else if file ∧ o.start = 1 ∧ isDrive added then ⟨before ++ added.take 1 ++ ':' :: slash, true⟩
  else { p with text := o.text ++ slash }

/-- Put segments behind a path, with slashes between them. -/
def ResolvedPath.addAll (file : Bool) : ResolvedPath → List (List Char) → ResolvedPath
  | p, [] => p
  | p, [s] => p.add file false s
  | p, s :: ss => (p.add file true s).addAll file ss

/-! ## Texts -/

/-- What a path belongs to. -/
inductive PathKind where
  | ordinary
  | special
  | file
deriving DecidableEq

def PathKind.isSpecial : PathKind → Bool
  | ordinary => false
  | special => true
  | file => true

/-- The path that a text denotes behind the path `start`.  A file has no empty segments at the
start. -/
def resolvePath (kind : PathKind) (start text : List Char) : ResolvedPath :=
  let segments := Text.pieces (isSlash kind.isSpecial) text
  let p := (ResolvedPath.mk start false).addAll (kind = .file) segments
  if kind = .file then { p with text := '/' :: p.text.dropWhile (· = '/') } else p

end Url

end Wayfinder
