import Wayfinder.Json.Basic
import Wayfinder.Text.Blank
import Wayfinder.Text.Digits
import Wayfinder.Text.Quoted

/-!
# Faults of JSON texts and values

A `Cause` says what is wrong; its `message` is the wording.  A `Fault` of a text also says where:
by the text that is not yet read there, from which `Position.of` counts lines and bytes.
-/

namespace Wayfinder

open Text

namespace Json

/-! ## Causes -/

/-- What a decoder found in place of what it expected. -/
inductive Unexpected where
  | null
  | bool (b : Bool)
  | number (n : Number)
  | string (s : String)
  | sequence
  | map

/-- What a value is, seen by a decoder. -/
def unexpected : Json → Unexpected
  | .null => .null
  | .bool b => .bool b
  | .number n => .number n
  | .string s => .string s
  | .array _ => .sequence
  | .object _ => .map

def Unexpected.describe : Unexpected → String
  | null => "null"
  | bool b => "boolean `" ++ toString b ++ "`"
  | number (.int i) => "integer `" ++ String.ofList (intDigits i.value) ++ "`"
  | number (.float x) => "floating point `" ++ String.ofList x.write ++ "`"
  | string s => "string " ++ quoted s
  | sequence => "sequence"
  | map => "map"

/-- What is wrong with a text or a value. -/
inductive Cause where
  | eofInList
  | eofInObject
  | eofInString
  | eofInValue
  | expectedColon
  | expectedListCommaOrEnd
  | expectedObjectCommaOrEnd
  | expectedIdent
  | expectedValue
  | invalidEscape
  | invalidNumber
  | numberOutOfRange
  | controlCharacter
  | keyMustBeString
  | loneSurrogate
  | unexpectedEndOfEscape
  | trailingComma
  | trailingCharacters
  | recursionLimit
  | invalidType (found : Unexpected) (expected : String)
  | invalidValue (found : Unexpected) (expected : String)
  | invalidLength (length : Nat) (expected : String)
  | missingField (name : String)
  | duplicateField (name : String)
  | refused (text : String)

def Cause.message : Cause → String
  | eofInList => "EOF while parsing a list"
  | eofInObject => "EOF while parsing an object"
  | eofInString => "EOF while parsing a string"
  | eofInValue => "EOF while parsing a value"
  | expectedColon => "expected `:`"
  | expectedListCommaOrEnd => "expected `,` or `]`"
  | expectedObjectCommaOrEnd => "expected `,` or `\x7d`"
  | expectedIdent => "expected ident"
  | expectedValue => "expected value"
  | invalidEscape => "invalid escape"
  | invalidNumber => "invalid number"
  | numberOutOfRange => "number out of range"
  | controlCharacter => "control character (\\u0000-\\u001F) found while parsing a string"
  | keyMustBeString => "key must be a string"
  | loneSurrogate => "lone leading surrogate in hex escape"
  | unexpectedEndOfEscape => "unexpected end of hex escape"
  | trailingComma => "trailing comma"
  | trailingCharacters => "trailing characters"
  | recursionLimit => "recursion limit exceeded"
  | invalidType found expected => "invalid type: " ++ found.describe ++ ", expected " ++ expected
  | invalidValue found expected => "invalid value: " ++ found.describe ++ ", expected " ++ expected
  | invalidLength n expected => "invalid length " ++ toString n ++ ", expected " ++ expected
  | missingField name => "missing field `" ++ name ++ "`"
  | duplicateField name => "duplicate field `" ++ name ++ "`"
  | refused text => text

/-! ## Positions -/

/-- A line, counted from one, and the bytes read on it. -/
structure Position where
  line : Nat
  column : Nat
deriving DecidableEq, Repr

namespace Position

def start : Position := ⟨1, 0⟩

/-- The position `bytes` further on in a text, or at its end. -/
def advance : (bytes : Nat) → List Char → Position → Position
  | 0, _, p => p
  | _, [], p => p
  | n, c :: cs, p =>
    if c = '\n' then advance (n - 1) cs ⟨p.line + 1, 0⟩
    else advance (n - c.utf8Size) cs ⟨p.line, p.column + min n c.utf8Size⟩

/-- The number of bytes of a text. -/
def byteLength (cs : List Char) : Nat := (cs.map Char.utf8Size).foldr (· + ·) 0

/-- The position of a text `ahead` bytes behind the place where `rest` is left. -/
def of (text rest : List Char) (ahead : Nat) : Position :=
  advance (byteLength text - byteLength rest + ahead) text start

end Position

/-- The number that a run of digits at the start of a text denotes, and the text after it. -/
def leadingNumber? (cs : List Char) : Option (Nat × List Char) :=
  match cs.takeWhile Char.isDigit with
  | [] => none
  | ds => some (Text.number ds, cs.drop ds.length)

/-- Lines and columns of a stated position fit into 64 bits. -/
def positionLimit : Nat := 0x10000000000000000

/-- The position that a text ends in, if it does: ` at line 3 column 14`. -/
def statedPosition? (cs : List Char) : Option Position := do
  let (line, cs) ← leadingNumber? (← stripStart? " at line ".toList cs)
  let (column, cs) ← leadingNumber? (← stripStart? " column ".toList cs)
  if cs.isEmpty && line < positionLimit && column < positionLimit then some ⟨line, column⟩ else none
where
  /-- The text after a given start. -/
  stripStart? (start cs : List Char) : Option (List Char) :=
    if start.isPrefixOf cs then some (cs.drop start.length) else none

/-- A text without the position that it ends in, and that position. -/
def splitPosition : List Char → List Char × Option Position
  | [] => ([], none)
  | c :: cs =>
    match statedPosition? (c :: cs) with
    | some p => ([], some p)
    | none => let (text, p) := splitPosition cs; (c :: text, p)

/-! ## Faults -/

/-- Where a fault of a text stands. -/
inductive Place where
  /-- a number of bytes, `ahead`, behind the place where `rest` is left -/
  | settled (rest : List Char) (ahead : Nat)
  /-- where the enclosing list or object puts it; `rest` is not yet read -/
  | unsettled (rest : List Char)
  /-- where the wording itself says -/
  | stated (position : Position)

/-- What is wrong with a text, and where. -/
structure Fault where
  cause : Cause
  place : Place

namespace Fault

/-- A fault at the place where `rest` is left. -/
def here (cause : Cause) (rest : List Char) : Fault := ⟨cause, .settled rest 0⟩

/-- A fault at the next byte. -/
def next (cause : Cause) (rest : List Char) : Fault := ⟨cause, .settled rest 1⟩

/-- A refusal that ends in a position states its place; line zero counts as no place. -/
def refused (text : String) (rest : List Char) : Fault :=
  match splitPosition text.toList with
  | (t, some p) =>
    if p.line = 0 then ⟨.refused (String.ofList t), .unsettled rest⟩
    else ⟨.refused (String.ofList t), .stated p⟩
  | (_, none) => ⟨.refused text, .unsettled rest⟩

/-- The fault put at the place that `close` leaves, unless it has a place. -/
def settle (close : List Char → List Char) (f : Fault) : Fault :=
  match f.place with
  | .unsettled rest => ⟨f.cause, .settled (close rest) 0⟩
  | _ => f

/-- A wording with its place. -/
def placed (text : String) (p : Position) : String :=
  text ++ " at line " ++ toString p.line ++ " column " ++ toString p.column

/-- The wording of a fault of a text, with its place. -/
def message (text : List Char) (f : Fault) : String :=
  match f.place with
  | .settled rest ahead => placed f.cause.message (.of text rest ahead)
  | .unsettled _ => f.cause.message
  | .stated p => placed f.cause.message p

/-- The wording of a refusal of a value: it has no place unless the wording states one. -/
def refusalOfValue (text : String) : String :=
  let f := refused text []
  f.message []

end Fault

end Json

end Wayfinder
