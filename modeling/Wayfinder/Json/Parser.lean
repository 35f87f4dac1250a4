import Wayfinder.Json.Scalar

/-!
# Reading JSON values

`Json.read` takes one value from a text and `Json.parse` a text that holds one value.  Lists and
objects nest at most 127 deep.  `Json.skip` passes over a value of any depth.

The measure of every loop is the number of characters left: each step of a loop takes one at
least, so a loop that has none left stands at the end of the text.
-/

namespace Wayfinder

namespace Json

/-- How deep lists and objects may nest, plus one. -/
def depthLimit : Nat := 128

/-! ## Between items and members -/

/-- The text from the next item of a list on, or `none` and the text behind the list's end. -/
def nextItem (first : Bool) (s : List Char) : Except Fault (Option (List Char) × List Char) :=
  match skipSpace s with
  | [] => .error (.here .eofInList [])
  | c :: r =>
    if c = ']' then .ok (none, r)
    else if first then .ok (some (c :: r), [])
    else if c = ',' then
      match skipSpace r with
      | [] => .error (.here .eofInValue [])
      | ']' :: r => .error (.next .trailingComma (']' :: r))
      | r => .ok (some r, [])
    else .error (.next .expectedListCommaOrEnd (c :: r))

/-- The text behind the opening quote of the next key of an object, or `none` and the text behind
the object's end. -/
def nextKey (first : Bool) (s : List Char) : Except Fault (Option (List Char) × List Char) :=
  match skipSpace s with
  | [] => .error (.here .eofInObject [])
  | c :: r =>
    if c = '\x7d' then .ok (none, r)
    else if first then
      if c = '"' then .ok (some r, []) else .error (.next .keyMustBeString (c :: r))
    else if c = ',' then
      match skipSpace r with
      | [] => .error (.here .eofInValue [])
      | '"' :: r => .ok (some r, [])
      | '\x7d' :: r => .error (.next .trailingComma ('\x7d' :: r))
      | r => .error (.next .keyMustBeString r)
    else .error (.next .expectedObjectCommaOrEnd (c :: r))

/-- The text behind the colon between a key and its value. -/
def readColon (s : List Char) : Except Fault (List Char) :=
  match skipSpace s with
  | [] => .error (.here .eofInObject [])
  | c :: r => if c = ':' then .ok r else .error (.next .expectedColon (c :: r))

/-! ## Values -/

mutual

/-- One value; `depth - 1` more levels may open. -/
def readValue : (fuel : Nat) → (depth : Nat) → List Char → Except Fault (Json × List Char)
  | 0, _, s => .error (.here .eofInValue s)
  | fuel + 1, depth, s =>
    match skipSpace s with
    | [] => .error (.here .eofInValue [])
    | c :: r =>
      if c = 'n' then (readIdent ['u', 'l', 'l'] r).map fun r => (null, r)
      else if c = 't' then (readIdent ['r', 'u', 'e'] r).map fun r => (bool true, r)
      else if c = 'f' then (readIdent ['a', 'l', 's', 'e'] r).map fun r => (bool false, r)
      else if c = '-' then (readNumber true r).map fun (n, r) => (number n, r)
      else if c.isDigit then (readNumber false (c :: r)).map fun (n, r) => (number n, r)
      else if c = '"' then (readString r).map fun (t, r) => (string t, r)
      else if c = '[' then
        if depth ≤ 1 then .error (.next .recursionLimit (c :: r))
        else readItems fuel (depth - 1) true [] r
      else if c = '\x7b' then
        if depth ≤ 1 then .error (.next .recursionLimit (c :: r))
        else readMembers fuel (depth - 1) true [] r
      else .error (.next .expectedValue (c :: r))

/-- The rest of a list behind the items `before` in reverse. -/
def readItems : (fuel : Nat) → (depth : Nat) → (first : Bool) → (before : List Json) →
    List Char → Except Fault (Json × List Char)
  | 0, _, _, _, s => .error (.here .eofInList s)
  | fuel + 1, depth, first, before, s =>
    match nextItem first s with
    | .error e => .error e
    | .ok (none, r) => .ok (array before.reverse, r)
    | .ok (some r, _) =>
      match readValue fuel depth r with
      | .error e => .error e
      | .ok (v, r) => readItems fuel depth false (v :: before) r

/-- The rest of an object behind the members `before`. -/
def readMembers : (fuel : Nat) → (depth : Nat) → (first : Bool) → (before : Keyed Json) →
    List Char → Except Fault (Json × List Char)
  | 0, _, _, _, s => .error (.here .eofInObject s)
  | fuel + 1, depth, first, before, s =>
    match nextKey first s with
    | .error e => .error e
    | .ok (none, r) => .ok (object before, r)
    | .ok (some r, _) =>
      match readString r with
      | .error e => .error e
      | .ok (key, r) =>
        match readColon r with
        | .error e => .error e
        | .ok r =>
          match readValue fuel depth r with
          | .error e => .error e
          | .ok (v, r) => readMembers fuel depth false (before.put key v) r

end

/-- One value from a text, and the text after it. -/
def read (depth : Nat) (s : List Char) : Except Fault (Json × List Char) :=
  readValue (2 * s.length + 2) depth s

/-! ## Passing over values -/

mutual

/-- The text after one value. -/
def skipValue : (fuel : Nat) → List Char → Except Fault (List Char)
  | 0, s => .error (.here .eofInValue s)
  | fuel + 1, s =>
    match skipSpace s with
    | [] => .error (.here .eofInValue [])
    | c :: r =>
      if c = 'n' then readIdent ['u', 'l', 'l'] r
      else if c = 't' then readIdent ['r', 'u', 'e'] r
      else if c = 'f' then readIdent ['a', 'l', 's', 'e'] r
      else if c = '-' then skipNumber r
      else if c.isDigit then skipNumber (c :: r)
      else if c = '"' then skipString r
      else if c = '[' then skipItems fuel true r
      else if c = '\x7b' then skipMembers fuel true r
      else .error (.next .expectedValue (c :: r))

/-- The text after the rest of a list. -/
def skipItems : (fuel : Nat) → (first : Bool) → List Char → Except Fault (List Char)
  | 0, _, s => .error (.here .eofInList s)
  | fuel + 1, first, s =>
    match skipSpace s with
    | [] => .error (.here .eofInList [])
    | c :: r =>
      if c = ']' then .ok r
      else if first then
        match skipValue fuel (c :: r) with
        | .error e => .error e
        | .ok r => skipItems fuel false r
      else if c = ',' then
        match skipValue fuel r with
        | .error e => .error e
        | .ok r => skipItems fuel false r
      else .error (.next .expectedListCommaOrEnd (c :: r))

/-- The text after the rest of an object. -/
def skipMembers : (fuel : Nat) → (first : Bool) → List Char → Except Fault (List Char)
  | 0, _, s => .error (.here .eofInObject s)
  | fuel + 1, first, s =>
    match skipSpace s with
    | [] => .error (.here .eofInObject [])
    | c :: r =>
      if c = '\x7d' then .ok r
      else if first then skipMember fuel (c :: r)
      else if c = ',' then skipMember fuel r
      else .error (.next .expectedObjectCommaOrEnd (c :: r))

/-- The text after a member and the rest of its object. -/
def skipMember : (fuel : Nat) → List Char → Except Fault (List Char)
  | 0, s => .error (.here .eofInObject s)
  | fuel + 1, s =>
    match skipSpace s with
    | [] => .error (.here .eofInObject [])
    | c :: r =>
      if c = '"' then
        match (skipString r).bind readColon with
        | .error e => .error e
        | .ok r =>
          match skipValue fuel r with
          | .error e => .error e
          | .ok r => skipMembers fuel false r
      else .error (.next .keyMustBeString (c :: r))

end

/-- The text after one value. -/
def skip (s : List Char) : Except Fault (List Char) := skipValue (2 * s.length + 2) s

/-! ## Whole texts -/

/-- Nothing but blanks may follow. -/
def readEnd {α : Type} (a : α) (s : List Char) : Except Fault α :=
  match skipSpace s with
  | [] => .ok a
  | s => .error (.next .trailingCharacters s)

/-- The value that a text holds. -/
def parse (text : String) : Except Fault Json := do
  let (v, rest) ← read depthLimit text.toList
  readEnd v rest

end Json

end Wayfinder
