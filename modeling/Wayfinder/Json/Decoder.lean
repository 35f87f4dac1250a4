import Wayfinder.Json.Parser

/-!
# Decoders

A decoder takes values of a type from JSON, in two ways: `ofText` reads straight from a text and
knows the place of each fault; `ofValue` converts a value that is already there.  They accept the
same, except that a text may not name a field twice and is read only up to its first fault.

A record type is described by `Record`: its fields by name, and how the fields seen so far, a
*draft*, become a value.  It is read from an object, whose unknown members are passed over, or
from a list of its fields in order.
-/

namespace Wayfinder

open Json

/-- Takes values of a type from JSON. -/
structure Decoder (α : Type) where
  ofText : (depth : Nat) → List Char → Except Fault (α × List Char)
  ofValue : Json → Except Cause α

namespace Decoder

variable {α β D : Type}

/-- The value that a text holds. -/
def decodeText (d : Decoder α) (text : String) : Except Fault α := do
  let (a, rest) ← d.ofText depthLimit text.toList
  readEnd a rest

/-! ## Places of faults -/

/-- What is left when a list is closed in which a fault was found. -/
def closeList (s : List Char) : List Char :=
  match skipSpace s with
  | ']' :: r => r
  | ',' :: r => skipSpace r
  | r => r

/-- What is left when an object is closed in which a fault was found. -/
def closeObject (s : List Char) : List Char :=
  match skipSpace s with
  | '\x7d' :: r => r
  | r => r

/-- What a text holds in place of what is expected.  Lists and objects are not read. -/
def unexpectedText (expected : String) (s : List Char) : Fault :=
  let scalar (r : Except Fault (Unexpected × List Char)) : Fault :=
    match r with
    | .ok (u, r) => .here (.invalidType u expected) r
    | .error e => e
  match s with
  | [] => .here .eofInValue []
  | c :: r =>
    if c = 'n' then scalar ((readIdent ['u', 'l', 'l'] r).map (.null, ·))
    else if c = 't' then scalar ((readIdent ['r', 'u', 'e'] r).map (.bool true, ·))
    else if c = 'f' then scalar ((readIdent ['a', 'l', 's', 'e'] r).map (.bool false, ·))
    else if c = '-' then scalar ((readNumber true r).map fun (n, r) => (.number n, r))
    else if c.isDigit then scalar ((readNumber false s).map fun (n, r) => (.number n, r))
    else if c = '"' then scalar ((readString r).map fun (t, r) => (.string t, r))
    else if c = '[' then .here (.invalidType .sequence expected) s
    else if c = '\x7b' then .here (.invalidType .map expected) s
    else .next .expectedValue s

/-! ## Scalars -/

/-- A string of which `parse` makes a value; it may refuse, at the place behind the string. -/
def scalar (expected : String) (parse : String → Except String α) : Decoder α where
  ofText _ s :=
    match skipSpace s with
    | '"' :: r => do
      let (t, r) ← readString r
      match parse t with
      | .ok a => .ok (a, r)
      | .error e => .error ((Fault.refused e r).settle id)
    | s => .error (unexpectedText expected s)
  ofValue
    | .string t =>
      match parse t with
      | .ok a => .ok a
      | .error e => .error (.refused (Fault.refusalOfValue e))
    | v => .error (.invalidType v.unexpected expected)

def string : Decoder String := scalar "a string" .ok

def bool : Decoder Bool where
  ofText _ s :=
    match skipSpace s with
    | 't' :: r => (readIdent ['r', 'u', 'e'] r).map (true, ·)
    | 'f' :: r => (readIdent ['a', 'l', 's', 'e'] r).map (false, ·)
    | s => .error (unexpectedText "a boolean" s)
  ofValue
    | .bool b => .ok b
    | v => .error (.invalidType v.unexpected "a boolean")

/-- A natural number from what a number is. -/
def natOfNumber (expected : String) (n : Number) : Except Cause Nat :=
  match n with
  | .int i =>
    if 0 ≤ i.value then .ok i.value.toNat else .error (.invalidValue (.number n) expected)
  | .float _ => .error (.invalidType (.number n) expected)

/-- A natural number that 64 bits hold. -/
def size : Decoder Nat where
  ofText _ s := do
    let ofNumber (r : Except Fault (Number × List Char)) : Except Fault (Nat × List Char) := do
      let (n, r) ← r
      match natOfNumber "usize" n with
      | .ok k => .ok (k, r)
      | .error e => .error (.here e r)
    match skipSpace s with
    | '-' :: r => ofNumber (readNumber true r)
    | c :: r =>
      if c.isDigit then ofNumber (readNumber false (c :: r))
      else .error (unexpectedText "usize" (c :: r))
    | [] => .error (.here .eofInValue [])
  ofValue
    | .number n => natOfNumber "usize" n
    | v => .error (.invalidType v.unexpected "usize")

/-- Any value. -/
def value : Decoder Json where
  ofText := Json.read
  ofValue := .ok

/-! ## Combinators -/

/-- A value or null. -/
def option (d : Decoder α) : Decoder (Option α) where
  ofText depth s :=
    match skipSpace s with
    | 'n' :: r => (readIdent ['u', 'l', 'l'] r).map (none, ·)
    | s => (d.ofText depth s).map fun (a, r) => (some a, r)
  ofValue
    | .null => .ok none
    | v => (d.ofValue v).map some

def map (f : α → β) (d : Decoder α) : Decoder β where
  ofText depth s := (d.ofText depth s).map fun (a, r) => (f a, r)
  ofValue v := (d.ofValue v).map f

/-- A value that is checked after it has been read; a refusal has no place of its own. -/
def check (f : α → Except String β) (d : Decoder α) : Decoder β where
  ofText depth s := do
    let (a, r) ← d.ofText depth s
    match f a with
    | .ok b => .ok (b, r)
    | .error e => .error (.refused e r)
  ofValue v := do
    match f (← d.ofValue v) with
    | .ok b => .ok b
    | .error e => .error (.refused (Fault.refusalOfValue e))

/-- The rest of a list behind the items `before` in reverse; at most `fuel` characters are left. -/
def itemsOfText (d : Decoder α) (depth : Nat) : (fuel : Nat) → (first : Bool) →
    (before : List α) → List Char → Except Fault (List α × List Char)
  | 0, _, _, s => .error (.here .eofInList s)
  | fuel + 1, first, before, s =>
    match nextItem first s with
    | .error e => .error e
    | .ok (none, r) => .ok (before.reverse, r)
    | .ok (some r, _) =>
      match d.ofText depth r with
      | .error e => .error (e.settle closeList)
      | .ok (a, r) => d.itemsOfText depth fuel false (a :: before) r

/-- A list of values. -/
def list (d : Decoder α) : Decoder (List α) where
  ofText depth s :=
    match skipSpace s with
    | '[' :: r =>
      if depth ≤ 1 then .error (.next .recursionLimit ('[' :: r))
      else d.itemsOfText (depth - 1) (r.length + 1) true [] r
    | s => .error (unexpectedText "a sequence" s)
  ofValue
    | .array items => items.mapM d.ofValue
    | v => .error (.invalidType v.unexpected "a sequence")

/-! ## Records -/

/-- A field of a record: how it is read into a draft, and whether a draft has it. -/
structure Field (D : Type) where
  name : String
  ofText : (depth : Nat) → List Char → D → Except Fault (D × List Char)
  ofValue : Json → D → Except Cause D
  isSet : D → Bool

/-- A field that is decoded and put into a draft. -/
def field (name : String) (d : Decoder α) (get : D → Option α) (set : α → D → D) : Field D where
  name
  ofText depth s draft := (d.ofText depth s).map fun (a, r) => (set a draft, r)
  ofValue v draft := (d.ofValue v).map (set · draft)
  isSet draft := (get draft).isSome

/-- A record type.  `shortList` tells whether a list may lack the last fields. -/
structure Record (D α : Type) where
  name : String
  fields : List (Field D)
  blank : D
  /-- The value of a draft, or the name of a field that it lacks. -/
  finish : D → Except String α
  shortList : Bool := false

namespace Record

/-- What a decoder says that it expects. -/
def expectation (r : Record D α) : String := "struct " ++ r.name

/-- What is expected in place of a list that is too short. -/
def listExpectation (r : Record D α) : String :=
  r.expectation ++ " with " ++ toString r.fields.length
    ++ (if r.fields.length = 1 then " element" else " elements")

def finishDraft (r : Record D α) (draft : D) : Except Cause α :=
  match r.finish draft with
  | .ok a => .ok a
  | .error name => .error (.missingField name)

def field? (r : Record D α) (key : String) : Option (Field D) := r.fields.find? (·.name = key)

/-- The rest of an object behind the members of a draft; at most `fuel` characters are left. -/
def membersOfText (r : Record D α) (depth : Nat) : (fuel : Nat) → (first : Bool) → D → List Char →
    Except Fault (α × List Char)
  | 0, _, _, s => .error (.here .eofInObject s)
  | fuel + 1, first, draft, s =>
    match nextKey first s with
    | .error e => .error e
    | .ok (none, s) =>
      match r.finishDraft draft with
      | .ok a => .ok (a, s)
      | .error e => .error (.here e s)
    | .ok (some s, _) =>
      match readString s with
      | .error e => .error e
      | .ok (key, s) =>
        match r.field? key with
        | none =>
          match (readColon s).bind skip with
          | .error e => .error e
          | .ok s => r.membersOfText depth fuel false draft s
        | some f =>
          if f.isSet draft then .error (.here (.duplicateField key) (closeObject s))
          else match (readColon s).bind (f.ofText depth · draft) with
            | .error e => .error (e.settle closeObject)
            | .ok (draft, s) => r.membersOfText depth fuel false draft s

/-- The rest of a list behind the first `done` fields, which are in a draft. -/
def itemsOfText (r : Record D α) (depth : Nat) : (fields : List (Field D)) → (done : Nat) → D →
    List Char → Except Fault (α × List Char)
  | [], _, draft, s =>
    match r.finishDraft draft with
    | .error e => .error (.here e (closeList s))
    | .ok a =>
      match skipSpace s with
      | [] => .error (.here .eofInList [])
      | ']' :: s => .ok (a, s)
      | ',' :: s =>
        match skipSpace s with
        | ']' :: s => .error (.next .trailingComma (']' :: s))
        | s => .error (.next .trailingCharacters s)
      | s => .error (.next .trailingCharacters s)
  | f :: fields, done, draft, s =>
    match nextItem (done = 0) s with
    | .error e => .error e
    | .ok (none, s) =>
      if r.shortList then
        match r.finishDraft draft with
        | .ok a => .ok (a, s)
        | .error e => .error (.here e s)
      else .error (.here (.invalidLength done r.listExpectation) s)
    | .ok (some s, _) =>
      match f.ofText depth s draft with
      | .error e => .error (e.settle closeList)
      | .ok (draft, s) => r.itemsOfText depth fields (done + 1) draft s

/-- A draft of an object's members. -/
def draftOfMembers (r : Record D α) : (draft : D) → List (String × Json) → Except Cause D
  | draft, [] => .ok draft
  | draft, (key, v) :: ms =>
    match r.field? key with
    | none => r.draftOfMembers draft ms
    | some f => (f.ofValue v draft).bind (r.draftOfMembers · ms)

/-- The record whose first `done` fields are in a draft and whose others are in a list. -/
def ofItems (r : Record D α) (length : Nat) : (fields : List (Field D)) → (done : Nat) → D →
    List Json → Except Cause α
  | [], _, draft, [] => r.finishDraft draft
  | [], _, draft, _ :: _ => do
    let _ ← r.finishDraft draft
    .error (.invalidLength length "fewer elements in array")
  | _ :: _, done, draft, [] =>
    if r.shortList then r.finishDraft draft
    else .error (.invalidLength done r.listExpectation)
  | f :: fields, done, draft, v :: vs => do
    r.ofItems length fields (done + 1) (← f.ofValue v draft) vs

/-- The decoder of a record type. -/
def decoder (r : Record D α) : Decoder α where
  ofText depth s :=
    match skipSpace s with
    | '\x7b' :: rest =>
      if depth ≤ 1 then .error (.next .recursionLimit ('\x7b' :: rest))
      else r.membersOfText (depth - 1) (rest.length + 1) true r.blank rest
    | '[' :: rest =>
      if depth ≤ 1 then .error (.next .recursionLimit ('[' :: rest))
      else r.itemsOfText (depth - 1) r.fields 0 r.blank rest
    | s => .error (unexpectedText r.expectation s)
  ofValue
    | .object members => (r.draftOfMembers r.blank members).bind r.finishDraft
    | .array items => r.ofItems items.length r.fields 0 r.blank items
    | v => .error (.invalidType v.unexpected r.expectation)

end Record

end Decoder

end Wayfinder
