import Wayfinder.Json.Fault

/-!
# Reading scalars of a JSON text

Blanks, literals, strings and numbers.  Each reader takes the text from where it stands and yields
what it read and the text after that.  Readers whose names start with `skip` only look for the
end of what they pass over and mind less.
-/

namespace Wayfinder

namespace Json

/-! ## Blanks and literals -/

def isSpace (c : Char) : Bool := c = ' ' || c = '\n' || c = '\t' || c = '\r'

/-- The text from its first character on that is no blank. -/
def skipSpace (s : List Char) : List Char := s.dropWhile isSpace

/-- The rest of a literal. -/
def readIdent : (ident : List Char) → List Char → Except Fault (List Char)
  | [], s => .ok s
  | _ :: _, [] => .error (.here .eofInValue [])
  | i :: ident, c :: s =>
    if c = i then readIdent ident s else .error (.next .expectedIdent (c :: s))

/-! ## Strings -/

/-- Four digits in base sixteen; the next four bytes have to be digits. -/
def readHex (s : List Char) : Except Fault (Nat × List Char) :=
  let digits := (s.take 4).filterMap Text.hexValue?
  if digits.length = 4 then .ok (digits.foldl (fun n d => 16 * n + d) 0, s.drop 4)
  else if Position.byteLength s < 4 then .error (.here .eofInString [])
  else .error ⟨.invalidEscape, .settled s 4⟩

def isLeadingSurrogate (n : Nat) : Bool := 0xD800 ≤ n && n < 0xDC00

def isTrailingSurrogate (n : Nat) : Bool := 0xDC00 ≤ n && n < 0xE000

/-- A character that has to come next inside an escape. -/
def expectInEscape (c : Char) : List Char → Except Fault (List Char)
  | [] => .error (.here .eofInString [])
  | d :: s => if d = c then .ok s else .error (.next .unexpectedEndOfEscape (d :: s))

/-- What follows `\u`: one code, or two that make up one character. -/
def readUnicodeEscape (s : List Char) : Except Fault (Char × List Char) := do
  let (n, s) ← readHex s
  if isTrailingSurrogate n then .error (.here .loneSurrogate s)
  else if isLeadingSurrogate n then do
    let s ← expectInEscape '\\' s
    let s ← expectInEscape 'u' s
    let (m, s) ← readHex s
    if isTrailingSurrogate m then
      .ok (Char.ofNat ((n - 0xD800) * 1024 + (m - 0xDC00) + 0x10000), s)
    else .error (.here .loneSurrogate s)
  else .ok (Char.ofNat n, s)

/-- The character that a letter stands for behind a backslash. -/
def simpleEscape? (c : Char) : Option Char :=
  if c = '"' ∨ c = '\\' ∨ c = '/' then some c
  else if c = 'b' then some '\x08'
  else if c = 'f' then some '\x0c'
  else if c = 'n' then some '\n'
  else if c = 'r' then some '\r'
  else if c = 't' then some '\t'
  else none

/-- What follows a backslash. -/
def readEscape (s : List Char) : Except Fault (Char × List Char) :=
  match s with
  | [] => .error (.here .eofInString [])
  | c :: s =>
    if c = 'u' then readUnicodeEscape s
    else match simpleEscape? c with
      | some d => .ok (d, s)
      | none => .error (.next .invalidEscape (c :: s))

/-- What follows a backslash, whichever code it is. -/
def skipEscape (s : List Char) : Except Fault (List Char) :=
  match s with
  | [] => .error (.here .eofInString [])
  | c :: s =>
    if c = 'u' then (readHex s).map (·.2)
    else if (simpleEscape? c).isSome then .ok s
    else .error (.next .invalidEscape (c :: s))

/-- The rest of a string up to its closing quote, behind the characters `before` in reverse.
There are at most `fuel` characters left. -/
def readStringFrom : (fuel : Nat) → (before : List Char) → List Char →
    Except Fault (String × List Char)
  | 0, _, s => .error (.here .eofInString s)
  | fuel + 1, before, s =>
    match s with
    | [] => .error (.here .eofInString [])
    | c :: r =>
      if c = '"' then .ok (String.ofList before.reverse, r)
      else if c = '\\' then
        match readEscape r with
        | .ok (d, r) => readStringFrom fuel (d :: before) r
        | .error e => .error e
      else if c.toNat < 32 then .error (.next .controlCharacter (c :: r))
      else readStringFrom fuel (c :: before) r

/-- A string behind its opening quote. -/
def readString (s : List Char) : Except Fault (String × List Char) :=
  readStringFrom (s.length + 1) [] s

/-- The text after a string behind its opening quote; at most `fuel` characters are left. -/
def skipStringFrom : (fuel : Nat) → List Char → Except Fault (List Char)
  | 0, s => .error (.here .eofInString s)
  | fuel + 1, s =>
    match s with
    | [] => .error (.here .eofInString [])
    | c :: r =>
      if c = '"' then .ok r
      else if c = '\\' then
        match skipEscape r with
        | .ok r => skipStringFrom fuel r
        | .error e => .error e
      else if c.toNat < 32 then .error (.here .controlCharacter (c :: r))
      else skipStringFrom fuel r

/-- The text after a string behind its opening quote. -/
def skipString (s : List Char) : Except Fault (List Char) := skipStringFrom (s.length + 1) s

/-! ## Numbers

A significand takes up digits as long as it stays below 2^64.  Digits of the integer part beyond
that raise the exponent of ten; those of the fraction are dropped. -/

def significandLimit : Nat := 0x10000000000000000

/-- A significand with as many digits taken up as it holds, and how many digits are left over. -/
def takeUp (m : Nat) : List Char → Nat × Nat
  | [] => (m, 0)
  | c :: cs =>
    let n := 10 * m + (c.toNat - 48)
    if n < significandLimit then takeUp n cs else (m, cs.length + 1)

/-- The number `m * 10 ^ e` with a sign. -/
def decimalNumber (negative : Bool) (m : Nat) (e : Int) (rest : List Char) :
    Except Fault (Number × List Char) :=
  match Binary64.ofDecimal m e with
  | some x => .ok (.float (x.withSign negative), rest)
  | none => .error (.here .numberOutOfRange rest)

def exponentLimit : Nat := 0x80000000

/-- The digits of an exponent up to the first one that makes it too large. -/
def takeExponent (n : Nat) : List Char → Nat × Option (List Char)
  | [] => (n, none)
  | c :: cs =>
    let m := 10 * n + (c.toNat - 48)
    if m < exponentLimit then takeExponent m cs else (n, some cs)

/-- An exponent behind its mark, for the decimal `m * 10 ^ e`. -/
def readExponent (negative : Bool) (m : Nat) (e : Int) (s : List Char) :
    Except Fault (Number × List Char) :=
  let (down, s) := match s with
    | '+' :: s => (false, s)
    | '-' :: s => (true, s)
    | s => (false, s)
  match s with
  | [] => .error (.here .eofInValue [])
  | c :: _ =>
    if c.isDigit then
      let ds := s.takeWhile Char.isDigit
      let rest := s.drop ds.length
      match takeExponent 0 ds with
      | (n, none) => decimalNumber negative m (if down then e - n else e + n) rest
      | (_, some left) =>
        if m ≠ 0 ∧ ¬ down then .error (.here .numberOutOfRange (left ++ rest))
        else .ok (.float (.zero negative), rest)
    else .error (.next .invalidNumber s)

/-- A fraction behind its point, for a significand and the exponent of its integer part. -/
def readFraction (negative : Bool) (m : Nat) (e : Int) (s : List Char) :
    Except Fault (Number × List Char) :=
  let ds := s.takeWhile Char.isDigit
  let rest := s.drop ds.length
  if ds.isEmpty then
    if s.isEmpty then .error (.next .eofInValue s) else .error (.next .invalidNumber s)
  else
    let (m, left) := takeUp m ds
    let e := e - ((ds.length - left : Nat) : Int)
    match rest with
    | 'e' :: rest => readExponent negative m e rest
    | 'E' :: rest => readExponent negative m e rest
    | rest => decimalNumber negative m e rest

/-- The number of an integer literal of at most 64 bits.  A negative one that 64 bits do not hold
with a sign, and zero with a sign, are floating point. -/
def integerNumber (negative : Bool) (m : Nat) (rest : List Char) :
    Except Fault (Number × List Char) :=
  if negative then
    if h : 0 < m ∧ m ≤ 0x8000000000000000 then .ok (.int ⟨-m, by omega⟩, rest)
    else decimalNumber true m 0 rest
  else if h : m < 0x10000000000000000 then .ok (.int (.ofNat m h), rest)
  else decimalNumber false m 0 rest

/-- A number behind its sign. -/
def readNumber (negative : Bool) (s : List Char) : Except Fault (Number × List Char) :=
  match s with
  | [] => .error (.here .eofInValue [])
  | c :: r =>
    if c.isDigit then
      let ds := if c = '0' then ['0'] else s.takeWhile Char.isDigit
      let rest := s.drop ds.length
      let (m, left) := takeUp 0 ds
      match rest with
      | '.' :: rest => readFraction negative m left rest
      | 'e' :: rest => readExponent negative m left rest
      | 'E' :: rest => readExponent negative m left rest
      | rest =>
        if c = '0' && (r.head?.any Char.isDigit) then .error (.next .invalidNumber r)
        else if left = 0 then integerNumber negative m rest
        else decimalNumber negative m left rest
    else .error (.next .invalidNumber s)

/-- The text after an exponent behind its mark. -/
def skipExponent (s : List Char) : Except Fault (List Char) :=
  let s := match s with
    | '+' :: s => s
    | '-' :: s => s
    | s => s
  match s with
  | [] => .error (.here .invalidNumber [])
  | c :: _ => if c.isDigit then .ok (s.dropWhile Char.isDigit) else .error (.next .invalidNumber s)

/-- The text after a fraction behind its point. -/
def skipFraction (s : List Char) : Except Fault (List Char) :=
  if s.head?.any Char.isDigit then
    match s.dropWhile Char.isDigit with
    | 'e' :: rest => skipExponent rest
    | 'E' :: rest => skipExponent rest
    | rest => .ok rest
  else .error (.next .invalidNumber s)

/-- The text after a number behind its sign. -/
def skipNumber (s : List Char) : Except Fault (List Char) :=
  match s with
  | [] => .error (.here .invalidNumber [])
  | c :: r =>
    if c.isDigit then
      if c = '0' && (r.head?.any Char.isDigit) then .error (.next .invalidNumber r)
      else match (if c = '0' then r else s.dropWhile Char.isDigit) with
        | '.' :: rest => skipFraction rest
        | 'e' :: rest => skipExponent rest
        | 'E' :: rest => skipExponent rest
        | rest => .ok rest
    else .error (.next .invalidNumber s)

end Json

end Wayfinder
