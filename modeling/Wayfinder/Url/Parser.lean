import Wayfinder.Url.Host
import Wayfinder.Url.Path

/-!
# Reading URLs

`Url.parse` reads an absolute URL and `Url.join` one that may be relative to a base.  Blanks and
controls around the text and tabs and line ends inside it do not count.  In special URLs a backslash
is a slash.

    parse text = join without a base: a relative text is refused
-/

namespace Wayfinder

namespace Url

variable [DomainMapping]

/-! ## Authorities -/

/-- The text before the last `@`, if there is one, and the text behind it. -/
def splitUserinfo (cs : List Char) : Option (List Char) × List Char :=
  match cs.reverse.span (· ≠ '@') with
  | (_, []) => (none, cs)
  | (after, _ :: before) => (some before.reverse, after.reverse)

/-- User and password.  An empty password does not count. -/
def parseUserinfo (cs : List Char) : String × Option String :=
  let user := cs.takeWhile (· ≠ ':')
  let text (cs : List Char) : String := String.ofList (encode inUserinfo cs)
  match cs.drop user.length with
  | _ :: c :: password => (text user, some (text (c :: password)))
  | _ => (text user, none)

/-- The text of a host, up to a colon outside brackets, and the text behind it. -/
def splitHost (inside : Bool) : List Char → List Char × List Char
  | [] => ([], [])
  | c :: cs =>
    if c = ':' ∧ ¬ inside then ([], c :: cs)
    else
      let (host, rest) := splitHost (if c = '[' then true else if c = ']' then false else inside) cs
      (c :: host, rest)

/-- A port and the text behind it; a default one does not count.  Only a backslash may follow the
digits. -/
def parsePort (scheme : String) (cs : List Char) : Except UrlError (Option Nat × List Char) :=
  let digits := cs.takeWhile Char.isDigit
  let rest := cs.drop digits.length
  if rest.head?.any (· ≠ '\\') then .error .invalidPort
  else if digits.isEmpty then .ok (none, rest)
  else if 65535 < Text.number digits then .error .invalidPort
  else if defaultPort? scheme = some (Text.number digits) then .ok (none, rest)
  else .ok (some (Text.number digits), rest)

/-- The authority that a text denotes and the text behind it, where the path begins.  `ended` tells
that a slash, query or fragment follows. -/
def parseAuthority (scheme : String) (ended : Bool) (cs : List Char) :
    Except UrlError (Authority × List Char) := do
  let (userinfo, rest) := splitUserinfo cs
  if userinfo = some [] ∧ rest = [] ∧ ended then .error .emptyHost
  let (user, password) := userinfo.elim ("", none) parseUserinfo
  let (hostText, rest) := splitHost false rest
  if isSpecial scheme ∧ hostText = [] then .error .emptyHost
  let host ← if isSpecial scheme then parseHost hostText else parseOpaqueHost hostText
  if host = "" ∧ rest ≠ [] then .error .emptyHost
  let (port, rest) ← parsePort scheme (rest.drop 1)
  if host = "" ∧ (user ≠ "" ∨ password.isSome) then .error .emptyHost
  .ok (⟨user, password, host, port⟩, rest)

/-! ## The parts of a text -/

/-- A text without the blanks and controls around it. -/
def trimInput (cs : List Char) : List Char :=
  let isBlank (c : Char) : Bool := c.toNat ≤ 0x20
  ((cs.dropWhile isBlank).reverse.dropWhile isBlank).reverse

/-- What is left of a text behind its first `n` characters, tabs and line ends not counted. -/
def dropShown : (n : Nat) → List Char → List Char
  | 0, cs => cs
  | _ + 1, [] => []
  | n + 1, c :: cs => if isBreak c then dropShown (n + 1) cs else dropShown n cs

/-- The scheme of a text: what stands before its first colon, if that is a name. -/
def scheme? (cs : List Char) : Option String :=
  let name := cs.takeWhile fun c => c.isAlphanum || c = '+' || c = '-' || c = '.'
  if name.head?.any Char.isAlpha ∧ (cs.drop name.length).head? = some ':' then
    some (String.ofList (name.map Char.toLower))
  else none

/-- A text without query and fragment. -/
structure Tail where
  front : List Char
  query : Option (List Char)
  fragment : Option (List Char)

def splitTail (cs : List Char) : Tail :=
  let beforeFragment := cs.takeWhile (· ≠ '#')
  let front := beforeFragment.takeWhile (· ≠ '?')
  let behind (all part : List Char) : Option (List Char) :=
    match all.drop part.length with
    | [] => none
    | _ :: cs => some cs
  ⟨front, behind beforeFragment front, behind cs beforeFragment⟩

/-- The front without its tabs and line ends. -/
def Tail.shown (t : Tail) : List Char := withoutBreaks t.front

/-- A URL with the query and the fragment of a text. -/
def withTail (t : Tail) (u : Url) : Url :=
  let set := if isSpecial u.scheme then inSpecialQuery else inQuery
  { u with
    query := t.query.map fun cs => String.ofList (encode set (withoutBreaks cs))
    fragment := t.fragment.map fun cs => String.ofList (encode inFragment (withoutBreaks cs)) }

/-! ## URLs -/

def pathKind (scheme : String) : PathKind :=
  if scheme = "file" then .file else if isSpecial scheme then .special else .ordinary

/-- The path that a text denotes behind the path `start`, in a URL of a scheme. -/
def pathText (scheme : String) (start text : List Char) : String :=
  String.ofList (resolvePath (pathKind scheme) start text).text

/-- A URL from the text behind the two slashes.  Only a special one always has a path. -/
def afterSlashes (scheme : String) (t : Tail) (cs : List Char) : Except UrlError Url := do
  let special := isSpecial scheme
  let authority := cs.takeWhile (!isSlash special ·)
  let path := cs.drop authority.length
  let ended := !path.isEmpty || t.query.isSome || t.fragment.isSome
  let (a, rest) ← parseAuthority scheme ended authority
  let path := rest ++ path
  let behind := if path.head?.any (isSlash special) then path.drop 1 else path
  let text := if special || !path.isEmpty then pathText scheme ['/'] behind else ""
  .ok (withTail t ⟨scheme, some a, text, none, none⟩)

/-- The URL of a file on a host. -/
def fileUrl (t : Tail) (host : String) (path : String) : Url :=
  withTail t ⟨"file", some { host }, path, none, none⟩

/-- A file URL whose text starts with two slashes.  A drive where the host should be belongs to the
path.  Behind a host, a drive at the root takes the place of the host. -/
def fileAfterSlashes (t : Tail) : Except UrlError Url := do
  let text := dropShown 2 t.front
  let hostText := (withoutBreaks text).takeWhile (!isSlash true ·)
  let rest := dropShown hostText.length text
  if isDrive hostText then .ok (fileUrl t "" (pathText "file" ['/'] text))
  else if hostText = [] then .ok (fileUrl t "" (pathText "file" ['/'] rest))
  else
    let host ← parseHost hostText
    if host = "localhost" then .ok (fileUrl t "" (pathText "file" ['/'] rest))
    else
      let p := resolvePath .file ['/'] (dropShown 1 rest)
      .ok (fileUrl t (if p.drive then "" else host) (String.ofList p.text))

/-- The host of a URL, empty if it has none. -/
def host (u : Url) : String := u.authority.elim "" (·.host)

/-- A file URL whose text starts with one slash: the base lends its drive or its host. -/
def fileAtRoot (base : Option Url) (t : Tail) : Url :=
  let atRoot (start : List Char) : String := pathText "file" start t.front
  match base with
  | none => fileUrl t "" (atRoot [])
  | some u =>
    let first := (u.path.toList.drop 1).takeWhile (· ≠ '/')
    if startsWithDrive (t.shown.drop 1) then fileUrl t "" (atRoot [])
    else if isNormalDrive first then fileUrl t "" (atRoot ('/' :: first))
    else fileUrl t u.host (atRoot [])

/-- A file URL whose text starts without a slash: it goes behind the path of the base, unless it
starts with a drive. -/
def fileBeside (base : Option Url) (t : Tail) : Url :=
  match base with
  | none => fileUrl t "" (pathText "file" ['/'] t.front)
  | some u =>
    if startsWithDrive t.shown then fileUrl t "" (pathText "file" ['/'] t.front)
    else fileUrl t u.host (pathText "file" (dropLastSegment true u.path.toList) t.front)

/-- A file URL from the text behind its scheme, or relative to a file. -/
def parseFile (base : Option Url) (t : Tail) : Except UrlError Url :=
  match t.shown with
  | c :: cs =>
    if isSlash true c then
      if cs.head?.any (isSlash true) then fileAfterSlashes t else .ok (fileAtRoot base t)
    else .ok (fileBeside base t)
  | [] =>
    match base with
    | none => .ok (fileUrl t "" "/")
    | some u =>
      if t.query.isSome then .ok (withTail t u)
      else .ok { withTail t u with query := u.query }

/-- A URL relative to one that is neither opaque nor a file. -/
def parseRelative (base : Url) (t : Tail) : Except UrlError Url :=
  let atPath (start text : List Char) : Url :=
    withTail t { base with path := pathText base.scheme start text }
  match t.shown with
  | [] =>
    if t.query.isSome then .ok (withTail t base)
    else .ok { withTail t base with query := base.query }
  | c :: rest =>
    if isSlash true c then
      if c = '/' ∧ rest.head? = some '/' then afterSlashes base.scheme t (rest.drop 1)
      else if rest.head?.any (isSlash true) then
        afterSlashes base.scheme t (rest.dropWhile (isSlash true ·))
      else .ok (atPath ['/'] rest)
    else .ok (atPath (withSlash (dropLastSegment false base.path.toList)) t.shown)

/-- A URL whose scheme is not special, from the text behind its scheme. -/
def parseNonSpecial (scheme : String) (t : Tail) : Except UrlError Url :=
  match t.shown with
  | '/' :: '/' :: rest => afterSlashes scheme t rest
  | '/' :: rest => .ok (withTail t ⟨scheme, none, pathText scheme ['/'] rest, none, none⟩)
  | path => .ok (withTail t ⟨scheme, none, String.ofList (encode inControls path), none, none⟩)

/-- The URL that a text denotes, relative to a base if there is one. -/
def parseWith (base : Option Url) (text : String) : Except UrlError Url :=
  let cs := trimInput text.toList
  match scheme? (withoutBreaks cs) with
  | some scheme =>
    let t := splitTail (dropShown (scheme.length + 1) cs)
    if scheme = "file" then parseFile (base.filter (·.scheme = "file")) t
    else if isSpecial scheme then
      let behind := t.shown.dropWhile (isSlash true ·)
      match base with
      | some b =>
        if b.scheme = scheme ∧ t.shown.length < behind.length + 2 then parseRelative b t
        else afterSlashes scheme t behind
      | none => afterSlashes scheme t behind
    else parseNonSpecial scheme t
  | none =>
    let t := splitTail cs
    match base with
    | none => .error .relativeWithoutBase
    | some b =>
      if t.shown = [] ∧ t.query = none ∧ t.fragment.isSome then
        .ok { withTail t b with query := b.query }
      else if b.isOpaque then .error .relativeWithOpaqueBase
      else if b.scheme = "file" then parseFile base t
      else parseRelative b t

/-- The absolute URL that a text denotes. -/
def parse (text : String) : Except UrlError Url := parseWith none text

/-- The URL that a text denotes where `base` is the current one. -/
def join (base : Url) (text : String) : Except UrlError Url := parseWith (some base) text

end Url

end Wayfinder
