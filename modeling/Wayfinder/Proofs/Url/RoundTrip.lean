import Wayfinder.Proofs.Url.Authority
import Wayfinder.Proofs.Url.Path

/-!
# URLs are read back

A URL is settled if each of its parts is left alone when it is read again.  Its text denotes it
against every base.  Only files are different: where the path starts with a drive, reading the text
may lose the host before it or the segments of dots behind it.  And there are texts that are not read
again at all, those of hosts with labels that are too long to be decoded.

    parseWith base u.serialize = ok u      for a settled URL, if it is legible and no file on a
                                           drive                       (parseWith_serialize)
    u.serialize = v.serialize → u = v                                  (Settled.eq_of_serialize_eq)
-/

namespace Wayfinder

namespace Url

/-! ## Settled URLs -/

/-- The characters that are encoded in the query of a URL. -/
def querySet (scheme : String) : Char → Bool :=
  if isSpecial scheme then inSpecialQuery else inQuery

/-- The host of a file, if it has one. -/
structure IsFileHost [DomainMapping] (host : String) : Prop where
  text : IsHostText host.toList
  named : host ≠ ""
  remote : host ≠ "localhost"
  back : parseHost host.toList =
    if hasShortLabels host.toList then .ok host else .error .invalidDomain

/-- Authority and path of a URL that something can be resolved against. -/
inductive IsFront [DomainMapping] (scheme : String) : Option Authority → List Char → Prop where
  | hosted {a : Authority} {path : List Char} : scheme ≠ "file" → IsAuthority scheme a →
      (IsPath (pathKind scheme) path ∨ isSpecial scheme = false ∧ path = []) →
      IsFront scheme (some a) path
  | rooted {path : List Char} : isSpecial scheme = false → IsPath (pathKind scheme) path →
      IsFront scheme none path
  | file {host : String} {path : List Char} : scheme = "file" → host = "" ∨ IsFileHost host →
      IsPath .file path → (path.drop 1).head? ≠ some '/' →
      IsFront scheme (some { host }) path

/-- Whether a text does not end in a blank. -/
def EndsShown (cs : List Char) : Prop := cs.getLast?.all (0x20 < ·.toNat) = true

/-- A path that nothing can be resolved against. -/
structure IsOpaquePath (u : Url) : Prop where
  scheme : isSpecial u.scheme = false
  authority : u.authority = none
  bare : u.path.toList.head? ≠ some '/'
  text : ∀ c ∈ u.path.toList, inControls c = false ∧ c ≠ '?' ∧ c ≠ '#'
  shown : u.query = none → u.fragment = none → EndsShown u.path.toList

/-- Whether the text of a URL is read again: no label of its host is too long for that. -/
def isLegible (u : Url) : Bool := isLegibleIn u.scheme u.host

/-- Whether a URL is a file whose path starts with a drive. -/
def isFileOnDrive (u : Url) : Bool := u.scheme = "file" && startsWithDrive (u.path.toList.drop 1)

/-- What comes of reading the text of a URL. -/
inductive ReadAgain (u : Url) : Except UrlError Url → Prop where
  /-- the URL, or some file if it is one on a drive -/
  | back {v : Url} : u.isLegible = true → v.scheme = u.scheme → (u.isFileOnDrive = false → v = u) →
      ReadAgain u (.ok v)
  | lost : u.isLegible = false → ReadAgain u (.error .invalidDomain)

/-- A URL whose parts are left alone if they are read again. -/
structure Settled [DomainMapping] (u : Url) : Prop where
  scheme : IsSchemeName u.scheme.toList
  front : IsFront u.scheme u.authority u.path.toList ∨ IsOpaquePath u
  query : ∀ q ∈ u.query, ∀ c ∈ q.toList, querySet u.scheme c = false
  fragment : ∀ f ∈ u.fragment, ∀ c ∈ f.toList, inFragment c = false

/-! ## The text of a URL -/

/-- What stands between the scheme and the query. -/
def frontText (u : Url) : List Char :=
  (match u.authority with
    | some a => '/' :: '/' :: a.serialize.toList
    | none => if ['/', '/'].isPrefixOf u.path.toList then ['/', '.'] else []) ++ u.path.toList

/-- Query and fragment. -/
def tailText (u : Url) : List Char :=
  markedPart '?' (u.query.map String.toList) ++ markedPart '#' (u.fragment.map String.toList)

theorem toList_serialize (u : Url) :
    u.serialize.toList = u.scheme.toList ++ ':' :: (frontText u ++ tailText u) := by
  obtain ⟨scheme, authority, path, query, fragment⟩ := u
  simp only [serialize, frontText, tailText]
  cases authority <;> cases query <;> cases fragment <;> simp [markedPart] <;> split <;> simp

/-! ## Texts that are not trimmed -/

/-- Whether a character is printed and no blank. -/
def isVisible (c : Char) : Bool := !inControls c && c ≠ ' '

theorem lt_toNat_of_isVisible {c : Char} (h : isVisible c = true) : 0x20 < c.toNat := by
  simp only [isVisible, Bool.and_eq_true, Bool.not_eq_true', decide_eq_true_eq] at h
  have hle := (toNat_of_not_inControls h.1).1
  have hne : c.toNat ≠ 0x20 := fun he => h.2 (by rw [← Char.ofNat_toNat c, he])
  omega

theorem endsShown_of_isVisible {cs : List Char} (h : ∀ c ∈ cs, isVisible c = true) :
    EndsShown cs := by
  unfold EndsShown
  cases hlast : cs.getLast? with
  | none => rfl
  | some c => simpa using lt_toNat_of_isVisible (h c (List.mem_of_getLast? hlast))

theorem endsShown_append {a b : List Char} (ha : b = [] → EndsShown a) (hb : EndsShown b) :
    EndsShown (a ++ b) := by
  cases b with
  | nil => simpa using ha rfl
  | cons c b =>
    unfold EndsShown at hb ⊢
    rwa [List.getLast?_append_of_ne_nil _ (by simp)]

section
variable {u : Url}

/-- Whether a character can stand before the query of a URL that is not opaque. -/
def isFrontChar (c : Char) : Bool := isVisible c && c ≠ '?' && c ≠ '#'

theorem isFrontChar_of_not_inPath {c : Char} (h : inPath c = false) : isFrontChar c = true := by
  simp only [inPath, inFragment, List.mem_cons, Bool.or_eq_false_iff, decide_eq_false_iff_not,
    not_or] at h
  simp [isFrontChar, isVisible, h]

theorem isFrontChar_of_isAuthorityChar {c : Char} (h : isAuthorityChar c = true) :
    isFrontChar c = true := by
  simp only [isAuthorityChar, List.mem_cons, Bool.and_eq_true, decide_eq_true_eq, not_or] at h
  simp [isFrontChar, isVisible, h]

theorem serialize_host (host : String) : Authority.serialize { host } = host := by
  simp [Authority.serialize]

/-- An opaque path is written as it is. -/
theorem IsOpaquePath.frontText (h : IsOpaquePath u) : frontText u = u.path.toList := by
  have hbare := h.bare
  have hslashes : ['/', '/'].isPrefixOf u.path.toList = false := by
    cases hpath : u.path.toList with
    | nil => rfl
    | cons c path =>
      have hc : c ≠ '/' := by simpa [hpath] using hbare
      simp [List.isPrefixOf, Ne.symm hc]
  simp [Url.frontText, h.authority, hslashes]

theorem frontText_of_authority {a : Authority} (ha : u.authority = some a) :
    frontText u = '/' :: '/' :: (a.serialize.toList ++ u.path.toList) := by
  simp [frontText, ha]

theorem isLegible_of_authority {a : Authority} (ha : u.authority = some a) :
    u.isLegible = isLegibleIn u.scheme a.host := by
  rw [isLegible, host, ha, Option.elim_some]

/-- Hosts of URLs that are not special are read as they are. -/
theorem isLegible_of_not_isSpecial (hspecial : isSpecial u.scheme = false) : u.isLegible = true := by
  rw [isLegible, isLegibleIn, hspecial, Bool.not_false, Bool.true_or]

theorem of_not_querySet {scheme : String} {c : Char} (h : querySet scheme c = false) :
    isVisible c = true ∧ c ≠ '#' := by
  have hquery : inQuery c = false := by
    unfold querySet at h
    split at h
    · simp only [inSpecialQuery, Bool.or_eq_false_iff] at h
      exact h.1
    · exact h
  simp only [inQuery, List.mem_cons, Bool.or_eq_false_iff, decide_eq_false_iff_not, not_or] at hquery
  simp [isVisible, hquery]

theorem not_isDrive_of_isHostText {cs : List Char} (h : IsHostText cs) : isDrive cs = false := by
  cases hdrive : isDrive cs with
  | false => rfl
  | true =>
    obtain ⟨c, d, rfl, -, hd⟩ := exists_of_isDrive hdrive
    rcases hd with rfl | rfl
    · rcases h.2 with hplain | ⟨inner, hinner, -⟩
      · simpa using hplain ':' (by simp)
      · cases inner <;> simp at hinner
    · exact absurd (h.1 '|' (by simp)) (by decide)

theorem not_isSlash_of_isAuthorityChar {c : Char} (h : isAuthorityChar c = true)
    (special : Bool) : isSlash special c = false := by
  simp only [isAuthorityChar, List.mem_cons, Bool.and_eq_true, decide_eq_true_eq, not_or] at h
  simp [isSlash, h]

theorem pathKind_eq_file_iff {scheme : String} : pathKind scheme = .file ↔ scheme = "file" := by
  unfold pathKind
  split
  · simp [*]
  · split <;> simp [*]

theorem ne_file_of_not_isSpecial {scheme : String} (h : isSpecial scheme = false) :
    scheme ≠ "file" := by
  rintro rfl
  exact absurd h (by decide)

/-- A path is read back behind the root. -/
theorem pathText_rest {scheme path : String} (hfile : scheme ≠ "file")
    (hpath : IsPath (pathKind scheme) path.toList) :
    pathText scheme ['/'] (path.toList.drop 1) = path := by
  cases hcs : path.toList with
  | nil => simpa [hcs] using hpath.rooted
  | cons c rest =>
    rw [hcs] at hpath
    obtain rfl : c = '/' := by simpa using hpath.rooted
    have hread := resolvePath_rest hpath fun h => absurd (pathKind_eq_file_iff.1 h) hfile
    rw [pathText, List.drop_one, List.tail_cons, hread]
    simp only
    rw [← hcs, String.ofList_toList]

variable [DomainMapping]

/-- The authority of a settled URL is written with nothing that ends it. -/
theorem IsFront.isAuthorityChar {scheme : String} {a : Authority} {path : List Char}
    (h : IsFront scheme (some a) path) : ∀ c ∈ a.serialize.toList, isAuthorityChar c = true := by
  intro c hc
  cases h with
  | hosted _ ha _ => exact isAuthorityChar_of_mem ha hc
  | file _ hhost _ _ =>
    rw [serialize_host] at hc
    rcases hhost with rfl | hhost
    · simp at hc
    · exact isAuthorityChar_of_isHostChar (hhost.text.1 c hc)

theorem IsFront.not_inPath {scheme : String} {authority : Option Authority} {path : List Char}
    (h : IsFront scheme authority path) : ∀ c ∈ path, inPath c = false := by
  intro c hc
  cases h with
  | hosted _ _ hpath =>
    rcases hpath with hpath | ⟨-, rfl⟩
    · exact (hpath.text c hc).1
    · simp at hc
  | rooted _ hpath => exact (hpath.text c hc).1
  | file _ _ hpath _ => exact (hpath.text c hc).1

theorem isFrontChar_of_mem (h : IsFront u.scheme u.authority u.path.toList) {c : Char}
    (hc : c ∈ frontText u) : isFrontChar c = true := by
  rcases List.mem_append.1 hc with hc | hc
  · cases ha : u.authority with
    | none =>
      simp only [ha] at hc
      split at hc
      · simp only [List.mem_cons, List.not_mem_nil, or_false] at hc
        rcases hc with rfl | rfl <;> decide
      · simp at hc
    | some a =>
      simp only [ha, List.mem_cons] at h hc
      rcases hc with rfl | rfl | hc
      · decide
      · decide
      · exact isFrontChar_of_isAuthorityChar (h.isAuthorityChar c hc)
  · exact isFrontChar_of_not_inPath (h.not_inPath c hc)

/-- What stands before the query holds none of the marks that end it. -/
theorem of_mem_frontText (h : Settled u) {c : Char} (hc : c ∈ frontText u) :
    inControls c = false ∧ c ≠ '?' ∧ c ≠ '#' := by
  rcases h.front with hfront | hfixed
  · have hchar := isFrontChar_of_mem hfront hc
    simp only [isFrontChar, isVisible, Bool.and_eq_true, Bool.not_eq_true',
      decide_eq_true_eq] at hchar
    exact ⟨hchar.1.1.1, hchar.1.2, hchar.2⟩
  · rw [hfixed.frontText] at hc
    exact hfixed.text c hc

theorem endsShown_frontText (h : Settled u) (hquery : u.query = none) (hfragment : u.fragment = none) :
    EndsShown (frontText u) := by
  rcases h.front with hfront | hfixed
  · refine endsShown_of_isVisible fun c hc => ?_
    have hchar := isFrontChar_of_mem hfront hc
    simp only [isFrontChar, Bool.and_eq_true] at hchar
    exact hchar.1.1
  · rw [hfixed.frontText]
    exact hfixed.shown hquery hfragment

theorem isVisible_of_mem_tailText (h : Settled u) {c : Char} (hc : c ∈ tailText u) :
    isVisible c = true := by
  rcases List.mem_append.1 hc with hc | hc
  · cases hquery : u.query with
    | none => simp [markedPart, hquery] at hc
    | some q =>
      simp only [hquery, Option.map_some, markedPart, Option.elim_some, List.mem_cons] at hc
      rcases hc with rfl | hc
      · decide
      · exact (of_not_querySet (h.query q hquery c hc)).1
  · cases hfragment : u.fragment with
    | none => simp [markedPart, hfragment] at hc
    | some f =>
      simp only [hfragment, Option.map_some, markedPart, Option.elim_some, List.mem_cons] at hc
      rcases hc with rfl | hc
      · decide
      · have hc := h.fragment f hfragment c hc
        simp only [inFragment, List.mem_cons, Bool.or_eq_false_iff, decide_eq_false_iff_not,
          not_or] at hc
        simp [isVisible, hc]

/-! ## Scheme and tail -/

theorem isPrintable_serialize (h : Settled u) : IsPrintable u.serialize.toList := by
  have hscheme : ∀ n < 128, isSchemeChar (Char.ofNat n) = true → inControls (Char.ofNat n) = false := by
    decide
  rw [toList_serialize]
  intro c hc
  simp only [List.mem_append, List.mem_cons] at hc
  rcases hc with hc | rfl | hc | hc
  · have hc := (h.scheme.2 c hc).1
    exact forall_ascii (p := fun c => isSchemeChar c = true → inControls c = false) hscheme
      (toNat_lt_of_isSchemeChar hc) hc
  · decide
  · exact (of_mem_frontText h hc).1
  · have hc := isVisible_of_mem_tailText h hc
    simp only [isVisible, Bool.and_eq_true, Bool.not_eq_true'] at hc
    exact hc.1

theorem trimInput_serialize (h : Settled u) : trimInput u.serialize.toList = u.serialize.toList := by
  have halpha : ∀ n < 128, (Char.ofNat n).isAlpha = true → 0x20 < (Char.ofNat n).toNat := by decide
  rw [toList_serialize]
  refine trimInput_eq_self ?_ ?_
  · cases hscheme : u.scheme.toList with
    | nil =>
      have hname := h.scheme
      simp [IsSchemeName, hscheme] at hname
    | cons c name =>
      have hname := h.scheme
      rw [hscheme] at hname
      have hc := (hname.2 c List.mem_cons_self).1
      simpa using forall_ascii (p := fun c => c.isAlpha = true → 0x20 < c.toNat) halpha
        (toNat_lt_of_isSchemeChar hc) (by simpa using hname.1)
  · have htail : EndsShown (tailText u) :=
      endsShown_of_isVisible fun c hc => isVisible_of_mem_tailText h hc
    have hfront : EndsShown (frontText u ++ tailText u) := by
      refine endsShown_append (fun hnil => ?_) htail
      simp only [tailText, List.append_eq_nil_iff] at hnil
      refine endsShown_frontText h ?_ ?_
      · cases hquery : u.query with
        | none => rfl
        | some q => simp [markedPart, hquery] at hnil
      · cases hfragment : u.fragment with
        | none => rfl
        | some f => simp [markedPart, hfragment] at hnil
    have hcolon : EndsShown ([':'] ++ (frontText u ++ tailText u)) :=
      endsShown_append (fun _ => rfl) hfront
    exact endsShown_append (fun hnil => by simp at hnil) hcolon

/-- The tail of the text of a URL. -/
def tailOf (u : Url) : Tail :=
  ⟨frontText u, u.query.map String.toList, u.fragment.map String.toList⟩

theorem splitTail_serialize (h : Settled u) : splitTail (frontText u ++ tailText u) = tailOf u := by
  rw [tailText, ← List.append_assoc]
  refine splitTail_append (fun c hc => (of_mem_frontText h hc).2) fun q hq c hc => ?_
  obtain ⟨q, hquery, rfl⟩ := Option.map_eq_some_iff.1 hq
  exact (of_not_querySet (h.query q hquery c hc)).2

/-- The URL that is read behind a scheme. -/
def readBehind (base : Option Url) (scheme : String) (t : Tail) : Except UrlError Url :=
  if scheme = "file" then parseFile (base.filter (·.scheme = "file")) t
  else if isSpecial scheme then
    let behind := t.shown.dropWhile (isSlash true ·)
    match base with
    | some b =>
      if b.scheme = scheme ∧ t.shown.length < behind.length + 2 then parseRelative b t
      else afterSlashes scheme t behind
    | none => afterSlashes scheme t behind
  else parseNonSpecial scheme t

theorem scheme?_serialize (h : Settled u) : scheme? u.serialize.toList = some u.scheme := by
  rw [toList_serialize, scheme?_append h.scheme, String.ofList_toList]

/-- Reading the text of a URL finds its scheme and its tail. -/
theorem parseWith_serialize_eq (h : Settled u) (base : Option Url) :
    parseWith base u.serialize = readBehind base u.scheme (tailOf u) := by
  have hprint := isPrintable_serialize h
  have hdrop : dropShown (u.scheme.length + 1) u.serialize.toList = frontText u ++ tailText u := by
    rw [dropShown_of_isPrintable hprint, toList_serialize, ← String.length_toList]
    simp
  simp only [parseWith, trimInput_serialize h, withoutBreaks_of_isPrintable hprint,
    scheme?_serialize h, hdrop, splitTail_serialize h]
  rfl

theorem shown_tailOf (h : Settled u) : (tailOf u).shown = frontText u :=
  withoutBreaks_of_isPrintable fun _ hc => (of_mem_frontText h hc).1

/-- The parts behind the path are put back as they were. -/
theorem withTail_tailOf (h : Settled u) :
    withTail (tailOf u) ⟨u.scheme, u.authority, u.path, none, none⟩ = u := by
  have hencode (set : Char → Bool) (part : Option String)
      (hpart : ∀ s ∈ part, ∀ c ∈ s.toList, inControls c = false ∧ set c = false) :
      (part.map String.toList).map (fun cs => String.ofList (encode set (withoutBreaks cs))) =
        part := by
    cases part with
    | none => rfl
    | some s =>
      have hs := hpart s rfl
      simp [withoutBreaks_of_isPrintable fun c hc => (hs c hc).1,
        encode_of_forall_not fun c hc => (hs c hc).2]
  have hquery := hencode (querySet u.scheme) u.query fun q hq c hc => by
    have hc := h.query q hq c hc
    have hvisible := (of_not_querySet hc).1
    simp only [isVisible, Bool.and_eq_true, Bool.not_eq_true'] at hvisible
    exact ⟨hvisible.1, hc⟩
  have hfragment := hencode inFragment u.fragment fun f hf c hc => by
    have hc := h.fragment f hf c hc
    refine ⟨?_, hc⟩
    simp only [inFragment, Bool.or_eq_false_iff] at hc
    exact hc.1
  unfold querySet at hquery
  simp only [withTail, tailOf, hquery, hfragment]

/-! ## Reading back -/

theorem afterSlashes_serialize (h : Settled u) (hfile : u.scheme ≠ "file") {a : Authority}
    (ha : u.authority = some a) :
    afterSlashes u.scheme (tailOf u) (a.serialize.toList ++ u.path.toList) =
      if u.isLegible then .ok u else .error .invalidDomain := by
  obtain ⟨hauthority, hpath⟩ : IsAuthority u.scheme a ∧ (IsPath (pathKind u.scheme) u.path.toList ∨
      isSpecial u.scheme = false ∧ u.path.toList = []) := by
    rcases h.front with hfront | hfixed
    · rw [ha] at hfront
      cases hfront with
      | hosted _ hauthority hpath => exact ⟨hauthority, hpath⟩
      | file hscheme => exact absurd hscheme hfile
    · rw [hfixed.authority] at ha
      simp at ha
  have hslash : u.path.toList.head?.all (isSlash (isSpecial u.scheme)) = true := by
    rcases hpath with hpath | ⟨-, hnil⟩
    · rw [hpath.rooted]
      simp [isSlash]
    · rw [hnil]
      rfl
  have htake : (a.serialize.toList ++ u.path.toList).takeWhile (!isSlash (isSpecial u.scheme) ·) =
      a.serialize.toList :=
    takeWhile_append_eq_left
      (fun c hc => by simp [not_isSlash_of_isAuthorityChar (isAuthorityChar_of_mem hauthority hc)])
      (by simpa using hslash)
  have hread (ended : Bool) := parseAuthority_serialize hauthority ended
  have hback := withTail_tailOf h
  rw [ha] at hback
  simp only [afterSlashes, htake, List.drop_left, hread, isLegible_of_authority ha]
  split
  case isFalse => rfl
  show Except.ok _ = Except.ok _
  rcases hpath with hpath | ⟨hspecial, hnil⟩
  · have hne : u.path.toList.isEmpty = false := by
      cases hcs : u.path.toList with
      | nil => simpa [hcs] using hpath.rooted
      | cons c rest => rfl
    have hhead : u.path.toList.head?.any (isSlash (isSpecial u.scheme)) = true := by
      rw [hpath.rooted]
      simp [isSlash]
    simp only [List.nil_append, hne, hhead, if_true, Bool.not_false, Bool.or_true,
      pathText_rest hfile hpath, hback]
  · have hempty : u.path = "" := String.toList_eq_nil_iff.1 hnil
    simp [hempty, hspecial] at hback ⊢
    exact hback

/-- A path without an authority is read back, also one behind `/.`, which adds nothing to it. -/
theorem parseNonSpecial_rooted (h : Settled u) (hspecial : isSpecial u.scheme = false)
    (ha : u.authority = none) (hpath : IsPath (pathKind u.scheme) u.path.toList) :
    parseNonSpecial u.scheme (tailOf u) = .ok u := by
  have hfile : u.scheme ≠ "file" := ne_file_of_not_isSpecial hspecial
  have hback := withTail_tailOf h
  rw [ha] at hback
  have hread := pathText_rest hfile hpath
  obtain ⟨rest, hcs⟩ := List.head?_eq_some_iff.1 hpath.rooted
  rw [hcs, List.drop_one, List.tail_cons] at hread
  unfold parseNonSpecial
  rw [shown_tailOf h]
  cases hslashes : ['/', '/'].isPrefixOf u.path.toList with
  | true =>
    have hfront : frontText u = '/' :: '.' :: '/' :: rest := by
      simp only [frontText, ha, hslashes, if_true]
      rw [hcs]
      rfl
    have hdot : pathText u.scheme ['/'] ('.' :: '/' :: rest) = u.path := by
      rw [pathText, resolvePath_dot]
      exact hread
    rw [hfront]
    show Except.ok _ = Except.ok _
    rw [hdot, hback]
  | false =>
    have hfront : frontText u = '/' :: rest := by
      simp only [frontText, ha, hslashes]
      rw [hcs]
      rfl
    rw [hfront]
    cases rest with
    | nil =>
      show Except.ok _ = Except.ok _
      rw [hread, hback]
    | cons c rest =>
      have hc : c ≠ '/' := by
        rintro rfl
        simp [hcs, List.isPrefixOf] at hslashes
      split
      · rename_i heq
        exact absurd (List.cons.inj (List.cons.inj heq).2).1 hc
      · rename_i heq
        rw [← (List.cons.inj heq).2, hread, hback]
      · rename_i hno
        exact absurd rfl (hno (c :: rest))

theorem parseNonSpecial_bare (h : Settled u) (hfixed : IsOpaquePath u) :
    parseNonSpecial u.scheme (tailOf u) = .ok u := by
  have hback := withTail_tailOf h
  have hbare := hfixed.bare
  have hencode : String.ofList (encode inControls u.path.toList) = u.path := by
    rw [encode_of_forall_not fun c hc => (hfixed.text c hc).1, String.ofList_toList]
  rw [hfixed.authority] at hback
  unfold parseNonSpecial
  rw [shown_tailOf h, hfixed.frontText]
  split
  · rename_i heq
    simp [heq] at hbare
  · rename_i heq
    simp [heq] at hbare
  · rw [hencode, hback]

theorem parseNonSpecial_serialize (h : Settled u) (hspecial : isSpecial u.scheme = false) :
    parseNonSpecial u.scheme (tailOf u) = .ok u := by
  rcases h.front with hfront | hfixed
  · cases ha : u.authority with
    | some a =>
      have hread := afterSlashes_serialize h (ne_file_of_not_isSpecial hspecial) ha
      rw [isLegible_of_not_isSpecial hspecial, if_pos rfl] at hread
      unfold parseNonSpecial
      rw [shown_tailOf h, frontText_of_authority ha]
      exact hread
    | none =>
      rw [ha] at hfront
      cases hfront with
      | rooted _ hpath => exact parseNonSpecial_rooted h hspecial ha hpath
  · exact parseNonSpecial_bare h hfixed

/-- The path of a special URL is never opaque. -/
theorem Settled.isFront (h : Settled u) (hspecial : isSpecial u.scheme = true) :
    IsFront u.scheme u.authority u.path.toList := by
  refine h.front.resolve_right fun hfixed => ?_
  rw [hfixed.scheme] at hspecial
  cases hspecial

theorem Settled.file_front (h : Settled u) (hfile : u.scheme = "file") :
    ∃ host, u.authority = some { host } ∧ (host = "" ∨ IsFileHost host) ∧
      IsPath .file u.path.toList ∧ (u.path.toList.drop 1).head? ≠ some '/' := by
  have hspecial : isSpecial u.scheme = true := by rw [hfile]; decide
  have hfront := h.isFront hspecial
  generalize u.authority = authority at hfront
  generalize u.path.toList = path at hfront
  cases hfront with
  | hosted hno => exact absurd hfile hno
  | rooted hno => cases hspecial.symm.trans hno
  | file _ hhost hpath hsingle => exact ⟨_, rfl, hhost, hpath, hsingle⟩

/-- The host of a file ends where its path starts. -/
theorem takeWhile_fileHost {host : String} (hhost : host = "" ∨ IsFileHost host)
    (rest : List Char) :
    (host.toList ++ '/' :: rest).takeWhile (!isSlash true ·) = host.toList := by
  refine takeWhile_append_eq_left (fun c hc => ?_) rfl
  rcases hhost with rfl | hhost
  · simp at hc
  · have hc := isAuthorityChar_of_isHostChar (hhost.text.1 c hc)
    simp [not_isSlash_of_isAuthorityChar hc]

/-- The text of a file denotes a file, and the same one if the path does not start with a drive. -/
theorem fileAfterSlashes_serialize (h : Settled u) (hfile : u.scheme = "file") :
    ReadAgain u (fileAfterSlashes (tailOf u)) := by
  obtain ⟨host, ha, hhost, hpath, hsingle⟩ : ∃ host, u.authority = some { host } ∧
      (host = "" ∨ IsFileHost host) ∧ IsPath .file u.path.toList ∧
      (u.path.toList.drop 1).head? ≠ some '/' := h.file_front hfile
  have hback := withTail_tailOf h
  rw [ha, hfile] at hback
  obtain ⟨rest, hcs⟩ : ∃ rest, u.path.toList = '/' :: rest := List.head?_eq_some_iff.1 hpath.rooted
  rw [hcs, List.drop_one, List.tail_cons] at hsingle
  rw [hcs] at hpath
  have hprint : IsPrintable (frontText u) := fun c hc => (of_mem_frontText h hc).1
  have hlegible : u.isLegible = hasShortLabels host.toList := by
    rw [isLegible_of_authority ha, isLegibleIn, hfile]
    rfl
  have hscheme {host' path' : String} : (fileUrl (tailOf u) host' path').scheme = u.scheme :=
    hfile.symm
  have hfront : frontText u = '/' :: '/' :: (host.toList ++ u.path.toList) := by
    rw [frontText_of_authority ha, serialize_host]
  have htext : dropShown 2 (tailOf u).front = host.toList ++ u.path.toList := by
    rw [tailOf, dropShown_of_isPrintable hprint, hfront]
    rfl
  have hprintText : IsPrintable (host.toList ++ u.path.toList) := fun c hc =>
    hprint c (by rw [hfront]; exact List.mem_cons_of_mem _ (List.mem_cons_of_mem _ hc))
  have hhostText : (withoutBreaks (host.toList ++ u.path.toList)).takeWhile (!isSlash true ·) =
      host.toList := by
    rw [withoutBreaks_of_isPrintable hprintText, hcs]
    exact takeWhile_fileHost hhost rest
  have hrest : dropShown host.toList.length (host.toList ++ u.path.toList) = '/' :: rest := by
    rw [dropShown_of_isPrintable hprintText, List.drop_left, hcs]
  have hdrive : isDrive host.toList = false := by
    rcases hhost with rfl | hhost
    · rfl
    · exact not_isDrive_of_isHostText hhost.text
  have hurl : fileUrl (tailOf u) host (String.ofList ('/' :: rest)) = u := by
    rw [← hcs, String.ofList_toList]
    exact hback
  have hplain (hno : u.isFileOnDrive = false) : startsWithDrive rest = false := by
    simpa [isFileOnDrive, hfile, hcs] using hno
  simp only [fileAfterSlashes, htext, hhostText, hrest, hdrive, Bool.false_eq_true, if_false]
  by_cases hnone : host.toList = []
  · obtain rfl : host = "" := String.toList_eq_nil_iff.1 hnone
    refine .back (hlegible.trans rfl) hscheme fun hno => ?_
    have hno := hplain hno
    have hread : pathText "file" ['/'] ('/' :: rest) = String.ofList ('/' :: rest) :=
      by rw [pathText, pathKind_eq_file_iff.2 rfl, resolvePath_slash hpath hno hsingle]
    rw [hread]
    exact hurl
  · have hhost : IsFileHost host := hhost.resolve_left fun he => hnone (by rw [he]; rfl)
    have hskip : dropShown 1 ('/' :: rest) = rest := by simp [dropShown, isBreak]
    rw [if_neg hnone, hhost.back, hskip, ← hlegible]
    cases hread : u.isLegible with
    | false => exact .lost hread
    | true =>
      show ReadAgain u (if host = "localhost" then _ else _)
      rw [if_neg hhost.remote]
      refine .back hread hscheme fun hno => ?_
      rw [resolvePath_rest hpath fun _ => ⟨hplain hno, hsingle⟩]
      exact hurl

/-- A special URL names a host, so the slashes before its authority are two. -/
theorem dropWhile_frontText (h : Settled u) (hfile : u.scheme ≠ "file")
    (hspecial : isSpecial u.scheme = true) : ∃ a, u.authority = some a ∧
      (frontText u).dropWhile (isSlash true ·) = a.serialize.toList ++ u.path.toList ∧
      (frontText u).length = (a.serialize.toList ++ u.path.toList).length + 2 := by
  obtain ⟨a, ha, hauthority⟩ : ∃ a, u.authority = some a ∧ IsAuthority u.scheme a := by
    have hfront := h.isFront hspecial
    generalize u.authority = authority at hfront
    cases hfront with
    | hosted _ ha _ => exact ⟨_, rfl, ha⟩
    | rooted hno => cases hspecial.symm.trans hno
    | file hscheme => exact absurd hscheme hfile
  have hfront := frontText_of_authority ha
  refine ⟨a, ha, ?_, by rw [hfront]; rfl⟩
  have hne : a.serialize.toList ≠ [] := by
    have hhost : a.host.toList ≠ [] := fun he =>
      hauthority.named hspecial (String.toList_eq_nil_iff.1 he)
    rw [toList_serialize_authority]
    simp [hhost]
  cases hcs : a.serialize.toList with
  | nil => exact absurd hcs hne
  | cons c cs =>
    have hc := not_isSlash_of_isAuthorityChar
      (isAuthorityChar_of_mem hauthority (by rw [hcs]; exact List.mem_cons_self)) true
    rw [hfront, hcs, List.dropWhile_cons_of_pos (by decide), List.dropWhile_cons_of_pos (by decide),
      List.cons_append, List.dropWhile_cons_of_neg (by simp [hc])]

/-- The text of a legible URL denotes the URL, whatever the base; that of a file on a drive denotes a
file. -/
theorem parseWith_serialize (h : Settled u) (base : Option Url) :
    ReadAgain u (parseWith base u.serialize) := by
  have hother (hfile : u.scheme ≠ "file") :
      ReadAgain u (if u.isLegible then .ok u else .error .invalidDomain) := by
    cases hread : u.isLegible with
    | true => exact .back hread rfl fun _ => rfl
    | false => exact .lost hread
  rw [parseWith_serialize_eq h, readBehind]
  by_cases hfile : u.scheme = "file"
  · obtain ⟨host, ha, -⟩ := h.file_front hfile
    have hread := fileAfterSlashes_serialize h hfile
    unfold parseFile
    rw [if_pos hfile, shown_tailOf h, frontText_of_authority ha]
    exact hread
  · rw [if_neg hfile]
    cases hspecial : isSpecial u.scheme with
    | false =>
      rw [if_neg (by simp), parseNonSpecial_serialize h hspecial]
      exact .back (isLegible_of_not_isSpecial hspecial) rfl fun _ => rfl
    | true =>
      obtain ⟨a, ha, hbehind, hlength⟩ := dropWhile_frontText h hfile hspecial
      have hread := afterSlashes_serialize h hfile ha
      simp only [shown_tailOf h, hbehind, hlength, if_true]
      cases base with
      | none => exact hread ▸ hother hfile
      | some b => simpa [hread] using hother hfile

/-- Authority and path of a special URL are parted by the first slash. -/
theorem Settled.takeWhile_front (h : Settled u) (hspecial : isSpecial u.scheme = true) :
    ∃ a, u.authority = some a ∧
      ((frontText u).drop 2).takeWhile (!isSlash true ·) = a.serialize.toList := by
  obtain ⟨a, ha, hchars, hrooted⟩ : ∃ a, u.authority = some a ∧
      (∀ c ∈ a.serialize.toList, isAuthorityChar c = true) ∧ u.path.toList.head? = some '/' := by
    have hfront := h.isFront hspecial
    generalize u.authority = authority at hfront
    cases authority with
    | none =>
      cases hfront with
      | rooted hno => cases hspecial.symm.trans hno
    | some a =>
      refine ⟨a, rfl, hfront.isAuthorityChar, ?_⟩
      cases hfront with
      | hosted _ _ hpath => exact (hpath.resolve_right fun hno => by simp [hspecial] at hno).rooted
      | file _ _ hpath _ => exact hpath.rooted
  obtain ⟨rest, hrest⟩ := List.head?_eq_some_iff.1 hrooted
  refine ⟨a, ha, ?_⟩
  rw [frontText_of_authority ha, hrest]
  exact takeWhile_append_eq_left
    (fun c hc => by simp [not_isSlash_of_isAuthorityChar (hchars c hc)]) rfl

/-- No two authorities of settled URLs are written alike. -/
theorem IsFront.authority_eq {scheme : String} {a b : Authority} {path path' : List Char}
    (ha : IsFront scheme (some a) path) (hb : IsFront scheme (some b) path')
    (h : a.serialize = b.serialize) : a = b := by
  cases ha with
  | hosted hfile ha _ =>
    cases hb with
    | hosted _ hb _ => exact ha.eq_of_serialize_eq hb h
    | file hno => exact absurd hno hfile
  | file hfile _ _ _ =>
    cases hb with
    | hosted hno => exact absurd hfile hno
    | file =>
      rw [serialize_host, serialize_host] at h
      rw [h]

/-- No two URLs are written alike. -/
theorem Settled.eq_of_serialize_eq {v : Url} (hu : Settled u) (hv : Settled v)
    (h : u.serialize = v.serialize) : u = v := by
  have hscheme : u.scheme = v.scheme := by
    have hname := scheme?_serialize hu
    rw [h, scheme?_serialize hv] at hname
    exact (Option.some.inj hname).symm
  have htail : tailOf u = tailOf v := by
    have htext := congrArg String.toList h
    rw [toList_serialize, toList_serialize, hscheme] at htext
    rw [← splitTail_serialize hu, ← splitTail_serialize hv,
      (List.cons.inj (List.append_cancel_left htext)).2]
  cases hspecial : isSpecial u.scheme with
  | false =>
    have hread := parseNonSpecial_serialize hu hspecial
    rw [hscheme, htail, parseNonSpecial_serialize hv (hscheme ▸ hspecial)] at hread
    exact (Except.ok.inj hread).symm
  | true =>
    -- special URLs need not be read back, but their parts still are where the marks are
    have hfront := congrArg Tail.front htail
    obtain ⟨a, ha, hbefore⟩ := hu.takeWhile_front hspecial
    obtain ⟨b, hb, hbefore'⟩ := hv.takeWhile_front (hscheme ▸ hspecial)
    have htext : a.serialize = b.serialize := by
      rw [← String.toList_inj, ← hbefore, ← hbefore']
      exact congrArg _ (congrArg _ hfront)
    have hfrontu := hu.isFront hspecial
    have hfrontv := hv.isFront (hscheme ▸ hspecial)
    rw [ha] at hfrontu
    rw [hb, ← hscheme] at hfrontv
    obtain rfl := hfrontu.authority_eq hfrontv htext
    have hpath : u.path = v.path := by
      simp only [tailOf, frontText_of_authority ha, frontText_of_authority hb, List.cons.injEq,
        true_and, List.append_cancel_left_eq] at hfront
      exact String.toList_inj.1 hfront
    rw [← withTail_tailOf hu, ← withTail_tailOf hv, htail, hscheme, ha, hb, hpath]

end

end Url

end Wayfinder
