import Wayfinder.Proofs.Url.Address

/-!
# Hosts are read back

A host is written in the one spelling that reading leaves alone, with characters that no other part
of a URL starts or ends with.  There is one kind of host that is not read again: a name with a label
that was encoded and has become too long to be decoded.

    domain? name             = some name     for a legible name that was read   (domain?_of_isDomain)
    parseHost host           = ok host       for a legible host that was read   (parseHost_spec)
    parseOpaqueHost host     = ok host       for a host that was read           (parseOpaqueHost_spec)
    splitHost (host ++ rest) = (host, rest)  where a colon may follow           (splitHost_append)
-/

namespace Wayfinder

namespace Url

/-! ## The text of a host -/

/-- Whether a character can stand in a host: it is printable and starts no other part of a URL. -/
def isHostChar (c : Char) : Bool := !inControls c && c ∉ [' ', '#', '/', '?', '@', '\\', '|']

/-- A text that is taken for a host from end to end: colons stand in brackets only. -/
def IsHostText (cs : List Char) : Prop :=
  (∀ c ∈ cs, isHostChar c = true) ∧
    ((∀ c ∈ cs, c ∉ [':', '[', ']']) ∨
      ∃ inner, cs = '[' :: (inner ++ [']']) ∧ ∀ c ∈ inner, c ≠ '[' ∧ c ≠ ']')

theorem splitHost_append {cs rest : List Char} (hcs : IsHostText cs)
    (hrest : rest.head?.all (· = ':') = true) : splitHost false (cs ++ rest) = (cs, rest) := by
  have hend : splitHost false rest = ([], rest) := by
    cases rest with
    | nil => rfl
    | cons c rest =>
      obtain rfl : c = ':' := by simpa using hrest
      simp [splitHost]
  rcases hcs.2 with hplain | ⟨inner, rfl, hinner⟩
  · clear hcs
    induction cs with
    | nil => exact hend
    | cons c cs ih =>
      have hc := hplain c List.mem_cons_self
      simp only [List.mem_cons, List.not_mem_nil, or_false, not_or] at hc
      simp [splitHost, hc, ih fun d hd => hplain d (List.mem_cons_of_mem c hd)]
  · have hinside : splitHost true (inner ++ ']' :: rest) = (inner ++ [']'], rest) := by
      clear hcs
      induction inner with
      | nil => simp [splitHost, hend]
      | cons c inner ih =>
        have hc := hinner c List.mem_cons_self
        simp [splitHost, hc, ih fun d hd => hinner d (List.mem_cons_of_mem c hd)]
    simp [splitHost, hinside]

/-! ## Labels that are too long -/

/-- Whether a label is plain or else short enough to be decoded. -/
def isShortLabel (label : List Char) : Bool :=
  !(['x', 'n', '-', '-'].isPrefixOf label) || (label.drop 4).length ≤ maxEncodedLength

/-- Whether no label of a host is too long to be decoded. -/
def hasShortLabels (host : List Char) : Bool := (Text.pieces (· = '.') host).all isShortLabel

/-- A label has to start with an `x` to be encoded. -/
theorem isPrefixOf_of_mem_pieces {host : List Char} (h : ∀ c ∈ host, c ≠ 'x') :
    ∀ label ∈ Text.pieces (· = '.') host, ['x', 'n', '-', '-'].isPrefixOf label = false := by
  intro label hlabel
  cases label with
  | nil => rfl
  | cons c label =>
    have hc : 'x' ≠ c := (h c (Text.mem_of_mem_pieces hlabel List.mem_cons_self)).symm
    simp [List.isPrefixOf, hc]

theorem hasShortLabels_of_forall_ne {host : List Char} (h : ∀ c ∈ host, c ≠ 'x') :
    hasShortLabels host = true := by
  refine List.all_eq_true.2 fun label hlabel => ?_
  rw [isShortLabel, isPrefixOf_of_mem_pieces h label hlabel, Bool.not_false, Bool.true_or]

/-! ## Addresses in brackets -/

theorem mem_writePieces {l : List Nat} {c : Char} (h : c ∈ (writePieces l).toList) :
    c = ':' ∨ ∃ d < 16, c = Nat.digitChar d := by
  induction l with
  | nil => simp [writePieces] at h
  | cons n l ih =>
    cases l with
    | nil =>
      rw [toList_writePieces_singleton] at h
      exact Or.inr (mem_toDigits (by decide) h)
    | cons m l =>
      rw [toList_writePieces_cons] at h
      rcases List.mem_append.1 h with h | h
      · exact Or.inr (mem_toDigits (by decide) h)
      · rcases List.mem_cons.1 h with h | h
        · exact Or.inl h
        · exact ih h

theorem mem_writeIpv6 {l : List Nat} {c : Char} (h : c ∈ (writeIpv6 l).toList) :
    c = ':' ∨ ∃ d < 16, c = Nat.digitChar d := by
  unfold writeIpv6 at h
  split at h
  · exact mem_writePieces h
  · simp only [String.toList_append, List.mem_append] at h
    rcases h with (h | h) | h
    · exact mem_writePieces h
    · left
      simpa using h
    · exact mem_writePieces h

theorem isHostText_brackets (l : List Nat) : IsHostText ("[" ++ writeIpv6 l ++ "]").toList := by
  have hdigits : ∀ d < 16, isHostChar (Nat.digitChar d) = true ∧ Nat.digitChar d ≠ '[' ∧
      Nat.digitChar d ≠ ']' := by decide
  have hinner (c : Char) (hc : c ∈ (writeIpv6 l).toList) :
      isHostChar c = true ∧ c ≠ '[' ∧ c ≠ ']' := by
    rcases mem_writeIpv6 hc with rfl | ⟨d, hd, rfl⟩
    · decide
    · exact hdigits d hd
  have htext : ("[" ++ writeIpv6 l ++ "]").toList = '[' :: ((writeIpv6 l).toList ++ [']']) := by
    simp
  rw [htext]
  refine ⟨fun c hc => ?_, Or.inr ⟨_, rfl, fun c hc => (hinner c hc).2⟩⟩
  rcases List.mem_cons.1 hc with rfl | hc
  · decide
  · rcases List.mem_append.1 hc with hc | hc
    · exact (hinner c hc).1
    · obtain rfl : c = ']' := by simpa using hc
      decide

theorem hasShortLabels_brackets (l : List Nat) :
    hasShortLabels ("[" ++ writeIpv6 l ++ "]").toList = true := by
  have hdigits : ∀ d < 16, Nat.digitChar d ≠ 'x' := by decide
  have hinner : ∀ c ∈ (writeIpv6 l).toList, c ≠ 'x' := by
    intro c hc
    rcases mem_writeIpv6 hc with rfl | ⟨d, hd, rfl⟩
    · decide
    · exact hdigits d hd
  refine hasShortLabels_of_forall_ne fun c hc => ?_
  simp only [String.toList_append, List.mem_append] at hc
  rcases hc with (hc | hc) | hc
  · obtain rfl : c = '[' := by simpa using hc
    decide
  · exact hinner c hc
  · obtain rfl : c = ']' := by simpa using hc
    decide

/-- What is read in brackets, and how it is read back. -/
theorem bracketed_spec {cs : List Char} {host : String} (h : bracketed cs = .ok host) :
    IsHostText host.toList ∧ ∃ rest, host.toList = '[' :: rest ∧
      hasShortLabels host.toList = true ∧ bracketed rest = .ok host := by
  unfold bracketed at h
  split at h
  · split at h
    · rename_i inner _ pieces hpieces
      obtain rfl := Except.ok.inj h
      obtain ⟨hlength, hread⟩ := arePieces_of_ipv6? hpieces
      refine ⟨isHostText_brackets pieces, (writeIpv6 pieces).toList ++ [']'], by simp,
        hasShortLabels_brackets pieces, ?_⟩
      simp [bracketed, ipv6?_writeIpv6 hlength hread]
    · simp at h
  · simp at h

/-! ## Domain names -/

/-- A domain name as it is read: in small letters of ASCII.  Its labels denote what a name can hold,
as far as they can be decoded. -/
structure IsDomain (name : List Char) : Prop where
  ascii : ∀ c ∈ name, c.toNat < 128
  lower : ∀ c ∈ name, c.toLower = c
  allowed : ∀ c ∈ name, isForbidden c = false
  labels : hasShortLabels name = true → areLabels (Text.pieces (· = '.') name) = true

theorem length_le_of_decodedLabel? {encoded cs : List Char} (h : decodedLabel? encoded = some cs) :
    encoded.length ≤ maxEncodedLength := by
  by_cases hlength : encoded.length ≤ maxEncodedLength
  · exact hlength
  · simp [decodedLabel?, hlength] at h

theorem hasShortLabels_of_areLabels {name : List Char}
    (h : areLabels (Text.pieces (· = '.') name) = true) : hasShortLabels name = true := by
  unfold areLabels at h
  split at h
  · rename_i decoded hdecoded
    refine List.all_eq_true.2 fun label hlabel => ?_
    obtain ⟨cs, hcs⟩ := exists_of_mapM_eq_some hdecoded label hlabel
    unfold label? at hcs
    split at hcs
    · have hlength := length_le_of_decodedLabel? hcs
      simp only [isShortLabel, hlength, decide_true, Bool.or_true]
    · rename_i hplain
      simp only [isShortLabel, hplain, Bool.not_false, Bool.true_or]
  · cases h

end Url

/-- What a mapping yields is a domain name as it is read. -/
class LawfulDomainMapping [DomainMapping] : Prop where
  isDomain {cs name : List Char} : DomainMapping.toAscii? cs = some name → Url.IsDomain name

/-- A list of names is a lawful mapping if each of them is given as it is read. -/
theorem DomainMapping.lawful_ofNames {names : Keyed String}
    (h : ∀ e ∈ names, Url.IsDomain e.2.toList) : @LawfulDomainMapping (.ofNames names) := by
  refine @LawfulDomainMapping.mk (.ofNames names) fun hname => ?_
  obtain ⟨text, htext, rfl⟩ := Option.map_eq_some_iff.1 hname
  exact h _ (Keyed.mem_of_find? htext)

namespace Url

/-- What is read of ASCII, and when. -/
theorem asciiDomain?_eq_some_iff {bytes : List UInt8} (hascii : ∀ b ∈ bytes, b.toNat < 128)
    {name : List Char} : asciiDomain? bytes = some name ↔
      bytes.map (fun b => (Char.ofNat b.toNat).toLower) = name ∧ IsDomain name ∧
        hasShortLabels name = true := by
  have hlower : ∀ n < 128, (Char.ofNat n).toNat < 128 ∧ (Char.ofNat n).toLower.toNat < 128 := by
    decide
  simp only [asciiDomain?]
  constructor
  · intro h
    split at h
    · rename_i hname
      obtain rfl := Option.some.inj h
      obtain ⟨hallowed, hlabels⟩ := hname
      refine ⟨rfl, ⟨fun c hc => ?_, fun c hc => ?_, by simpa using hallowed, fun _ => hlabels⟩,
        hasShortLabels_of_areLabels hlabels⟩
      · obtain ⟨b, hb, rfl⟩ := List.mem_map.1 hc
        exact (hlower _ (hascii b hb)).2
      · obtain ⟨b, hb, rfl⟩ := List.mem_map.1 hc
        exact toLower_toLower (hlower _ (hascii b hb)).1
    · cases h
  · rintro ⟨rfl, hname, hshort⟩
    rw [if_pos ⟨by simpa using hname.allowed, hname.labels hshort⟩]

theorem utf8EncodeChar_of_ascii {c : Char} (h : c.toNat < 128) :
    String.utf8EncodeChar c = [c.toNat.toUInt8] := by
  have hval : c.val.toNat ≤ 127 := Nat.le_of_lt_succ h
  unfold String.utf8EncodeChar
  simp only [hval, if_true]
  rfl

theorem decode_of_ascii {cs : List Char} (h : ∀ c ∈ cs, c.toNat < 128 ∧ c ≠ '%') :
    decode cs = cs.map fun c => c.toNat.toUInt8 := by
  induction cs with
  | nil => rfl
  | cons c cs ih =>
    obtain ⟨hascii, hescape⟩ := h c List.mem_cons_self
    have ih := ih fun d hd => h d (List.mem_cons_of_mem c hd)
    have hstep : decode (c :: cs) = String.utf8EncodeChar c ++ decode cs :=
      decode.eq_2 c cs fun a b cs' hc _ => hescape hc
    rw [hstep, ih, utf8EncodeChar_of_ascii hascii, List.map_cons, List.singleton_append]

/-- A name as it is read is read again, unless one of its labels is too long. -/
theorem domain?_of_isDomain [DomainMapping] {name : List Char} (h : IsDomain name) :
    domain? name = if hasShortLabels name then some name else none := by
  have hbytes : decode name = name.map fun c => c.toNat.toUInt8 :=
    decode_of_ascii fun c hc => ⟨h.ascii c hc, fun he => by
      have := h.allowed c hc
      rw [he] at this
      exact absurd this (by decide)⟩
  have hbyte (c : Char) (hc : c ∈ name) : c.toNat.toUInt8.toNat = c.toNat :=
    UInt8.toNat_ofNat_of_lt' ((h.ascii c hc).trans (by decide))
  have hname : (name.map fun c => c.toNat.toUInt8).map (fun b => (Char.ofNat b.toNat).toLower) =
      name := by
    rw [List.map_map]
    refine (List.map_congr_left fun c hc => ?_).trans (List.map_id' name)
    rw [Function.comp_apply, hbyte c hc, Char.ofNat_toNat, h.lower c hc]
  have hascii : ∀ b ∈ name.map fun c => c.toNat.toUInt8, b.toNat < 128 := by
    intro b hb
    obtain ⟨c, hc, rfl⟩ := List.mem_map.1 hb
    exact (hbyte c hc).symm ▸ h.ascii c hc
  simp only [domain?, hbytes]
  rw [if_pos (by simpa using hascii)]
  cases hread : asciiDomain? (name.map fun c => c.toNat.toUInt8) with
  | some name' =>
    obtain ⟨rfl, -, hshort⟩ := (asciiDomain?_eq_some_iff hascii).1 hread
    rw [hname] at hshort ⊢
    rw [if_pos hshort]
  | none =>
    rw [if_neg]
    intro hshort
    cases hread.symm.trans ((asciiDomain?_eq_some_iff hascii).2 ⟨hname, h, hshort⟩)

theorem isDomain_of_domain? [DomainMapping] [LawfulDomainMapping] {cs name : List Char}
    (h : domain? cs = some name) : IsDomain name := by
  simp only [domain?] at h
  split at h
  · rename_i hascii
    exact ((asciiDomain?_eq_some_iff (by simpa using hascii)).1 h).2.1
  · obtain ⟨text, -, hname⟩ := Option.bind_eq_some_iff.1 h
    exact LawfulDomainMapping.isDomain hname

theorem isHostText_of_isDomain {name : List Char} (h : IsDomain name) : IsHostText name := by
  have hchar : ∀ n < 128, isForbidden (Char.ofNat n) = false →
      isHostChar (Char.ofNat n) = true ∧ Char.ofNat n ∉ [':', '[', ']'] := by decide
  have hname (c : Char) (hc : c ∈ name) : isHostChar c = true ∧ c ∉ [':', '[', ']'] :=
    forall_ascii (p := fun c => isForbidden c = false → isHostChar c = true ∧ c ∉ [':', '[', ']'])
      hchar (h.ascii c hc) (h.allowed c hc)
  exact ⟨fun c hc => (hname c hc).1, Or.inl fun c hc => (hname c hc).2⟩

/-! ## Addresses of version 4 as domain names -/

theorem isDigit_ascii {p : Char → Prop} (h : ∀ n < 128, (Char.ofNat n).isDigit = true →
    p (Char.ofNat n)) {c : Char} (hc : c.isDigit = true) : p c :=
  forall_ascii (p := fun c => c.isDigit = true → p c) h
    (toNat_lt_of_isSchemeChar (by simp [isSchemeChar, Char.isAlphanum, hc])) hc

theorem has_eq_false_of_ascii {r : Text.CodeRanges} (hr : r.toList.all (128 ≤ ·.1) = true) {c : Char}
    (hc : c.toNat < 128) : r.has c = false := by
  have hfirst (x : Nat × Nat) (hx : x ∈ r.toList) : 128 ≤ x.1 := by
    simpa using List.all_eq_true.1 hr x hx
  rw [Text.CodeRanges.has, ← Array.any_toList, List.any_eq_false]
  intro x hx
  have hx := hfirst x hx
  simp only [Bool.and_eq_true, decide_eq_true_eq, not_and]
  omega

/-- Nothing in ASCII is written from right to left. -/
theorem direction_of_ascii {c : Char} (hc : c.toNat < 128) :
    direction c ∉ [.rightToLeft, .arabicDigit] := by
  have hmarks : Text.nonspacingMarks.has c = false := has_eq_false_of_ascii (by decide +kernel) hc
  have hletters : Text.rightToLeft.has c = false := has_eq_false_of_ascii (by decide +kernel) hc
  have hdigits : Text.arabicDigits.has c = false := has_eq_false_of_ascii (by decide +kernel) hc
  simp only [direction, hmarks, hletters, hdigits, Bool.false_and, Bool.false_eq_true, if_false]
  split
  · decide
  · split <;> decide

/-- Plain labels of ASCII denote themselves and have no direction. -/
theorem areLabels_of_plain {labels : List (List Char)}
    (hplain : ∀ label ∈ labels, ['x', 'n', '-', '-'].isPrefixOf label = false)
    (hascii : ∀ label ∈ labels, ∀ c ∈ label, c.toNat < 128) : areLabels labels = true := by
  have hlabel (label : List Char) (hlabel : label ∈ labels) : label? label = some label := by
    simp [label?, hplain label hlabel]
  have hnone : labels.any (·.any fun c => direction c ∈ [.rightToLeft, .arabicDigit]) = false := by
    simpa using fun label hlabel c hc => direction_of_ascii (hascii label hlabel c hc)
  simp only [areLabels, mapM_eq_self hlabel, haveOneDirection, hnone]
  rfl

/-- A name in small letters of ASCII is a domain name if none of its labels is encoded. -/
theorem isDomain_of_plain {name : List Char}
    (hchar : ∀ c ∈ name, c.toNat < 128 ∧ c.toLower = c ∧ isForbidden c = false)
    (hplain : ∀ label ∈ Text.pieces (· = '.') name, ['x', 'n', '-', '-'].isPrefixOf label = false) :
    IsDomain name :=
  ⟨fun c hc => (hchar c hc).1, fun c hc => (hchar c hc).2.1, fun c hc => (hchar c hc).2.2,
    fun _ => areLabels_of_plain hplain fun _ hlabel c hc =>
      (hchar c (Text.mem_of_mem_pieces hlabel hc)).1⟩

theorem ne_x_of_mem_writeIpv4 {n : Nat} {c : Char} (h : c ∈ (writeIpv4 n).toList) : c ≠ 'x' := by
  rcases mem_writeIpv4 h with h | rfl
  · exact isDigit_ascii (p := (· ≠ 'x')) (by decide) h
  · decide

theorem isDomain_writeIpv4 (n : Nat) : IsDomain (writeIpv4 n).toList := by
  refine isDomain_of_plain (fun c hc => ?_)
    (isPrefixOf_of_mem_pieces fun c hc => ne_x_of_mem_writeIpv4 hc)
  rcases mem_writeIpv4 hc with hc | rfl
  · exact isDigit_ascii (p := fun c => c.toNat < 128 ∧ c.toLower = c ∧ isForbidden c = false)
      (by decide) hc
  · decide

theorem hasShortLabels_writeIpv4 (n : Nat) : hasShortLabels (writeIpv4 n).toList = true :=
  hasShortLabels_of_forall_ne fun _ hc => ne_x_of_mem_writeIpv4 hc

/-! ## Hosts -/

/-- The host that a domain name denotes, which may be an address. -/
def hostOfDomain (name : List Char) : Except UrlError String :=
  if endsInNumber name then
    match ipv4? name with
    | some n => .ok (writeIpv4 n)
    | none => .error .invalidIpv4
  else .ok (String.ofList name)

section
variable [DomainMapping]

theorem parseHost_of_isDomain {name : List Char} (h : IsDomain name) (hne : name ≠ []) :
    parseHost name = if hasShortLabels name then hostOfDomain name else .error .invalidDomain := by
  have hdomain := domain?_of_isDomain h
  cases name with
  | nil => exact absurd rfl hne
  | cons c name =>
    have hc : c ≠ '[' := by
      rintro rfl
      exact absurd (h.allowed '[' List.mem_cons_self) (by decide)
    unfold parseHost
    split
    · rename_i heq
      exact absurd (List.cons.inj heq).1 hc
    · rw [hdomain]
      cases hasShortLabels (c :: name) <;> rfl

/-- What is read of the host of a special URL, and how it is read back. -/
theorem parseHost_spec [LawfulDomainMapping] {cs : List Char} {host : String}
    (h : parseHost cs = .ok host) :
    IsHostText host.toList ∧ host ≠ "" ∧
      parseHost host.toList =
        if hasShortLabels host.toList then .ok host else .error .invalidDomain := by
  unfold parseHost at h
  split at h
  · obtain ⟨htext, rest, hrest, hshort, hback⟩ := bracketed_spec h
    refine ⟨htext, ?_, ?_⟩
    · rintro rfl
      simp at hrest
    · rw [if_pos hshort, hrest]
      exact hback
  · split at h
    · simp at h
    · simp at h
    · rename_i name hne hname
      have hdomain := isDomain_of_domain? hname
      split at h
      · split at h
        · rename_i n hn
          obtain rfl := Except.ok.inj h
          have hdomain := isDomain_writeIpv4 n
          have hne : (writeIpv4 n).toList ≠ [] := by simp [toList_writeIpv4, byteDigits_ne_nil]
          refine ⟨isHostText_of_isDomain hdomain, by simpa using hne, ?_⟩
          rw [parseHost_of_isDomain hdomain hne, hasShortLabels_writeIpv4, if_pos rfl, if_pos rfl,
            hostOfDomain, endsInNumber_writeIpv4, ipv4?_writeIpv4 (lt_of_ipv4? hn)]
          rfl
        · simp at h
      · rename_i hnumber
        obtain rfl := Except.ok.inj h
        rw [String.toList_ofList, parseHost_of_isDomain hdomain hne, hostOfDomain,
          if_neg hnumber]
        exact ⟨isHostText_of_isDomain hdomain, by simpa using hne, rfl⟩

end

theorem parseOpaqueHost_of_forall {cs : List Char} (hcs : ∀ c ∈ cs, isForbiddenInHost c = false) :
    parseOpaqueHost cs = .ok (String.ofList (encode inControls cs)) := by
  unfold parseOpaqueHost
  split
  · exact absurd (hcs '[' List.mem_cons_self) (by decide)
  · rw [if_neg (by simpa using hcs)]

/-- What is read of an opaque host, and how it is read back. -/
theorem parseOpaqueHost_spec {cs : List Char} {host : String} (h : parseOpaqueHost cs = .ok host) :
    IsHostText host.toList ∧ parseOpaqueHost host.toList = .ok host := by
  unfold parseOpaqueHost at h
  split at h
  · obtain ⟨htext, rest, hrest, -, hback⟩ := bracketed_spec h
    refine ⟨htext, ?_⟩
    rw [hrest]
    exact hback
  · split at h
    · simp at h
    · rename_i hallowed
      obtain rfl := Except.ok.inj h
      have hcs : ∀ c ∈ cs, isForbiddenInHost c = false := by simpa using hallowed
      have hplain : ∀ c ∈ encode inControls cs, isForbiddenInHost c = false :=
        forall_mem_encode (by decide) fun c hc _ => hcs c hc
      have hcontrols : ∀ c ∈ encode inControls cs, inControls c = false :=
        forall_not_encode (by decide) cs
      rw [String.toList_ofList, parseOpaqueHost_of_forall hplain, encode_encode (by decide)]
      have hchar (c : Char) (hc : c ∈ encode inControls cs) :
          isHostChar c = true ∧ c ∉ [':', '[', ']'] := by
        have hc' := hplain c hc
        simp only [isForbiddenInHost, List.mem_cons, decide_eq_false_iff_not, not_or] at hc'
        simp [isHostChar, hcontrols c hc, hc']
      exact ⟨⟨fun c hc => (hchar c hc).1, Or.inl fun c hc => (hchar c hc).2⟩, rfl⟩

end Url

end Wayfinder
