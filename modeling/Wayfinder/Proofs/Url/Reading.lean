import Wayfinder.Proofs.Url.RoundTrip

/-!
# What is read is settled

Whatever a text is and whatever it is read against, the URL it denotes is settled, if the base is.
So a URL that was read is read back from its text, unless its host has become too long.

    parseWith base text = ok u → Settled u               for a settled base   (settled_of_parseWith)
    IsRead u → parseWith base u.serialize = ok u         for every base       (IsRead.readAgain)
-/

namespace Wayfinder

namespace Url

/-! ## Query and fragment -/

/-- A URL of which all but query and fragment is settled. -/
structure FrontSettled [DomainMapping] (u : Url) : Prop where
  scheme : IsSchemeName u.scheme.toList
  front : IsFront u.scheme u.authority u.path.toList

section
variable {t : Tail} {u : Url}

theorem path_withTail (t : Tail) (u : Url) : (withTail t u).path = u.path := rfl

theorem query_withTail (t : Tail) (u : Url) : ∀ q ∈ (withTail t u).query, ∀ c ∈ q.toList,
    querySet u.scheme c = false := by
  intro q hq
  have hspares : ∀ special : Bool, SparesEscapes (if special then inSpecialQuery else inQuery) := by
    decide
  obtain ⟨cs, -, rfl⟩ := Option.map_eq_some_iff.1 hq
  rw [String.toList_ofList]
  exact forall_not_encode (hspares (isSpecial u.scheme)) _

theorem fragment_withTail (t : Tail) (u : Url) : ∀ f ∈ (withTail t u).fragment, ∀ c ∈ f.toList,
    inFragment c = false := by
  intro f hf
  obtain ⟨cs, -, rfl⟩ := Option.map_eq_some_iff.1 hf
  rw [String.toList_ofList]
  exact forall_not_encode (by decide) _

/-! ## Paths -/

/-- What is opaque is no base for anything but a fragment. -/
theorem IsOpaquePath.isOpaque (h : IsOpaquePath u) : u.isOpaque = true := by
  simp [Url.isOpaque, h.authority, h.bare]

theorem isPath_pathText {scheme : String} {start : List Char}
    (hstart : IsOpenPath (pathKind scheme) start) (text : List Char) :
    IsPath (pathKind scheme) (pathText scheme start text).toList := by
  rw [pathText, String.toList_ofList]
  exact (isPath_resolvePath hstart text).1

theorem pathText_file (start text : List Char) :
    pathText "file" start text = String.ofList (resolvePath .file start text).text := by
  rw [pathText, pathKind_eq_file_iff.2 rfl]

/-- A drive that a base lends. -/
theorem isOpenPath_drive {drive : List Char} (h : isNormalDrive drive = true)
    (htext : IsPathText PathKind.file.isSpecial drive) : IsOpenPath .file ('/' :: drive) := by
  have hat : AtDrive ('/' :: drive) := atDrive_of_isNormalDrive rfl h
  refine ⟨⟨rfl, isPathText_append isPathText_slash htext, Or.inr ⟨rfl, hat⟩⟩, Or.inr ?_⟩
  obtain ⟨c, rfl, hc⟩ := exists_of_isNormalDrive h
  have hslash : c ≠ '/' := by rintro rfl; exact absurd hc (by decide)
  have hlast : lastSegment ['/', c, ':'] = [c, ':'] := by simp [lastSegment, hslash]
  rwa [hlast]

theorem isSchemeName_file : IsSchemeName "file".toList := by
  refine ⟨by decide, fun c hc => ?_⟩
  obtain rfl | rfl | rfl | rfl : c = 'f' ∨ c = 'i' ∨ c = 'l' ∨ c = 'e' := by simpa using hc
  all_goals decide

theorem EndsShown.suffix {cs rest : List Char} (h : EndsShown cs) (hrest : rest <:+ cs) :
    EndsShown rest := by
  obtain ⟨before, rfl⟩ := hrest
  cases rest with
  | nil => rfl
  | cons c rest =>
    unfold EndsShown at h ⊢
    rwa [List.getLast?_append_of_ne_nil _ (by simp)] at h

theorem EndsShown.withoutBreaks {cs : List Char} (h : EndsShown cs) :
    EndsShown (withoutBreaks cs) := by
  rcases List.eq_nil_or_concat cs with rfl | ⟨before, c, rfl⟩
  · exact h
  · have hc : 0x20 < c.toNat := by simpa [EndsShown] using h
    have hshown : isBreak c = false := by
      cases hbreak : isBreak c with
      | false => rfl
      | true =>
        simp only [isBreak, Bool.or_eq_true, decide_eq_true_eq] at hbreak
        rcases hbreak with (rfl | rfl) | rfl <;> exact absurd hc (by decide)
    simp [Url.withoutBreaks, hshown, EndsShown, hc]

theorem EndsShown.encode {cs : List Char} (h : EndsShown cs) (set : Char → Bool) :
    EndsShown (encode set cs) := by
  have hdigits : ∀ n < 16, 0x20 < (hexDigit n).toNat := by decide
  rcases List.eq_nil_or_concat cs with rfl | ⟨before, c, rfl⟩
  · exact h
  · have hc : 0x20 < c.toNat := by simpa [EndsShown] using h
    have hlast : EndsShown (Url.encode set [c]) := by
      unfold EndsShown
      cases hget : (Url.encode set [c]).getLast? with
      | none => rfl
      | some d =>
        rcases mem_encode (List.mem_of_getLast? hget) with ⟨hd, -⟩ | rfl | ⟨n, hn, rfl⟩
        · obtain rfl : d = c := by simpa using hd
          simpa using hc
        · decide
        · simpa using hdigits n hn
    rw [List.concat_eq_append, encode_append]
    exact endsShown_append (fun hnil => absurd hnil (encode_ne_nil (by simp))) hlast

theorem dropShown_suffix (n : Nat) (cs : List Char) : dropShown n cs <:+ cs := by
  induction cs generalizing n with
  | nil => cases n <;> exact List.suffix_refl _
  | cons c cs ih =>
    cases n with
    | zero => exact List.suffix_refl _
    | succ n =>
      unfold dropShown
      split
      · exact (ih (n + 1)).trans (List.suffix_cons c cs)
      · exact (ih n).trans (List.suffix_cons c cs)

theorem head?_encode_ne {set : Char → Bool} {cs : List Char} {c : Char} (hc : c ≠ '%')
    (h : cs.head? ≠ some c) : (encode set cs).head? ≠ some c := by
  cases cs with
  | nil => simp [encode]
  | cons d cs =>
    have hd : d ≠ c := by simpa using h
    unfold encode
    rw [List.flatMap_cons]
    split
    · cases hbytes : String.utf8EncodeChar d with
      | nil => exact absurd hbytes String.utf8EncodeChar_ne_nil
      | cons b bytes => simpa [encodeByte] using hc.symm
    · simpa using hd

/-! ## Authorities and paths -/

variable [DomainMapping]

theorem FrontSettled.withTail (h : FrontSettled u) (t : Tail) : Settled (withTail t u) :=
  ⟨h.scheme, Or.inl h.front, query_withTail t u, fragment_withTail t u⟩

/-- A new fragment leaves the query as it is. -/
theorem Settled.withFragment (h : Settled u) (t : Tail)
    (hshown : IsOpaquePath u → t.fragment.isSome = true) :
    Settled { withTail t u with query := u.query } := by
  refine ⟨h.scheme, ?_, h.query, fragment_withTail t u⟩
  refine h.front.imp id fun hfixed => ⟨hfixed.scheme, hfixed.authority, hfixed.bare,
    hfixed.text, fun _ hnone => ?_⟩
  obtain ⟨f, hf⟩ := Option.isSome_iff_exists.1 (hshown hfixed)
  simp [withTail, hf] at hnone

theorem Settled.frontSettled (h : Settled u) (hfixed : u.isOpaque = false) : FrontSettled u := by
  refine ⟨h.scheme, h.front.resolve_right fun ho => ?_⟩
  rw [ho.isOpaque] at hfixed
  simp at hfixed

/-- A special URL is never opaque. -/
theorem Settled.not_isOpaque_of_isSpecial (h : Settled u) (hspecial : isSpecial u.scheme = true) :
    u.isOpaque = false := by
  have hauthority : u.authority.isNone = false := by
    have hfront := h.isFront hspecial
    generalize u.authority = authority at hfront ⊢
    cases hfront with
    | hosted | file => rfl
    | rooted hno => cases hspecial.symm.trans hno
  simp [Url.isOpaque, hauthority]

theorem settled_afterSlashes [LawfulDomainMapping] {scheme : String}
    (hscheme : IsSchemeName scheme.toList) (hfile : scheme ≠ "file") {cs : List Char}
    (h : afterSlashes scheme t cs = .ok u) : Settled u := by
  simp only [afterSlashes] at h
  obtain ⟨⟨a, rest⟩, hread, h⟩ := exists_of_bind_eq_ok h
  obtain rfl := Except.ok.inj h
  have ha := isAuthority_of_parseAuthority hread
  refine FrontSettled.withTail ⟨hscheme, .hosted hfile ha ?_⟩ t
  split
  · exact Or.inl (isPath_pathText isOpenPath_root _)
  · rename_i hnone
    right
    simp only [Bool.or_eq_true, Bool.not_eq_true', not_or, Bool.not_eq_true] at hnone
    exact ⟨hnone.1, rfl⟩

/-- Another path in the place of one that is settled. -/
theorem FrontSettled.withPath (h : FrontSettled u) (hfile : u.scheme ≠ "file") {path : String}
    (hpath : IsPath (pathKind u.scheme) path.toList) : FrontSettled { u with path } := by
  refine ⟨h.scheme, ?_⟩
  have hfront := h.front
  generalize u.authority = authority at hfront ⊢
  cases hfront with
  | hosted _ ha _ => exact .hosted hfile ha (Or.inl hpath)
  | rooted hspecial _ => exact .rooted hspecial hpath
  | file hscheme => exact absurd hscheme hfile

/-- What is resolved goes behind the path of the base up to its last slash. -/
theorem FrontSettled.isOpenPath (h : FrontSettled u) (hfile : u.scheme ≠ "file") :
    IsOpenPath (pathKind u.scheme) (withSlash (dropLastSegment false u.path.toList)) := by
  have hkind : decide (pathKind u.scheme = .file) = false := by
    simpa [pathKind_eq_file_iff] using hfile
  have hopen {path : List Char} (hpath : IsPath (pathKind u.scheme) path) :
      IsOpenPath (pathKind u.scheme) (withSlash (dropLastSegment false path)) := by
    have := hpath.dropLastSegment.toIsPath.withSlash
    rwa [hkind] at this
  have hfront := h.front
  generalize u.authority = authority at hfront
  generalize u.path.toList = path at hfront ⊢
  cases hfront with
  | hosted _ _ hpath =>
    rcases hpath with hpath | ⟨-, rfl⟩
    · exact hopen hpath
    · exact isOpenPath_root
  | rooted _ hpath => exact hopen hpath
  | file hscheme => exact absurd hscheme hfile

theorem settled_parseRelative [LawfulDomainMapping] {b : Url} (hb : Settled b)
    (hopen : b.isOpaque = false) (hfile : b.scheme ≠ "file") (h : parseRelative b t = .ok u) :
    Settled u := by
  have hfront := hb.frontSettled hopen
  have hat {start : List Char} (hstart : IsOpenPath (pathKind b.scheme) start) (text : List Char) :
      Settled (withTail t { b with path := pathText b.scheme start text }) :=
    (hfront.withPath hfile (isPath_pathText hstart text)).withTail t
  simp only [parseRelative] at h
  split at h
  · split at h
    · obtain rfl := Except.ok.inj h
      exact hfront.withTail t
    · obtain rfl := Except.ok.inj h
      exact hb.withFragment t fun ho => absurd ho.isOpaque (by simp [hopen])
  · split at h
    · split at h
      · exact settled_afterSlashes hb.scheme hfile h
      · split at h
        · exact settled_afterSlashes hb.scheme hfile h
        · obtain rfl := Except.ok.inj h
          exact hat isOpenPath_root _
    · obtain rfl := Except.ok.inj h
      exact hat (hfront.isOpenPath hfile) _

/-! ## Opaque paths -/

/-- A URL that is not special is settled if what follows its scheme does not end in a blank. -/
theorem settled_parseNonSpecial [LawfulDomainMapping] {scheme : String}
    (hscheme : IsSchemeName scheme.toList) (hspecial : isSpecial scheme = false) {cs : List Char}
    (hcs : EndsShown cs) (h : parseNonSpecial scheme (splitTail cs) = .ok u) : Settled u := by
  have hfile := ne_file_of_not_isSpecial hspecial
  unfold parseNonSpecial at h
  split at h
  · exact settled_afterSlashes hscheme hfile h
  · obtain rfl := Except.ok.inj h
    exact FrontSettled.withTail
      ⟨hscheme, .rooted hspecial (isPath_pathText isOpenPath_root _)⟩ _
  · rename_i _ hroot
    obtain rfl := Except.ok.inj h
    refine ⟨hscheme, Or.inr ⟨hspecial, rfl, ?_, ?_, ?_⟩, query_withTail _ _, fragment_withTail _ _⟩
    · rw [path_withTail, String.toList_ofList]
      refine head?_encode_ne (by decide) fun hhead => ?_
      obtain ⟨rest, hrest⟩ := List.head?_eq_some_iff.1 hhead
      exact hroot rest hrest
    · rw [path_withTail, String.toList_ofList]
      intro c hc
      have hcontrols : ∀ c ∈ encode inControls (splitTail cs).shown, inControls c = false :=
        forall_not_encode (by decide) _
      have hmarks : ∀ c ∈ encode inControls (splitTail cs).shown, (c = '?' || c = '#') = false :=
        forall_mem_encode (p := fun c => c = '?' || c = '#') (by decide) fun c hc _ => by
          simpa using splitTail_front c (List.mem_of_mem_filter hc)
      exact ⟨hcontrols c hc, by simpa using hmarks c hc⟩
    · intro hquery hfragment
      rw [path_withTail, String.toList_ofList]
      have hfront : (splitTail cs).front = cs :=
        splitTail_front_eq (Option.map_eq_none_iff.1 hquery) (Option.map_eq_none_iff.1 hfragment)
      rw [Tail.shown, hfront]
      exact hcs.withoutBreaks.encode inControls

/-! ## Files -/

/-- The URL of a file whose path was resolved. -/
theorem settled_fileUrl {host : String} (hhost : host = "" ∨ IsFileHost host) {start : List Char}
    (hstart : IsOpenPath .file start) (text : List Char) (t : Tail) :
    Settled (fileUrl t host (String.ofList (resolvePath .file start text).text)) := by
  obtain ⟨hpath, hsingle⟩ := isPath_resolvePath hstart text
  refine FrontSettled.withTail ⟨isSchemeName_file, ?_⟩ t
  refine .file rfl hhost ?_ ?_
  · rwa [String.toList_ofList]
  · rw [String.toList_ofList]
    exact hsingle rfl

theorem settled_fileAfterSlashes [LawfulDomainMapping] (h : fileAfterSlashes t = .ok u) :
    Settled u := by
  simp only [fileAfterSlashes, pathText_file] at h
  split at h
  · obtain rfl := Except.ok.inj h
    exact settled_fileUrl (Or.inl rfl) isOpenPath_root _ t
  · split at h
    · obtain rfl := Except.ok.inj h
      exact settled_fileUrl (Or.inl rfl) isOpenPath_root _ t
    · obtain ⟨host, hhost, h⟩ := exists_of_bind_eq_ok h
      split at h
      · obtain rfl := Except.ok.inj h
        exact settled_fileUrl (Or.inl rfl) isOpenPath_root _ t
      · rename_i hremote
        obtain rfl := Except.ok.inj h
        obtain ⟨htext, hnamed, hback⟩ := parseHost_spec hhost
        refine settled_fileUrl ?_ isOpenPath_root _ t
        split
        · exact Or.inl rfl
        · exact Or.inr ⟨htext, hnamed, hremote, hback⟩

/-- The host that a file lends to what is resolved against it. -/
theorem Settled.isFileHost (h : Settled u) (hfile : u.scheme = "file") :
    u.host = "" ∨ IsFileHost u.host := by
  obtain ⟨host, ha, hhost, -⟩ := h.file_front hfile
  simpa [Url.host, ha] using hhost

theorem settled_fileAtRoot {base : Option Url} (hbase : ∀ b ∈ base, Settled b ∧ b.scheme = "file")
    {c : Char} {cs : List Char} (hshown : t.shown = c :: cs) (hc : isSlash true c = true) :
    Settled (fileAtRoot base t) := by
  have hroot {host : String} (hhost : host = "" ∨ IsFileHost host) :
      Settled (fileUrl t host (pathText "file" [] t.front)) := by
    obtain ⟨breaks, rest, hfront, hbreaks, -, -⟩ := List.filter_eq_cons_iff.1 hshown
    have hslash : isSlash PathKind.file.isSpecial c = true := hc
    rw [pathText_file, hfront, resolvePath_nil (fun d hd => by simpa using hbreaks d hd) hslash]
    exact settled_fileUrl hhost isOpenPath_root rest t
  unfold fileAtRoot
  split
  · exact hroot (Or.inl rfl)
  · rename_i b
    obtain ⟨hb, hfile⟩ := hbase b rfl
    obtain ⟨-, -, -, hpath, -⟩ := hb.file_front hfile
    dsimp only
    split
    · exact hroot (Or.inl rfl)
    · split
      · rename_i hdrive
        rw [pathText_file]
        refine settled_fileUrl (Or.inl rfl) (isOpenPath_drive hdrive fun d hd => ?_) _ t
        exact hpath.text d (List.mem_of_mem_drop ((List.takeWhile_prefix _).subset hd))
      · exact hroot (hb.isFileHost hfile)

theorem settled_fileBeside {base : Option Url} (hbase : ∀ b ∈ base, Settled b ∧ b.scheme = "file") :
    Settled (fileBeside base t) := by
  unfold fileBeside
  split
  · rw [pathText_file]
    exact settled_fileUrl (Or.inl rfl) isOpenPath_root _ t
  · rename_i b
    obtain ⟨hb, hfile⟩ := hbase b rfl
    split
    · rw [pathText_file]
      exact settled_fileUrl (Or.inl rfl) isOpenPath_root _ t
    · obtain ⟨-, -, -, hpath, -⟩ := hb.file_front hfile
      rw [pathText_file]
      exact settled_fileUrl (hb.isFileHost hfile) hpath.dropLastSegment _ t

theorem settled_parseFile [LawfulDomainMapping] {base : Option Url}
    (hbase : ∀ b ∈ base, Settled b ∧ b.scheme = "file") (h : parseFile base t = .ok u) :
    Settled u := by
  unfold parseFile at h
  split at h
  · rename_i c cs hshown
    split at h
    · rename_i hc
      split at h
      · exact settled_fileAfterSlashes h
      · obtain rfl := Except.ok.inj h
        exact settled_fileAtRoot hbase hshown hc
    · obtain rfl := Except.ok.inj h
      exact settled_fileBeside hbase
  · split at h
    · obtain rfl := Except.ok.inj h
      exact FrontSettled.withTail ⟨isSchemeName_file,
        .file rfl (Or.inl rfl) isOpenPath_root.toIsPath (by decide)⟩ t
    · rename_i b
      obtain ⟨hb, hfile⟩ := hbase b rfl
      have hopen := hb.not_isOpaque_of_isSpecial (by rw [hfile]; decide)
      split at h
      · obtain rfl := Except.ok.inj h
        exact (hb.frontSettled hopen).withTail t
      · obtain rfl := Except.ok.inj h
        exact hb.withFragment t fun ho => absurd ho.isOpaque (by simp [hopen])

/-! ## All texts -/

theorem settled_of_parseWith [LawfulDomainMapping] {base : Option Url}
    (hbase : ∀ b ∈ base, Settled b) {text : String} (h : parseWith base text = .ok u) :
    Settled u := by
  have hends : EndsShown (trimInput text.toList) := getLast?_trimInput text.toList
  simp only [parseWith] at h
  split at h
  · rename_i scheme hscheme
    have hname := isSchemeName_of_scheme? hscheme
    split at h
    · refine settled_parseFile (fun b hb => ?_) h
      obtain ⟨hb, hfile⟩ := Option.mem_filter_iff.1 hb
      exact ⟨hbase b hb, by simpa using hfile⟩
    · rename_i hfile
      split at h
      · rename_i hspecial
        split at h
        · rename_i b
          split at h
          · rename_i hsame
            rw [← hsame.1] at hfile hspecial
            exact settled_parseRelative (hbase b rfl)
              ((hbase b rfl).not_isOpaque_of_isSpecial hspecial) hfile h
          · exact settled_afterSlashes hname hfile h
        · exact settled_afterSlashes hname hfile h
      · rename_i hspecial
        exact settled_parseNonSpecial hname (by simpa using hspecial)
          (hends.suffix (dropShown_suffix _ _)) h
  · split at h
    · simp at h
    · rename_i b
      have hb := hbase b rfl
      split at h
      · rename_i hfragment
        obtain rfl := Except.ok.inj h
        exact hb.withFragment _ fun _ => hfragment.2.2
      · split at h
        · simp at h
        · rename_i hopen
          split at h
          · rename_i hfile
            refine settled_parseFile (fun b' hb' => ?_) h
            obtain rfl := Option.some.inj hb'
            exact ⟨hb, hfile⟩
          · rename_i hfile
            exact settled_parseRelative hb (by simpa using hopen) hfile h

end

/-- The URLs that reading yields. -/
inductive IsRead [DomainMapping] : Url → Prop where
  | read {base : Option Url} {text : String} {u : Url} : (∀ b ∈ base, IsRead b) →
      parseWith base text = .ok u → IsRead u

theorem IsRead.settled [DomainMapping] [LawfulDomainMapping] {u : Url} (h : IsRead u) : Settled u := by
  induction h with
  | read _ hread ih => exact settled_of_parseWith ih hread

/-- The text of a URL that was read is read again, whatever it is read against. -/
theorem IsRead.readAgain [DomainMapping] [LawfulDomainMapping] {u : Url} (h : IsRead u)
    (base : Option Url) :
    ReadAgain u (parseWith base u.serialize) :=
  parseWith_serialize h.settled base

end Url

end Wayfinder
