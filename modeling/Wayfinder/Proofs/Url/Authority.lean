import Mathlib.Data.List.TakeDrop
import Wayfinder.Proofs.Url.Host

/-!
# Authorities are read back

User and password are encoded so far that the marks between the parts of an authority stand for
nothing else.

    parseAuthority scheme ended a.serialize = ok (a, [])   for an authority that was read, if its
                                                           host is legible (parseAuthority_serialize)
    a.serialize = b.serialize → a = b                      (IsAuthority.eq_of_serialize_eq)
-/

namespace Wayfinder

namespace Url

/-! ## Authorities that were read -/

/-- The host that a text denotes in a URL of a scheme. -/
def hostOf [DomainMapping] (scheme : String) (cs : List Char) : Except UrlError String :=
  if isSpecial scheme then parseHost cs else parseOpaqueHost cs

/-- Whether a host is read again in a URL of a scheme. -/
def isLegibleIn (scheme host : String) : Bool := !isSpecial scheme || hasShortLabels host.toList

/-- An authority as it is read in a URL of a scheme. -/
structure IsAuthority [DomainMapping] (scheme : String) (a : Authority) : Prop where
  user : ∀ c ∈ a.user.toList, inUserinfo c = false
  password : ∀ p ∈ a.password, p ≠ "" ∧ ∀ c ∈ p.toList, inUserinfo c = false
  hostText : IsHostText a.host.toList
  host : hostOf scheme a.host.toList =
    if isLegibleIn scheme a.host then .ok a.host else .error .invalidDomain
  named : isSpecial scheme = true → a.host ≠ ""
  port : ∀ n ∈ a.port, n ≤ 65535 ∧ defaultPort? scheme ≠ some n
  bare : a.host = "" → a.user = "" ∧ a.password = none ∧ a.port = none

/-! ## User and password -/

/-- User and password as they stand before the host. -/
def userinfoText (a : Authority) : List Char :=
  a.user.toList ++ a.password.elim [] fun p => ':' :: p.toList

/-- The port as it stands behind the host. -/
def portText (a : Authority) : List Char := a.port.elim [] fun n => ':' :: Text.digits n

/-- What stands before the `@`, if there is one. -/
def userinfo? (a : Authority) : Option (List Char) :=
  if a.user = "" ∧ a.password = none then none else some (userinfoText a)

theorem toList_serialize_authority (a : Authority) : a.serialize.toList =
    (if a.user = "" ∧ a.password = none then [] else userinfoText a ++ ['@']) ++
      (a.host.toList ++ portText a) := by
  obtain ⟨user, password, host, port⟩ := a
  simp only [Authority.serialize, userinfoText, portText]
  split <;> cases password <;> cases port <;>
    simp [toString, Nat.toList_repr, Text.digits]

theorem splitUserinfo_append (front : List Char) {after : List Char} (h : ∀ c ∈ after, c ≠ '@') :
    splitUserinfo (front ++ '@' :: after) = (some front, after) := by
  have hafter : ∀ c ∈ after.reverse, decide (c ≠ '@') = true := fun c hc => by
    simpa using h c (List.mem_reverse.1 hc)
  have hreverse : (front ++ '@' :: after).reverse = after.reverse ++ '@' :: front.reverse := by simp
  unfold splitUserinfo
  rw [List.span_eq_takeWhile_dropWhile, hreverse, List.takeWhile_append_of_pos hafter,
    List.dropWhile_append_of_pos hafter]
  simp

theorem splitUserinfo_of_forall {cs : List Char} (h : ∀ c ∈ cs, c ≠ '@') :
    splitUserinfo cs = (none, cs) := by
  have hdrop : cs.reverse.dropWhile (· ≠ '@') = [] :=
    List.dropWhile_eq_nil_iff.2 fun c hc => by simpa using h c (List.mem_reverse.1 hc)
  unfold splitUserinfo
  rw [List.span_eq_takeWhile_dropWhile, hdrop]

section
variable [DomainMapping] {scheme : String} {a : Authority}

theorem parseUserinfo_userinfoText (ha : IsAuthority scheme a) :
    parseUserinfo (userinfoText a) = (a.user, a.password) := by
  have htext (s : String) (hs : ∀ c ∈ s.toList, inUserinfo c = false) :
      String.ofList (encode inUserinfo s.toList) = s := by
    rw [encode_of_forall_not hs, String.ofList_toList]
  have hcolon : ∀ c ∈ a.user.toList, decide (c ≠ ':') = true := fun c hc => by
    have := ha.user c hc
    simp only [decide_eq_true_eq]
    rintro rfl
    exact absurd this (by decide)
  cases hpassword : a.password with
  | none =>
    have htake : a.user.toList.takeWhile (fun c => decide (c ≠ ':')) = a.user.toList :=
      List.takeWhile_eq_self_iff.2 hcolon
    simp only [userinfoText, hpassword, Option.elim_none, List.append_nil, parseUserinfo, htake,
      List.drop_length]
    rw [htext _ ha.user]
  | some p =>
    obtain ⟨hne, hp⟩ := ha.password p hpassword
    have htake : (a.user.toList ++ ':' :: p.toList).takeWhile (fun c => decide (c ≠ ':')) =
        a.user.toList := takeWhile_append_eq_left hcolon (by simp)
    simp only [userinfoText, hpassword, Option.elim_some, parseUserinfo, htake, List.drop_left]
    cases hcs : p.toList with
    | nil => exact absurd (String.toList_eq_nil_iff.1 hcs) hne
    | cons c cs =>
      simp only
      rw [← hcs, htext _ ha.user, htext _ hp]

/-! ## Ports -/

theorem parsePort_portText (ha : IsAuthority scheme a) :
    parsePort scheme ((portText a).drop 1) = .ok (a.port, []) := by
  cases hport : a.port with
  | none => simp [portText, hport, parsePort]
  | some n =>
    obtain ⟨hle, hdefault⟩ := ha.port n hport
    have htake : (Text.digits n).takeWhile Char.isDigit = Text.digits n :=
      List.takeWhile_eq_self_iff.2 fun c hc => Nat.isDigit_of_mem_toDigits (by decide) (by decide) hc
    have hne : Text.digits n ≠ [] := Nat.toDigits_ne_nil
    have hsmall : ¬ 65535 < n := by omega
    simp [portText, hport, parsePort, htake, hne, Text.number_digits, hdefault, hsmall]

omit [DomainMapping] in
/-- A port that is read is one that a URL of the scheme has to name. -/
theorem port_of_parsePort {cs rest : List Char} {port : Option Nat}
    (h : parsePort scheme cs = .ok (port, rest)) :
    ∀ n ∈ port, n ≤ 65535 ∧ defaultPort? scheme ≠ some n := by
  simp only [parsePort] at h
  split at h
  · simp at h
  · split at h
    · obtain ⟨rfl, -⟩ := Prod.mk.inj (Except.ok.inj h)
      simp
    · split at h
      · simp at h
      · rename_i hle
        split at h
        · obtain ⟨rfl, -⟩ := Prod.mk.inj (Except.ok.inj h)
          simp
        · rename_i hdefault
          obtain ⟨rfl, -⟩ := Prod.mk.inj (Except.ok.inj h)
          intro n hn
          obtain rfl := Option.some.inj hn
          exact ⟨Nat.le_of_not_lt hle, hdefault⟩

/-! ## All parts -/

theorem hostOf_bind {α : Type} (scheme : String) (cs : List Char) (k : String → Except UrlError α) :
    (if isSpecial scheme = true then parseHost cs >>= k else parseOpaqueHost cs >>= k) =
      hostOf scheme cs >>= k := by
  unfold hostOf
  split <;> rfl

/-- When an authority is read, part by part. -/
theorem parseAuthority_eq_ok_iff {ended : Bool} {cs rest : List Char}
    {userinfo : Option (List Char)} {after hostText behind : List Char}
    (hsplit : splitUserinfo cs = (userinfo, after))
    (hhost : splitHost false after = (hostText, behind)) :
    parseAuthority scheme ended cs = .ok (a, rest) ↔
      ¬ (userinfo = some [] ∧ after = [] ∧ ended = true) ∧
      ¬ (isSpecial scheme = true ∧ hostText = []) ∧
      hostOf scheme hostText = .ok a.host ∧
      ¬ (a.host = "" ∧ behind ≠ []) ∧
      parsePort scheme (behind.drop 1) = .ok (a.port, rest) ∧
      userinfo.elim ("", none) parseUserinfo = (a.user, a.password) ∧
      ¬ (a.host = "" ∧ (a.user ≠ "" ∨ a.password.isSome = true)) := by
  obtain ⟨user, password, host, port⟩ := a
  simp only [parseAuthority, hsplit, hhost]
  generalize userinfo.elim ("", none) parseUserinfo = u
  obtain ⟨user', password'⟩ := u
  by_cases hempty : userinfo = some [] ∧ after = [] ∧ ended = true
  · simp [hempty, bind, Except.bind]
  by_cases hnone : isSpecial scheme = true ∧ hostText = []
  · simp [hempty, hnone, bind, Except.bind]
  simp only [hempty, hnone, not_false_eq_true, true_and, if_false, hostOf_bind]
  cases hostOf scheme hostText with
  | error e => simp [bind, Except.bind]
  | ok host' =>
    by_cases hbehind : host' = "" ∧ behind ≠ []
    · simp only [bind, Except.bind]
      rw [if_pos hbehind]
      constructor
      · rintro ⟨⟩
      · rintro ⟨hhost, hno, -⟩
        obtain rfl := Except.ok.inj hhost
        exact absurd hbehind hno
    cases hport : parsePort scheme (behind.drop 1) with
    | error e => simp [hbehind, bind, Except.bind]
    | ok p =>
      obtain ⟨port', rest'⟩ := p
      by_cases hcredentials : host' = "" ∧ (user' ≠ "" ∨ password'.isSome = true)
      · simp only [bind, Except.bind]
        rw [if_neg hbehind, if_pos hcredentials]
        constructor
        · rintro ⟨⟩
        · rintro ⟨hhost, -, -, hcred, hno⟩
          obtain rfl := Except.ok.inj hhost
          obtain ⟨rfl, rfl⟩ := Prod.mk.inj hcred
          exact absurd hcredentials hno
      · simp only [bind, Except.bind]
        rw [if_neg hbehind, if_neg hcredentials]
        constructor
        · rintro ⟨⟩
          exact ⟨rfl, hbehind, rfl, rfl, hcredentials⟩
        · rintro ⟨hhost, -, hread, hcred, -⟩
          obtain rfl := Except.ok.inj hhost
          obtain ⟨rfl, rfl⟩ := Prod.mk.inj hcred
          obtain ⟨rfl, rfl⟩ := Prod.mk.inj (Except.ok.inj hread)
          rfl

/-- An authority is refused if its host is. -/
theorem parseAuthority_eq_error {ended : Bool} {cs : List Char}
    {userinfo : Option (List Char)} {after hostText behind : List Char} {e : UrlError}
    (hsplit : splitUserinfo cs = (userinfo, after))
    (hhost : splitHost false after = (hostText, behind))
    (hempty : ¬ (userinfo = some [] ∧ after = [] ∧ ended = true))
    (hnone : ¬ (isSpecial scheme = true ∧ hostText = []))
    (he : hostOf scheme hostText = .error e) : parseAuthority scheme ended cs = .error e := by
  simp only [parseAuthority, hsplit, hhost, hempty, hnone, if_false, hostOf_bind, he]
  rfl

/-! ## Reading back -/

theorem of_mem_userinfoText (ha : IsAuthority scheme a) {c : Char} (hc : c ∈ userinfoText a) :
    c = ':' ∨ inUserinfo c = false := by
  rcases List.mem_append.1 hc with hc | hc
  · exact Or.inr (ha.user c hc)
  · cases hpassword : a.password with
    | none => simp [hpassword] at hc
    | some p =>
      rw [hpassword] at hc
      exact (List.mem_cons.1 hc).imp_right fun hc => (ha.password p hpassword).2 c hc

omit [DomainMapping] in
theorem of_mem_portText {c : Char} (hc : c ∈ portText a) : c = ':' ∨ c.isDigit = true := by
  cases hport : a.port with
  | none => simp [portText, hport] at hc
  | some n =>
    simp only [portText, hport] at hc
    exact (List.mem_cons.1 hc).imp_right fun hc =>
      Nat.isDigit_of_mem_toDigits (by decide) (by decide) hc

/-- Host and port are written with nothing that ends an authority, and without `@`. -/
theorem isHostChar_of_mem (ha : IsAuthority scheme a) {c : Char}
    (hc : c ∈ a.host.toList ++ portText a) : isHostChar c = true := by
  rcases List.mem_append.1 hc with hc | hc
  · exact ha.hostText.1 c hc
  · rcases of_mem_portText hc with rfl | hc
    · decide
    · exact isDigit_ascii (p := fun c => isHostChar c = true) (by decide) hc

/-- Whether a character can stand in an authority. -/
def isAuthorityChar (c : Char) : Bool := !inControls c && c ∉ [' ', '#', '/', '?', '\\']

omit [DomainMapping] in
theorem isAuthorityChar_of_isHostChar {c : Char} (h : isHostChar c = true) :
    isAuthorityChar c = true := by
  simp only [isHostChar, List.mem_cons, Bool.and_eq_true, decide_eq_true_eq, not_or] at h
  simp [isAuthorityChar, h]

/-- An authority is written with nothing that ends it. -/
theorem isAuthorityChar_of_mem (ha : IsAuthority scheme a) {c : Char}
    (hc : c ∈ a.serialize.toList) : isAuthorityChar c = true := by
  have huser : ∀ n < 128, inUserinfo (Char.ofNat n) = false →
      isAuthorityChar (Char.ofNat n) = true := by decide
  rw [toList_serialize_authority] at hc
  rcases List.mem_append.1 hc with hc | hc
  · split at hc
    · simp at hc
    · rcases List.mem_append.1 hc with hc | hc
      · rcases of_mem_userinfoText ha hc with rfl | hc
        · decide
        · have hascii : c.toNat < 128 := by
            simp only [inUserinfo, inPath, inFragment, Bool.or_eq_false_iff] at hc
            have := toNat_of_not_inControls hc.1.1.1
            omega
          exact forall_ascii (p := fun c => inUserinfo c = false → isAuthorityChar c = true) huser
            hascii hc
      · obtain rfl : c = '@' := by simpa using hc
        decide
  · exact isAuthorityChar_of_isHostChar (isHostChar_of_mem ha hc)

theorem splitUserinfo_serialize (ha : IsAuthority scheme a) :
    splitUserinfo a.serialize.toList = (userinfo? a, a.host.toList ++ portText a) := by
  have hat : ∀ c ∈ a.host.toList ++ portText a, c ≠ '@' := fun c hc => by
    rintro rfl
    exact absurd (isHostChar_of_mem ha hc) (by decide)
  rw [toList_serialize_authority, userinfo?]
  split
  · exact splitUserinfo_of_forall hat
  · rw [List.append_assoc, List.singleton_append, splitUserinfo_append _ hat]

theorem splitHost_serialize (ha : IsAuthority scheme a) :
    splitHost false (a.host.toList ++ portText a) = (a.host.toList, portText a) :=
  splitHost_append ha.hostText (by cases h : a.port <;> simp [portText, h])

theorem parseUserinfo_userinfo? (ha : IsAuthority scheme a) :
    (userinfo? a).elim ("", none) parseUserinfo = (a.user, a.password) := by
  rw [userinfo?]
  split
  · rename_i hbare
    simp [hbare]
  · exact parseUserinfo_userinfoText ha

omit [DomainMapping] in
theorem userinfo?_ne (a : Authority) : userinfo? a ≠ some [] := by
  unfold userinfo?
  split
  · simp
  · rename_i hbare
    intro hempty
    have hnil : userinfoText a = [] := Option.some.inj hempty
    rw [userinfoText, List.append_eq_nil_iff] at hnil
    refine hbare ⟨String.toList_eq_nil_iff.1 hnil.1, ?_⟩
    cases hpassword : a.password with
    | none => rfl
    | some p => simp [hpassword] at hnil

/-- No two authorities are written alike. -/
theorem IsAuthority.eq_of_serialize_eq {b : Authority} (ha : IsAuthority scheme a)
    (hb : IsAuthority scheme b) (h : a.serialize = b.serialize) : a = b := by
  have hsplit := splitUserinfo_serialize ha
  rw [h, splitUserinfo_serialize hb] at hsplit
  obtain ⟨huserinfo, hrest⟩ := Prod.mk.inj hsplit
  have hcredentials := parseUserinfo_userinfo? ha
  rw [← huserinfo, parseUserinfo_userinfo? hb] at hcredentials
  have hparts := splitHost_serialize ha
  rw [← hrest, splitHost_serialize hb] at hparts
  have hport := parsePort_portText ha
  rw [← (Prod.mk.inj hparts).2, parsePort_portText hb] at hport
  obtain ⟨user, password, host, port⟩ := a
  obtain ⟨user', password', host', port'⟩ := b
  obtain ⟨rfl, rfl⟩ := Prod.mk.inj hcredentials
  obtain rfl := String.toList_inj.1 (Prod.mk.inj hparts).1
  obtain ⟨rfl, -⟩ := Prod.mk.inj (Except.ok.inj hport)
  rfl

/-- An authority is read back, unless its host has become too long. -/
theorem parseAuthority_serialize (ha : IsAuthority scheme a) (ended : Bool) :
    parseAuthority scheme ended a.serialize.toList =
      if isLegibleIn scheme a.host then .ok (a, []) else .error .invalidDomain := by
  have hempty : ¬ (userinfo? a = some [] ∧ a.host.toList ++ portText a = [] ∧ ended = true) :=
    fun h => userinfo?_ne a h.1
  have hnamed : ¬ (isSpecial scheme = true ∧ a.host.toList = []) := fun h =>
    ha.named h.1 (String.toList_eq_nil_iff.1 h.2)
  have hport : ¬ (a.host = "" ∧ portText a ≠ []) := fun h => by
    obtain ⟨-, -, hnone⟩ := ha.bare h.1
    exact h.2 (by simp [portText, hnone])
  have hcredentials : ¬ (a.host = "" ∧ (a.user ≠ "" ∨ a.password.isSome = true)) := fun h => by
    obtain ⟨huser, hpassword, -⟩ := ha.bare h.1
    simp [huser, hpassword] at h
  have hhost := ha.host
  split at hhost
  · rw [if_pos ‹_›, parseAuthority_eq_ok_iff (splitUserinfo_serialize ha) (splitHost_serialize ha)]
    exact ⟨hempty, hnamed, hhost, hport, parsePort_portText ha, parseUserinfo_userinfo? ha,
      hcredentials⟩
  · rw [if_neg ‹_›]
    exact parseAuthority_eq_error (splitUserinfo_serialize ha) (splitHost_serialize ha) hempty hnamed
      hhost

omit [DomainMapping] in
theorem of_parseUserinfo (cs : List Char) :
    (∀ c ∈ (parseUserinfo cs).1.toList, inUserinfo c = false) ∧
      ∀ p ∈ (parseUserinfo cs).2, p ≠ "" ∧ ∀ c ∈ p.toList, inUserinfo c = false := by
  have htext (cs : List Char) : ∀ c ∈ (String.ofList (encode inUserinfo cs)).toList,
      inUserinfo c = false := by
    rw [String.toList_ofList]
    exact forall_not_encode (by decide) cs
  simp only [parseUserinfo]
  split
  · refine ⟨htext _, fun p hp => ?_⟩
    obtain rfl := Option.some.inj hp
    refine ⟨?_, htext _⟩
    simpa using encode_ne_nil (by simp)
  · exact ⟨htext _, by simp⟩

/-- Every authority that is read is of this kind. -/
theorem isAuthority_of_parseAuthority [LawfulDomainMapping] {ended : Bool} {cs rest : List Char}
    (h : parseAuthority scheme ended cs = .ok (a, rest)) : IsAuthority scheme a := by
  rcases hsplit : splitUserinfo cs with ⟨userinfo, after⟩
  rcases hparts : splitHost false after with ⟨hostText, behind⟩
  obtain ⟨-, hnamed, hhost, hport, hread, hcredentials, hbare⟩ :=
    (parseAuthority_eq_ok_iff hsplit hparts).1 h
  have huserinfo : (∀ c ∈ a.user.toList, inUserinfo c = false) ∧
      ∀ p ∈ a.password, p ≠ "" ∧ ∀ c ∈ p.toList, inUserinfo c = false := by
    cases userinfo with
    | none =>
      obtain ⟨huser, hpassword⟩ := Prod.mk.inj hcredentials
      rw [← huser, ← hpassword]
      simp
    | some userinfo =>
      have := of_parseUserinfo userinfo
      rwa [show parseUserinfo userinfo = (a.user, a.password) from hcredentials] at this
  have hhostBack : IsHostText a.host.toList ∧ (hostOf scheme a.host.toList =
      if isLegibleIn scheme a.host then .ok a.host else .error .invalidDomain) ∧
      (isSpecial scheme = true → a.host ≠ "") := by
    unfold hostOf isLegibleIn at *
    split at hhost
    · rename_i hspecial
      obtain ⟨htext, hne, hback⟩ := parseHost_spec hhost
      rw [if_pos hspecial, hspecial, Bool.not_true, Bool.false_or]
      exact ⟨htext, hback, fun _ => hne⟩
    · rename_i hspecial
      obtain ⟨htext, hback⟩ := parseOpaqueHost_spec hhost
      rw [if_neg hspecial, if_pos (by simp [hspecial])]
      exact ⟨htext, hback, fun h => absurd h hspecial⟩
  refine ⟨huserinfo.1, huserinfo.2, hhostBack.1, hhostBack.2.1, hhostBack.2.2,
    port_of_parsePort hread, fun hempty => ?_⟩
  have hbehind : behind = [] := by
    by_cases h : behind = []
    · exact h
    · exact absurd ⟨hempty, h⟩ hport
  have hnone : a.port = none := by
    rw [hbehind] at hread
    have : parsePort scheme [] = .ok (none, []) := by simp [parsePort]
    rw [List.drop_nil, this] at hread
    exact (Prod.mk.inj (Except.ok.inj hread)).1.symm
  simp only [hempty, true_and, not_or, Bool.not_eq_true, Option.isSome_eq_false_iff,
    Option.isNone_iff_eq_none] at hbare
  exact ⟨by simpa using hbare.1, hbare.2, hnone⟩

end

end Url

end Wayfinder
