import Mathlib.Data.List.Basic
import Wayfinder.Proofs.Url.Text

/-!
# Paths are read back

A path that was resolved starts with a slash, is encoded throughout and has no segment of dots,
unless it starts with the drive of a file: what follows a drive in the same segment is put into a
segment of its own and not looked at again.

    IsPath kind (resolvePath kind start text).text                          (isPath_resolvePath)
    resolvePath kind ['/'] rest = '/' :: rest   for a path without a drive  (resolvePath_rest)
-/

namespace Wayfinder

namespace Url

/-! ## Resolved paths -/

/-- Whether a text is encoded as paths are, with no slash of another kind. -/
def IsPathText (special : Bool) (cs : List Char) : Prop :=
  ∀ c ∈ cs, inPath c = false ∧ (isSlash special c = true → c = '/')

/-- Whether a segment stands for a step in place or up. -/
def isDots (segment : List Char) : Bool :=
  withDots segment = ['.'] || withDots segment = ['.', '.']

def NoDots (path : List Char) : Prop := ∀ s ∈ Text.pieces (· = '/') path, isDots s = false

/-- Whether a path starts with a drive in its normal form. -/
def AtDrive (path : List Char) : Prop :=
  ∃ c rest, path = '/' :: c :: ':' :: rest ∧ c.isAlpha = true ∧ rest.head?.all (· = '/') = true

/-- A path that was resolved. -/
structure IsPath (kind : PathKind) (path : List Char) : Prop where
  rooted : path.head? = some '/'
  text : IsPathText kind.isSpecial path
  plain : NoDots path ∨ kind = .file ∧ AtDrive path

/-- A path that another segment can be put behind: it ends in a slash or in a drive. -/
structure IsOpenPath (kind : PathKind) (path : List Char) : Prop extends IsPath kind path where
  ended : path.getLast? = some '/' ∨ isNormalDrive (lastSegment path) = true

/-! ## Segments without dots -/

theorem noDots_append_slash (a b : List Char) :
    NoDots (a ++ '/' :: b) ↔ NoDots a ∧ NoDots b := by
  unfold NoDots
  rw [Text.pieces_append_cons _ _ _ (by decide), List.forall_mem_append]

theorem noDots_nil : NoDots [] := by simp [NoDots, Text.pieces, isDots, withDots]

theorem noDots_segment {s : List Char} (hs : ∀ c ∈ s, c ≠ '/') : NoDots s ↔ isDots s = false := by
  unfold NoDots
  rw [Text.pieces_of_forall_not _ fun c hc => by simpa using hs c hc]
  simp

theorem noDots_cons_slash (path : List Char) : NoDots ('/' :: path) ↔ NoDots path := by
  have h := noDots_append_slash [] path
  rw [List.nil_append] at h
  rw [h]
  exact and_iff_right noDots_nil

/-! ## Drives -/

theorem exists_of_isDrive {cs : List Char} (h : isDrive cs = true) :
    ∃ c d, cs = [c, d] ∧ c.isAlpha = true ∧ (d = ':' ∨ d = '|') := by
  unfold isDrive at h
  split at h
  · rename_i c d
    simp only [Bool.and_eq_true, Bool.or_eq_true, decide_eq_true_eq] at h
    exact ⟨c, d, rfl, h.1, h.2⟩
  · cases h

theorem exists_of_isNormalDrive {cs : List Char} (h : isNormalDrive cs = true) :
    ∃ c, cs = [c, ':'] ∧ c.isAlpha = true := by
  simp only [isNormalDrive, Bool.and_eq_true, decide_eq_true_eq] at h
  obtain ⟨c, d, rfl, hc, -⟩ := exists_of_isDrive h.1
  obtain rfl : d = ':' := by simpa using h.2
  exact ⟨c, rfl, hc⟩

section
variable {path : List Char}

theorem AtDrive.rooted (h : AtDrive path) : path.head? = some '/' := by
  obtain ⟨c, rest, rfl, -⟩ := h
  rfl

theorem AtDrive.append (h : AtDrive path) {more : List Char}
    (hmore : path.getLast? = some '/' ∨ more.head?.all (· = '/') = true) :
    AtDrive (path ++ more) := by
  obtain ⟨c, rest, rfl, hc, hrest⟩ := h
  refine ⟨c, rest ++ more, rfl, hc, ?_⟩
  cases rest with
  | nil =>
    rcases hmore with hlast | hmore
    · simp at hlast
    · exact hmore
  | cons d rest => exact hrest

theorem AtDrive.take (h : AtDrive path) {n : Nat} (hn : 3 ≤ n) : AtDrive (path.take n) := by
  obtain ⟨c, rest, rfl, hc, hrest⟩ := h
  obtain ⟨n, rfl⟩ := Nat.exists_eq_add_of_le' hn
  refine ⟨c, rest.take n, rfl, hc, ?_⟩
  cases n with
  | zero => rfl
  | succ n =>
    cases rest with
    | nil => rfl
    | cons d rest => exact hrest

/-- A drive is no text that ends in a slash. -/
theorem not_isNormalDrive_of_getLast? (h : path.getLast? = some '/') (n : Nat) :
    isNormalDrive (path.drop n) = false := by
  cases hd : isNormalDrive (path.drop n) with
  | false => rfl
  | true =>
    simp only [isNormalDrive, Bool.and_eq_true, decide_eq_true_eq] at hd
    rw [List.getLast?_drop] at hd
    split at hd
    · simp at hd
    · rw [h] at hd
      simp at hd

end

/-! ## Going up -/

section
variable {kind : PathKind} {path : List Char}

theorem ne_slash_of_mem_lastSegment {c : Char} (h : c ∈ lastSegment path) : c ≠ '/' := by
  have := List.mem_takeWhile_imp (List.mem_reverse.1 h)
  simpa using this

/-- A path with a slash falls into what stands before its last slash and its last segment. -/
theorem exists_eq_append_lastSegment (h : '/' ∈ path) :
    ∃ before, path = before ++ '/' :: lastSegment path ∧ upToLastSlash path = before ++ ['/'] := by
  cases hd : path.reverse.dropWhile (· ≠ '/') with
  | nil =>
    have := List.dropWhile_eq_nil_iff.1 hd '/' (List.mem_reverse.2 h)
    simp at this
  | cons d ds =>
    obtain rfl : d = '/' := by
      have := List.head?_dropWhile_not (fun c => decide (c ≠ '/')) path.reverse
      rw [hd] at this
      simpa using this
    refine ⟨ds.reverse, ?_, by rw [upToLastSlash, hd, List.reverse_cons]⟩
    have hpath := upToLastSlash_append_lastSegment path
    rw [upToLastSlash, hd, List.reverse_cons, List.append_assoc, List.singleton_append] at hpath
    exact hpath.symm

theorem AtDrive.before_slash (h : AtDrive path) {before rest : List Char}
    (hpath : path = before ++ '/' :: rest) (hbefore : before ≠ []) : AtDrive before := by
  have hlength : 3 ≤ before.length := by
    obtain ⟨c, more, rfl, hc, -⟩ := h
    match before, hbefore with
    | [x], _ =>
      obtain rfl : c = '/' := by simp at hpath; exact hpath.2.1
      exact absurd hc (by decide)
    | [x, y], _ => simp at hpath
    | x :: y :: z :: before, _ => simp
  have htake : path.take before.length = before := by rw [hpath, List.take_left]
  rw [← htake]
  exact h.take hlength

/-- What stands before a slash of a path is a path, unless it is nothing. -/
theorem IsPath.before_slash (h : IsPath kind path) {before rest : List Char}
    (hpath : path = before ++ '/' :: rest) (hbefore : before ≠ []) : IsPath kind before := by
  subst hpath
  refine ⟨?_, fun c hc => h.text c (List.mem_append_left _ hc), ?_⟩
  · have hroot := h.rooted
    cases before with
    | nil => exact absurd rfl hbefore
    | cons d before => exact hroot
  · exact h.plain.imp (fun hplain => ((noDots_append_slash _ _).1 hplain).1)
      fun hdrive => ⟨hdrive.1, hdrive.2.before_slash rfl hbefore⟩

theorem isPathText_slash {special : Bool} : IsPathText special ['/'] := by
  intro c hc
  obtain rfl : c = '/' := by simpa using hc
  exact ⟨by decide, fun _ => rfl⟩

theorem isOpenPath_root : IsOpenPath kind ['/'] :=
  ⟨⟨rfl, isPathText_slash, Or.inl ((noDots_cons_slash []).2 noDots_nil)⟩, Or.inl rfl⟩

theorem IsPath.append_slash (h : IsPath kind path) : IsOpenPath kind (path ++ ['/']) := by
  refine ⟨⟨?_, ?_, ?_⟩, Or.inl (by simp)⟩
  · rw [List.head?_append, h.rooted]
    rfl
  · exact fun c hc => (List.mem_append.1 hc).elim (h.text c) (isPathText_slash c)
  · exact h.plain.imp (fun hplain => (noDots_append_slash path []).2 ⟨hplain, noDots_nil⟩)
      fun hdrive => ⟨hdrive.1, hdrive.2.append (Or.inr rfl)⟩

theorem IsPath.withSlash (h : IsPath kind path) : IsOpenPath kind (withSlash path) := by
  unfold Url.withSlash
  split
  · rename_i hlast
    exact ⟨h, Or.inl hlast⟩
  · exact h.append_slash

theorem IsPath.dropLastSlash (h : IsPath kind path) : IsPath kind (dropLastSlash path) := by
  simp only [Url.dropLastSlash]
  split
  · rename_i hcond
    have hpath : path = path.dropLast ++ '/' :: [] :=
      (List.dropLast_append_getLast? '/' hcond.1).symm
    exact h.before_slash hpath (List.ne_nil_of_mem hcond.2.1)
  · exact h

/-- The last segment goes, or is a drive that stays. -/
theorem IsPath.dropLastSegment (h : IsPath kind path) :
    IsOpenPath kind (dropLastSegment (kind = .file) path) := by
  unfold Url.dropLastSegment
  split
  · rename_i hdrive
    exact ⟨h, Or.inr hdrive.2⟩
  · obtain ⟨before, hpath, hup⟩ := exists_eq_append_lastSegment (List.mem_of_mem_head? h.rooted)
    rw [hup]
    by_cases hbefore : before = []
    · rw [hbefore]
      exact isOpenPath_root
    · exact (h.before_slash hpath hbefore).append_slash

theorem IsPath.goUp (h : IsPath kind path) : IsPath kind (goUp (kind = .file) path) :=
  h.dropLastSlash.dropLastSegment.toIsPath

end

/-! ## One segment -/

theorem isPathText_append {special : Bool} {a b : List Char} (ha : IsPathText special a)
    (hb : IsPathText special b) : IsPathText special (a ++ b) :=
  fun c hc => (List.mem_append.1 hc).elim (ha c) (hb c)

theorem sparesEscapes_isSlash : ∀ special, SparesEscapes (isSlash special) := by decide

/-- Encoding puts no slash into a segment. -/
theorem encode_segment {special : Bool} {part : List Char}
    (hpart : ∀ c ∈ part, isSlash special c = false) :
    IsPathText special (encode inPath part) ∧ ∀ c ∈ encode inPath part, c ≠ '/' := by
  have hslash : ∀ c ∈ encode inPath part, isSlash special c = false :=
    forall_mem_encode (sparesEscapes_isSlash special) fun c hc _ => hpart c hc
  have hset : ∀ c ∈ encode inPath part, inPath c = false := forall_not_encode (by decide) part
  refine ⟨fun c hc => ⟨hset c hc, fun h => ?_⟩, fun c hc he => ?_⟩
  · rw [hslash c hc] at h
    simp at h
  · have := hslash c hc
    simp [isSlash, he] at this

theorem atDrive_of_isNormalDrive {path : List Char} (hroot : path.head? = some '/')
    (h : isNormalDrive (path.drop 1) = true) : AtDrive path := by
  obtain ⟨path, rfl⟩ := List.head?_eq_some_iff.1 hroot
  obtain ⟨c, rfl, hc⟩ := exists_of_isNormalDrive h
  exact ⟨c, [], rfl, hc, rfl⟩

/-- A drive that is not all of the path has a slash behind it. -/
theorem AtDrive.append_of_not_isNormalDrive {path : List Char} (h : AtDrive path)
    (hmore : isNormalDrive (path.drop 1) = false) (more : List Char) : AtDrive (path ++ more) := by
  obtain ⟨c, rest, rfl, hc, hrest⟩ := h
  cases rest with
  | nil => simp [isNormalDrive, isDrive, hc] at hmore
  | cons d rest => exact ⟨c, d :: rest ++ more, rfl, hc, hrest⟩

section
variable {kind : PathKind} {start : List Char}

/-- What stands after text was put into a segment behind the path `start`: either that segment, or
a drive with more behind it. -/
def IsOpened (kind : PathKind) (start : List Char) (o : OpenPath) : Prop :=
  IsPathText kind.isSpecial o.text ∧
    ((NoDots start ∧ ∃ added, o = ⟨start ++ added, start.length⟩ ∧ ∀ c ∈ added, c ≠ '/') ∨
      kind = .file ∧ AtDrive o.text ∧ 2 ≤ o.start)

theorem isOpened_start (hstart : IsPath kind start) :
    IsOpened kind start ⟨start, start.length⟩ := by
  refine ⟨hstart.text, ?_⟩
  rcases hstart.plain with hplain | ⟨hfile, hdrive⟩
  · exact Or.inl ⟨hplain, [], by simp, by simp⟩
  · refine Or.inr ⟨hfile, hdrive, ?_⟩
    obtain ⟨c, rest, rfl, -⟩ := hdrive
    simp

theorem IsOpened.put (hroot : start.head? = some '/') {o : OpenPath} (ho : IsOpened kind start o)
    {part : List Char} (hpart : ∀ c ∈ part, isSlash kind.isSpecial c = false) :
    IsOpened kind start (o.put (kind = .file) part) := by
  obtain ⟨htext, hcases⟩ := ho
  obtain ⟨hencoded, hslash⟩ := encode_segment hpart
  have hroot' : o.text.head? = some '/' := by
    rcases hcases with ⟨-, added, rfl, -⟩ | ⟨-, hdrive, -⟩
    · rw [List.head?_append, hroot]
      rfl
    · exact hdrive.rooted
  unfold OpenPath.put
  split
  · exact ⟨htext, hcases⟩
  · split
    · rename_i hdrive
      obtain ⟨hfile, hdrive⟩ := hdrive
      refine ⟨isPathText_append htext (isPathText_append isPathText_slash hencoded),
        Or.inr ⟨of_decide_eq_true hfile,
          (atDrive_of_isNormalDrive hroot' hdrive).append (Or.inr rfl), ?_⟩⟩
      rcases hcases with ⟨-, added, rfl, -⟩ | ⟨-, -, hstart⟩
      · cases start with
        | nil => simp at hroot
        | cons c start => simp
      · exact hstart.trans (Nat.le_succ _)
    · rename_i hdrive
      refine ⟨isPathText_append htext hencoded, ?_⟩
      rcases hcases with ⟨hplain, added, rfl, hadded⟩ | ⟨hfile, hat, hstart⟩
      · refine Or.inl ⟨hplain, added ++ encode inPath part, by simp, fun c hc => ?_⟩
        exact (List.mem_append.1 hc).elim (hadded c) (hslash c)
      · have hmore : isNormalDrive (o.text.drop 1) = false := by simpa [hfile] using hdrive
        exact Or.inr ⟨hfile, hat.append_of_not_isNormalDrive hmore _, hstart⟩

theorem isOpened_foldl (hroot : start.head? = some '/') {parts : List (List Char)} {o : OpenPath}
    (ho : IsOpened kind start o)
    (hparts : ∀ part ∈ parts, ∀ c ∈ part, isSlash kind.isSpecial c = false) :
    IsOpened kind start (parts.foldl (OpenPath.put (kind = .file)) o) := by
  induction parts generalizing o with
  | nil => exact ho
  | cons part parts ih =>
    exact ih (ho.put hroot (hparts part List.mem_cons_self))
      fun q hq => hparts q (List.mem_cons_of_mem part hq)

/-- The slash behind a segment that another one follows. -/
def slashIf (more : Bool) : List Char := if more then ['/'] else []

/-- A path that goes on if another segment follows. -/
def IsPathFor (kind : PathKind) (more : Bool) (path : List Char) : Prop :=
  IsPath kind path ∧ (more = true → IsOpenPath kind path)

theorem IsPath.forMore {path : List Char} (h : IsPath kind path) (more : Bool) :
    IsPathFor kind more (if more then Url.withSlash path else path) := by
  cases more with
  | false => exact ⟨h, by simp⟩
  | true => exact ⟨h.withSlash.toIsPath, fun _ => h.withSlash⟩

theorem IsPath.forSlashIf {path : List Char} (h : IsPath kind path) (more : Bool) :
    IsPathFor kind more (path ++ slashIf more) := by
  cases more with
  | false => simpa [slashIf, IsPathFor] using h
  | true => exact ⟨h.append_slash.toIsPath, fun _ => h.append_slash⟩

/-- What starts as a drive does is no step. -/
theorem isDots_drive_append {drive : List Char} (h : isNormalDrive drive = true)
    (added : List Char) : isDots (drive ++ added) = false := by
  obtain ⟨c, rfl, hc⟩ := exists_of_isNormalDrive h
  have hescape : c ≠ '%' := by rintro rfl; exact absurd hc (by decide)
  have hdot : c ≠ '.' := by rintro rfl; exact absurd hc (by decide)
  have hstep : withDots (c :: ':' :: added) = c :: withDots (':' :: added) := by
    simp [withDots, hescape]
  simp [isDots, hstep, hdot]

/-- A segment that is no step stays as it is. -/
theorem isPath_append_segment {added : List Char} (hstart : IsOpenPath kind start)
    (hplain : NoDots start) (htext : IsPathText kind.isSpecial (start ++ added))
    (hadded : ∀ c ∈ added, c ≠ '/') (hdots : isDots added = false) :
    IsPath kind (start ++ added) := by
  refine ⟨by rw [List.head?_append, hstart.rooted]; rfl, htext, Or.inl ?_⟩
  rcases hstart.ended with hlast | hdrive
  · have hstart := List.dropLast_append_getLast? '/' hlast
    rw [← hstart] at hplain ⊢
    rw [List.append_assoc, List.singleton_append, noDots_append_slash]
    exact ⟨((noDots_append_slash _ _).1 hplain).1, (noDots_segment hadded).2 hdots⟩
  · obtain ⟨before, hbefore, -⟩ :=
      exists_eq_append_lastSegment (List.mem_of_mem_head? hstart.rooted)
    have hslash : ∀ c ∈ lastSegment start ++ added, c ≠ '/' := fun c hc =>
      (List.mem_append.1 hc).elim ne_slash_of_mem_lastSegment (hadded c)
    rw [hbefore] at hplain ⊢
    rw [List.append_assoc, List.cons_append, noDots_append_slash]
    exact ⟨((noDots_append_slash _ _).1 hplain).1,
      (noDots_segment hslash).2 (isDots_drive_append hdrive added)⟩

/-- A drive at the root of a file gets its normal form. -/
theorem isPath_newDrive {added : List Char} (hstart : IsPath kind start)
    (htext : IsPathText kind.isSpecial (start ++ added)) (hfile : kind = .file)
    (hlength : start.length = 1) (hadded : isDrive added = true) :
    IsPath kind (start ++ added.take 1 ++ [':']) := by
  obtain ⟨x, rfl⟩ := List.length_eq_one_iff.1 hlength
  obtain rfl : x = '/' := by simpa using hstart.rooted
  obtain ⟨c, d, rfl, hc, -⟩ := exists_of_isDrive hadded
  refine ⟨rfl, ?_, Or.inr ⟨hfile, c, [], rfl, hc, rfl⟩⟩
  intro e he
  simp only [List.take_succ_cons, List.take_zero, List.mem_append, List.mem_cons,
    List.not_mem_nil, or_false] at he
  rcases he with (rfl | rfl) | rfl
  · exact isPathText_slash _ List.mem_cons_self
  · exact htext e (by simp)
  · exact ⟨by decide, by simp [isSlash]⟩

theorem isPath_add {p : ResolvedPath} (hp : IsOpenPath kind p.text) (more : Bool)
    {segment : List Char} (hsegment : ∀ c ∈ segment, isSlash kind.isSpecial c = false) :
    IsPathFor kind more (p.add (kind = .file) more segment).text := by
  have hparts (part : List Char) (hpart : part ∈ Text.pieces isBreak segment) (c : Char)
      (hc : c ∈ part) : isSlash kind.isSpecial c = false :=
    hsegment c (Text.mem_of_mem_pieces hpart hc)
  have ho := isOpened_foldl hp.rooted (isOpened_start hp.toIsPath) hparts
  simp only [ResolvedPath.add]
  generalize (Text.pieces isBreak segment).foldl (OpenPath.put (kind = .file))
    ⟨p.text, p.text.length⟩ = o at ho
  obtain ⟨htext, ⟨hplain, added, rfl, hadded⟩ | ⟨hfile, hdrive, hstart⟩⟩ := ho
  · simp only [List.take_left, List.drop_left]
    split
    · exact hp.goUp.forMore more
    · rename_i hup
      split
      · exact ⟨hp.toIsPath.withSlash.toIsPath, fun _ => hp.toIsPath.withSlash⟩
      · rename_i hstay
        split
        · rename_i hnew
          have hpath := (isPath_newDrive hp.toIsPath htext (of_decide_eq_true hnew.1) hnew.2.1
            hnew.2.2).forSlashIf more
          rwa [List.append_assoc, List.singleton_append] at hpath
        · have hdots : isDots added = false := by simp [isDots, hup, hstay]
          exact (isPath_append_segment hp hplain htext hadded hdots).forSlashIf more
  · have hpath : IsPath kind o.text := ⟨hdrive.rooted, htext, Or.inr ⟨hfile, hdrive⟩⟩
    have hnot : ¬ o.start = 1 := by omega
    rcases Nat.eq_or_lt_of_le hstart with htwo | hthree
    · -- the drive was put into this segment: what stands behind its letter starts with a colon
      obtain ⟨c, rest, ho, -⟩ := hdrive
      have hdrop : o.text.drop o.start = ':' :: rest := by rw [← htwo, ho]; rfl
      have hdots : ∀ d, withDots (':' :: rest) ≠ '.' :: d := by simp [withDots]
      rw [hdrop, if_neg (hdots _), if_neg (hdots _), if_neg (by simp [hnot])]
      exact hpath.forSlashIf more
    · have hbefore : IsPath kind (o.text.take o.start) :=
        ⟨(hdrive.take hthree).rooted, fun c hc => htext c (List.mem_of_mem_take hc),
          Or.inr ⟨hfile, hdrive.take hthree⟩⟩
      split
      · exact hbefore.goUp.forMore more
      · split
        · exact ⟨hbefore.withSlash.toIsPath, fun _ => hbefore.withSlash⟩
        · rw [if_neg (by simp [hnot])]
          exact hpath.forSlashIf more

end

/-! ## Whole texts -/

section
variable {kind : PathKind}

theorem isPath_addAll {p : ResolvedPath} (hp : IsOpenPath kind p.text) {segments : List (List Char)}
    (hsegments : ∀ s ∈ segments, ∀ c ∈ s, isSlash kind.isSpecial c = false) :
    IsPath kind (p.addAll (kind = .file) segments).text := by
  induction segments generalizing p with
  | nil => exact hp.toIsPath
  | cons s segments ih =>
    have hs := hsegments s List.mem_cons_self
    cases segments with
    | nil => exact (isPath_add hp false hs).1
    | cons t segments =>
      exact ih ((isPath_add hp true hs).2 rfl) fun u hu => hsegments u (List.mem_cons_of_mem s hu)

theorem noDots_dropWhile_slash {path : List Char} (h : NoDots path) :
    NoDots (path.dropWhile (· = '/')) := by
  induction path with
  | nil => exact h
  | cons c path ih =>
    by_cases hc : c = '/'
    · subst hc
      rw [List.dropWhile_cons_of_pos (by simp)]
      exact ih ((noDots_cons_slash path).1 h)
    · rwa [List.dropWhile_cons_of_neg (by simpa using hc)]

/-- The path of a file starts with one slash. -/
theorem IsPath.dropSlashes {path : List Char} (h : IsPath kind path) :
    IsPath kind ('/' :: path.dropWhile (· = '/')) := by
  refine ⟨rfl, fun c hc => ?_, ?_⟩
  · rcases List.mem_cons.1 hc with rfl | hc
    · exact isPathText_slash _ List.mem_cons_self
    · exact h.text c ((List.dropWhile_suffix _).subset hc)
  · rcases h.plain with hplain | ⟨hfile, c, rest, rfl, hc, hrest⟩
    · exact Or.inl ((noDots_cons_slash _).2 (noDots_dropWhile_slash hplain))
    · have hne : c ≠ '/' := by rintro rfl; exact absurd hc (by decide)
      refine Or.inr ⟨hfile, c, rest, ?_, hc, hrest⟩
      rw [List.dropWhile_cons_of_pos (by simp), List.dropWhile_cons_of_neg (by simpa using hne)]

theorem isPath_resolvePath {start : List Char} (hstart : IsOpenPath kind start) (text : List Char) :
    IsPath kind (resolvePath kind start text).text ∧
      (kind = .file → ((resolvePath kind start text).text.drop 1).head? ≠ some '/') := by
  have hsegments (s : List Char) (hs : s ∈ Text.pieces (isSlash kind.isSpecial) text) :
      ∀ c ∈ s, isSlash kind.isSpecial c = false := Text.isSeparator_of_mem_pieces hs
  have hpath := isPath_addAll (p := ⟨start, false⟩) hstart hsegments
  simp only [resolvePath]
  split
  · refine ⟨hpath.dropSlashes, fun _ he => ?_⟩
    have := List.head?_dropWhile_not (fun c => decide (c = '/'))
      ((ResolvedPath.mk start false).addAll (decide (kind = .file))
        (Text.pieces (isSlash kind.isSpecial) text)).text
    simp only [List.drop_one, List.tail_cons] at he
    rw [he] at this
    simp at this
  · rename_i hfile
    exact ⟨hpath, fun h => absurd h hfile⟩

/-- A text goes on behind what its first segment was put behind. -/
theorem addAll_cons_pieces {file : Bool} {p q : ResolvedPath} {segment : List Char}
    (hadd : p.add file true segment = q) (sep : Char → Bool) (rest : List Char) :
    p.addAll file (segment :: Text.pieces sep rest) = q.addAll file (Text.pieces sep rest) := by
  cases hrest : Text.pieces sep rest with
  | nil => exact absurd hrest (Text.pieces_ne_nil rest)
  | cons s segments =>
    rw [ResolvedPath.addAll, hadd]
    simp

/-- Breaks before the first slash do not count. -/
theorem resolvePath_nil {breaks : List Char} (hbreaks : ∀ c ∈ breaks, isBreak c = true) {c : Char}
    (hc : isSlash kind.isSpecial c = true) (rest : List Char) :
    resolvePath kind [] (breaks ++ c :: rest) = resolvePath kind ['/'] rest := by
  have hpieces : Text.pieces (isSlash kind.isSpecial) (breaks ++ c :: rest) =
      breaks :: Text.pieces (isSlash kind.isSpecial) rest := by
    rw [Text.pieces_append_cons _ _ _ hc, Text.pieces_of_forall_not breaks, List.singleton_append]
    intro d hd
    have hd := hbreaks d hd
    simp only [isBreak, Bool.or_eq_true, decide_eq_true_eq] at hd
    rcases hd with (rfl | rfl) | rfl <;> cases kind <;> decide
  have hput (file : Bool) (o : OpenPath) :
      (Text.pieces isBreak breaks).foldl (OpenPath.put file) o = o := by
    refine List.foldlRecOn _ _ (motive := (· = o)) rfl fun o' ho' part hpart => ?_
    have hpart : part = [] := List.eq_nil_iff_forall_not_mem.2 fun d hd => by
      have := Text.isSeparator_of_mem_pieces hpart d hd
      rw [hbreaks d (Text.mem_of_mem_pieces hpart hd)] at this
      simp at this
    rw [ho', hpart, OpenPath.put, if_pos rfl]
  have hadd (file : Bool) : (ResolvedPath.mk [] false).add file true breaks = ⟨['/'], false⟩ := by
    simp [ResolvedPath.add, hput, withDots, isDrive]
  simp only [resolvePath, hpieces, addAll_cons_pieces (hadd _)]

/-! ## Reading back -/

theorem not_inControls_of_not_inPath {c : Char} (h : inPath c = false) : inControls c = false := by
  simp only [inPath, inFragment, Bool.or_eq_false_iff] at h
  exact h.1.1

/-- A segment that is no step, and no drive at the root, is put behind a path as it is. -/
theorem add_segment {p : ResolvedPath} (hlast : p.text.getLast? = some '/') {segment : List Char}
    (htext : ∀ c ∈ segment, inPath c = false) (hdots : isDots segment = false)
    (hdrive : kind = .file → p.text.length = 1 → isDrive segment = false) (more : Bool) :
    p.add (kind = .file) more segment = { p with text := p.text ++ segment ++ slashIf more } := by
  have hpieces : Text.pieces isBreak segment = [segment] :=
    Text.pieces_of_forall_not _ fun c hc =>
      not_isBreak_of_not_inControls (not_inControls_of_not_inPath (htext c hc))
  have hput : OpenPath.put (kind = .file) ⟨p.text, p.text.length⟩ segment =
      ⟨p.text ++ segment, p.text.length⟩ := by
    unfold OpenPath.put
    split
    · rename_i hnil
      rw [hnil, List.append_nil]
    · have hnot := not_isNormalDrive_of_getLast? hlast 1
      rw [if_neg (by simp only [hnot]; simp), encode_of_forall_not htext]
  have hnew : ¬ (decide (kind = .file) = true ∧ p.text.length = 1 ∧ isDrive segment = true) := by
    rintro ⟨hfile, hlength, hdrive'⟩
    rw [hdrive (of_decide_eq_true hfile) hlength] at hdrive'
    simp at hdrive'
  simp only [isDots, Bool.or_eq_false_iff, decide_eq_false_iff_not] at hdots
  simp only [ResolvedPath.add, hpieces, List.foldl_cons, List.foldl_nil, hput, List.take_left,
    List.drop_left, if_neg hdots.1, if_neg hdots.2, if_neg hnew]
  rfl

theorem addAll_segments {p : ResolvedPath} (hlast : p.text.getLast? = some '/')
    {segments : List (List Char)}
    (hsegments : ∀ s ∈ segments, (∀ c ∈ s, inPath c = false) ∧ isDots s = false)
    (hdrive : kind = .file → p.text.length = 1 → ∀ s ∈ segments.head?, isDrive s = false) :
    p.addAll (kind = .file) segments = { p with text := p.text ++ ['/'].intercalate segments } := by
  induction segments generalizing p with
  | nil => simp [ResolvedPath.addAll]
  | cons s segments ih =>
    obtain ⟨htext, hdots⟩ := hsegments s List.mem_cons_self
    have hadd := add_segment hlast htext hdots fun hfile hlength => hdrive hfile hlength s rfl
    cases segments with
    | nil => simp [ResolvedPath.addAll, hadd, slashIf]
    | cons t segments =>
      rw [ResolvedPath.addAll, hadd]
      · rw [ih (by simp [slashIf]) (fun u hu => hsegments u (List.mem_cons_of_mem s hu))
          (fun _ hlength => ?_)]
        · simp [slashIf, List.intercalate_cons_cons]
        · cases hp : p.text with
          | nil => simp [hp] at hlast
          | cons c cs => simp [hp, slashIf] at hlength
      · simp

/-- The first segment of a text that starts with no drive is none. -/
theorem not_isDrive_of_mem_head? {rest s : List Char} (h : startsWithDrive rest = false)
    (hs : s ∈ (Text.pieces (· = '/') rest).head?) : isDrive s = false := by
  have hrest : ['/'].intercalate (Text.pieces (· = '/') rest) = rest :=
    Text.intercalate_pieces rest fun c _ hc => by simpa using hc
  cases hp : Text.pieces (· = '/') rest with
  | nil => exact absurd hp (Text.pieces_ne_nil rest)
  | cons t segments =>
    obtain rfl : t = s := by simpa [hp] using hs
    cases hd : isDrive t with
    | false => rfl
    | true =>
      obtain ⟨c, d, rfl, -⟩ := exists_of_isDrive hd
      rw [hp] at hrest
      cases segments with
      | nil =>
        obtain rfl : [c, d] = rest := by simpa using hrest
        simp [startsWithDrive, hd] at h
      | cons u segments =>
        rw [List.intercalate_cons_cons] at hrest
        subst hrest
        simp [startsWithDrive, hd, isSlash] at h

/-- Segments without steps are put behind a path as they stand. -/
theorem addAll_rest {p : ResolvedPath} (hlast : p.text.getLast? = some '/') {rest : List Char}
    (htext : IsPathText kind.isSpecial rest) (hplain : NoDots rest)
    (hdrive : kind = .file → p.text.length = 1 → startsWithDrive rest = false) :
    p.addAll (kind = .file) (Text.pieces (isSlash kind.isSpecial) rest) =
      { p with text := p.text ++ rest } := by
  have hsegments : Text.pieces (isSlash kind.isSpecial) rest = Text.pieces (· = '/') rest := by
    refine Text.pieces_congr fun c hc => ?_
    have hc := (htext c hc).2
    cases h : isSlash kind.isSpecial c with
    | true => simpa using hc h
    | false =>
      simp only [isSlash, Bool.or_eq_false_iff] at h
      exact h.1.symm
  rw [hsegments, addAll_segments hlast
    (fun s hs => ⟨fun c hc => (htext c (Text.mem_of_mem_pieces hs hc)).1, hplain s hs⟩)
    (fun hfile hlength s hs => not_isDrive_of_mem_head? (hdrive hfile hlength) hs),
    Text.intercalate_pieces rest fun c _ hc => by simpa using hc]

theorem IsPath.noDots_rest {rest : List Char} (h : IsPath kind ('/' :: rest))
    (hdrive : kind = .file → startsWithDrive rest = false) : NoDots rest := by
  rcases h.plain with hplain | ⟨hfile, c, more, hmore, hc, hslash⟩
  · exact (noDots_cons_slash rest).1 hplain
  · obtain rfl : rest = c :: ':' :: more := by simpa using hmore
    have hstart : startsWithDrive (c :: ':' :: more) = true := by
      cases more with
      | nil => simp [startsWithDrive, isDrive, hc]
      | cons d more =>
        obtain rfl : d = '/' := by simpa using hslash
        simp [startsWithDrive, isDrive, hc, isSlash]
    rw [hdrive hfile] at hstart
    simp at hstart

theorem dropWhile_slash {rest : List Char} (h : rest.head? ≠ some '/') :
    rest.dropWhile (· = '/') = rest := by
  cases rest with
  | nil => rfl
  | cons c rest =>
    have hc : c ≠ '/' := by simpa using h
    rw [List.dropWhile_cons_of_neg (by simpa using hc)]

/-- A resolved path resolves to itself, if it is not one that starts with a drive. -/
theorem resolvePath_rest {rest : List Char} (hpath : IsPath kind ('/' :: rest))
    (hfile : kind = .file → startsWithDrive rest = false ∧ rest.head? ≠ some '/') :
    resolvePath kind ['/'] rest = ⟨'/' :: rest, false⟩ := by
  have hplain := hpath.noDots_rest fun h => (hfile h).1
  have hall := addAll_rest (p := ⟨['/'], false⟩) rfl
    (fun c hc => hpath.text c (List.mem_cons_of_mem _ hc)) hplain fun h _ => (hfile h).1
  simp only [resolvePath, hall]
  split
  · rename_i hkind
    simp [dropWhile_slash (hfile hkind).2]
  · rfl

/-- The same holds in a file if another slash stands before it. -/
theorem resolvePath_slash {rest : List Char} (hpath : IsPath .file ('/' :: rest))
    (hdrive : startsWithDrive rest = false) (hsingle : rest.head? ≠ some '/') :
    resolvePath .file ['/'] ('/' :: rest) = ⟨'/' :: rest, false⟩ := by
  have hplain := hpath.noDots_rest fun _ => hdrive
  have hslash : startsWithDrive ('/' :: rest) = false := by
    cases rest <;> simp [startsWithDrive, isDrive]
  have hall : (ResolvedPath.mk ['/'] false).addAll (PathKind.file = .file)
      (Text.pieces (isSlash PathKind.file.isSpecial) ('/' :: rest)) = ⟨'/' :: '/' :: rest, false⟩ :=
    addAll_rest rfl hpath.text ((noDots_cons_slash rest).2 hplain) fun _ _ => hslash
  unfold resolvePath
  dsimp only
  rw [hall, if_pos rfl, List.dropWhile_cons_of_pos (by simp), List.dropWhile_cons_of_pos (by simp),
    dropWhile_slash hsingle]

/-- A step in place at the root adds nothing. -/
theorem resolvePath_dot (rest : List Char) :
    resolvePath kind ['/'] ('.' :: '/' :: rest) = resolvePath kind ['/'] rest := by
  have hadd (file : Bool) : (ResolvedPath.mk ['/'] false).add file true ['.'] = ⟨['/'], false⟩ := by
    cases file <;> rfl
  have hpieces : Text.pieces (isSlash kind.isSpecial) ('.' :: '/' :: rest) =
      ['.'] :: Text.pieces (isSlash kind.isSpecial) rest := by
    simp [Text.pieces, isSlash]
  simp only [resolvePath, hpieces, addAll_cons_pieces (hadd _)]

end

end Url

end Wayfinder
