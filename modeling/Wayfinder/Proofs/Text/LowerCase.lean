import Wayfinder.Text.LowerCase

/-!
# Lower case of a part of a text

A text is lowered one character at a time, so a part of it is lowered as it is on its own, but for
the sigmas near its ends: their form may hang on what stands around the part.

    lowerFrom [] (u ++ t ++ v) = lowerBetween [] u (t ++ v) ++ lowerBetween u.reverse t v ++ ..
                                                                            (lowerFrom_append)
    KeepsForms u.reverse t v → lowerBetween u.reverse t v = lowerFrom [] t  (lowerBetween_of_keepsForms)
    FormsFixed t → lowerFrom [] t <:+: lowerFrom [] (u ++ t ++ v)           (infix_of_formsFixed)

Where the forms are not fixed there is a letter that changes one of them, before the text or behind
it, and the text is then no longer found.
-/

namespace Wayfinder.Text

/-! ## Definitions -/

/-- Whether a sigma is the last letter of its word, between the characters `before` it, the nearest
first, and those `after` it. -/
def endsWord (before after : List Char) : Bool := startsCased before && !startsCased after

/-- Whether some character is not left out, so that it is known whether a cased letter is next. -/
def settles (cs : List Char) : Bool := cs.any fun c => !caseIgnorable.has c

/-- The lower case of a part of a text between the characters `before` it, the nearest first, and
those `after` it. -/
def lowerBetween (before : List Char) : (part : List Char) → (after : List Char) → List Char
  | [], _ => []
  | c :: cs, after => lowerAt before c (cs ++ after) ++ lowerBetween (c :: before) cs after

/-- Each sigma of a part of a text has the form that it has in the part alone. -/
def KeepsForms (before part after : List Char) : Prop :=
  ∀ b a, part = b ++ 'Σ' :: a →
    endsWord (b.reverse ++ before) (a ++ after) = endsWord b.reverse a

/-- Each sigma of a text has a form that nothing around the text can change: a cased letter comes
after it, or something other than a cased letter before it, or it is known on both sides what comes
next. -/
def FormsFixed (t : List Char) : Prop :=
  ∀ b a, t = b ++ 'Σ' :: a → startsCased a = true ∨
    (settles b.reverse = true ∧ startsCased b.reverse = false) ∨
    (settles b.reverse = true ∧ settles a = true)

/-! ## What comes next -/

theorem startsCased_append (cs ds : List Char) :
    startsCased (cs ++ ds) = if settles cs then startsCased cs else startsCased ds := by
  induction cs with
  | nil => rfl
  | cons c cs ih =>
    rw [List.cons_append, startsCased, ih]
    cases h : caseIgnorable.has c <;> simp [startsCased, settles, h]

theorem settles_of_startsCased (cs : List Char) (h : startsCased cs = true) :
    settles cs = true := by
  have hsame := startsCased_append cs []
  rw [List.append_nil, h] at hsame
  cases hs : settles cs with
  | true => rfl
  | false =>
    rw [hs, if_neg Bool.false_ne_true] at hsame
    cases hsame

theorem startsCased_append_of_startsCased (cs ds : List Char) (h : startsCased cs = true) :
    startsCased (cs ++ ds) = true := by
  rw [startsCased_append, if_pos (settles_of_startsCased cs h), h]

theorem startsCased_of_cased (c : Char) (cs : List Char) (hkept : caseIgnorable.has c = false)
    (hcased : cased.has c = true) : startsCased (c :: cs) = true := by
  rw [startsCased, hkept, if_neg Bool.false_ne_true, hcased]

/-! ## Parts -/

section
variable (before t u v after : List Char)

theorem lowerAt_sigma :
    lowerAt before 'Σ' after = [if endsWord before after then 'ς' else 'σ'] := rfl

theorem lowerAt_of_ne (c : Char) (hc : c ≠ 'Σ') (before' after' : List Char) :
    lowerAt before c after = lowerAt before' c after' := by
  simp only [lowerAt, if_neg hc]

theorem lowerFrom_eq_lowerBetween : lowerFrom before t = lowerBetween before t [] := by
  induction t generalizing before with
  | nil => rfl
  | cons c cs ih => rw [lowerFrom, lowerBetween, ih, List.append_nil]

theorem lowerBetween_append :
    lowerBetween before (u ++ v) after =
      lowerBetween before u (v ++ after) ++ lowerBetween (u.reverse ++ before) v after := by
  induction u generalizing before with
  | nil => rfl
  | cons c u ih =>
    simp only [List.cons_append, lowerBetween, ih, List.append_assoc, List.reverse_cons,
      List.nil_append]

theorem lowerFrom_append :
    lowerFrom [] (u ++ t ++ v) = lowerBetween [] u (t ++ v) ++ lowerBetween u.reverse t v ++
      lowerBetween (t.reverse ++ u.reverse) v [] := by
  rw [lowerFrom_eq_lowerBetween, lowerBetween_append, lowerBetween_append]
  simp

/-- Only the forms of its sigmas hang on what stands around a part. -/
theorem lowerBetween_congr (before' after' : List Char)
    (h : ∀ b a, t = b ++ 'Σ' :: a →
      endsWord (b.reverse ++ before) (a ++ after) = endsWord (b.reverse ++ before') (a ++ after')) :
    lowerBetween before t after = lowerBetween before' t after' := by
  induction t generalizing before before' with
  | nil => rfl
  | cons c t ih =>
    have hrest : lowerBetween (c :: before) t after = lowerBetween (c :: before') t after' := by
      refine ih (c :: before) (c :: before') fun b a ht => ?_
      simpa using h (c :: b) a (by rw [ht, List.cons_append])
    rw [lowerBetween, lowerBetween, hrest]
    by_cases hc : c = 'Σ'
    · subst hc
      rw [lowerAt_sigma, lowerAt_sigma, show endsWord before (t ++ after) = _ from h [] t rfl]
      rfl
    · rw [lowerAt_of_ne before (t ++ after) c hc]

theorem lowerBetween_of_keepsForms (h : KeepsForms before t after) :
    lowerBetween before t after = lowerFrom [] t := by
  rw [lowerFrom_eq_lowerBetween]
  refine lowerBetween_congr before t after [] [] fun b a ht => ?_
  rw [List.append_nil, List.append_nil]
  exact h b a ht

/-- What is found in a text with its capitals is found in its lower case, if no form changes. -/
theorem infix_of_keepsForms (h : KeepsForms u.reverse t v) :
    lowerFrom [] t <:+: lowerFrom [] (u ++ t ++ v) := by
  refine ⟨lowerBetween [] u (t ++ v), lowerBetween (t.reverse ++ u.reverse) v [], ?_⟩
  rw [lowerFrom_append, lowerBetween_of_keepsForms u.reverse t v h]

theorem keepsForms_of_formsFixed (h : FormsFixed t) : KeepsForms before t after := by
  intro b a ht
  unfold endsWord
  rcases h b a ht with hcased | ⟨hsettles, hplain⟩ | ⟨hbefore, hafter⟩
  · rw [startsCased_append_of_startsCased a after hcased, hcased]
    simp
  · rw [startsCased_append, if_pos hsettles, hplain]
    simp
  · rw [startsCased_append, if_pos hbefore, startsCased_append a, if_pos hafter]

end

/-! ## A letter more

A letter behind a text can only take final forms away from it, and a letter before a text can only
take the other forms away.  So where a form does change, the new text holds fewer sigmas of the form
that it had, and the old text is not a part of it. -/

section
variable (before t u v after more : List Char)

theorem endsWord_of_append_right (h : endsWord before (after ++ more) = true) :
    endsWord before after = true := by
  simp only [endsWord, Bool.and_eq_true, Bool.not_eq_true'] at h ⊢
  refine ⟨h.1, ?_⟩
  cases hafter : startsCased after with
  | false => rfl
  | true => cases (startsCased_append_of_startsCased after more hafter).symm.trans h.2

theorem endsWord_append_left (h : endsWord before after = true) :
    endsWord (before ++ more) after = true := by
  simp only [endsWord, Bool.and_eq_true] at h ⊢
  exact ⟨startsCased_append_of_startsCased before more h.1, h.2⟩

theorem count_final (b : Bool) : [if b then 'ς' else 'σ'].count 'ς' = b.toNat := by
  cases b <;> decide

theorem count_medial (b : Bool) : [if b then 'ς' else 'σ'].count 'σ' = (!b).toNat := by
  cases b <;> decide

theorem count_final_le : (lowerBetween before t (after ++ more)).count 'ς' ≤
    (lowerBetween before t after).count 'ς' := by
  induction t generalizing before with
  | nil => exact Nat.le_refl _
  | cons c t ih =>
    rw [lowerBetween, lowerBetween, List.count_append, List.count_append]
    refine Nat.add_le_add ?_ (ih (c :: before))
    by_cases hc : c = 'Σ'
    · subst hc
      rw [lowerAt_sigma, lowerAt_sigma, count_final, count_final, ← List.append_assoc]
      cases hends : endsWord before (t ++ after ++ more) with
      | false => exact Nat.zero_le _
      | true => exact Nat.le_of_eq (by rw [endsWord_of_append_right before (t ++ after) more hends])
    · exact Nat.le_of_eq (by rw [lowerAt_of_ne before _ c hc before (t ++ after)])

theorem count_medial_le : (lowerBetween (before ++ more) t after).count 'σ' ≤
    (lowerBetween before t after).count 'σ' := by
  induction t generalizing before with
  | nil => exact Nat.le_refl _
  | cons c t ih =>
    rw [lowerBetween, lowerBetween, List.count_append, List.count_append]
    refine Nat.add_le_add ?_ (ih (c :: before))
    by_cases hc : c = 'Σ'
    · subst hc
      rw [lowerAt_sigma, lowerAt_sigma, count_medial, count_medial]
      cases hends : endsWord before (t ++ after) with
      | false => exact Bool.toNat_le _
      | true => exact Nat.le_of_eq (by rw [endsWord_append_left before (t ++ after) more hends])
    · exact Nat.le_of_eq (by rw [lowerAt_of_ne (before ++ more) _ c hc before (t ++ after)])

theorem lowerAt_a : lowerAt before 'a' after = ['a'] := by
  have ha : lowerChar 'a' = 'a' := by
    rw [lowerChar_eq, caseRows, Array.toList_map]
    decide +kernel
  rw [lowerAt, if_neg (by decide), if_neg (by decide), ha]

theorem startsCased_a : startsCased ('a' :: after) = true := by
  refine startsCased_of_cased 'a' after ?_ ?_ <;>
    rw [CodeRanges.has_eq_any] <;> decide +kernel

theorem lowerFrom_concat_a : lowerFrom [] (t ++ ['a']) = lowerBetween [] t ['a'] ++ ['a'] := by
  rw [lowerFrom_eq_lowerBetween, lowerBetween_append, lowerBetween, lowerAt_a]
  rfl

theorem lowerFrom_cons_a : lowerFrom [] ('a' :: t) = 'a' :: lowerBetween ['a'] t [] := by
  rw [lowerFrom_eq_lowerBetween, lowerBetween, lowerAt_a]
  rfl

end

section
variable (b a before after : List Char)

/-- A text at one of its sigmas. -/
theorem lowerBetween_sigma :
    lowerBetween before (b ++ 'Σ' :: a) after =
      lowerBetween before b ('Σ' :: a ++ after) ++
        ([if endsWord (b.reverse ++ before) (a ++ after) then 'ς' else 'σ'] ++
          lowerBetween ('Σ' :: b.reverse ++ before) a after) := by
  rw [lowerBetween_append, lowerBetween, lowerAt_sigma]
  rfl

theorem count_final_sigma :
    (lowerBetween before (b ++ 'Σ' :: a) after).count 'ς' =
      (lowerBetween before b ('Σ' :: a ++ after)).count 'ς' +
        ((endsWord (b.reverse ++ before) (a ++ after)).toNat +
          (lowerBetween ('Σ' :: b.reverse ++ before) a after).count 'ς') := by
  rw [lowerBetween_sigma, List.count_append, List.count_append, count_final]

theorem count_medial_sigma :
    (lowerBetween before (b ++ 'Σ' :: a) after).count 'σ' =
      (lowerBetween before b ('Σ' :: a ++ after)).count 'σ' +
        ((!endsWord (b.reverse ++ before) (a ++ after)).toNat +
          (lowerBetween ('Σ' :: b.reverse ++ before) a after).count 'σ') := by
  rw [lowerBetween_sigma, List.count_append, List.count_append, count_medial]

/-- Behind a word that a sigma ends, a letter takes the final form away. -/
theorem not_infix_behind (hends : endsWord b.reverse a = true) (hopen : settles a = false) :
    ¬ lowerFrom [] (b ++ 'Σ' :: a) <:+: lowerFrom [] (b ++ 'Σ' :: a ++ ['a']) := by
  intro h
  have hnow : endsWord b.reverse (a ++ ['a']) = false := by
    rw [endsWord, startsCased_append, hopen, if_neg Bool.false_ne_true, startsCased_a]
    simp
  have hcount := h.sublist.count_le 'ς'
  have hbefore := count_final_le [] b ('Σ' :: a) ['a']
  have hafter := count_final_le ('Σ' :: b.reverse) a [] ['a']
  rw [lowerFrom_eq_lowerBetween, lowerFrom_concat_a, List.count_append, count_final_sigma,
    count_final_sigma] at hcount
  have hletter : ['a'].count 'ς' = 0 := by decide
  simp only [List.append_nil, List.nil_append, hends, hnow, Bool.toNat_true, Bool.toNat_false]
    at hcount hafter
  omega

/-- Before a word that starts with a sigma and could end with it, a letter brings the final form. -/
theorem not_infix_before (hplain : startsCased a = false) (hopen : settles b.reverse = false) :
    ¬ lowerFrom [] (b ++ 'Σ' :: a) <:+: lowerFrom [] ('a' :: (b ++ 'Σ' :: a)) := by
  intro h
  have hnot : startsCased b.reverse = false := by
    cases hcased : startsCased b.reverse with
    | false => rfl
    | true => cases hopen.symm.trans (settles_of_startsCased _ hcased)
  have hthen : endsWord b.reverse a = false := by rw [endsWord, hnot, Bool.false_and]
  have hnow : endsWord (b.reverse ++ ['a']) a = true := by
    rw [endsWord, startsCased_append, hopen, if_neg Bool.false_ne_true, startsCased_a, hplain]
    rfl
  have hcount := h.sublist.count_le 'σ'
  have hbefore := count_medial_le [] b ('Σ' :: a) ['a']
  have hafter := count_medial_le ('Σ' :: b.reverse) a [] ['a']
  rw [lowerFrom_eq_lowerBetween, lowerFrom_cons_a, List.count_cons_of_ne (by decide),
    count_medial_sigma, count_medial_sigma] at hcount
  simp only [List.append_nil, List.nil_append, hthen, hnow, Bool.not_true, Bool.not_false,
    Bool.toNat_true, Bool.toNat_false] at hcount hbefore
  simp only [List.cons_append] at hcount hafter
  omega

end

/-- Where the form of a sigma is not fixed, a letter before the text or behind it changes it. -/
theorem exists_not_infix (t : List Char) (h : ¬ FormsFixed t) :
    ∃ u v, ¬ lowerFrom [] t <:+: lowerFrom [] (u ++ t ++ v) := by
  simp only [FormsFixed, Classical.not_forall, not_or, not_and, Bool.not_eq_true] at h
  obtain ⟨b, a, rfl, hplain, hcased, hopen⟩ := h
  cases hsettles : settles b.reverse with
  | false =>
    have hlost := not_infix_before b a hplain hsettles
    exact ⟨['a'], [], by rwa [List.append_nil]⟩
  | true =>
    have hends : endsWord b.reverse a = true := by
      rw [endsWord, hplain, eq_true_of_ne_false (hcased hsettles)]
      rfl
    exact ⟨[], ['a'], not_infix_behind b a hends (hopen hsettles)⟩

end Wayfinder.Text
