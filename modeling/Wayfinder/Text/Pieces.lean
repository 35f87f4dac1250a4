/-!
# Pieces of a text

The pieces between the places where separators stand, empty ones included: one more than there are
separators.

    pieces (before ++ c :: after) = pieces before ++ pieces after         (pieces_append_cons)
    [c].intercalate (pieces cs) = cs        if only c is a separator      (intercalate_pieces)
-/

namespace Wayfinder.Text

/-- The pieces of a text between separators. -/
def pieces (isSeparator : Char → Bool) : List Char → List (List Char)
  | [] => [[]]
  | c :: cs =>
    if isSeparator c then [] :: pieces isSeparator cs
    else match pieces isSeparator cs with
      | [] => [[c]]
      | p :: ps => (c :: p) :: ps

/-- No piece holds a separator. -/
theorem isSeparator_of_mem_pieces {isSeparator : Char → Bool} {cs p : List Char}
    (h : p ∈ pieces isSeparator cs) : ∀ c ∈ p, isSeparator c = false := by
  induction cs generalizing p with
  | nil =>
    obtain rfl : p = [] := by simpa [pieces] using h
    simp
  | cons d cs ih =>
    unfold pieces at h
    split at h
    · rcases List.mem_cons.1 h with rfl | h
      · simp
      · exact ih h
    · rename_i hd
      split at h
      · obtain rfl : p = [d] := by simpa using h
        simpa using hd
      · rename_i q qs hq
        rcases List.mem_cons.1 h with rfl | h
        · intro c hc
          rcases List.mem_cons.1 hc with rfl | hc
          · simpa using hd
          · exact ih (hq ▸ List.mem_cons_self) c hc
        · exact ih (hq ▸ List.mem_cons_of_mem _ h)

/-- A piece is part of the text. -/
theorem mem_of_mem_pieces {isSeparator : Char → Bool} {cs p : List Char}
    (h : p ∈ pieces isSeparator cs) {c : Char} (hc : c ∈ p) : c ∈ cs := by
  induction cs generalizing p with
  | nil =>
    obtain rfl : p = [] := by simpa [pieces] using h
    exact hc
  | cons d cs ih =>
    unfold pieces at h
    split at h
    · rcases List.mem_cons.1 h with rfl | h
      · simp at hc
      · exact List.mem_cons_of_mem d (ih h hc)
    · split at h
      · obtain rfl : p = [d] := by simpa using h
        exact List.mem_cons.2 (Or.inl (by simpa using hc))
      · rename_i q qs hq
        rcases List.mem_cons.1 h with rfl | h
        · rcases List.mem_cons.1 hc with rfl | hc
          · exact List.mem_cons_self
          · exact List.mem_cons_of_mem d (ih (hq ▸ List.mem_cons_self) hc)
        · exact List.mem_cons_of_mem d (ih (hq ▸ List.mem_cons_of_mem q h) hc)

section
variable {isSeparator : Char → Bool}

theorem pieces_ne_nil (cs : List Char) : pieces isSeparator cs ≠ [] := by
  cases cs with
  | nil => simp [pieces]
  | cons c cs =>
    unfold pieces
    split
    · simp
    · split <;> simp

/-- The pieces on both sides of a separator. -/
theorem pieces_append_cons (before after : List Char) (c : Char) (hc : isSeparator c = true) :
    pieces isSeparator (before ++ c :: after) =
      pieces isSeparator before ++ pieces isSeparator after := by
  induction before with
  | nil => simp [pieces, hc]
  | cons d before ih =>
    cases hd : isSeparator d with
    | true => simp [pieces, hd, ih]
    | false =>
      cases hp : pieces isSeparator before with
      | nil => exact absurd hp (pieces_ne_nil before)
      | cons p ps => simp [pieces, hd, ih, hp]

/-- A text without separators is one piece. -/
theorem pieces_of_forall_not (cs : List Char) (h : ∀ c ∈ cs, isSeparator c = false) :
    pieces isSeparator cs = [cs] := by
  induction cs with
  | nil => rfl
  | cons c cs ih =>
    have hcs := ih fun d hd => h d (List.mem_cons_of_mem c hd)
    simp [pieces, h c List.mem_cons_self, hcs]

theorem pieces_congr {isSeparator' : Char → Bool} {cs : List Char}
    (h : ∀ c ∈ cs, isSeparator c = isSeparator' c) :
    pieces isSeparator cs = pieces isSeparator' cs := by
  induction cs with
  | nil => rfl
  | cons c cs ih =>
    have ih := ih fun d hd => h d (List.mem_cons_of_mem c hd)
    simp only [pieces, h c List.mem_cons_self, ih]

/-- The pieces between separators that are all the same, put together with it again. -/
theorem intercalate_pieces {d : Char} (cs : List Char) (h : ∀ c ∈ cs, isSeparator c = true → c = d) :
    [d].intercalate (pieces isSeparator cs) = cs := by
  induction cs with
  | nil => rfl
  | cons c cs ih =>
    have ih := ih fun e he => h e (List.mem_cons_of_mem c he)
    cases hp : pieces isSeparator cs with
    | nil => exact absurd hp (pieces_ne_nil cs)
    | cons p ps =>
      rw [hp] at ih
      cases hc : isSeparator c with
      | true =>
        obtain rfl := h c List.mem_cons_self hc
        simp [pieces, hc, hp, List.intercalate_cons_cons, ih]
      | false =>
        cases ps with
        | nil => simpa [pieces, hc, hp] using ih
        | cons q ps =>
          simpa [pieces, hc, hp, List.intercalate_cons_cons] using ih

end

end Wayfinder.Text
