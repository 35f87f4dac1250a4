import Mathlib.Algebra.Group.Nat.Defs
import Mathlib.Data.List.TakeWhile
import Wayfinder.Text.Digits

/-!
# Readers and digits

A reader takes a front of a text and hands on the rest; where it takes what is of one kind, it
finds again what was written in front of something else.  Digits are such a front: a run of them is
read from the left, and what has been read never gets smaller.

    number (padded width n) = n       (number_padded)
-/

namespace Wayfinder

/-! ## Steps of a reader -/

/-- A prefix is found again if what follows it starts with something else. -/
theorem takeWhile_append_eq_left {α : Type} {p : α → Bool} {front rest : List α}
    (hfront : ∀ a ∈ front, p a = true) (hrest : rest.head?.all (!p ·) = true) :
    (front ++ rest).takeWhile p = front := by
  rw [List.takeWhile_append_of_pos hfront]
  cases rest with
  | nil => simp
  | cons a rest =>
    have ha : p a = false := by simpa using hrest
    simp [ha]

/-- What two steps come to is what the second makes of the first. -/
theorem exists_of_bind_eq_ok {ε α β : Type} {x : Except ε α} {f : α → Except ε β} {b : β}
    (h : (x >>= f) = .ok b) : ∃ a, x = .ok a ∧ f a = .ok b := by
  cases x with
  | error e => cases h
  | ok a => exact ⟨a, rfl, h⟩

/-! ## Digits -/

namespace Text

theorem isDigit_of_mem_digits {n : Nat} {c : Char} (h : c ∈ digits n) : c.isDigit = true :=
  Nat.isDigit_of_mem_toDigits (by decide) (by decide) h

/-- More digits make no smaller number. -/
theorem le_ofDigitChars (cs : List Char) (m : Nat) : m ≤ Nat.ofDigitChars 10 cs m := by
  induction cs generalizing m with
  | nil => exact Nat.le_refl m
  | cons c cs ih =>
    rw [Nat.ofDigitChars_cons]
    exact Nat.le_trans (by omega) (ih _)

/-- Only zero starts with a zero. -/
theorem digits_eq_cons (n : Nat) :
    ∃ c cs, digits n = c :: cs ∧ c.isDigit = true ∧ (c = '0' → n = 0 ∧ cs = []) := by
  induction n using Nat.strongRecOn with
  | ind n ih =>
    by_cases hn : n < 10
    · have hzero : ∀ n < 10, Nat.digitChar n = '0' → n = 0 := by decide
      have hdigit : ∀ n < 10, (Nat.digitChar n).isDigit = true := by decide
      exact ⟨n.digitChar, [], Nat.toDigits_of_lt_base hn, hdigit n hn, fun h => ⟨hzero n hn h, rfl⟩⟩
    · obtain ⟨c, cs, hdigits, hc, hzero⟩ := ih (n / 10) (by omega)
      refine ⟨c, cs ++ [(n % 10).digitChar], ?_, hc, fun h => ?_⟩
      · rw [digits, Nat.toDigits_of_base_le (by decide) (by omega), ← digits, hdigits,
          List.cons_append]
      · have := (hzero h).1
        omega

/-! ## Padded numbers -/

section
variable {width n : Nat}

theorem isDigit_of_mem_padded {c : Char} (h : c ∈ padded width n) : c.isDigit = true := by
  rcases List.mem_append.1 h with h | h
  · rw [(List.mem_replicate.1 h).2]
    rfl
  · exact isDigit_of_mem_digits h

theorem length_padded (hwidth : 0 < width) (hn : n < 10 ^ width) :
    (padded width n).length = width := by
  have hlength : (digits n).length ≤ width :=
    (Nat.length_toDigits_le_iff (by decide) hwidth).2 hn
  rw [padded, List.length_append, List.length_replicate]
  omega

theorem number_padded (width n : Nat) : number (padded width n) = n := by
  rw [number, padded, Nat.ofDigitChars_append, Nat.ofDigitChars_replicate_zero, Nat.mul_zero]
  exact number_digits n

end

end Text

end Wayfinder
