/-!
# Keyed lists

Entries under text keys, kept in the order in which the keys came.  `Keyed.put` under a key that
is already there replaces the value and keeps the place, so keys stay distinct.

    find? (put k v l) k' = if k = k' then some v else find? l k'            (find?_put)
    keys (put k v l)     = keys l, with k at the end if it is new           (keys_put)
-/

namespace Wayfinder

/-- Entries in the order of their keys' first appearance. -/
abbrev Keyed (β : Type) := List (String × β)

namespace Keyed

variable {β : Type}

/-- The keys in order. -/
def keys (l : Keyed β) : List String := l.map Prod.fst

/-- The value under a key. -/
def find? : Keyed β → String → Option β
  | [], _ => none
  | (k, v) :: l, key => if k = key then some v else find? l key

/-- Put a value under a key: in place if the key is there, else at the end. -/
def put (key : String) (value : β) : Keyed β → Keyed β
  | [] => [(key, value)]
  | (k, v) :: l => if k = key then (k, value) :: l else (k, v) :: put key value l

/-- Remove the entry under a key. -/
def erase (key : String) (l : Keyed β) : Keyed β := l.filter (·.1 ≠ key)

@[simp] theorem keys_nil : keys ([] : Keyed β) = [] := rfl

@[simp] theorem keys_cons (e : String × β) (l : Keyed β) : keys (e :: l) = e.1 :: keys l := rfl

theorem keys_put (key : String) (value : β) (l : Keyed β) :
    keys (put key value l) = if key ∈ keys l then keys l else keys l ++ [key] := by
  induction l with
  | nil => simp [put]
  | cons e l ih =>
    obtain ⟨k, v⟩ := e
    by_cases h : k = key
    · simp [put, h]
    · have h' : ¬ key = k := fun e => h e.symm
      simp only [put, h, if_false, keys_cons, ih, List.mem_cons, h', false_or]
      split <;> simp

theorem put_of_not_mem {key : String} {l : Keyed β} (h : key ∉ keys l) (value : β) :
    put key value l = l ++ [(key, value)] := by
  induction l with
  | nil => rfl
  | cons e l ih =>
    rw [keys_cons, List.mem_cons, not_or] at h
    rw [put, if_neg (Ne.symm h.1), ih h.2, List.cons_append]

theorem mem_of_find? {key : String} {value : β} {l : Keyed β} (h : l.find? key = some value) :
    (key, value) ∈ l := by
  induction l with
  | nil => cases h
  | cons e l ih =>
    obtain ⟨k, v⟩ := e
    unfold find? at h
    split at h
    · next hk =>
      cases h
      exact hk ▸ List.mem_cons_self
    · exact List.mem_cons_of_mem _ (ih h)

/-- Under distinct keys every entry is found. -/
theorem find?_of_mem {key : String} {value : β} {l : Keyed β} (hl : (keys l).Nodup)
    (h : (key, value) ∈ l) : l.find? key = some value := by
  induction l with
  | nil => cases h
  | cons e l ih =>
    obtain ⟨k, v⟩ := e
    rw [keys_cons, List.nodup_cons] at hl
    rcases List.mem_cons.1 h with he | h
    · cases he
      exact if_pos rfl
    · have hk : k ≠ key := fun e => hl.1 (e ▸ List.mem_map.2 ⟨_, h, rfl⟩)
      rw [find?, if_neg hk]
      exact ih hl.2 h

theorem find?_put (key k : String) (value : β) (l : Keyed β) :
    find? (put key value l) k = if key = k then some value else find? l k := by
  induction l with
  | nil => simp [put, find?]
  | cons e l ih =>
    obtain ⟨k', v⟩ := e
    by_cases h : k' = key
    · subst h; simp only [put, if_true, find?]; split <;> simp_all
    · simp only [put, h, if_false, find?, ih]
      by_cases hk : k' = k
      · subst hk; simp [Ne.symm h]
      · simp [hk]

theorem nodup_keys_put {key : String} {value : β} {l : Keyed β} (h : (keys l).Nodup) :
    (keys (put key value l)).Nodup := by
  rw [keys_put]
  split
  · exact h
  · rename_i hk
    exact List.nodup_append.2 ⟨h, by simp, fun a ha b hb e => hk (by simp_all)⟩

theorem mem_put {key : String} {value : β} {l : Keyed β} {e : String × β}
    (h : e ∈ put key value l) : e = (key, value) ∨ e ∈ l := by
  induction l with
  | nil => exact Or.inl (by simpa [put] using h)
  | cons a l ih =>
    obtain ⟨k, v⟩ := a
    unfold put at h
    split at h
    · rename_i hk
      rcases List.mem_cons.1 h with rfl | h
      · exact Or.inl (by rw [hk])
      · exact Or.inr (List.mem_cons_of_mem _ h)
    · rcases List.mem_cons.1 h with rfl | h
      · exact Or.inr List.mem_cons_self
      · exact (ih h).imp_right (List.mem_cons_of_mem _)

theorem find?_erase (key k : String) (l : Keyed β) :
    find? (erase key l) k = if key = k then none else find? l k := by
  induction l with
  | nil => simp [erase, find?]
  | cons e l ih =>
    obtain ⟨k', v⟩ := e
    unfold erase at ih ⊢
    by_cases h : k' = key
    · subst h; simp only [List.filter_cons, ne_eq, not_true_eq_false, decide_false,
        Bool.false_eq_true, if_false, ih, find?]
      split <;> rfl
    · simp only [List.filter_cons, ne_eq, h, not_false_eq_true, decide_true, if_true, find?, ih]
      by_cases hk : k' = k
      · subst hk; simp [Ne.symm h]
      · simp [hk]

end Keyed

end Wayfinder
