import Wayfinder.Keyed

/-!
# Keys that are there

A keyed list has a value under a key exactly if the key is among its keys.  When entries are put
into it one after the other, keys stand in the order in which each one came first:

    find? l key = none ↔ key ∉ keys l                                       (find?_eq_none_iff)
    (keys ++ [key]).eraseDups = keys.eraseDups, and then key if it is new    (eraseDups_concat)
-/

namespace Wayfinder.Keyed

variable {β : Type}

theorem find?_eq_none_iff {l : Keyed β} {key : String} : l.find? key = none ↔ key ∉ keys l := by
  induction l with
  | nil => simp [find?]
  | cons entry l ih =>
    obtain ⟨k, v⟩ := entry
    simp only [find?, keys_cons, List.mem_cons, not_or]
    by_cases h : k = key
    · simp [h]
    · simp [h, ih, Ne.symm h]

theorem find?_map_value {γ : Type} (f : String → β → γ) (l : Keyed β) (key : String) :
    find? (l.map fun (k, v) => (k, f k v)) key = (l.find? key).map (f key) := by
  induction l with
  | nil => rfl
  | cons e l ih =>
    obtain ⟨k, v⟩ := e
    by_cases hk : k = key
    · simp [find?, hk]
    · simpa [find?, hk] using ih

theorem eraseDups_concat (keys : List String) (key : String) :
    (keys ++ [key]).eraseDups =
      if key ∈ keys then keys.eraseDups else keys.eraseDups ++ [key] := by
  rw [List.eraseDups_append]
  by_cases h : key ∈ keys <;> simp [List.removeAll, List.eraseDups_cons, h]

end Wayfinder.Keyed
