import Wayfinder.Proofs.Route.Redirects

/-!
# The most specific fallback

A resolution names the fallback of the deepest node on its last walk that has one, and the default
if none has.  Nodes of earlier walks, and nodes that the last walk does not come to, have no part in
it; and the default has no part in anything else:

    f = r.nearestFallback q ↔ r.MostSpecific q f                    (eq_nearestFallback_iff)
    (r.resolve p).fallback = r.nearestFallback (r.resolve p).path   (fallback_resolve)
-/

namespace Wayfinder

variable {H F : Type}

/-! ## Definitions -/

/-- The resolution with another fallback. -/
def Resolution.withFallback (res : Resolution H F) (f : F) : Resolution H F :=
  { res with fallback := f }

/-- The walk with another fallback. -/
def Walk.withFallback (f : F) : Walk H F → Walk H F
  | .done queue _ => .done queue f
  | .redirect dest _ => .redirect dest f

namespace Resolver

/-- The resolver with another default. -/
def withDefault (r : Resolver H F) (f : F) : Resolver H F := { r with defaultFallback := f }

/-- The fallback of the node at the first `d` segments of a path. -/
def fallbackAt? (r : Resolver H F) (q : RoutePath) (d : Nat) : Option F :=
  (r.node? q d).bind (·.slots.notFound)

/-- Some node on the walk of a path has a fallback. -/
def HasFallback (r : Resolver H F) (q : RoutePath) : Prop :=
  ∃ d ≤ r.depth q, (r.fallbackAt? q d).isSome

instance (r : Resolver H F) (q : RoutePath) : Decidable (r.HasFallback q) :=
  inferInstanceAs (Decidable (∃ d ≤ r.depth q, (r.fallbackAt? q d).isSome))

/-- `f` is what the deepest node on the walk of a path says, among those that have a fallback. -/
inductive MostSpecific (r : Resolver H F) (q : RoutePath) : F → Prop
  | own {d : Nat} {f : F} (hd : d ≤ r.depth q) (hf : r.fallbackAt? q d = some f)
      (hdeeper : ∀ e, d < e → e ≤ r.depth q → r.fallbackAt? q e = none) : MostSpecific r q f
  | default (hnone : ∀ d ≤ r.depth q, r.fallbackAt? q d = none) :
      MostSpecific r q r.defaultFallback

/-! ## The deepest node with a fallback -/

section
variable (r : Resolver H F) (q : RoutePath)

theorem fallbackBelow_add_one (d : Nat) :
    r.fallbackBelow q (d + 1) = (r.fallbackAt? q d).getD (r.fallbackBelow q d) := rfl

/-- Nodes without a fallback leave the one that holds above them. -/
theorem fallbackBelow_of_none (d n : Nat) (hdn : d ≤ n)
    (hnone : ∀ e, d ≤ e → e < n → r.fallbackAt? q e = none) :
    r.fallbackBelow q n = r.fallbackBelow q d := by
  induction n, hdn using Nat.le_induction with
  | base => rfl
  | succ n hdn ih =>
    rw [fallbackBelow_add_one, hnone n hdn (Nat.lt_succ_self n), Option.getD_none]
    exact ih fun e hde hen => hnone e hde (Nat.lt_succ_of_lt hen)

theorem exists_deepest (n : Nat) :
    (∀ d < n, r.fallbackAt? q d = none) ∨
      ∃ d < n, ∃ f, r.fallbackAt? q d = some f ∧
        ∀ e, d < e → e < n → r.fallbackAt? q e = none := by
  induction n with
  | zero => exact Or.inl fun d hd => absurd hd (Nat.not_lt_zero d)
  | succ n ih =>
    cases hn : r.fallbackAt? q n with
    | some f => exact Or.inr ⟨n, Nat.lt_succ_self n, f, hn, fun e he he' => by omega⟩
    | none =>
      have hlast : ∀ e < n + 1, ¬ e < n → r.fallbackAt? q e = none := by
        intro e he hen
        rw [show e = n by omega, hn]
      rcases ih with hnone | ⟨d, hd, f, hf, hdeeper⟩
      · refine Or.inl fun e he => ?_
        by_cases hen : e < n
        · exact hnone e hen
        · exact hlast e he hen
      · refine Or.inr ⟨d, by omega, f, hf, fun e hde he => ?_⟩
        by_cases hen : e < n
        · exact hdeeper e hde hen
        · exact hlast e he hen

theorem nearestFallback_of_deepest (d : Nat) (f : F) (hd : d ≤ r.depth q)
    (hf : r.fallbackAt? q d = some f)
    (hdeeper : ∀ e, d < e → e ≤ r.depth q → r.fallbackAt? q e = none) :
    r.nearestFallback q = f := by
  unfold nearestFallback
  rw [r.fallbackBelow_of_none q (d + 1) _ (by omega) fun e he he' => hdeeper e he (by omega),
    fallbackBelow_add_one, hf, Option.getD_some]

theorem nearestFallback_of_none (hnone : ∀ d ≤ r.depth q, r.fallbackAt? q d = none) :
    r.nearestFallback q = r.defaultFallback :=
  r.fallbackBelow_of_none q 0 _ (Nat.zero_le _) fun e _ he => hnone e (by omega)

theorem eq_nearestFallback_iff (f : F) : f = r.nearestFallback q ↔ r.MostSpecific q f := by
  constructor
  · rintro rfl
    rcases r.exists_deepest q (r.depth q + 1) with hnone | ⟨d, hd, f, hf, hdeeper⟩
    · have hnone' : ∀ d ≤ r.depth q, r.fallbackAt? q d = none := fun d hd => hnone d (by omega)
      rw [r.nearestFallback_of_none q hnone']
      exact .default hnone'
    · have hdeeper' : ∀ e, d < e → e ≤ r.depth q → r.fallbackAt? q e = none :=
        fun e he he' => hdeeper e he (by omega)
      rw [r.nearestFallback_of_deepest q d f (by omega) hf hdeeper']
      exact .own (by omega) hf hdeeper'
  · intro h
    cases h with
    | own hd hf hdeeper => exact (r.nearestFallback_of_deepest q _ f hd hf hdeeper).symm
    | default hnone => exact (r.nearestFallback_of_none q hnone).symm

/-! ## The fallback of a resolution -/

/-- Every way to end a resolution names the fallback of its last walk. -/
theorem fallback_resolve (p : RoutePath) :
    (r.resolve p).fallback = r.nearestFallback (r.resolve p).path := by
  rcases r.resolve_cases p with ⟨k, -, q, queue, f, -, hw, he⟩ | ⟨q, dest, f, -, hw, he⟩
  · rw [he]
    exact ((r.walk_eq_done_iff q queue f).1 hw).2.2
  · rw [he]
    exact ((r.walk_eq_redirect_iff q dest f).1 hw).2

/-- The fallback of a resolution is kept by a node of the sitemap, or is the default. -/
theorem fallback_resolve_cases (p : RoutePath) :
    (r.resolve p).fallback = r.defaultFallback ∨
      ∃ s path t, r.sitemap = some s ∧ s.node? path = some t ∧
        t.slots.notFound = some (r.resolve p).fallback := by
  have h := (r.eq_nearestFallback_iff (r.resolve p).path _).1 (r.fallback_resolve p)
  generalize (r.resolve p).fallback = f at h ⊢
  cases h with
  | default => exact Or.inl rfl
  | own _ hf _ =>
    obtain ⟨t, ht, hf⟩ := Option.bind_eq_some_iff.1 hf
    obtain ⟨s, hs, hn⟩ := Option.bind_eq_some_iff.1 ht
    exact Or.inr ⟨s, _, t, hs, hn, hf⟩

/-! ## Another default -/

variable (g : F)

theorem nearestFallback_withDefault :
    (r.withDefault g).nearestFallback q = if r.HasFallback q then r.nearestFallback q else g := by
  -- the two resolvers have the same nodes, and so the same depths and fallbacks
  have h := (r.eq_nearestFallback_iff q _).1 rfl
  generalize r.nearestFallback q = f at h ⊢
  cases h with
  | own hd hf hdeeper =>
    rw [if_pos ⟨_, hd, Option.isSome_of_eq_some hf⟩]
    exact (r.withDefault g).nearestFallback_of_deepest q _ f hd hf hdeeper
  | default hnone =>
    have hnot : ¬ r.HasFallback q := by
      rintro ⟨d, hd, hs⟩
      rw [hnone d hd] at hs
      cases hs
    rw [if_neg hnot]
    exact (r.withDefault g).nearestFallback_of_none q hnone

theorem walk_withDefault :
    (r.withDefault g).walk q = (r.walk q).withFallback ((r.withDefault g).nearestFallback q) := by
  rcases r.walk_eq q with ⟨dest, hto, hw⟩ | ⟨hto, hw⟩ <;> rw [hw]
  · exact ((r.withDefault g).walk_eq_redirect_iff q dest _).2 ⟨hto, rfl⟩
  · exact ((r.withDefault g).walk_eq_done_iff q _ _).2 ⟨hto, rfl, rfl⟩

theorem chain?_withDefault (p : RoutePath) (i : Nat) :
    (r.withDefault g).chain? p i = r.chain? p i := by
  have hnext : (r.withDefault g).next? = r.next? := by
    funext q
    unfold next?
    rw [walk_withDefault]
    cases r.walk q <;> rfl
  induction i with
  | zero => rfl
  | succ i ih => rw [chain?, ih, hnext, chain?]

theorem resolve_withDefault (p : RoutePath) :
    (r.withDefault g).resolve p =
      (r.resolve p).withFallback ((r.withDefault g).nearestFallback (r.resolve p).path) := by
  rcases r.resolve_cases p with ⟨k, hk, q, queue, f, hc, hw, he⟩ | ⟨q, dest, f, hc, hw, he⟩
  · rw [he]
    refine (r.withDefault g).resolve_of_done p k hk q ((r.chain?_withDefault g p k).trans hc)
      queue _ ?_
    rw [walk_withDefault, hw]
    rfl
  · rw [he]
    refine (r.withDefault g).resolve_of_redirect p q dest
      ((r.chain?_withDefault g p _).trans hc) _ ?_
    rw [walk_withDefault, hw]
    rfl

/-- **The most specific fallback.**  A resolution names the fallback of the deepest node on its last
walk that has one, and otherwise the default.  Another default takes the place of the old one there,
and changes nothing else. -/
theorem fallback_resolve_iff (p : RoutePath) :
    (∀ f, (r.resolve p).fallback = f ↔ r.MostSpecific (r.resolve p).path f) ∧
    ∀ g, (r.withDefault g).resolve p =
      if r.HasFallback (r.resolve p).path then r.resolve p else (r.resolve p).withFallback g := by
  refine ⟨fun f => ?_, fun g => ?_⟩
  · rw [fallback_resolve, ← eq_nearestFallback_iff]
    exact eq_comm
  · rw [resolve_withDefault, nearestFallback_withDefault, ← fallback_resolve]
    split <;> rfl

end

end Resolver

end Wayfinder
