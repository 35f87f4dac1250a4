import Wayfinder.Proofs.Route.Walk

/-!
# Chains of redirects

The walks of a resolution form a chain: a walk that redirects names the path of the next one.  The
resolution follows the chain to its end, or to the limit.  Here `p₀ = p` and `pᵢ₊₁` is the path
that the walk of `pᵢ` redirects to:

    chain? p k = some q → k ≤ limit → resolve p = follow k (limit - k) q      (resolve_eq_follow)
    (resolve p).IsCutOff ↔ (chain? p (limit + 1)).isSome                      (isCutOff_resolve_iff)

`Loop` is the same resolution said as a loop that counts redirects up and compares the count with
the limit.
-/

namespace Wayfinder

variable {H F : Type}

/-! ## Definitions -/

/-- The path that a walk asks to go on with. -/
def Walk.dest? : Walk H F → Option RoutePath
  | .done _ _ => none
  | .redirect dest _ => some dest

/-- The resolution ends at the limit of redirects. -/
def Resolution.IsCutOff (res : Resolution H F) : Prop :=
  ∃ limit, .miss (.tooManyRedirects limit) ∈ res.queue

/-- The entry that a limit greater by one leads to. -/
def QueueEntry.raiseLimit : QueueEntry H → QueueEntry H
  | .miss (.tooManyRedirects limit) => .miss (.tooManyRedirects (limit + 1))
  | entry => entry

/-- The resolution of a path that redirects, got from that of the path to which it redirects. -/
def Resolution.afterRedirect (res : Resolution H F) : Resolution H F where
  queue := res.queue.map QueueEntry.raiseLimit
  fallback := res.fallback
  path := res.path
  redirects := res.redirects + 1

namespace Resolver

/-- The resolver with another limit. -/
def withLimit (r : Resolver H F) (limit : Nat) : Resolver H F := { r with maxRedirects := limit }

/-- Where the walk of a path redirects to. -/
def next? (r : Resolver H F) (p : RoutePath) : Option RoutePath := (r.walk p).dest?

/-- The path that the `i`-th redirect from `p` leads to. -/
def chain? (r : Resolver H F) (p : RoutePath) : (i : Nat) → Option RoutePath
  | 0 => some p
  | i + 1 => (r.chain? p i).bind r.next?

/-- `r.Loop n p walks res`: after `n` redirects, with `p` to be walked next, the loop makes
`walks` walks and returns `res`.  It returns when a walk is done, or when the count of redirects
equals the limit. -/
inductive Loop (r : Resolver H F) : Nat → RoutePath → Nat → Resolution H F → Prop
  | done {n : Nat} {p : RoutePath} {queue : List (QueueEntry H)} {f : F}
      (hw : r.walk p = .done queue f) : Loop r n p 1 ⟨queue, f, p, n⟩
  | limit {n : Nat} {p dest : RoutePath} {f : F} (hw : r.walk p = .redirect dest f)
      (hn : n = r.maxRedirects) :
      Loop r n p 1 ⟨[.miss (.tooManyRedirects r.maxRedirects)], f, p, n⟩
  | again {n walks : Nat} {p dest : RoutePath} {f : F} {res : Resolution H F}
      (hw : r.walk p = .redirect dest f) (hn : n ≠ r.maxRedirects)
      (hl : Loop r (n + 1) dest walks res) : Loop r n p (walks + 1) res

/-! ## The chain -/

section
variable (r : Resolver H F) (p : RoutePath)

theorem next?_of_done (queue : List (QueueEntry H)) (f : F) (hw : r.walk p = .done queue f) :
    r.next? p = none := by
  unfold next?
  rw [hw]
  rfl

theorem next?_of_redirect (dest : RoutePath) (f : F) (hw : r.walk p = .redirect dest f) :
    r.next? p = some dest := by
  unfold next?
  rw [hw]
  rfl

theorem walk_of_next?_none (h : r.next? p = none) : ∃ queue f, r.walk p = .done queue f := by
  cases hw : r.walk p with
  | done queue f => exact ⟨queue, f, rfl⟩
  | redirect dest f => rw [r.next?_of_redirect p dest f hw] at h; cases h

theorem walk_of_next?_some (dest : RoutePath) (h : r.next? p = some dest) :
    ∃ f, r.walk p = .redirect dest f := by
  cases hw : r.walk p with
  | done queue f => rw [r.next?_of_done p queue f hw] at h; cases h
  | redirect dest' f =>
    rw [r.next?_of_redirect p dest' f hw] at h
    cases h
    exact ⟨f, rfl⟩

theorem chain?_withLimit (limit i : Nat) : (r.withLimit limit).chain? p i = r.chain? p i := by
  induction i with
  | zero => rfl
  | succ i ih =>
    unfold chain?
    rw [ih]
    rfl

/-- A chain goes on from any of its paths as that path's own chain does. -/
theorem chain?_add (i j : Nat) : r.chain? p (i + j) = (r.chain? p i).bind (r.chain? · j) := by
  induction j with
  | zero => cases h : r.chain? p i <;> simp [chain?]
  | succ j ih =>
    rw [← Nat.add_assoc, chain?, ih]
    cases r.chain? p i <;> rfl

theorem chain?_isSome_of_le (i j : Nat) (hij : i ≤ j) (h : (r.chain? p j).isSome) :
    (r.chain? p i).isSome := by
  obtain ⟨d, rfl⟩ := Nat.exists_eq_add_of_le hij
  rw [chain?_add] at h
  cases hi : r.chain? p i with
  | none => simp [hi] at h
  | some q => rfl

/-- A chain that does not go on after `n` redirects has come to a path that does not redirect. -/
theorem chain?_succ_eq_none_iff (n : Nat) :
    r.chain? p (n + 1) = none ↔ ∃ k ≤ n, ∃ q, r.chain? p k = some q ∧ r.next? q = none := by
  constructor
  · intro h
    induction n with
    | zero => exact ⟨0, Nat.le_refl 0, p, rfl, h⟩
    | succ n ih =>
      cases hc : r.chain? p (n + 1) with
      | none =>
        obtain ⟨k, hk, hq⟩ := ih hc
        exact ⟨k, by omega, hq⟩
      | some q =>
        rw [chain?, hc] at h
        exact ⟨n + 1, Nat.le_refl _, q, hc, h⟩
  · rintro ⟨k, hk, q, hc, hq⟩
    have hend : r.chain? p (k + 1) = none := by rw [chain?, hc]; exact hq
    cases hn : r.chain? p (n + 1) with
    | none => rfl
    | some q' =>
      have := r.chain?_isSome_of_le p (k + 1) (n + 1) (by omega) (by rw [hn]; rfl)
      rw [hend] at this
      cases this

end

/-! ## Following the chain -/

section
variable (r : Resolver H F) (n left : Nat) (p : RoutePath)

theorem follow_done (queue : List (QueueEntry H)) (f : F) (hw : r.walk p = .done queue f) :
    r.follow n left p = ⟨queue, f, p, n⟩ := by
  unfold follow
  rw [hw]

theorem follow_zero (dest : RoutePath) (f : F) (hw : r.walk p = .redirect dest f) :
    r.follow n 0 p = ⟨[.miss (.tooManyRedirects r.maxRedirects)], f, p, n⟩ := by
  unfold follow
  rw [hw]

theorem follow_succ (dest : RoutePath) (h : r.next? p = some dest) :
    r.follow n (left + 1) p = r.follow (n + 1) left dest := by
  obtain ⟨f, hw⟩ := r.walk_of_next?_some p dest h
  rw [follow, hw]

/-- Following a path is following any path of its chain within the limit. -/
theorem follow_chain (k : Nat) (hk : k ≤ left) (q : RoutePath) (hc : r.chain? p k = some q) :
    r.follow n left p = r.follow (n + k) (left - k) q := by
  induction k generalizing q with
  | zero =>
    cases hc
    rfl
  | succ k ih =>
    obtain ⟨q', hq', hnext⟩ := Option.bind_eq_some_iff.1 hc
    have hleft : left - k = (left - (k + 1)) + 1 := by omega
    rw [ih (by omega) q' hq', hleft, r.follow_succ _ _ q' q hnext, Nat.add_assoc]

theorem resolve_eq_follow (k : Nat) (hk : k ≤ r.maxRedirects) (q : RoutePath)
    (hc : r.chain? p k = some q) : r.resolve p = r.follow k (r.maxRedirects - k) q := by
  unfold resolve
  rw [r.follow_chain 0 r.maxRedirects p k hk q hc, Nat.zero_add]

/-- A chain that ends within the limit is resolved by its last walk. -/
theorem resolve_of_done (k : Nat) (hk : k ≤ r.maxRedirects) (q : RoutePath)
    (hc : r.chain? p k = some q) (queue : List (QueueEntry H)) (f : F)
    (hw : r.walk q = .done queue f) : r.resolve p = ⟨queue, f, q, k⟩ := by
  rw [r.resolve_eq_follow p k hk q hc, r.follow_done k _ q queue f hw]

/-- A chain that goes on beyond the limit is cut off at the limit's path. -/
theorem resolve_of_redirect (q dest : RoutePath) (hc : r.chain? p r.maxRedirects = some q) (f : F)
    (hw : r.walk q = .redirect dest f) :
    r.resolve p =
      ⟨[.miss (.tooManyRedirects r.maxRedirects)], f, q, r.maxRedirects⟩ := by
  rw [r.resolve_eq_follow p _ (Nat.le_refl _) q hc, Nat.sub_self, r.follow_zero _ q dest f hw]

/-- Either way of ending. -/
theorem resolve_cases :
    (∃ k ≤ r.maxRedirects, ∃ q queue f, r.chain? p k = some q ∧ r.walk q = .done queue f ∧
      r.resolve p = ⟨queue, f, q, k⟩) ∨
    ∃ q dest f, r.chain? p r.maxRedirects = some q ∧ r.walk q = .redirect dest f ∧
      r.resolve p = ⟨[.miss (.tooManyRedirects r.maxRedirects)], f, q, r.maxRedirects⟩ := by
  cases hc : r.chain? p (r.maxRedirects + 1) with
  | none =>
    obtain ⟨k, hk, q, hq, hnext⟩ := (r.chain?_succ_eq_none_iff p _).1 hc
    obtain ⟨queue, f, hw⟩ := r.walk_of_next?_none q hnext
    exact Or.inl ⟨k, hk, q, queue, f, hq, hw, r.resolve_of_done p k hk q hq queue f hw⟩
  | some dest =>
    obtain ⟨q, hq, hnext⟩ := Option.bind_eq_some_iff.1 hc
    obtain ⟨f, hw⟩ := r.walk_of_next?_some q dest hnext
    exact Or.inr ⟨q, dest, f, hq, hw, r.resolve_of_redirect p q dest hq f hw⟩

end

/-! ## Resolutions that are cut off -/

section
variable (r : Resolver H F) (p : RoutePath)

/-- A walk queues no other error than a path that is not found. -/
theorem tooManyRedirects_notMem_expectedQueue (limit : Nat) :
    QueueEntry.miss (.tooManyRedirects limit) ∉ r.expectedQueue p := by
  intro h
  unfold expectedQueue at h
  rcases List.mem_append.1 h with h | h
  · obtain ⟨d, -, hd⟩ := List.mem_flatMap.1 h
    unfold entriesAt at hd
    split at hd
    · cases hd
    · obtain ⟨e, -, he⟩ := List.mem_map.1 hd
      cases he
  · split at h <;> simp at h

theorem not_isCutOff_of_done (k : Nat) (q : RoutePath) (queue : List (QueueEntry H)) (f : F)
    (hw : r.walk q = .done queue f) : ¬ Resolution.IsCutOff ⟨queue, f, q, k⟩ := by
  rintro ⟨limit, h⟩
  obtain ⟨-, rfl, -⟩ := (r.walk_eq_done_iff q queue f).1 hw
  exact r.tooManyRedirects_notMem_expectedQueue q limit h

/-- A resolution is cut off if and only if its chain goes on beyond the limit. -/
theorem isCutOff_resolve_iff :
    (r.resolve p).IsCutOff ↔ (r.chain? p (r.maxRedirects + 1)).isSome := by
  rcases r.resolve_cases p with ⟨k, hk, q, queue, f, hc, hw, he⟩ | ⟨q, dest, f, hc, hw, he⟩
  · have hend : r.chain? p (r.maxRedirects + 1) = none :=
      (r.chain?_succ_eq_none_iff p _).2 ⟨k, hk, q, hc, r.next?_of_done q queue f hw⟩
    rw [he, hend]
    exact iff_of_false (r.not_isCutOff_of_done k q queue f hw) (by simp)
  · rw [he, chain?, hc, Option.bind_some, r.next?_of_redirect q dest f hw]
    exact iff_of_true ⟨_, List.mem_singleton.2 rfl⟩ rfl

theorem resolve_of_not_isCutOff (h : ¬ (r.resolve p).IsCutOff) :
    ∃ k ≤ r.maxRedirects, ∃ q queue f, r.chain? p k = some q ∧ r.walk q = .done queue f ∧
      r.resolve p = ⟨queue, f, q, k⟩ := by
  rcases r.resolve_cases p with hd | ⟨q, dest, f, -, -, he⟩
  · exact hd
  · rw [he] at h
    exact absurd ⟨_, List.mem_singleton.2 rfl⟩ h

/-- A limit that is not reached may be raised. -/
theorem resolve_withLimit (limit : Nat) (hl : r.maxRedirects ≤ limit)
    (h : ¬ (r.resolve p).IsCutOff) : (r.withLimit limit).resolve p = r.resolve p := by
  obtain ⟨k, hk, q, queue, f, hc, hw, he⟩ := r.resolve_of_not_isCutOff p h
  rw [he]
  exact (r.withLimit limit).resolve_of_done p k (Nat.le_trans hk hl) q
    ((r.chain?_withLimit p limit k).trans hc) queue f hw

/-- A path that a resolution has come to resolves to the same without redirects. -/
theorem resolve_path_resolve (h : ¬ (r.resolve p).IsCutOff) :
    r.resolve (r.resolve p).path = { r.resolve p with redirects := 0 } := by
  obtain ⟨k, hk, q, queue, f, hc, hw, he⟩ := r.resolve_of_not_isCutOff p h
  rw [he]
  exact r.resolve_of_done q 0 (Nat.zero_le _) q rfl queue f hw

/-- Nothing that a walk queues depends on the limit. -/
theorem raiseLimit_expectedQueue :
    (r.expectedQueue p).map QueueEntry.raiseLimit = r.expectedQueue p := by
  refine (List.map_congr_left fun e he => ?_).trans (List.map_id _)
  rcases e with ⟨d, node, h, rest⟩ | (_ | limit)
  · rfl
  · rfl
  · exact absurd he (r.tooManyRedirects_notMem_expectedQueue p limit)

/-- Resolving a path that redirects is resolving the path that it redirects to. -/
theorem resolve_of_next? (dest : RoutePath) (limit : Nat) (hl : r.maxRedirects = limit + 1)
    (h : r.next? p = some dest) :
    r.resolve p = ((r.withLimit limit).resolve dest).afterRedirect := by
  -- the chain of `dest` is that of `p` without its first path
  have hchain : ∀ i, r.chain? p (i + 1) = (r.withLimit limit).chain? dest i := by
    intro i
    rw [chain?_withLimit, Nat.add_comm, chain?_add, chain?, chain?, Option.bind_some, h,
      Option.bind_some]
  rcases (r.withLimit limit).resolve_cases dest with
    ⟨k, hk, q, queue, f, hc, hw, he⟩ | ⟨q, dest', f, hc, hw, he⟩
  · have hq : queue = r.expectedQueue q := ((r.walk_eq_done_iff q queue f).1 hw).2.1
    rw [he, r.resolve_of_done p (k + 1) (hl ▸ Nat.succ_le_succ hk) q ((hchain k).trans hc) queue f hw]
    unfold Resolution.afterRedirect
    simp only [hq, raiseLimit_expectedQueue]
  · have hc' : r.chain? p r.maxRedirects = some q := by rw [hl]; exact (hchain limit).trans hc
    rw [he, r.resolve_of_redirect p q dest' hc' f hw, hl]
    rfl

/-! ## The loop that counts up -/

/-- The loop does what `follow` does, with one walk more than it follows redirects. -/
theorem loop_follow (n left : Nat) (hn : n + left = r.maxRedirects) :
    ∃ walks ≤ left + 1, r.Loop n p walks (r.follow n left p) := by
  induction left generalizing n p with
  | zero =>
    cases hw : r.walk p with
    | done queue f => exact ⟨1, by omega, r.follow_done n 0 p queue f hw ▸ .done hw⟩
    | redirect dest f => exact ⟨1, by omega, r.follow_zero n p dest f hw ▸ .limit hw hn⟩
  | succ left ih =>
    cases hw : r.walk p with
    | done queue f => exact ⟨1, by omega, r.follow_done n _ p queue f hw ▸ .done hw⟩
    | redirect dest f =>
      obtain ⟨walks, hle, hl⟩ := ih dest (n + 1) (by omega)
      refine ⟨walks + 1, by omega, ?_⟩
      rw [r.follow_succ n left p dest (r.next?_of_redirect p dest f hw)]
      exact .again hw (by omega) hl

theorem Loop.deterministic {r : Resolver H F} {n walks walks' : Nat} {p : RoutePath}
    {res res' : Resolution H F} (h : r.Loop n p walks res) (h' : r.Loop n p walks' res') :
    walks' = walks ∧ res' = res := by
  induction h generalizing walks' res' with
  | done hw =>
    cases h' with
    | done hw' => rw [hw] at hw'; cases hw'; exact ⟨rfl, rfl⟩
    | limit hw' _ => rw [hw] at hw'; cases hw'
    | again hw' _ _ => rw [hw] at hw'; cases hw'
  | limit hw hn =>
    cases h' with
    | done hw' => rw [hw] at hw'; cases hw'
    | limit hw' _ => rw [hw] at hw'; cases hw'; exact ⟨rfl, rfl⟩
    | again _ hn' _ => exact absurd hn hn'
  | again hw hn _ ih =>
    cases h' with
    | done hw' => rw [hw] at hw'; cases hw'
    | limit _ hn' => exact absurd hn' hn
    | again hw' _ hl' =>
      rw [hw] at hw'
      cases hw'
      obtain ⟨rfl, rfl⟩ := ih hl'
      exact ⟨rfl, rfl⟩

/-! ## Resolution along a chain -/

/-- **Redirect chains.**  The loop returns the resolution after at most one walk more than the
limit, and nothing else.  A chain that ends within the limit is resolved by its last walk, one that
does not is cut off at the limit.  Hence a redirect can be followed by hand, a limit that is not
reached can be raised, and a path that has been resolved stays as it is. -/
theorem resolve_chain :
    (∃ walks ≤ r.maxRedirects + 1, r.Loop 0 p walks (r.resolve p) ∧
      ∀ walks' res, r.Loop 0 p walks' res → walks' = walks ∧ res = r.resolve p) ∧
    (∀ k ≤ r.maxRedirects, ∀ q queue f, r.chain? p k = some q → r.walk q = .done queue f →
      r.resolve p = ⟨queue, f, q, k⟩) ∧
    ((∀ k ≤ r.maxRedirects, ∀ q, r.chain? p k = some q → (r.next? q).isSome) →
      ∃ q dest f, r.chain? p r.maxRedirects = some q ∧ r.walk q = .redirect dest f ∧
        r.resolve p =
          ⟨[.miss (.tooManyRedirects r.maxRedirects)], f, q, r.maxRedirects⟩) ∧
    (∀ dest limit, r.next? p = some dest → r.maxRedirects = limit + 1 →
      r.resolve p = ((r.withLimit limit).resolve dest).afterRedirect) ∧
    (∀ limit, r.maxRedirects ≤ limit → ¬ (r.resolve p).IsCutOff →
      (r.withLimit limit).resolve p = r.resolve p) ∧
    (¬ (r.resolve p).IsCutOff →
      r.resolve (r.resolve p).path = { r.resolve p with redirects := 0 }) := by
  refine ⟨?_, fun k hk q queue f hc hw => r.resolve_of_done p k hk q hc queue f hw, ?_,
    fun dest limit h hl => r.resolve_of_next? p dest limit hl h,
    fun limit hl h => r.resolve_withLimit p limit hl h, r.resolve_path_resolve p⟩
  · obtain ⟨walks, hle, hl⟩ := r.loop_follow p 0 r.maxRedirects (Nat.zero_add _)
    exact ⟨walks, hle, hl, fun walks' res h => hl.deterministic h⟩
  · intro hall
    rcases r.resolve_cases p with ⟨k, hk, q, queue, f, hc, hw, -⟩ | hcut
    · have := hall k hk q hc
      rw [r.next?_of_done q queue f hw] at this
      cases this
    · exact hcut

end

end Resolver

end Wayfinder
