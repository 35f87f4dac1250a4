import Mathlib.Data.List.Nodup
import Wayfinder.Proofs.Route.Redirects
import Wayfinder.Proofs.Route.Validation

/-!
# The shape of queues

What is queued comes down the path: the nodes of the entries are prefixes of the path in the order
of their lengths, and each slot is queued once.  An error stands at the end only, and a path that
resolves to nothing at all does not occur:

    (r.resolve p).Shaped                                               (resolve_shaped)
    res.Shaped → (res.isMiss ↔ ∃ e ∈ res.queue, e.isMiss)              (Shaped.isMiss_iff)

The entries of one node are told apart by their directives, which its order lists once
(`Sitemap.nodup_directiveOrder`), and those of two nodes by the lengths of the nodes' paths.
-/

namespace Wayfinder

variable {H F : Type}

/-! ## Definitions -/

/-- The node and the directive under which the handler of an entry is kept. -/
def QueueEntry.slot? : QueueEntry H → Option (RoutePath × Directive)
  | .action directive node _ _ => some (node, directive)
  | .miss _ => none

/-- The slots whose handlers a queue runs, in order. -/
def queueSlots (queue : List (QueueEntry H)) : List (RoutePath × Directive) :=
  queue.filterMap (·.slot?)

namespace Resolution

/-- The shape on which those who run a queue rely. -/
structure Shaped (res : Resolution H F) : Prop where
  queue_ne_nil : res.queue ≠ []
  /-- What stands before the last entry is no error. -/
  errors_last : ∀ e ∈ res.queue.dropLast, e.isMiss = false
  /-- A resolution that is cut off runs nothing. -/
  cut_off_alone : ∀ limit, .miss (.tooManyRedirects limit) ∈ res.queue →
    res.queue = [.miss (.tooManyRedirects limit)]
  /-- The node of an entry is a prefix of the path, and the entry keeps the rest. -/
  along_path : ∀ directive node handler remaining,
    .action directive node handler remaining ∈ res.queue →
      node.segments ++ remaining.segments = res.path.segments
  /-- The queue comes down the path. -/
  downwards : (queueSlots res.queue).Pairwise fun a b => a.1.length ≤ b.1.length
  /-- No slot is queued twice. -/
  slots_nodup : (queueSlots res.queue).Nodup

end Resolution

/-! ## The handlers that fire -/

theorem Slots.mem_firing (s : Slots H F) (isTarget : Bool) (listed : List Directive)
    (d : Directive) (h : H) :
    (d, h) ∈ s.firing isTarget listed ↔
      (d ∈ listed ∧ d.firesAt isTarget) ∧ s.handler? d = some h := by
  unfold Slots.firing
  simp only [List.mem_filterMap, List.mem_filter, Option.map_eq_some_iff, Prod.mk.injEq]
  constructor
  · rintro ⟨d', hd', h', hh, rfl, rfl⟩
    exact ⟨hd', hh⟩
  · rintro ⟨hd, hh⟩
    exact ⟨d, hd, h, hh, rfl, rfl⟩

/-- Directives fire in the order in which they are listed. -/
theorem Slots.firing_sublist (s : Slots H F) (isTarget : Bool) (listed : List Directive) :
    ((s.firing isTarget listed).map Prod.fst).Sublist listed := by
  induction listed with
  | nil => exact List.Sublist.refl _
  | cons d ds ih =>
    rw [Slots.firing_cons, List.map_append]
    split
    · cases s.handler? d with
      | none => exact ih.cons d
      | some h => exact ih.cons_cons d
    · exact ih.cons d

/-- A terminal handler fires at a node that is passed through. -/
theorem Slots.firing_false_ne_nil (s : Slots H F) (hs : s.terminal.isSome) :
    s.firing false s.directiveOrder ≠ [] := by
  obtain ⟨h, hh⟩ := Option.isSome_iff_exists.1 hs
  exact List.ne_nil_of_mem ((s.mem_firing false _ .terminal h).2
    ⟨⟨s.mem_directiveOrder _, rfl⟩, hh⟩)

/-- Something fires where a path ends at a page that does not redirect. -/
theorem Slots.firing_true_ne_nil (s : Slots H F) (hs : s.isPage) (hr : s.redirect? = none) :
    s.firing true s.directiveOrder ≠ [] := by
  rcases Bool.or_eq_true_iff.1 hs with hw | ht
  · obtain ⟨h, hh⟩ := Option.isSome_iff_exists.1 hw
    exact List.ne_nil_of_mem ((s.mem_firing true _ .wildcard h).2
      ⟨⟨s.mem_directiveOrder _, rfl⟩, hh⟩)
  · obtain ⟨h | dest, ht⟩ := Option.isSome_iff_exists.1 ht
    · exact List.ne_nil_of_mem ((s.mem_firing true _ .target h).2
        ⟨⟨s.mem_directiveOrder _, rfl⟩, by simp [Slots.handler?, ht]⟩)
    · rw [(s.redirect?_eq_some_iff dest).2 ht] at hr
      cases hr

namespace Resolver

variable (r : Resolver H F) (q : RoutePath)

/-! ## The entries of one node -/

theorem entriesAt_of_node (d : Nat) (t : Tree H F) (ht : r.node? q d = some t) :
    r.entriesAt q d =
      q.actionsAt d (t.slots.firing (d = q.length) t.slots.directiveOrder) := by
  unfold entriesAt
  rw [ht]

theorem mem_entriesAt (d : Nat) (e : QueueEntry H) (he : e ∈ r.entriesAt q d) :
    ∃ t directive handler, r.node? q d = some t ∧ t.slots.handler? directive = some handler ∧
      e = .action directive (q.take d) handler (q.drop d) := by
  unfold entriesAt at he
  split at he
  · cases he
  · next t ht =>
    obtain ⟨⟨directive, handler⟩, hfired, rfl⟩ := List.mem_map.1 he
    exact ⟨t, directive, handler, ht, ((t.slots.mem_firing _ _ _ _).1 hfired).2, rfl⟩

theorem queueSlots_actionsAt (d : Nat) (fired : List (Directive × H)) :
    queueSlots (q.actionsAt d fired) = (fired.map Prod.fst).map (q.take d, ·) := by
  unfold queueSlots RoutePath.actionsAt
  rw [List.filterMap_map, List.map_map]
  exact congrFun List.filterMap_eq_map fired

theorem mem_queueSlots_entriesAt (d : Nat) (a : RoutePath × Directive)
    (ha : a ∈ queueSlots (r.entriesAt q d)) : a.1 = q.take d := by
  obtain ⟨e, he, hslot⟩ := List.mem_filterMap.1 ha
  obtain ⟨t, directive, handler, -, -, rfl⟩ := r.mem_entriesAt q d e he
  cases hslot
  rfl

theorem nodup_queueSlots_entriesAt (d : Nat) : (queueSlots (r.entriesAt q d)).Nodup := by
  cases ht : r.node? q d with
  | none => simp [entriesAt, ht, queueSlots]
  | some t =>
    obtain ⟨s, hs, hn⟩ := Option.bind_eq_some_iff.1 ht
    rw [r.entriesAt_of_node q d t ht, queueSlots_actionsAt]
    refine List.Nodup.map (fun _ _ e => (Prod.mk.inj e).2) ?_
    exact (s.nodup_directiveOrder _ t hn).sublist (t.slots.firing_sublist _ _)

/-! ## The entries of a walk -/

theorem mem_expectedQueue (e : QueueEntry H) (he : e ∈ r.expectedQueue q) :
    (∃ d ≤ r.depth q, e ∈ r.entriesAt q d) ∨ e = .miss .notFound := by
  rcases List.mem_append.1 he with he | he
  · obtain ⟨d, hd, he⟩ := List.mem_flatMap.1 he
    exact Or.inl ⟨d, Nat.le_of_lt_succ (List.mem_range.1 hd), he⟩
  · split at he
    · exact Or.inr (List.mem_singleton.1 he)
    · cases he

/-- What a walk queues is a miss, or the handler of a slot on its way. -/
theorem expectedQueue_cases (e : QueueEntry H) (he : e ∈ r.expectedQueue q) :
    e = .miss .notFound ∨ ∃ d t directive handler, r.node? q d = some t ∧
      t.slots.handler? directive = some handler ∧
      e = .action directive (q.take d) handler (q.drop d) := by
  rcases r.mem_expectedQueue q e he with ⟨d, -, he⟩ | he
  · exact Or.inr ⟨d, r.mem_entriesAt q d e he⟩
  · exact Or.inl he

/-- The nodes on the way of a walk add no errors. -/
theorem isMiss_of_mem_entries (depth : Nat) (e : QueueEntry H)
    (he : e ∈ (List.range depth).flatMap (r.entriesAt q)) : e.isMiss = false := by
  obtain ⟨d, -, he⟩ := List.mem_flatMap.1 he
  obtain ⟨t, directive, handler, -, -, rfl⟩ := r.mem_entriesAt q d e he
  rfl

theorem isMiss_dropLast_expectedQueue (e : QueueEntry H)
    (he : e ∈ (r.expectedQueue q).dropLast) : e.isMiss = false := by
  apply r.isMiss_of_mem_entries q (r.depth q + 1)
  unfold expectedQueue at he
  split at he
  · rwa [List.dropLast_concat] at he
  · rw [List.append_nil] at he
    exact List.dropLast_subset _ he

/-- What a walk queues ends in an error if and only if the walk misses. -/
theorem isMiss_getLast?_expectedQueue :
    (r.expectedQueue q).getLast?.any (·.isMiss) = r.misses q := by
  unfold expectedQueue
  cases hm : r.misses q with
  | true =>
    rw [if_pos rfl, List.getLast?_concat]
    rfl
  | false =>
    rw [if_neg Bool.false_ne_true, List.append_nil, Option.any_eq_false]
    intro e he
    simp [r.isMiss_of_mem_entries q (r.depth q + 1) e (List.mem_of_getLast? he)]

/-- A walk that does not redirect queues something. -/
theorem expectedQueue_ne_nil (hto : ∀ dest, ¬ r.RedirectsTo q dest) : r.expectedQueue q ≠ [] := by
  cases hm : r.misses q with
  | true => simp [expectedQueue, hm]
  | false =>
    cases ht : r.node? q (r.depth q) with
    | none => simp [misses, ht] at hm
    | some t =>
      -- the node at which the walk ends queues something
      have hlast : r.entriesAt q (r.depth q) ≠ [] := by
        rw [r.entriesAt_of_node q _ t ht, RoutePath.actionsAt, ne_eq, List.map_eq_nil_iff]
        rw [r.misses_of_node q t ht] at hm
        by_cases hd : r.depth q = q.length
        · have hpage : t.slots.isPage := by simpa [hd] using hm
          have hr : t.slots.redirect? = none := by
            rw [Option.eq_none_iff_forall_ne_some]
            intro dest hdest
            exact hto dest ⟨hd, t, hd ▸ ht, (t.slots.redirect?_eq_some_iff dest).1 hdest⟩
          rw [decide_eq_true hd]
          exact t.slots.firing_true_ne_nil hpage hr
        · have hterm : t.slots.terminal.isSome := by
            rcases r.endsAt_depth q with h | h | ⟨-, h⟩
            · exact absurd h hd
            · simp [ht] at h
            · simpa [ht] using h
          rw [decide_eq_false hd]
          exact t.slots.firing_false_ne_nil hterm
      obtain ⟨e, he⟩ := List.exists_mem_of_ne_nil _ hlast
      refine List.ne_nil_of_mem (List.mem_append_left _ (List.mem_flatMap.2 ⟨r.depth q, ?_, he⟩))
      exact List.mem_range.2 (Nat.lt_succ_self _)

theorem queueSlots_expectedQueue :
    queueSlots (r.expectedQueue q) =
      (List.range (r.depth q + 1)).flatMap fun d => queueSlots (r.entriesAt q d) := by
  unfold queueSlots expectedQueue
  rw [List.filterMap_append, List.filterMap_flatMap]
  split <;> simp [QueueEntry.slot?]

/-- The slots of a walk come down the path, and none comes twice. -/
theorem pairwise_queueSlots_expectedQueue :
    (queueSlots (r.expectedQueue q)).Pairwise fun a b => a.1.length ≤ b.1.length ∧ a ≠ b := by
  rw [queueSlots_expectedQueue, List.pairwise_flatMap]
  constructor
  · intro d _
    refine (r.nodup_queueSlots_entriesAt q d).imp_of_mem fun {a b} ha hb hne => ⟨?_, hne⟩
    rw [r.mem_queueSlots_entriesAt q d a ha, r.mem_queueSlots_entriesAt q d b hb]
  · refine List.pairwise_lt_range.imp_of_mem fun {i j} _ hj hij a ha b hb => ?_
    have hlen : a.1.length < b.1.length := by
      have hjq := r.depth_le_length q
      rw [r.mem_queueSlots_entriesAt q i a ha, r.mem_queueSlots_entriesAt q j b hb]
      simp only [RoutePath.length, RoutePath.segments_take, List.length_take] at hjq ⊢
      have := List.mem_range.1 hj
      omega
    exact ⟨Nat.le_of_lt hlen, fun e => by rw [e] at hlen; exact Nat.lt_irrefl _ hlen⟩

end Resolver

/-! ## Whole resolutions -/

/-- An error at the end is an error anywhere. -/
theorem Resolution.Shaped.isMiss_iff (res : Resolution H F) (h : res.Shaped) :
    res.isMiss ↔ ∃ e ∈ res.queue, e.isMiss := by
  have hlast := List.getLast?_eq_some_getLast h.queue_ne_nil
  unfold Resolution.isMiss
  rw [hlast, Option.any_some]
  constructor
  · intro hm
    exact ⟨_, List.getLast_mem h.queue_ne_nil, hm⟩
  · rintro ⟨e, he, hm⟩
    rw [← List.dropLast_concat_getLast h.queue_ne_nil] at he
    rcases List.mem_append.1 he with he | he
    · rw [h.errors_last e he] at hm
      cases hm
    · rwa [List.mem_singleton.1 he] at hm

namespace Resolver

variable (r : Resolver H F) (p : RoutePath)

theorem shaped_of_done (q : RoutePath) (k : Nat) (queue : List (QueueEntry H)) (f : F)
    (hw : r.walk q = .done queue f) : Resolution.Shaped ⟨queue, f, q, k⟩ := by
  obtain ⟨hto, rfl, -⟩ := (r.walk_eq_done_iff q queue f).1 hw
  exact
    { queue_ne_nil := r.expectedQueue_ne_nil q hto
      errors_last := r.isMiss_dropLast_expectedQueue q
      cut_off_alone := fun limit h => absurd h (r.tooManyRedirects_notMem_expectedQueue q limit)
      along_path := by
        intro directive node handler remaining he
        rcases r.expectedQueue_cases q _ he with h | ⟨d, t, _, _, -, -, h⟩
        · cases h
        · cases h
          exact List.take_append_drop d q.segments
      downwards := (r.pairwise_queueSlots_expectedQueue q).imp And.left
      slots_nodup := (r.pairwise_queueSlots_expectedQueue q).imp And.right }

theorem shaped_of_cut_off (limit : Nat) (q : RoutePath) (k : Nat) (f : F) :
    Resolution.Shaped (⟨[.miss (.tooManyRedirects limit)], f, q, k⟩ : Resolution H F) where
  queue_ne_nil := List.cons_ne_nil _ _
  errors_last := by simp
  cut_off_alone := by simp
  along_path := by simp
  downwards := List.Pairwise.nil
  slots_nodup := List.Pairwise.nil

/-- A queue runs handlers of the sitemap, each from the slot that its entry names. -/
theorem handler_of_mem_queue (directive : Directive) (node : RoutePath) (handler : H)
    (remaining : RoutePath) (he : .action directive node handler remaining ∈ (r.resolve p).queue) :
    ∃ s t, r.sitemap = some s ∧ s.node? node = some t ∧
      t.slots.handler? directive = some handler := by
  rcases r.resolve_cases p with ⟨k, -, q, queue, f, -, hw, hres⟩ | ⟨q, dest, f, -, -, hres⟩ <;>
    rw [hres] at he
  · obtain ⟨-, rfl, -⟩ := (r.walk_eq_done_iff q queue f).1 hw
    rcases r.expectedQueue_cases q _ he with h | ⟨d, t, _, _, ht, hh, h⟩
    · cases h
    · cases h
      obtain ⟨s, hs, hn⟩ := Option.bind_eq_some_iff.1 ht
      exact ⟨s, t, hs, hn, hh⟩
  · cases List.mem_singleton.1 he

/-- **The shape of every queue.**  It is not empty, holds no error but at its end, and runs slots of
the sitemap, each at most once, down the path to which it belongs. -/
theorem resolve_shaped :
    (r.resolve p).Shaped ∧
    ((r.resolve p).isMiss ↔ ∃ e ∈ (r.resolve p).queue, e.isMiss) ∧
    ∀ directive node handler remaining,
      .action directive node handler remaining ∈ (r.resolve p).queue →
        ∃ s t, r.sitemap = some s ∧ s.node? node = some t ∧
          t.slots.handler? directive = some handler := by
  have hshaped : (r.resolve p).Shaped := by
    rcases r.resolve_cases p with ⟨k, -, q, queue, f, -, hw, hres⟩ | ⟨q, dest, f, -, -, hres⟩ <;>
      rw [hres]
    · exact r.shaped_of_done q k queue f hw
    · exact shaped_of_cut_off r.maxRedirects q r.maxRedirects f
  exact ⟨hshaped, hshaped.isMiss_iff, fun directive node handler remaining he =>
    r.handler_of_mem_queue p directive node handler remaining he⟩

end Resolver

end Wayfinder
