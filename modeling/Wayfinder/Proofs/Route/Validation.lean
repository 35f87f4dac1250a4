import Wayfinder.Proofs.Route.Spelling
import Wayfinder.Route.Sitemap

/-!
# What validation refuses

Validation looks at a tree in preorder: at a node's own order first, and then, for one child after
the other, at the child's name and at the tree below it.  `Tree.checks` lists what there is to look
at, `Check.Fails` says when it is faulty, and the first one that is faulty is reported:

    t.fault? place = (t.checks place.segments).findSome? Check.fault?          (fault?_eq_findSome?)
    c.fault? = some e ↔ c.Fails e                                              (fault?_eq_some_iff)

So a sitemap is a tree in which every node is in order.  In particular no node of it evaluates a
directive twice:

    s.node? p = some t → t.slots.directiveOrder.Nodup                        (nodup_directiveOrder)
-/

namespace Wayfinder

variable {H F : Type}

/-! ## Definitions -/

/-- A name that a child may have: not empty, no dot at its start, no separator. -/
def IsChildName (name : String) : Prop :=
  name ≠ "" ∧ ¬ ['.'] <+: name.toList ∧ separator ∉ name.toList

/-- What validation looks at: the order of a node, or the name of one of its children.  The names
of the first list lead to the node. -/
inductive Check where
  | order (node : List String) (listed : List Directive)
  | name (parent : List String) (child : String)

/-- The check fails with an error.  An order fails at the first directive that comes again. -/
inductive Check.Fails : Check → SitemapError → Prop
  | order {node : List String} {before after : List Directive} {d : Directive}
      (hbefore : before.Nodup) (hd : d ∈ before) :
      Fails (.order node (before ++ d :: after)) (.duplicateDirective ("/".intercalate node) d)
  | name {parent : List String} {child : String} (hchild : ¬ IsChildName child) :
      Fails (.name parent child) (.invalidSegment ("/".intercalate parent) child)

/-- The error of a check. -/
def Check.fault? : Check → Option SitemapError
  | .order node listed => (firstRepeat [] listed).map (.duplicateDirective ("/".intercalate node))
  | .name parent child =>
    if isChildName child then none else some (.invalidSegment ("/".intercalate parent) child)

namespace Tree

mutual

/-- What there is to look at in a tree, in preorder; `names` lead to its root. -/
def checks (names : List String) : Tree H F → List Check
  | .node s cs => (s.order.map (.order names)).toList ++ childrenChecks names cs

/-- A child's name comes right before the tree below it. -/
def childrenChecks (names : List String) : List (String × Tree H F) → List Check
  | [] => []
  | (name, t) :: cs => .name names name :: (t.checks (names ++ [name]) ++ childrenChecks names cs)

end

/-- The names lead down to the tree `t'`, each one to a child of that name. -/
inductive Leads : Tree H F → List String → Tree H F → Prop
  | here (t : Tree H F) : Leads t [] t
  | child {s : Slots H F} {cs : List (String × Tree H F)} {name : String} {c t' : Tree H F}
      {names : List String} (hc : (name, c) ∈ cs) (h : Leads c names t') :
      Leads (.node s cs) (name :: names) t'

/-- The root of the tree lists no directive twice, and its children have names that they may have. -/
structure InOrder (t : Tree H F) : Prop where
  order : ∀ listed, t.slots.order = some listed → listed.Nodup
  names : ∀ e ∈ t.children, IsChildName e.1

end Tree

/-! ## Orders -/

theorem firstRepeat_eq_none_iff {α : Type} [DecidableEq α] (seen l : List α) :
    firstRepeat seen l = none ↔ l.Nodup ∧ ∀ a ∈ l, a ∉ seen := by
  induction l generalizing seen with
  | nil => simp [firstRepeat]
  | cons a l ih =>
    unfold firstRepeat
    by_cases ha : a ∈ seen
    · simp [ha]
    · simp only [ha, if_false, ih, List.nodup_cons, List.mem_cons, not_or]
      constructor
      · rintro ⟨hl, hseen⟩
        refine ⟨⟨fun hal => (hseen a hal).1 rfl, hl⟩, ?_⟩
        rintro b (rfl | hb)
        · exact ha
        · exact (hseen b hb).2
      · rintro ⟨⟨hal, hl⟩, hseen⟩
        exact ⟨hl, fun b hb => ⟨fun e => hal (e ▸ hb), hseen b (Or.inr hb)⟩⟩

/-- What stands before the first repeat is new and has no repeats of its own. -/
theorem firstRepeat_eq_some_iff {α : Type} [DecidableEq α] (seen l : List α) (a : α) :
    firstRepeat seen l = some a ↔ ∃ before after, l = before ++ a :: after ∧
      firstRepeat seen before = none ∧ (a ∈ seen ∨ a ∈ before) := by
  induction l generalizing seen with
  | nil => simp [firstRepeat]
  | cons b l ih =>
    by_cases hb : b ∈ seen
    · simp only [firstRepeat, hb, if_true, Option.some.injEq]
      constructor
      · rintro rfl
        exact ⟨[], l, rfl, rfl, Or.inl hb⟩
      · rintro ⟨_ | ⟨c, before⟩, after, hl, hnone, -⟩
        · exact (List.cons.inj hl).1
        · obtain ⟨rfl, -⟩ := List.cons.inj hl
          simp [firstRepeat, hb] at hnone
    · simp only [firstRepeat, hb, if_false, ih, List.mem_cons]
      constructor
      · rintro ⟨before, after, rfl, hnone, ha⟩
        refine ⟨b :: before, after, rfl, by simp [firstRepeat, hb, hnone], ?_⟩
        rw [List.mem_cons]
        grind
      · rintro ⟨_ | ⟨c, before⟩, after, hl, hnone, ha⟩
        · obtain ⟨rfl, -⟩ := List.cons.inj hl
          exact absurd ha (by simp [hb])
        · obtain ⟨rfl, rfl⟩ := List.cons.inj hl
          rw [List.mem_cons] at ha
          refine ⟨before, after, rfl, by simpa [firstRepeat, hb] using hnone, ?_⟩
          grind

theorem Directive.nodup_completeOrder (listed : List Directive) (h : listed.Nodup) :
    (completeOrder listed).Nodup := by
  unfold completeOrder
  refine List.nodup_append.2 ⟨h, List.Pairwise.filter _ (by decide : defaultOrder.Nodup), ?_⟩
  rintro d hd e he rfl
  simp [hd] at he

theorem Slots.nodup_directiveOrder (s : Slots H F)
    (h : ∀ listed, s.order = some listed → listed.Nodup) : s.directiveOrder.Nodup := by
  unfold Slots.directiveOrder
  split
  · next listed hlisted => exact Directive.nodup_completeOrder listed (h listed hlisted)
  · decide

/-! ## Names -/

theorem isChildName_iff (name : String) : isChildName name = true ↔ IsChildName name := by
  have hdot : name.toList.head? = some '.' ↔ ['.'] <+: name.toList := by
    cases name.toList <;> simp [eq_comm]
  simp only [isChildName, IsChildName, ne_eq, Bool.and_eq_true, decide_eq_true_eq, hdot, and_assoc]

theorem IsChildName.isSegment {name : String} (h : IsChildName name) : IsSegment name :=
  ⟨h.1, h.2.2⟩

/-! ## Checks -/

theorem Check.fault?_eq_some_iff (c : Check) (e : SitemapError) :
    c.fault? = some e ↔ c.Fails e := by
  cases c with
  | order node listed =>
    simp only [Check.fault?, Option.map_eq_some_iff, firstRepeat_eq_some_iff,
      firstRepeat_eq_none_iff]
    constructor
    · rintro ⟨d, ⟨before, after, rfl, hnew, hd⟩, rfl⟩
      exact .order hnew.1 (by simpa using hd)
    · intro h
      cases h with
      | order hbefore hd => exact ⟨_, ⟨_, _, rfl, ⟨hbefore, by simp⟩, Or.inr hd⟩, rfl⟩
  | name parent child =>
    by_cases hchild : isChildName child = true
    · simp only [Check.fault?, hchild, if_true, reduceCtorEq, false_iff]
      intro h
      cases h with
      | name hbad => exact hbad ((isChildName_iff child).1 hchild)
    · simp only [Check.fault?, hchild, Bool.false_eq_true, if_false, Option.some.injEq]
      constructor
      · rintro rfl
        exact .name fun hfit => hchild ((isChildName_iff child).2 hfit)
      · intro h
        cases h with
        | name => rfl

theorem Check.fault?_eq_none_iff (c : Check) : c.fault? = none ↔ ∀ e, ¬ c.Fails e := by
  simp only [← Check.fault?_eq_some_iff, Option.eq_none_iff_forall_ne_some, ne_eq]

namespace Tree

mutual

/-- The fault of a tree is that of its first check that has one. -/
theorem fault?_eq_findSome? : (t : Tree H F) → (place : RoutePath) →
    t.fault? place = (t.checks place.segments).findSome? Check.fault?
  | .node s cs, place => by
    have horder : s.fault? place =
        (s.order.map (Check.order place.segments)).toList.findSome? Check.fault? := by
      unfold Slots.fault?
      cases s.order with
      | none => rfl
      | some listed => exact List.findSome?_singleton.symm
    rw [fault?, checks, List.findSome?_append, horder, childrenFault?_eq_findSome? cs place]

theorem childrenFault?_eq_findSome? : (cs : List (String × Tree H F)) → (place : RoutePath) →
    childrenFault? place cs = (childrenChecks place.segments cs).findSome? Check.fault?
  | [], _ => rfl
  | (name, t) :: cs, place => by
    rw [childrenFault?, childrenChecks, List.findSome?_cons, Check.fault?]
    by_cases hname : IsChildName name
    · -- the name has come through, so the path below it is not changed by being read again
      have hplace := place.segments_child name hname.isSegment
      simp only [(isChildName_iff name).2 hname, if_true, List.findSome?_append]
      rw [fault?_eq_findSome? t, hplace, childrenFault?_eq_findSome? cs]
    · simp only [mt (isChildName_iff name).1 hname, if_false, Bool.false_eq_true]
      rfl

end

/-! ## Nodes in order -/

theorem forall_leads_node_iff (P : List String → Tree H F → Prop) (s : Slots H F)
    (cs : List (String × Tree H F)) :
    (∀ names t, (node s cs).Leads names t → P names t) ↔
      P [] (node s cs) ∧ ∀ e ∈ cs, ∀ names t, e.2.Leads names t → P (e.1 :: names) t := by
  constructor
  · intro h
    exact ⟨h _ _ (.here _), fun e he names t ht => h _ _ (.child he ht)⟩
  · rintro ⟨hroot, hbelow⟩ names t ht
    cases ht with
    | here => exact hroot
    | child hc ht => exact hbelow _ hc _ _ ht

mutual

/-- Nothing fails in a tree if and only if all its nodes are in order. -/
theorem forall_checks_iff : (t : Tree H F) → (names : List String) →
    ((∀ c ∈ t.checks names, c.fault? = none) ↔ ∀ below t', t.Leads below t' → t'.InOrder)
  | .node s cs, names => by
    have horder : (∀ c ∈ (s.order.map (Check.order names)).toList, c.fault? = none) ↔
        ∀ listed, s.order = some listed → listed.Nodup := by
      cases s.order <;> simp [Check.fault?, firstRepeat_eq_none_iff]
    rw [forall_leads_node_iff (fun _ t => t.InOrder), checks, List.forall_mem_append, horder,
      forall_childrenChecks_iff cs names]
    constructor
    · rintro ⟨hs, hcs⟩
      exact ⟨⟨hs, fun e he => (hcs e he).1⟩, fun e he => (hcs e he).2⟩
    · rintro ⟨hroot, hbelow⟩
      exact ⟨hroot.order, fun e he => ⟨hroot.names e he, hbelow e he⟩⟩

theorem forall_childrenChecks_iff : (cs : List (String × Tree H F)) → (names : List String) →
    ((∀ c ∈ childrenChecks names cs, c.fault? = none) ↔
      ∀ e ∈ cs, IsChildName e.1 ∧ ∀ below t', e.2.Leads below t' → t'.InOrder)
  | [], _ => by simp [childrenChecks]
  | (name, t) :: cs, names => by
    have hname : (Check.name names name).fault? = none ↔ IsChildName name := by
      simp [Check.fault?, isChildName_iff]
    rw [childrenChecks, List.forall_mem_cons, List.forall_mem_append, hname,
      forall_checks_iff t (names ++ [name]), forall_childrenChecks_iff cs names,
      List.forall_mem_cons, and_assoc]

end

/-- A tree without faults is one whose nodes are all in order. -/
theorem fault?_eq_none_iff (t : Tree H F) (place : RoutePath) :
    t.fault? place = none ↔ ∀ below t', t.Leads below t' → t'.InOrder := by
  rw [fault?_eq_findSome?, List.findSome?_eq_none_iff, forall_checks_iff]

/-- A name by which a child is found leads to it. -/
theorem leads_of_descend (t t' : Tree H F) (names : List String) (h : t.descend names = some t') :
    t.Leads names t' := by
  induction names generalizing t with
  | nil =>
    cases h
    exact .here _
  | cons name names ih =>
    obtain ⟨c, hc, hbelow⟩ := Option.bind_eq_some_iff.1 h
    cases t with
    | node s cs => exact .child (Keyed.mem_of_find? hc) (ih c hbelow)

end Tree

namespace Sitemap

/-- Every node of a sitemap is in order. -/
theorem inOrder_of_node? (s : Sitemap H F) (p : RoutePath) (t : Tree H F) (h : s.node? p = some t) :
    t.InOrder :=
  (s.root.tree.fault?_eq_none_iff .root).1 s.faultless p.segments t
    (Tree.leads_of_descend s.root.tree t p.segments h)

/-- A node of a sitemap evaluates every directive once. -/
theorem nodup_directiveOrder (s : Sitemap H F) (p : RoutePath) (t : Tree H F)
    (h : s.node? p = some t) : t.slots.directiveOrder.Nodup :=
  t.slots.nodup_directiveOrder (s.inOrder_of_node? p t h).order

/-! ## The verdict -/

theorem ofNode_of_fault? (root : SitemapNode H F) :
    (∃ h, ofNode root = .ok ⟨root, h⟩) ∧ root.tree.fault? .root = none ∨
      ∃ e, ofNode root = .error e ∧ root.tree.fault? .root = some e := by
  unfold ofNode
  split
  · next h => exact Or.inl ⟨⟨h, rfl⟩, h⟩
  · next e h => exact Or.inr ⟨e, rfl, h⟩

/-- **Validation is exact.**  A tree is accepted, as it is, if and only if no node lists a directive
twice and every child has a name that it may have.  Otherwise the error is that of the first check in
preorder that fails. -/
theorem ofNode_exact (root : SitemapNode H F) :
    ((∃ s, ofNode root = .ok s) ↔ ∀ names t, root.tree.Leads names t → t.InOrder) ∧
    (∀ s, ofNode root = .ok s → s.root = root) ∧
    ∀ e, ofNode root = .error e ↔ ∃ before c after, root.tree.checks [] = before ++ c :: after ∧
      (∀ b ∈ before, ∀ e', ¬ b.Fails e') ∧ c.Fails e := by
  have hsome (e : SitemapError) : root.tree.fault? .root = some e ↔
      ∃ before c after, root.tree.checks [] = before ++ c :: after ∧
        (∀ b ∈ before, ∀ e', ¬ b.Fails e') ∧ c.Fails e := by
    rw [Tree.fault?_eq_findSome?, RoutePath.segments_root, List.findSome?_eq_some_iff]
    simp only [Check.fault?_eq_some_iff, Check.fault?_eq_none_iff]
    constructor
    · rintro ⟨before, c, after, hsplit, hc, hbefore⟩
      exact ⟨before, c, after, hsplit, hbefore, hc⟩
    · rintro ⟨before, c, after, hsplit, hbefore, hc⟩
      exact ⟨before, c, after, hsplit, hc, hbefore⟩
  rw [← root.tree.fault?_eq_none_iff .root]
  simp only [← hsome]
  rcases ofNode_of_fault? root with ⟨⟨h, hok⟩, hnone⟩ | ⟨e, herror, hfault⟩
  · simp [hok, hnone]
  · simp [herror, hfault, eq_comm]

end Sitemap

/-- The order of `a` comes before the name of its child, and both come before the empty name. -/
example : (Tree.node {} [("a", .node { order := some [.target, .wildcard, .target] }
      [(".b", .node {} [])]), ("", .node {} [])] : Tree Unit Unit).fault? .root =
    some (.duplicateDirective "a" .target) := by decide +kernel

end Wayfinder
