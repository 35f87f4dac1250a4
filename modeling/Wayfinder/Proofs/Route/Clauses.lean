import Mathlib.Data.List.Forall2
import Mathlib.Data.List.Induction
import Wayfinder.Proofs.Keyed
import Wayfinder.Proofs.Route.Addresses
import Wayfinder.Proofs.Route.Locality

/-!
# Descriptions of nodes

Of the clauses that describe a node, the last one for a slot says what the slot holds, and the last
one for a child of a name says which tree is found there; children stand in the order in which their
names came first:

    (ofClauses cs).tree.content? slot = (last clause of cs for slot).content   (content?_ofClauses)
    (ofClauses cs).childNames = (cs.filterMap Clause.childName?).eraseDups   (childNames_ofClauses)

So clauses for different slots may change places.  If they do so at any levels of a tree, the two
trees agree on the slots at every place (`Rearranged.agrees`), and the order of children is all in
which they differ.  Neither validation nor resolution sees that order.
-/

namespace Wayfinder

variable {H F : Type}

/-! ## Definitions -/

/-- What a clause is for: a slot of the node, or the child of a name. -/
inductive Clause.Slot where
  | wildcard
  | target
  | intermediate
  | terminal
  | notFound
  | order
  | child (name : String)
deriving DecidableEq

/-- What a slot of a node holds, or the tree under the name of a child. -/
inductive Content (H F : Type) where
  | handler (h : H)
  | target (t : RouteTarget H)
  | fallback (f : F)
  | order (listed : List Directive)
  | tree (t : Tree H F)

namespace Clause

def slot : Clause H F → Slot
  | wildcard _ => .wildcard
  | target _ | redirect _ => .target
  | intermediate _ => .intermediate
  | terminal _ => .terminal
  | notFound _ => .notFound
  | order _ => .order
  | child name _ => .child name

def content : Clause H F → Content H F
  | wildcard h | intermediate h | terminal h => .handler h
  | target h => .target (.handler h)
  | redirect dest => .target (.redirect dest)
  | notFound f => .fallback f
  | order listed => .order listed
  | child _ node => .tree node.tree

/-- The name of the child that the clause describes. -/
def childName? : Clause H F → Option String
  | child name _ => some name
  | _ => none

/-- The same clauses, of which those for one slot come in the same order. -/
def Reordered (cs cs' : List (Clause H F)) : Prop :=
  cs.Perm cs' ∧ ∀ slot : Slot, cs.filter (·.slot = slot) = cs'.filter (·.slot = slot)

/-- The same clause, or two for children of the same name that are related. -/
inductive Alike (R : SitemapNode H F → SitemapNode H F → Prop) : Clause H F → Clause H F → Prop
  | same (c : Clause H F) : Alike R c c
  | child (name : String) {node node' : SitemapNode H F} (h : R node node') :
      Alike R (.child name node) (.child name node')

end Clause

/-- Both nodes are described by the same clauses, which are put into another order on some of the
first `levels` levels: there, those for one slot keep their order. -/
def SitemapNode.Rearranged : (levels : Nat) → SitemapNode H F → SitemapNode H F → Prop
  | 0, n, n' => n = n'
  | levels + 1, n, n' => ∃ cs mid cs', n = ofClauses cs ∧ n' = ofClauses cs' ∧
      Clause.Reordered cs mid ∧ List.Forall₂ (Clause.Alike (Rearranged levels)) mid cs'

namespace Tree

/-- What the node holds for a slot. -/
def content? (t : Tree H F) : Clause.Slot → Option (Content H F)
  | .wildcard => t.slots.wildcard.map .handler
  | .target => t.slots.target.map .target
  | .intermediate => t.slots.intermediate.map .handler
  | .terminal => t.slots.terminal.map .handler
  | .notFound => t.slots.notFound.map .fallback
  | .order => t.slots.order.map .order
  | .child name => (t.child? name).map .tree

/-- The trees have nodes at the same places, with the same slots. -/
def Agrees (t t' : Tree H F) : Prop := ∀ names, t.slotsAt? names = t'.slotsAt? names

/-- The nodes have the same slots and, under the same names, children that agree. -/
structure AgreesBelow (t t' : Tree H F) : Prop where
  slots : t.slots = t'.slots
  children : ∀ name, Option.Rel Agrees (t.child? name) (t'.child? name)

end Tree

/-! ## The last clause counts -/

namespace SitemapNode

theorem child?_apply (n : SitemapNode H F) (name name' : String) (node : SitemapNode H F) :
    (n.apply (.child name node)).tree.child? name' =
      if name = name' then some node.tree else n.tree.child? name' :=
  Keyed.find?_put name name' node.tree n.tree.children

theorem content?_apply (n : SitemapNode H F) (c : Clause H F) (slot : Clause.Slot) :
    (n.apply c).tree.content? slot =
      if c.slot = slot then some c.content else n.tree.content? slot := by
  cases c with
  | child name node =>
    cases slot with
    | child name' =>
      simp only [Tree.content?, child?_apply, Clause.slot, Clause.content, Clause.Slot.child.injEq]
      split <;> rfl
    | _ => rfl
  | _ => cases slot <;> rfl

/-- A slot holds what the last clause for it says, or what it held before. -/
theorem content?_foldl (n : SitemapNode H F) (cs : List (Clause H F)) (slot : Clause.Slot) :
    (cs.foldl apply n).tree.content? slot =
      (((cs.filter (·.slot = slot)).getLast?).map Clause.content).or (n.tree.content? slot) := by
  induction cs generalizing n with
  | nil => rfl
  | cons c cs ih =>
    rw [List.foldl_cons, ih, content?_apply]
    by_cases h : c.slot = slot
    · rw [if_pos h, List.filter_cons_of_pos (by simpa using h), List.getLast?_cons]
      cases (cs.filter (·.slot = slot)).getLast? <;> rfl
    · rw [if_neg h, List.filter_cons_of_neg (by simpa using h)]

theorem content?_ofClauses (cs : List (Clause H F)) (slot : Clause.Slot) :
    (ofClauses cs).tree.content? slot =
      ((cs.filter (·.slot = slot)).getLast?).map Clause.content := by
  have hempty : (empty : SitemapNode H F).tree.content? slot = none := by cases slot <;> rfl
  rw [ofClauses, content?_foldl, hempty, Option.or_none]

/-! ## Names of children -/

theorem childNames_apply (n : SitemapNode H F) (c : Clause H F) :
    (n.apply c).childNames = match c.childName? with
      | some name => if name ∈ n.childNames then n.childNames else n.childNames ++ [name]
      | none => n.childNames := by
  cases c with
  | child name node => exact Keyed.keys_put name node.tree n.tree.children
  | _ => rfl

/-- Children stand in the order in which clauses named them first. -/
theorem childNames_ofClauses (cs : List (Clause H F)) :
    (ofClauses cs).childNames = (cs.filterMap Clause.childName?).eraseDups := by
  induction cs using List.reverseRecOn with
  | nil => rfl
  | append_singleton cs c ih =>
    have happly : ofClauses (cs ++ [c]) = (ofClauses cs).apply c := List.foldl_concat apply _ c cs
    rw [happly, childNames_apply, ih, List.filterMap_append]
    cases hname : c.childName? with
    | none => rw [List.filterMap_cons_none hname, List.filterMap_nil, List.append_nil]
    | some name =>
      rw [List.filterMap_cons_some hname, List.filterMap_nil, Keyed.eraseDups_concat]
      simp only [List.mem_eraseDups]

end SitemapNode

/-! ## One node in another order -/

namespace Tree

variable {t t' : Tree H F} (h : ∀ slot, t.content? slot = t'.content? slot)

include h

theorem slots_eq_of_content? : t.slots = t'.slots := by
  have hhandler : Function.Injective (Content.handler : H → Content H F) := fun _ _ => by simp
  have htarget : Function.Injective (Content.target : RouteTarget H → Content H F) :=
    fun _ _ => by simp
  have hfallback : Function.Injective (Content.fallback : F → Content H F) := fun _ _ => by simp
  have horder : Function.Injective (Content.order : List Directive → Content H F) :=
    fun _ _ => by simp
  obtain ⟨s, cs⟩ := t
  obtain ⟨s', cs'⟩ := t'
  have hwildcard := Option.map_injective hhandler (h .wildcard)
  have htarget := Option.map_injective htarget (h .target)
  have hintermediate := Option.map_injective hhandler (h .intermediate)
  have hterminal := Option.map_injective hhandler (h .terminal)
  have hnotFound := Option.map_injective hfallback (h .notFound)
  have horder := Option.map_injective horder (h .order)
  cases s
  cases s'
  simp only [slots] at hwildcard htarget hintermediate hterminal hnotFound horder
  simp only [slots, hwildcard, htarget, hintermediate, hterminal, hnotFound, horder]

theorem child?_eq_of_content? (name : String) : t.child? name = t'.child? name :=
  Option.map_injective (fun _ _ => by simp) (h (.child name))

end Tree

namespace Clause.Reordered

variable {cs cs' : List (Clause H F)} (h : Reordered cs cs')

include h

theorem content?_eq (slot : Slot) : (SitemapNode.ofClauses cs).tree.content? slot =
    (SitemapNode.ofClauses cs').tree.content? slot := by
  rw [SitemapNode.content?_ofClauses, SitemapNode.content?_ofClauses, h.2]

/-- The same children are there, though they may stand in another order. -/
theorem childNames_perm :
    (SitemapNode.ofClauses cs).childNames.Perm (SitemapNode.ofClauses cs').childNames := by
  refine (List.perm_ext_iff_of_nodup (SitemapNode.nodup_childNames _)
    (SitemapNode.nodup_childNames _)).2 fun name => ?_
  rw [SitemapNode.childNames_ofClauses, SitemapNode.childNames_ofClauses, List.mem_eraseDups,
    List.mem_eraseDups]
  exact (h.1.filterMap childName?).mem_iff

end Clause.Reordered

/-- Two clauses next to each other for different slots change places. -/
theorem Clause.Reordered.swap (before after : List (Clause H F)) {c c' : Clause H F}
    (h : c.slot ≠ c'.slot) :
    Reordered (before ++ c :: c' :: after) (before ++ c' :: c :: after) := by
  refine ⟨(List.Perm.swap c' c after).append_left before, fun slot => ?_⟩
  rw [List.filter_append, List.filter_append]
  refine congrArg (before.filter _ ++ ·) ?_
  by_cases hc : c.slot = slot
  · have hc' : c'.slot ≠ slot := fun hc' => h (hc.trans hc'.symm)
    simp only [List.filter_cons, hc, hc', decide_true, decide_false, if_true, if_false,
      Bool.false_eq_true]
  · simp only [List.filter_cons, hc, decide_false, if_false, Bool.false_eq_true]

/-! ## Trees that agree -/

namespace Tree

variable {t t' : Tree H F}

theorem AgreesBelow.agrees (h : t.AgreesBelow t') : t.Agrees t' := by
  intro names
  cases names with
  | nil => exact congrArg some h.slots
  | cons name names =>
    rw [slotsAt?_cons, slotsAt?_cons]
    have hchild := h.children name
    generalize t.child? name = c, t'.child? name = c' at hchild ⊢
    cases hchild with
    | none => rfl
    | some hagrees => exact hagrees names

theorem isSome_slotsAt?_concat (names : List String) (name : String) :
    (t.slotsAt? (names ++ [name])).isSome ↔
      ∃ t', t.descend names = some t' ∧ (t'.child? name).isSome := by
  rw [slotsAt?, descend_concat, Option.isSome_map]
  cases t.descend names <;> simp

/-- Whether a tree has a fault is seen from the slots at its places. -/
theorem fault?_eq_none_iff_slotsAt? (ht : t.Distinct) (place : RoutePath) :
    t.fault? place = none ↔ ∀ names s, t.slotsAt? names = some s →
      (∀ listed, s.order = some listed → listed.Nodup) ∧
        ∀ name, (t.slotsAt? (names ++ [name])).isSome → IsChildName name := by
  rw [fault?_eq_none_iff]
  constructor
  · intro h names s hs
    obtain ⟨below, hbelow, rfl⟩ := Option.map_eq_some_iff.1 hs
    have horder := h names below (t.leads_of_descend below names hbelow)
    refine ⟨horder.order, fun name hname => ?_⟩
    obtain ⟨_, hbelow', hchild⟩ := (isSome_slotsAt?_concat names name).1 hname
    obtain rfl := Option.some.inj (hbelow.symm.trans hbelow')
    obtain ⟨c, hc⟩ := Option.isSome_iff_exists.1 hchild
    exact horder.names (name, c) (Keyed.mem_of_find? hc)
  · intro h names below hleads
    have hbelow := (t.descend_eq_some_iff below ht names).2 hleads
    obtain ⟨horder, hnames⟩ := h names below.slots (by rw [slotsAt?, hbelow, Option.map_some])
    refine ⟨horder, fun e he => hnames e.1 ?_⟩
    refine (isSome_slotsAt?_concat names e.1).2 ⟨below, hbelow, ?_⟩
    have hkey : e.1 ∈ below.children.keys := List.mem_map_of_mem he
    exact Option.isSome_iff_ne_none.2 fun hnone => Keyed.find?_eq_none_iff.1 hnone hkey

theorem Agrees.fault?_eq_none_iff (h : t.Agrees t') (ht : t.Distinct) (ht' : t'.Distinct)
    (place : RoutePath) : t.fault? place = none ↔ t'.fault? place = none := by
  rw [fault?_eq_none_iff_slotsAt? ht, fault?_eq_none_iff_slotsAt? ht']
  simp only [show ∀ names, t.slotsAt? names = t'.slotsAt? names from h]

end Tree

/-! ## Levels -/

namespace SitemapNode

/-- Clauses that are alike keep nodes agreeing. -/
theorem agreesBelow_apply {n n' : SitemapNode H F} (h : n.tree.AgreesBelow n'.tree)
    {c c' : Clause H F} (hc : Clause.Alike (fun n n' => n.tree.Agrees n'.tree) c c') :
    (n.apply c).tree.AgreesBelow (n'.apply c').tree := by
  cases hc with
  | same =>
    refine ⟨congrArg (Slots.put · c) h.slots, fun name' => ?_⟩
    cases c with
    | child name node =>
      rw [child?_apply, child?_apply]
      split
      · exact .some fun _ => rfl
      · exact h.children name'
    | _ => exact h.children name'
  | child name hnode =>
    refine ⟨h.slots, fun name' => ?_⟩
    rw [child?_apply, child?_apply]
    split
    · exact .some hnode
    · exact h.children name'

theorem agreesBelow_ofClauses {cs cs' : List (Clause H F)}
    (h : List.Forall₂ (Clause.Alike fun n n' => n.tree.Agrees n'.tree) cs cs') :
    (ofClauses cs).tree.AgreesBelow (ofClauses cs').tree := by
  have hfold (n n' : SitemapNode H F) (hn : n.tree.AgreesBelow n'.tree) :
      (cs.foldl apply n).tree.AgreesBelow (cs'.foldl apply n').tree := by
    induction h generalizing n n' with
    | nil => exact hn
    | cons hc _ ih => exact ih _ _ (agreesBelow_apply hn hc)
  exact hfold empty empty ⟨rfl, fun _ => .none⟩

theorem Rearranged.agrees {levels : Nat} {n n' : SitemapNode H F} (h : Rearranged levels n n') :
    n.tree.Agrees n'.tree := by
  induction levels generalizing n n' with
  | zero =>
    cases h
    exact fun _ => rfl
  | succ levels ih =>
    obtain ⟨cs, mid, cs', rfl, rfl, horder, halike⟩ := h
    have hmid : (ofClauses mid).tree.AgreesBelow (ofClauses cs').tree := by
      refine agreesBelow_ofClauses (halike.imp fun c c' hc => ?_)
      cases hc with
      | same => exact .same c
      | child name hnode => exact .child name (ih hnode)
    refine Tree.AgreesBelow.agrees ⟨?_, fun name => ?_⟩
    · exact (Tree.slots_eq_of_content? horder.content?_eq).trans hmid.slots
    · rw [Tree.child?_eq_of_content? horder.content?_eq name]
      exact hmid.children name

/-- A node is accepted if its tree has no fault. -/
theorem exists_ofNode_iff (n : SitemapNode H F) :
    (∃ s, Sitemap.ofNode n = .ok s) ↔ n.tree.fault? .root = none := by
  rcases Sitemap.ofNode_of_fault? n with ⟨⟨h, hok⟩, hnone⟩ | ⟨e, herror, hfault⟩
  · simp [hok, hnone]
  · simp [herror, hfault]

/-- Sitemaps whose trees agree resolve every path alike. -/
theorem resolve_of_agrees {s s' : Sitemap H F} (h : s.root.tree.Agrees s'.root.tree)
    (r : Resolver H F) (p : RoutePath) :
    (r.withSitemap (some s')).resolve p = (r.withSitemap (some s)).resolve p :=
  Resolver.resolve_congr (r.withSitemap (some s)) (r.withSitemap (some s')) p rfl rfl
    fun names _ => h names

/-- **Clauses for different slots change places.**  Nodes that are described by the same clauses,
those for each slot in the same order, have the same slots, the same order of directives and the
same child under each name; the names of the children are the same, each once, in the order in
which the clauses named them first.  Trees in which clauses change places so on any levels are
accepted alike, and each path resolves in both of them to the same queue, fallback, path and
redirects. -/
theorem clauses_commute :
    (∀ cs cs' : List (Clause H F), Clause.Reordered cs cs' →
      (ofClauses cs).slots = (ofClauses cs').slots ∧
      (ofClauses cs).slots.directiveOrder = (ofClauses cs').slots.directiveOrder ∧
      (∀ name, (ofClauses cs).tree.child? name = (ofClauses cs').tree.child? name) ∧
      (ofClauses cs).childNames.Perm (ofClauses cs').childNames) ∧
    (∀ cs : List (Clause H F), (ofClauses cs).childNames.Nodup ∧
      (ofClauses cs).childNames = (cs.filterMap Clause.childName?).eraseDups) ∧
    ∀ levels (n n' : SitemapNode H F), Rearranged levels n n' →
      ((∃ s, Sitemap.ofNode n = .ok s) ↔ ∃ s', Sitemap.ofNode n' = .ok s') ∧
      ∀ s s', Sitemap.ofNode n = .ok s → Sitemap.ofNode n' = .ok s' →
        ∀ (r : Resolver H F) (p : RoutePath),
          (r.withSitemap (some s')).resolve p = (r.withSitemap (some s)).resolve p := by
  refine ⟨fun cs cs' h => ?node, fun cs => ⟨nodup_childNames _, childNames_ofClauses cs⟩,
    fun levels n n' h => ⟨?accepted, fun s s' hs hs' r p => ?resolved⟩⟩
  case node =>
    have hslots : (ofClauses cs).slots = (ofClauses cs').slots :=
      Tree.slots_eq_of_content? h.content?_eq
    exact ⟨hslots, congrArg Slots.directiveOrder hslots,
      Tree.child?_eq_of_content? h.content?_eq, h.childNames_perm⟩
  case accepted =>
    rw [exists_ofNode_iff, exists_ofNode_iff]
    exact h.agrees.fault?_eq_none_iff n.distinct n'.distinct .root
  case resolved =>
    have hroots : s.root.tree.Agrees s'.root.tree := by
      rw [Sitemap.root_of_ofNode hs, Sitemap.root_of_ofNode hs']
      exact h.agrees
    exact resolve_of_agrees hroots r p

end SitemapNode

/-! ## A garden that is laid out in another order -/

def gatePath : RoutePath := ⟨["gate"], by decide⟩

/-- A bed, whose redirect takes the place of its target. -/
def bed : List (Clause Nat Nat) := [.target 1, .wildcard 2, .redirect gatePath]

def replantedBed : List (Clause Nat Nat) := [.wildcard 2, .target 1, .redirect gatePath]

/-- A garden, in which a bed takes the place of the lawn that was there first. -/
def garden (bed : List (Clause Nat Nat)) : List (Clause Nat Nat) :=
  [.child "south" (.ofClauses [.target 3]), .child "gate" (.ofClauses [.target 4]),
    .child "south" (.ofClauses bed)]

def turnedGarden (bed : List (Clause Nat Nat)) : List (Clause Nat Nat) :=
  [.child "gate" (.ofClauses [.target 4]), .child "south" (.ofClauses [.target 3]),
    .child "south" (.ofClauses bed)]

def gardenMap : Sitemap Nat Nat := ⟨.ofClauses (garden bed), by decide +kernel⟩

def turnedGardenMap : Sitemap Nat Nat :=
  ⟨.ofClauses (turnedGarden replantedBed), by decide +kernel⟩

theorem garden_rearranged : SitemapNode.Rearranged 2 gardenMap.root turnedGardenMap.root := by
  have hbed : SitemapNode.Rearranged 1 (.ofClauses bed) (.ofClauses replantedBed) := by
    refine ⟨bed, replantedBed, replantedBed, rfl, rfl, ?_, ?_⟩
    · exact Clause.Reordered.swap [] [.redirect gatePath] (by decide)
    · exact List.forall₂_same.2 fun c _ => .same c
  refine ⟨garden bed, turnedGarden bed, turnedGarden replantedBed, rfl, rfl, ?_, ?_⟩
  · exact Clause.Reordered.swap [] [.child "south" (.ofClauses bed)] (by decide)
  · exact .cons (.same _) (.cons (.same _) (.cons (.child "south" hbed) .nil))

def southPath : RoutePath := ⟨["south"], by decide⟩

theorem ofNode_gardenMap : Sitemap.ofNode gardenMap.root = .ok gardenMap := by rfl

theorem ofNode_turnedGardenMap : Sitemap.ofNode turnedGardenMap.root = .ok turnedGardenMap := by
  rfl

/-- The children change places, and in both gardens the path to the bed leads to the gate. -/
theorem garden_commutes :
    Clause.Reordered (garden bed) (turnedGarden bed) ∧
    (SitemapNode.ofClauses (garden bed)).childNames = ["south", "gate"] ∧
    (SitemapNode.ofClauses (garden bed)).childNames.Perm
      (SitemapNode.ofClauses (turnedGarden bed)).childNames ∧
    SitemapNode.Rearranged 2 gardenMap.root turnedGardenMap.root ∧
    Sitemap.ofNode gardenMap.root = .ok gardenMap ∧
    Sitemap.ofNode turnedGardenMap.root = .ok turnedGardenMap ∧
    (Resolver.mk (some turnedGardenMap) 9 1).resolve southPath =
      (Resolver.mk (some gardenMap) 9 1).resolve southPath ∧
    queueSlots ((Resolver.mk (some gardenMap) 9 1).resolve southPath).queue =
      [(gatePath, .target)] := by
  obtain ⟨hnode, hnames, htrees⟩ := SitemapNode.clauses_commute (H := Nat) (F := Nat)
  have hgarden : Clause.Reordered (garden bed) (turnedGarden bed) :=
    .swap [] [.child "south" (.ofClauses bed)] (by decide)
  have hfirst : (SitemapNode.ofClauses (garden bed)).childNames = ["south", "gate"] := by
    rw [(hnames (garden bed)).2]
    decide
  obtain ⟨-, hresolve⟩ := htrees 2 gardenMap.root turnedGardenMap.root garden_rearranged
  exact ⟨hgarden, hfirst, (hnode _ _ hgarden).2.2.2, garden_rearranged, ofNode_gardenMap,
    ofNode_turnedGardenMap, hresolve _ _ ofNode_gardenMap ofNode_turnedGardenMap
      (Resolver.mk none 9 1) southPath, by decide +kernel⟩

end Wayfinder
