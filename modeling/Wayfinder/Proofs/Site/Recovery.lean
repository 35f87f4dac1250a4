import Wayfinder.Proofs.Navigation.Recording
import Wayfinder.Proofs.Route.Fallbacks
import Wayfinder.Proofs.Route.Queue
import Wayfinder.Site.Config

/-!
# What escapes a navigation

A navigation breaks at the first entry of its queue that fails, and hands the error to the fallback
of the deepest node on its last walk that has one.  Only that fallback lets an error escape:

    n.Breaks path record h error h₁ →
      n.load path record h = handOver (n.resolver.resolve path) error h₁    (load_of_breaks)
    n.load path record h completes ↔ ¬ ∃ error h₁, n.Breaks path record h error h₁
                                                                  (load_eq_completed_iff)

Where no node has a fallback, the navigator of a configured site shows the error in the body of the
page, which does not fail.
-/

namespace Wayfinder

variable {ω : Type}

/-! ## Definitions -/

namespace Resolver

variable {H F : Type}

/-- `f` is the fallback of the node at depth `d` on the walk of a path, and no node further down on
the walk has one. -/
structure Deepest (r : Resolver H F) (q : RoutePath) (d : Nat) (f : F) : Prop where
  visited : d ≤ r.depth q
  fallback_eq : r.fallbackAt? q d = some f
  deeper_eq : ∀ e, d < e → e ≤ r.depth q → r.fallbackAt? q e = none

end Resolver

namespace Navigator

/-- Loading a path on the host `h` comes to an entry of the queue that fails with an error, the
first one to fail, and the host is `h₁` then. -/
def Breaks (n : Navigator ω) (path : RoutePath) (record : Bool) (h : Host ω)
    (error : NavigationError) (h₁ : Host ω) : Prop :=
  ∃ ran last later calls, (n.resolver.resolve path).queue = ran ++ last :: later ∧
    (∀ e ∈ ran, e.isMiss = false) ∧ Fails last calls error ∧
    n.Performs h (n.opening (n.resolver.resolve path).path record ++ (handled ran ++ calls)) h₁

/-- Hand an error to the fallback of a resolution. -/
def handOver (r : Resolution (Handler (Host ω)) (Fallback (Host ω))) (error : NavigationError)
    (h : Host ω) : Except NavigateError Navigation × Host ω :=
  match r.fallback.run (r.path, error) h with
  | (.ok (), h) => (.ok ⟨r.path, r.redirects, .recovered⟩, h)
  | (.error cause, h) => (.error ⟨r.path, cause⟩, h)

end Navigator

/-! ## The deepest fallback -/

namespace Resolver

variable {H F : Type} (r : Resolver H F) (p : RoutePath)

theorem fallback_of_deepest {d : Nat} {f : F} (hf : r.Deepest (r.resolve p).path d f) :
    (r.resolve p).fallback = f := by
  rw [fallback_resolve]
  exact r.nearestFallback_of_deepest _ d f hf.visited hf.fallback_eq hf.deeper_eq

/-- There is a deepest fallback, or there is none at all and the default takes its place. -/
theorem fallback_cases :
    (∃ d, r.Deepest (r.resolve p).path d (r.resolve p).fallback) ∨
      (¬ r.HasFallback (r.resolve p).path ∧ (r.resolve p).fallback = r.defaultFallback) := by
  have h := (r.eq_nearestFallback_iff (r.resolve p).path _).1 (r.fallback_resolve p)
  generalize (r.resolve p).fallback = f at h ⊢
  cases h with
  | own hd hf hdeeper => exact Or.inl ⟨_, hd, hf, hdeeper⟩
  | default hnone =>
    refine Or.inr ⟨?_, rfl⟩
    rintro ⟨d, hd, hf⟩
    rw [hnone d hd] at hf
    cases hf

theorem fallback_of_not_hasFallback (h : ¬ r.HasFallback (r.resolve p).path) :
    (r.resolve p).fallback = r.defaultFallback := by
  rcases r.fallback_cases p with ⟨d, hf⟩ | ⟨-, hd⟩
  · exact absurd ⟨d, hf.visited, Option.isSome_of_eq_some hf.fallback_eq⟩ h
  · exact hd

/-- The errors that a queue holds. -/
theorem error_of_mem_queue (e : ResolutionError) (he : .miss e ∈ (r.resolve p).queue) :
    e = .notFound ∨ e = .tooManyRedirects r.maxRedirects := by
  rcases r.resolve_cases p with ⟨k, -, q, queue, f, -, hw, hres⟩ | ⟨q, dest, f, -, -, hres⟩ <;>
    rw [hres] at he
  · obtain ⟨-, rfl, -⟩ := (r.walk_eq_done_iff q queue f).1 hw
    rcases r.expectedQueue_cases q _ he with h | ⟨_, _, _, _, -, -, h⟩ <;> cases h
    exact Or.inl rfl
  · cases List.mem_singleton.1 he
    exact Or.inr rfl

end Resolver

/-! ## Queues that fail -/

namespace Navigator

variable (n : Navigator ω) {path : RoutePath} {record : Bool} {h h₁ : Host ω}
  {error : NavigationError}

theorem breaks_iff :
    n.Breaks path record h error h₁ ↔
      runQueue (n.resolver.resolve path).queue (n.enter (n.resolver.resolve path).path record h) =
        (.error error, h₁) := by
  rw [n.runQueue_eq_error_iff]
  unfold Breaks
  simp only [n.performs_append_iff, performs_opening_iff, exists_eq_left]

/-- What a navigation breaks with: a miss of its last walk, the redirect too many, or the failure of a
handler that it has just run. -/
theorem breaks_cases (hb : n.Breaks path record h error h₁) :
    error = .miss .notFound ∨ error = .miss (.tooManyRedirects n.resolver.maxRedirects) ∨
      ∃ directive node handler remaining h₀ f,
        .action directive node handler remaining ∈ (n.resolver.resolve path).queue ∧
        handler.run remaining h₀ = (.error f, h₁) ∧ error = .handler f := by
  obtain ⟨ran, last, later, calls, hqueue, -, hlast, hl⟩ := hb
  have hmem : last ∈ (n.resolver.resolve path).queue := by
    rw [hqueue]
    exact List.mem_append_right _ List.mem_cons_self
  cases hlast with
  | miss e =>
    rcases n.resolver.error_of_mem_queue path e hmem with rfl | rfl
    · exact Or.inl rfl
    · exact Or.inr (Or.inl rfl)
  | handler directive node handler remaining f =>
    obtain ⟨_, -, hl⟩ := (n.performs_append_iff _ _ _ _).1 hl
    obtain ⟨h₀, -, hl⟩ := (n.performs_append_iff _ _ _ _).1 hl
    exact Or.inr (Or.inr ⟨directive, node, handler, remaining, h₀, f, hmem,
      (n.performs_singleton_iff _ _ _ _).1 hl, rfl⟩)

theorem runQueue_of_not_breaks (hb : ¬ ∃ error h₁, n.Breaks path record h error h₁) :
    ∃ h₁, runQueue (n.resolver.resolve path).queue
      (n.enter (n.resolver.resolve path).path record h) = (.ok (), h₁) := by
  rcases hq : runQueue (n.resolver.resolve path).queue
    (n.enter (n.resolver.resolve path).path record h) with ⟨error | _, h₁⟩
  · exact absurd ⟨error, h₁, n.breaks_iff.2 hq⟩ hb
  · exact ⟨h₁, rfl⟩

/-- A resolution that ends in a miss breaks, if not before its end then there. -/
theorem exists_breaks_of_isMiss (hm : (n.resolver.resolve path).isMiss) :
    ∃ error h₁, n.Breaks path record h error h₁ := by
  by_contra hb
  obtain ⟨h₁, hq⟩ := n.runQueue_of_not_breaks hb
  obtain ⟨e, he, hmiss⟩ := (Option.any_eq_true _ _).1 hm
  have hall := ((n.runQueue_eq_ok_iff _ _ _).1 hq).1 e (List.mem_of_getLast? he)
  rw [hall] at hmiss
  cases hmiss

/-! ## Navigations that break -/

/-- The error of a queue goes to the fallback. -/
theorem load_of_breaks (hb : n.Breaks path record h error h₁) :
    n.load path record h = handOver (n.resolver.resolve path) error h₁ := by
  unfold load present
  rw [n.breaks_iff.1 hb]
  rfl

theorem load_of_not_breaks (hb : ¬ ∃ error h₁, n.Breaks path record h error h₁) :
    (n.load path record h).1 =
      .ok ⟨(n.resolver.resolve path).path, (n.resolver.resolve path).redirects, .completed⟩ := by
  obtain ⟨h₁, hq⟩ := n.runQueue_of_not_breaks hb
  unfold load present
  rw [hq]

/-- A navigation completes if nothing in it fails, and only then. -/
theorem load_eq_completed_iff :
    (n.load path record h).1 =
        .ok ⟨(n.resolver.resolve path).path, (n.resolver.resolve path).redirects, .completed⟩ ↔
      ¬ ∃ error h₁, n.Breaks path record h error h₁ := by
  refine ⟨?_, n.load_of_not_breaks⟩
  rintro hok ⟨error, h₁, hb⟩
  rw [n.load_of_breaks hb, handOver] at hok
  rcases hrun : (n.resolver.resolve path).fallback.run ((n.resolver.resolve path).path, error) h₁
    with ⟨_ | _, _⟩ <;> rw [hrun] at hok <;> cases hok

theorem handOver_eq_error_iff (r : Resolution (Handler (Host ω)) (Fallback (Host ω)))
    (e : NavigateError) (h' : Host ω) :
    handOver r error h₁ = (.error e, h') ↔
      e.path = r.path ∧ r.fallback.run (r.path, error) h₁ = (.error e.cause, h') := by
  obtain ⟨place, cause⟩ := e
  unfold handOver
  rcases r.fallback.run (r.path, error) h₁ with ⟨_ | _, _⟩ <;> simp [eq_comm, and_assoc]

/-- Where the default accepts every error, a navigation fails with the failure of the deepest
fallback on its last walk, and in no other way. -/
theorem load_eq_error_iff (hdefault : ∀ input h, (n.resolver.defaultFallback.run input h).1 = .ok ())
    (e : NavigateError) (h' : Host ω) :
    n.load path record h = (.error e, h') ↔
      e.path = (n.resolver.resolve path).path ∧ ∃ d f error h₁,
        n.resolver.Deepest (n.resolver.resolve path).path d f ∧ n.Breaks path record h error h₁ ∧
        f.run ((n.resolver.resolve path).path, error) h₁ = (.error e.cause, h') := by
  constructor
  · intro hload
    by_cases hb : ∃ error h₁, n.Breaks path record h error h₁
    · obtain ⟨error, h₁, hb⟩ := hb
      rw [n.load_of_breaks hb, handOver_eq_error_iff] at hload
      obtain ⟨hpath, hrun⟩ := hload
      rcases n.resolver.fallback_cases path with ⟨d, hf⟩ | ⟨-, hf⟩
      · exact ⟨hpath, d, _, error, h₁, hf, hb, hrun⟩
      · have hok := hdefault ((n.resolver.resolve path).path, error) h₁
        rw [← hf, hrun] at hok
        cases hok
    · have hok := n.load_of_not_breaks hb
      rw [hload] at hok
      cases hok
  · rintro ⟨hpath, d, f, error, h₁, hf, hb, hrun⟩
    rw [n.load_of_breaks hb, handOver_eq_error_iff, n.resolver.fallback_of_deepest path hf]
    exact ⟨hpath, hrun⟩

end Navigator

/-! ## Configured sites -/

namespace Config

/-- **What escapes a navigation.**  The navigator of a configured site, with any tabs and titles,
fails exactly if the navigation breaks and the deepest fallback on its last walk fails on the error.
It completes exactly if it does not break, which it does at a miss at the latest.  If it breaks where
no node on its last walk has a fallback, it recovers: the body of the page holds the text of the
error afterwards, whatever it held before. -/
theorem only_fallbacks_fail (c : Config) (s : Sitemap (Handler (Host ω)) (Fallback (Host ω)))
    (selectTab : Option (RoutePath → Host ω → Host ω)) (title : RoutePath → String)
    (path : RoutePath) (record : Bool) (h : Host ω) :
    let n := { c.navigator s with selectTab := selectTab, title := title }
    let r := n.resolver.resolve path
    (∀ e h', n.load path record h = (.error e, h') ↔
      e.path = r.path ∧ ∃ d f error h₁, n.resolver.Deepest r.path d f ∧
        n.Breaks path record h error h₁ ∧ f.run (r.path, error) h₁ = (.error e.cause, h')) ∧
    (¬ n.resolver.HasFallback r.path → ∀ error h₁, n.Breaks path record h error h₁ →
      ∃ h', n.load path record h = (.ok ⟨r.path, r.redirects, .recovered⟩, h') ∧
        h'.page.document.body = error.message ∧
        h' = h₁.onPage (Page.edit (.replace error.message))) ∧
    ((n.load path record h).1 = .ok ⟨r.path, r.redirects, .completed⟩ ↔
      ¬ ∃ error h₁, n.Breaks path record h error h₁) ∧
    (r.isMiss → ∃ error h₁, n.Breaks path record h error h₁) ∧
    ∀ error h₁, n.Breaks path record h error h₁ →
      error = .miss .notFound ∨ error = .miss (.tooManyRedirects c.maxRedirects) ∨
        ∃ directive node handler remaining h₀ f,
          .action directive node handler remaining ∈ r.queue ∧
          handler.run remaining h₀ = (.error f, h₁) ∧ error = .handler f := by
  intro n r
  refine ⟨n.load_eq_error_iff fun _ _ => rfl, ?_, n.load_eq_completed_iff,
    n.exists_breaks_of_isMiss, fun error h₁ => n.breaks_cases⟩
  intro hnone error h₁ hb
  refine ⟨_, ?_, rfl, rfl⟩
  rw [n.load_of_breaks hb, Navigator.handOver, n.resolver.fallback_of_not_hasFallback path hnone]
  rfl

end Config

/-! ## A stand with a complaints box -/

def complaintPath : RoutePath := ⟨["complaint"], by decide⟩

/-- Orders fail at the stand as they do at the kiosk, but only complaints are answered. -/
def standMap : Sitemap (Handler (Host (List String))) (Fallback (Host (List String))) where
  root :=
    { tree := .node {}
        [("order", .node { target := some (.handler brew) } []),
          ("complaint", .node { notFound := some apologize } [])]
      distinct := by simp [Tree.Distinct, Tree.DistinctAll] }
  faultless := by rfl

/-- The reason why an order failed takes the place of what was begun; a complaint escapes. -/
theorem stand_fails :
    let n := { ({} : Config).navigator standMap with
      selectTab := some Host.selectTab, title := RoutePath.toUrl }
    (∃ h', n.load orderPath true kioskHost = (.ok ⟨orderPath, 0, .recovered⟩, h') ∧
      h'.page.document.body = "no beans") ∧
    (n.load complaintPath true kioskHost).1 = .error ⟨complaintPath, .message "closed"⟩ ∧
    ∃ d f error h₁, n.resolver.Deepest complaintPath d f ∧
      n.Breaks complaintPath true kioskHost error h₁ ∧
      (f.run (complaintPath, error) h₁).1 = .error (.message "closed") := by
  intro n
  have hfails := Config.only_fallbacks_fail {} standMap (some Host.selectTab) RoutePath.toUrl
  constructor
  · have hbreaks : n.Breaks orderPath true kioskHost (.handler (.message "no beans")) _ :=
      n.breaks_iff.2 (Prod.ext (by decide +kernel) rfl)
    obtain ⟨h', hload, hbody, -⟩ := (hfails orderPath true kioskHost).2.1 (by decide +kernel) _ _
      hbreaks
    refine ⟨h', hload.trans ?_, hbody⟩
    congr 1
    decide +kernel
  · have hload : (n.load complaintPath true kioskHost).1 =
        .error ⟨complaintPath, .message "closed"⟩ := by decide +kernel
    obtain ⟨-, d, f, error, h₁, hf, hb, hrun⟩ :=
      ((hfails complaintPath true kioskHost).1 _ _).1 (Prod.ext hload rfl)
    have hpath : (n.resolver.resolve complaintPath).path = complaintPath := by decide +kernel
    rw [hpath] at hf hrun
    exact ⟨hload, d, f, error, h₁, hf, hb, congrArg Prod.fst hrun⟩

end Wayfinder
