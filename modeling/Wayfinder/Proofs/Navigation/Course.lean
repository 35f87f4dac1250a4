import Wayfinder.Navigation.Navigator

/-!
# The course of a navigation

A navigation is a sequence of acts on its host: it selects the tab, sets the title and, if the page
is to be recorded, pushes it onto the history; it calls the handlers of the queue up to the first
failure; and it hands a failure to the fallback.  `Navigator.Performs` carries out a log of acts one
by one, each with the result that the log says; `Navigator.Course` says which logs a resolution
admits.  The navigation is what the two allow:

    n.load path record h = (result, h') ↔
      ∃ log, n.Course (n.resolver.resolve path) record log result ∧ n.Performs h log h'

The proof takes the queue apart at its first failure (`runQueue_eq_error_iff`).
-/

namespace Wayfinder

variable {ω : Type}

/-! ## Acts and logs -/

/-- One thing that a navigation does to its host. -/
inductive Act (ω : Type) where
  | select (path : RoutePath)
  | setTitle (title : String)
  | push (path : RoutePath) (title : String)
  | handle (handler : Handler (Host ω)) (remaining : RoutePath)
  | recover (fallback : Fallback (Host ω)) (path : RoutePath) (error : NavigationError)

/-- Acts in order, each with its result. -/
abbrev Log (ω : Type) := List (Act ω × Except Failure Unit)

namespace Navigator

variable (n : Navigator ω)

/-- Carry out one act, once. -/
def perform : Act ω → Host ω → Except Failure Unit × Host ω
  | .select path, h => (.ok (), n.selectTab.elim h (· path h))
  | .setTitle title, h => (.ok (), h.onPage (Page.setTitle title))
  | .push path title, h => (.ok (), h.onPage (Page.pushState path title))
  | .handle handler remaining, h => handler.run remaining h
  | .recover fallback path error, h => fallback.run (path, error) h

/-- Carrying out the acts of a log, one after the other, leads from `h` to `h'`, and each act has
the result that the log says. -/
inductive Performs : Host ω → Log ω → Host ω → Prop
  | nil (h : Host ω) : Performs h [] h
  | cons {a : Act ω} {res : Except Failure Unit} {log : Log ω} {h h₁ h' : Host ω}
      (ha : n.perform a h = (res, h₁)) (hl : Performs h₁ log h') : Performs h ((a, res) :: log) h'

/-! ## Courses -/

/-- What comes before the first handler. -/
def opening (path : RoutePath) (record : Bool) : Log ω :=
  [(.select path, .ok ()), (.setTitle (n.title path), .ok ())] ++
    if record then [(.push path (n.title path), .ok ())] else []

/-- The handlers of queue entries, each called once with what remains of the path, and each
successful. -/
def handled (queue : List (QueueEntry (Handler (Host ω)))) : Log ω :=
  queue.filterMap fun
    | .action _ _ handler remaining => some (.handle handler remaining, .ok ())
    | .miss _ => none

/-- The entry at which a queue fails, what is called there, and the error: an error entry, where
nothing is called, or an entry whose handler fails. -/
inductive Fails : QueueEntry (Handler (Host ω)) → Log ω → NavigationError → Prop
  | miss (e : ResolutionError) : Fails (.miss e) [] (.miss e)
  | handler (directive : Directive) (node : RoutePath) (handler : Handler (Host ω))
      (remaining : RoutePath) (f : Failure) :
      Fails (.action directive node handler remaining)
        [(.handle handler remaining, .error f)] (.handler f)

/-- The logs of showing a resolution, and the result that each leads to. -/
inductive Course (r : Resolution (Handler (Host ω)) (Fallback (Host ω))) (record : Bool) :
    Log ω → Except NavigateError Navigation → Prop
  | completed (hq : ∀ e ∈ r.queue, e.isMiss = false) :
      Course r record (n.opening r.path record ++ handled r.queue)
        (.ok ⟨r.path, r.redirects, .completed⟩)
  | recovered {ran later : List (QueueEntry (Handler (Host ω)))}
      {last : QueueEntry (Handler (Host ω))} {calls : Log ω} {error : NavigationError}
      (hq : r.queue = ran ++ last :: later) (hran : ∀ e ∈ ran, e.isMiss = false)
      (hlast : Fails last calls error) :
      Course r record
        (n.opening r.path record ++ (handled ran ++ calls) ++
          [(.recover r.fallback r.path error, .ok ())])
        (.ok ⟨r.path, r.redirects, .recovered⟩)
  | failed {ran later : List (QueueEntry (Handler (Host ω)))}
      {last : QueueEntry (Handler (Host ω))} {calls : Log ω} {error : NavigationError}
      {cause : Failure} (hq : r.queue = ran ++ last :: later)
      (hran : ∀ e ∈ ran, e.isMiss = false) (hlast : Fails last calls error) :
      Course r record
        (n.opening r.path record ++ (handled ran ++ calls) ++
          [(.recover r.fallback r.path error, .error cause)])
        (.error ⟨r.path, cause⟩)

/-! ## What an act does to the host -/

section
variable (path : RoutePath) (title : String) (h : Host ω)

theorem perform_select_of_none (hs : n.selectTab = none) :
    n.perform (.select path) h = (.ok (), h) := by
  rw [perform, hs, Option.elim_none]

theorem perform_select_of_some {select : RoutePath → Host ω → Host ω}
    (hs : n.selectTab = some select) : n.perform (.select path) h = (.ok (), select path h) := by
  rw [perform, hs, Option.elim_some]

/-- The page has the title; its body, its history and the tabs stay. -/
@[simp] theorem perform_setTitle :
    n.perform (.setTitle title) h = (.ok (), { h with page.document.title := title }) := rfl

/-- One entry more; the document and the tabs stay. -/
@[simp] theorem perform_push :
    n.perform (.push path title) h = (.ok (), { h with
      page.history := h.page.history.push ⟨⟨path⟩, title, path.toUrl, h.page.now⟩ }) := rfl

/-- A handler that is awaited at once does what its action does. -/
@[simp] theorem perform_handle (handler : Handler (Host ω)) :
    n.perform (.handle handler path) h = handler.action path h :=
  handler.run_eq path h

@[simp] theorem perform_recover (fallback : Fallback (Host ω)) (error : NavigationError) :
    n.perform (.recover fallback path error) h = fallback.action (path, error) h :=
  fallback.run_eq (path, error) h

end

/-! ## Carrying out logs -/

theorem performs_nil_iff (h h' : Host ω) : n.Performs h [] h' ↔ h' = h := by
  constructor
  · intro hl
    cases hl
    rfl
  · rintro rfl
    exact .nil _

theorem performs_cons_iff (a : Act ω) (res : Except Failure Unit) (log : Log ω)
    (h h' : Host ω) :
    n.Performs h ((a, res) :: log) h' ↔ ∃ h₁, n.perform a h = (res, h₁) ∧ n.Performs h₁ log h' := by
  constructor
  · intro hl
    cases hl with
    | cons ha hl => exact ⟨_, ha, hl⟩
  · rintro ⟨h₁, ha, hl⟩
    exact .cons ha hl

theorem performs_append_iff (log log' : Log ω) (h h' : Host ω) :
    n.Performs h (log ++ log') h' ↔ ∃ h₁, n.Performs h log h₁ ∧ n.Performs h₁ log' h' := by
  induction log generalizing h with
  | nil => simp [performs_nil_iff]
  | cons e log ih =>
    obtain ⟨a, res⟩ := e
    simp only [List.cons_append, performs_cons_iff, ih]
    constructor
    · rintro ⟨h₁, ha, h₂, hl, hl'⟩
      exact ⟨h₂, ⟨h₁, ha, hl⟩, hl'⟩
    · rintro ⟨h₂, ⟨h₁, ha, hl⟩, hl'⟩
      exact ⟨h₁, ha, h₂, hl, hl'⟩

theorem performs_singleton_iff (a : Act ω) (res : Except Failure Unit) (h h' : Host ω) :
    n.Performs h [(a, res)] h' ↔ n.perform a h = (res, h') := by
  simp [performs_cons_iff, performs_nil_iff]

/-! ## The parts of a navigation -/

theorem performs_opening_iff (path : RoutePath) (record : Bool) (h h' : Host ω) :
    n.Performs h (n.opening path record) h' ↔ h' = n.enter path record h := by
  cases hs : n.selectTab <;> cases record <;>
    simp [opening, enter, performs_cons_iff, performs_nil_iff, perform_select_of_none,
      perform_select_of_some, hs, Host.onPage, Page.setTitle, Document.setTitle, Page.pushState]

section
variable (queue ran rest : List (QueueEntry (Handler (Host ω)))) (h h' : Host ω)

/-- One handler, and then the others if it succeeds. -/
theorem runQueue_action (directive : Directive) (node : RoutePath) (handler : Handler (Host ω))
    (remaining : RoutePath) :
    runQueue (.action directive node handler remaining :: queue) h =
      match handler.run remaining h with
      | (.ok (), h₁) => runQueue queue h₁
      | (.error f, h₁) => (.error (.handler f), h₁) := rfl

/-- A queue succeeds if it holds no error entry and all its handlers succeed. -/
theorem runQueue_eq_ok_iff :
    runQueue queue h = (.ok (), h') ↔
      (∀ e ∈ queue, e.isMiss = false) ∧ n.Performs h (handled queue) h' := by
  induction queue generalizing h with
  | nil =>
    constructor
    · intro hq
      cases hq
      exact ⟨by simp, .nil _⟩
    · rintro ⟨-, hl⟩
      cases hl
      rfl
  | cons e queue ih =>
    cases e with
    | miss e => simp [runQueue, QueueEntry.isMiss]
    | action directive node handler remaining =>
      have hlog : handled (.action directive node handler remaining :: queue) =
          (.handle handler remaining, .ok ()) :: handled queue := rfl
      rw [runQueue_action, hlog, performs_cons_iff, perform_handle, handler.run_eq]
      rcases handler.action remaining h with ⟨_ | _, h₁⟩
      · simp
      · simp [ih, QueueEntry.isMiss]

/-- Entries that succeed hand the host on to the rest of the queue. -/
theorem runQueue_append (h₁ : Host ω) (hran : runQueue ran h = (.ok (), h₁)) :
    runQueue (ran ++ rest) h = runQueue rest h₁ := by
  induction ran generalizing h with
  | nil =>
    cases hran
    rfl
  | cons e ran ih =>
    cases e with
    | miss e => cases hran
    | action directive node handler remaining =>
      rw [runQueue_action] at hran
      rw [List.cons_append, runQueue_action]
      rcases hp : handler.run remaining h with ⟨_ | _, h₂⟩ <;> rw [hp] at hran
      · cases hran
      · exact ih h₂ hran

/-- A queue fails at its first entry that fails. -/
theorem runQueue_eq_error_iff (error : NavigationError) :
    runQueue queue h = (.error error, h') ↔
      ∃ ran last later calls, queue = ran ++ last :: later ∧ (∀ e ∈ ran, e.isMiss = false) ∧
        Fails last calls error ∧ n.Performs h (handled ran ++ calls) h' := by
  constructor
  · intro hq
    induction queue generalizing h with
    | nil => cases hq
    | cons e queue ih =>
      cases e with
      | miss e =>
        cases hq
        exact ⟨[], .miss e, queue, [], rfl, by simp, .miss e, .nil _⟩
      | action directive node handler remaining =>
        rw [runQueue_action] at hq
        rcases hp : handler.run remaining h with ⟨f | _, h₁⟩ <;> rw [hp] at hq
        · cases hq
          exact ⟨[], _, queue, _, rfl, by simp, .handler directive node handler remaining f,
            (n.performs_singleton_iff _ _ _ _).2 hp⟩
        · obtain ⟨ran, last, later, calls, rfl, hran, hlast, hl⟩ := ih h₁ hq
          refine ⟨.action directive node handler remaining :: ran, last, later, calls, rfl, ?_,
            hlast, .cons hp hl⟩
          simpa [QueueEntry.isMiss] using hran
  · rintro ⟨ran, last, later, calls, rfl, hran, hlast, hl⟩
    obtain ⟨h₁, hran', hcalls⟩ := (n.performs_append_iff _ _ _ _).1 hl
    rw [runQueue_append ran _ h h₁ ((n.runQueue_eq_ok_iff ran h h₁).2 ⟨hran, hran'⟩)]
    cases hlast with
    | miss e =>
      rw [performs_nil_iff] at hcalls
      rw [hcalls]
      rfl
    | handler directive node handler remaining f =>
      rw [performs_singleton_iff, perform_handle] at hcalls
      rw [runQueue_action, handler.run_eq, hcalls]

end

/-- A log that ends with a recovery: the queue fails, and the fallback is called with the error. -/
theorem performs_recovery_iff (r : Resolution (Handler (Host ω)) (Fallback (Host ω)))
    (record : Bool) (calls : Log ω) (error : NavigationError) (res : Except Failure Unit)
    (h h' : Host ω) :
    n.Performs h (n.opening r.path record ++ calls ++ [(.recover r.fallback r.path error, res)])
        h' ↔
      ∃ h₁, n.Performs (n.enter r.path record h) calls h₁ ∧
        r.fallback.run (r.path, error) h₁ = (res, h') := by
  simp only [performs_append_iff, performs_opening_iff, performs_singleton_iff, perform_recover,
    Routine.run_eq]
  constructor
  · rintro ⟨h₁, ⟨h₀, rfl, hl⟩, hf⟩
    exact ⟨h₁, hl, hf⟩
  · rintro ⟨h₁, hl, hf⟩
    exact ⟨h₁, ⟨_, rfl, hl⟩, hf⟩

/-! ## The whole navigation -/

/-- Showing a resolution does what the logs that it admits say, and nothing else. -/
theorem present_eq_iff (r : Resolution (Handler (Host ω)) (Fallback (Host ω))) (record : Bool)
    (h h' : Host ω) (result : Except NavigateError Navigation) :
    n.present r record h = (result, h') ↔
      ∃ log, n.Course r record log result ∧ n.Performs h log h' := by
  unfold present
  constructor
  · intro hload
    rcases hq : runQueue r.queue (n.enter r.path record h) with ⟨error | _, h₁⟩ <;>
      rw [hq] at hload
    · obtain ⟨ran, last, later, calls, hqueue, hran, hlast, hl⟩ :=
        (n.runQueue_eq_error_iff _ _ _ error).1 hq
      rcases hf : r.fallback.run (r.path, error) h₁ with ⟨cause | _, h₂⟩ <;>
        simp only [hf] at hload <;> cases hload
      · exact ⟨_, .failed hqueue hran hlast,
          (n.performs_recovery_iff r record _ _ _ _ _).2 ⟨h₁, hl, hf⟩⟩
      · exact ⟨_, .recovered hqueue hran hlast,
          (n.performs_recovery_iff r record _ _ _ _ _).2 ⟨h₁, hl, hf⟩⟩
    · cases hload
      obtain ⟨hall, hl⟩ := (n.runQueue_eq_ok_iff _ _ _).1 hq
      exact ⟨_, .completed hall, (n.performs_append_iff _ _ _ _).2
        ⟨_, (n.performs_opening_iff _ _ _ _).2 rfl, hl⟩⟩
  · rintro ⟨log, hcourse, hl⟩
    cases hcourse with
    | completed hall =>
      obtain ⟨h₁, hopen, hl⟩ := (n.performs_append_iff _ _ _ _).1 hl
      rw [performs_opening_iff] at hopen
      rw [(n.runQueue_eq_ok_iff _ _ _).2 ⟨hall, hopen ▸ hl⟩]
    | recovered hqueue hran hlast =>
      obtain ⟨h₁, hl, hf⟩ := (n.performs_recovery_iff r record _ _ _ _ _).1 hl
      rw [(n.runQueue_eq_error_iff _ _ _ _).2 ⟨_, _, _, _, hqueue, hran, hlast, hl⟩]
      simp only [hf]
    | failed hqueue hran hlast =>
      obtain ⟨h₁, hl, hf⟩ := (n.performs_recovery_iff r record _ _ _ _ _).1 hl
      rw [(n.runQueue_eq_error_iff _ _ _ _).2 ⟨_, _, _, _, hqueue, hran, hlast, hl⟩]
      simp only [hf]

/-- **The course of a navigation.**  A navigation does what the logs that its resolution admits
say, and nothing else. -/
theorem load_eq_iff (path : RoutePath) (record : Bool) (h h' : Host ω)
    (result : Except NavigateError Navigation) :
    n.load path record h = (result, h') ↔
      ∃ log, n.Course (n.resolver.resolve path) record log result ∧ n.Performs h log h' :=
  n.present_eq_iff (n.resolver.resolve path) record h h' result

end Navigator

end Wayfinder
