import Wayfinder.Proofs.Route.Naturality
import Wayfinder.Proofs.Site.Agreement
import Wayfinder.Proofs.Site.Recovery

/-!
# Acting at once and acting later

A routine acts when it is called or when it is awaited.  Between the two it can be told which; but a
navigator lets nothing happen there.  A `Stage` is how far a navigation has come, with a call and its
await as two steps, and `Stage.run` keeps the moments that it goes through:

    called c h, acts c h, returned c h', settled c h'              where the routine acts at once
    called c h, returned c h, acts c h, settled c h'               where it acts later

Calls and awaits alternate, so the moments of one call come in one piece, with the host `h'` that the
routine has left as that of the next call, and the navigation is the one that is not watched:

    n.watch path record h =
      ((n.calls path record h).flatMap fun e => e.1.moments e.2, n.load path record h)   (watch_eq)

The calls are the same for all timings, because to resolve a path is to look at no handler:

    n.immediate.calls path record h =
      (n.calls path record h).map (Prod.map Call.immediate id)                    (calls_immediate)
-/

namespace Wayfinder

variable {ω σ ι : Type}

/-! ## Definitions -/

/-- The routine, acting when it is called. -/
def Routine.immediate (r : Routine σ ι) : Routine σ ι := { r with timing := .onCall }

/-- The navigator with all its routines acting when they are called.  Two navigators that are the same
then differ in the timing of their routines only. -/
def Navigator.immediate (n : Navigator ω) : Navigator ω :=
  { n with resolver := n.resolver.map Routine.immediate Routine.immediate }

/-- A routine with what it is called with. -/
inductive Call (ω : Type) where
  | handler (handler : Handler (Host ω)) (remaining : RoutePath)
  | fallback (fallback : Fallback (Host ω)) (path : RoutePath) (error : NavigationError)

namespace Call

def timing : Call ω → Timing
  | handler r _ => r.timing
  | fallback r _ _ => r.timing

def action : Call ω → Action (Host ω)
  | handler r remaining => r.action remaining
  | fallback r path error => r.action (path, error)

/-- Call the routine. -/
def make : Call ω → Host ω → Pending (Host ω) × Host ω
  | handler r remaining => r.call remaining
  | fallback r path error => r.call (path, error)

def immediate : Call ω → Call ω
  | handler r remaining => handler r.immediate remaining
  | fallback r path error => fallback r.immediate path error

end Call

/-- What happens in a call and in its await, and the host at that time. -/
inductive Moment (ω : Type) where
  /-- the routine is called -/
  | called (c : Call ω) (h : Host ω)
  /-- it starts to act -/
  | acts (c : Call ω) (h : Host ω)
  /-- the call has given back what is to be awaited -/
  | returned (c : Call ω) (h : Host ω)
  /-- what was awaited has come -/
  | settled (c : Call ω) (h : Host ω)

namespace Call

/-- What happens when the call is made. -/
def making (c : Call ω) (h : Host ω) : List (Moment ω) :=
  match c.timing with
  | .onCall => [.called c h, .acts c h, .returned c (c.make h).2]
  | .onAwait => [.called c h, .returned c (c.make h).2]

/-- What happens when what the call has given back is awaited. -/
def awaiting (c : Call ω) (p : Pending (Host ω)) (h : Host ω) : List (Moment ω) :=
  match p with
  | .settled _ => [.settled c (p.await h).2]
  | .waiting _ => [.acts c h, .settled c (p.await h).2]

/-- What happens when the call is made and awaited at once. -/
def moments (c : Call ω) (h : Host ω) : List (Moment ω) :=
  match c.timing with
  | .onCall => [.called c h, .acts c h, .returned c (c.action h).2, .settled c (c.action h).2]
  | .onAwait => [.called c h, .returned c h, .acts c h, .settled c (c.action h).2]

/-- Calls from a host `h` to a host `h'`: each is made on the host that the one before it has left. -/
def Chain : Host ω → List (Call ω × Host ω) → Host ω → Prop
  | h, [], h' => h' = h
  | h, (c, found) :: calls, h' => found = h ∧ Chain (c.action h).2 calls h'

end Call

/-- How far a navigation has come whose page is shown. -/
inductive Stage (ω : Type) where
  /-- these entries are still to be called -/
  | queued (entries : List (QueueEntry (Handler (Host ω))))
  /-- a handler has been called, and these entries come after it -/
  | handling (c : Call ω) (p : Pending (Host ω)) (later : List (QueueEntry (Handler (Host ω))))
  | failed (error : NavigationError)
  /-- the fallback has been called -/
  | recovering (c : Call ω) (p : Pending (Host ω))
  | ended (result : Except NavigateError Navigation)

namespace Stage

/-- More than the number of steps to the end. -/
def size : Stage ω → Nat
  | queued entries => 2 * entries.length + 4
  | handling _ _ later => 2 * later.length + 5
  | failed _ => 3
  | recovering _ _ => 2
  | ended _ => 1

/-- The result at the end. -/
def result? : Stage ω → Option (Except NavigateError Navigation)
  | ended result => some result
  | _ => none

/-- What comes after a handler. -/
def afterHandler (later : List (QueueEntry (Handler (Host ω)))) : Except Failure Unit → Stage ω
  | .ok () => queued later
  | .error f => failed (.handler f)

section
variable (r : Resolution (Handler (Host ω)) (Fallback (Host ω)))

/-- What comes after the fallback. -/
def afterFallback : Except Failure Unit → Stage ω
  | .ok () => ended (.ok ⟨r.path, r.redirects, .recovered⟩)
  | .error cause => ended (.error ⟨r.path, cause⟩)

/-- Call, await, or pass on: what happens, the next stage, and the host then. -/
def step : Stage ω → Host ω → List (Moment ω) × Stage ω × Host ω
  | queued [], h => ([], ended (.ok ⟨r.path, r.redirects, .completed⟩), h)
  | queued (.miss e :: _), h => ([], failed (.miss e), h)
  | queued (.action _ _ handler remaining :: later), h =>
    let c := Call.handler handler remaining
    let (p, h') := c.make h
    (c.making h, handling c p later, h')
  | handling c p later, h =>
    let (result, h') := p.await h
    (c.awaiting p h, afterHandler later result, h')
  | failed e, h =>
    let c := Call.fallback r.fallback r.path e
    let (p, h') := c.make h
    (c.making h, recovering c p, h')
  | recovering c p, h =>
    let (result, h') := p.await h
    (c.awaiting p h, afterFallback r result, h')
  | ended result, h => ([], ended result, h)

theorem size_step (stage : Stage ω) (h : Host ω) (hgoes : stage.result? = none) :
    (stage.step r h).2.1.size < stage.size := by
  cases stage with
  | queued entries =>
    cases entries with
    | nil => simp [step, size]
    | cons e later =>
      cases e with
      | miss e => simp [step, size]
      | action directive node handler remaining =>
        simp only [step, size, List.length_cons]
        omega
  | handling c p later => cases hp : (p.await h).1 <;> simp [step, hp, afterHandler, size]
  | failed e => simp [step, size]
  | recovering c p => cases hp : (p.await h).1 <;> simp [step, hp, afterFallback, size]
  | ended result => cases hgoes

/-- Go on to the end: what happens on the way, the result, and the host then. -/
def run (stage : Stage ω) (h : Host ω) :
    List (Moment ω) × Except NavigateError Navigation × Host ω :=
  match _hgoes : stage.result? with
  | some result => ([], result, h)
  | none =>
    let rest := run (stage.step r h).2.1 (stage.step r h).2.2
    ((stage.step r h).1 ++ rest.1, rest.2)
termination_by stage.size
decreasing_by exact size_step r stage h _hgoes

end

end Stage

/-- The navigation that a request leads to, if any: its path, whether it is recorded, and the host
from which it starts. -/
def Request.load? : Request → Host ω → Option (RoutePath × Bool × Host ω)
  | .navigate path, h => some (path, true, h)
  | .pop state, h => some (state.path, false, h)
  | .popValue value, h =>
    match value.member? "path", HistoryState.decoder.ofValue value with
    | some _, .ok state => some (state.path, false, h)
    | _, _ => none
  | .move d, h =>
    match h.page.history.move d with
    | (_, none) => none
    | (history, some state) => some (state.path, false, h.onPage fun p => { p with history })

namespace Navigator

/-- Load a path, and keep what happens once its page is shown. -/
def watch (n : Navigator ω) (path : RoutePath) (record : Bool) (h : Host ω) :
    List (Moment ω) × Except NavigateError Navigation × Host ω :=
  let r := n.resolver.resolve path
  Stage.run r (.queued r.queue) (n.enter r.path record h)

/-- Watch the navigations of a session. -/
def watchAll (n : Navigator ω) : List Request → Host ω → List (Moment ω) × Host ω
  | [], h => ([], h)
  | request :: requests, h =>
    match request.load? h with
    | none => n.watchAll requests h
    | some (path, record, h₁) =>
      let seen := n.watch path record h₁
      let rest := n.watchAll requests seen.2.2
      (seen.1 ++ rest.1, rest.2)

/-- What requests in order come to. -/
def answers (n : Navigator ω) :
    List Request → Host ω → List (Except HistoryError (Option Navigation))
  | [], _ => []
  | request :: requests, h => n.answer h request :: n.answers requests (n.serve h request)

end Navigator

/-! ## Calls -/

section
variable (r : Routine σ ι) (input : ι) (s : σ)

theorem Routine.call_onCall (ht : r.timing = .onCall) :
    r.call input s = (.settled (r.action input s).1, (r.action input s).2) := by
  rw [call, ht]

theorem Routine.call_onAwait (ht : r.timing = .onAwait) :
    r.call input s = (.waiting (r.action input), s) := by
  rw [call, ht]

end

namespace Call

variable (c : Call ω) (h : Host ω)

theorem make_onCall (ht : c.timing = .onCall) :
    c.make h = (.settled (c.action h).1, (c.action h).2) := by
  cases c with
  | handler r remaining => exact r.call_onCall remaining h ht
  | fallback r path error => exact r.call_onCall (path, error) h ht

theorem make_onAwait (ht : c.timing = .onAwait) : c.make h = (.waiting c.action, h) := by
  cases c with
  | handler r remaining => exact r.call_onAwait remaining h ht
  | fallback r path error => exact r.call_onAwait (path, error) h ht

/-- A call that is awaited at once: the routine acts once, in between, on the host of the call. -/
theorem making_append_awaiting :
    c.making h ++ c.awaiting (c.make h).1 (c.make h).2 = c.moments h := by
  unfold making moments
  cases ht : c.timing with
  | onCall =>
    rw [c.make_onCall h ht]
    rfl
  | onAwait =>
    rw [c.make_onAwait h ht]
    rfl

theorem await_make : (c.make h).1.await (c.make h).2 = c.action h := by
  cases ht : c.timing with
  | onCall =>
    rw [c.make_onCall h ht]
    rfl
  | onAwait =>
    rw [c.make_onAwait h ht]
    rfl

theorem action_handler (r : Handler (Host ω)) (remaining : RoutePath) :
    (handler r remaining).action h = r.run remaining h := (r.run_eq remaining h).symm

theorem action_fallback (r : Fallback (Host ω)) (path : RoutePath) (error : NavigationError) :
    (fallback r path error).action h = r.run (path, error) h := (r.run_eq (path, error) h).symm

end Call

/-! ## From call to call -/

namespace Stage

variable (r : Resolution (Handler (Host ω)) (Fallback (Host ω)))

theorem run_ended (result : Except NavigateError Navigation) (h : Host ω) :
    run r (ended result) h = ([], result, h) := by
  rw [run]
  rfl

theorem run_step (stage : Stage ω) (h : Host ω) (hgoes : stage.result? = none) :
    run r stage h = ((stage.step r h).1 ++ (run r (stage.step r h).2.1 (stage.step r h).2.2).1,
      (run r (stage.step r h).2.1 (stage.step r h).2.2).2) := by
  rw [run]
  split
  · next h' => cases hgoes.symm.trans h'
  · rfl

theorem run_action (directive : Directive) (node : RoutePath) (handler : Handler (Host ω))
    (remaining : RoutePath) (later : List (QueueEntry (Handler (Host ω)))) (h : Host ω) :
    run r (queued (.action directive node handler remaining :: later)) h =
      let c := Call.handler handler remaining
      let rest := run r (afterHandler later (c.action h).1) (c.action h).2
      (c.moments h ++ rest.1, rest.2) := by
  rw [run_step _ _ _ rfl]
  simp only [step]
  rw [run_step _ _ _ rfl]
  simp only [step, Call.await_make, ← List.append_assoc, Call.making_append_awaiting]

theorem run_failed (error : NavigationError) (h : Host ω) :
    run r (failed error) h =
      ((Call.fallback r.fallback r.path error).moments h, Navigator.handOver r error h) := by
  rw [run_step _ _ _ rfl]
  simp only [step]
  rw [run_step _ _ _ rfl]
  simp only [step, Call.await_make, ← List.append_assoc, Call.making_append_awaiting]
  rw [Navigator.handOver, ← Call.action_fallback]
  rcases (Call.fallback r.fallback r.path error).action h with ⟨cause | _, h'⟩ <;>
    simp only [afterFallback, run_ended, List.append_nil]

/-- The calls of a queue up to the first failure, that of the fallback then, and the host on which
each is made. -/
def calls : List (QueueEntry (Handler (Host ω))) → Host ω → List (Call ω × Host ω)
  | [], _ => []
  | .miss e :: _, h => [(.fallback r.fallback r.path (.miss e), h)]
  | .action _ _ handler remaining :: later, h =>
    let c := Call.handler handler remaining
    (c, h) ::
      match c.action h with
      | (.ok (), h') => calls later h'
      | (.error f, h') => [(.fallback r.fallback r.path (.handler f), h')]

/-- **From call to call.**  What happens in a navigation is one call after the other, each with its
await; and the navigation ends as it does when nothing is kept of what happens. -/
theorem run_queued (queue : List (QueueEntry (Handler (Host ω)))) (h : Host ω) :
    run r (queued queue) h = ((calls r queue h).flatMap fun e => e.1.moments e.2,
      match Navigator.runQueue queue h with
      | (.ok (), h') => (.ok ⟨r.path, r.redirects, .completed⟩, h')
      | (.error error, h') => Navigator.handOver r error h') := by
  induction queue generalizing h with
  | nil =>
    rw [run_step _ _ _ rfl]
    simp only [step, run_ended]
    rfl
  | cons e later ih =>
    cases e with
    | miss e =>
      rw [run_step _ _ _ rfl]
      simp only [step, run_failed, List.nil_append]
      rw [calls, List.flatMap_singleton]
      rfl
    | action directive node handler remaining =>
      rw [Navigator.runQueue_action, ← Call.action_handler, calls]
      rcases hact : (Call.handler handler remaining).action h with ⟨f | _, h₁⟩
      · simp only [run_action, hact, afterHandler, run_failed, List.flatMap_cons, List.flatMap_nil,
          List.append_nil]
      · simp only [run_action, hact, afterHandler, ih, List.flatMap_cons]

/-- Each call is made on the host that the one before it has left. -/
theorem chain_calls (queue : List (QueueEntry (Handler (Host ω)))) (h : Host ω) :
    Call.Chain h (calls r queue h) (run r (queued queue) h).2.2 := by
  -- the fallback is called last
  have hlast (error : NavigationError) (h : Host ω) :
      Call.Chain h [(.fallback r.fallback r.path error, h)] (Navigator.handOver r error h).2 := by
    refine ⟨rfl, ?_⟩
    rw [Navigator.handOver, ← Call.action_fallback]
    rcases (Call.fallback r.fallback r.path error).action h with ⟨_ | _, _⟩ <;> rfl
  induction queue generalizing h with
  | nil =>
    rw [run_queued]
    rfl
  | cons e later ih =>
    cases e with
    | miss e =>
      rw [run_queued]
      exact hlast (.miss e) h
    | action directive node handler remaining =>
      rw [run_action, calls]
      rcases hact : (Call.handler handler remaining).action h with ⟨f | _, h₁⟩
      · simp only [hact, afterHandler, run_failed]
        refine ⟨rfl, ?_⟩
        rw [hact]
        exact hlast (.handler f) h₁
      · simp only [hact, afterHandler]
        refine ⟨rfl, ?_⟩
        rw [hact]
        exact ih h₁

/-- Routines that act when they are called are called on the same hosts. -/
theorem calls_map (queue : List (QueueEntry (Handler (Host ω)))) (h : Host ω) :
    calls (r.map Routine.immediate Routine.immediate) (queue.map (.map Routine.immediate)) h =
      (calls r queue h).map (Prod.map Call.immediate id) := by
  induction queue generalizing h with
  | nil => rfl
  | cons e later ih =>
    cases e with
    | miss e => rfl
    | action directive node handler remaining =>
      have hact : (Call.handler handler.immediate remaining).action h =
        (Call.handler handler remaining).action h := rfl
      rw [List.map_cons, QueueEntry.map, calls, calls, hact]
      rcases (Call.handler handler remaining).action h with ⟨f | _, h₁⟩
      · rfl
      · simp only [ih, List.map_cons]
        rfl

end Stage

/-! ## Navigations -/

namespace Navigator

section
variable (r : Resolution (Handler (Host ω)) (Fallback (Host ω))) (h : Host ω)

theorem runQueue_map (queue : List (QueueEntry (Handler (Host ω)))) :
    runQueue (queue.map (.map Routine.immediate)) h = runQueue queue h := by
  induction queue generalizing h with
  | nil => rfl
  | cons e later ih =>
    cases e with
    | miss e => rfl
    | action directive node handler remaining =>
      have hrun : handler.immediate.run remaining h = handler.run remaining h := by
        rw [Routine.run_eq, Routine.run_eq]
        rfl
      rw [List.map_cons, QueueEntry.map, runQueue_action, runQueue_action, hrun]
      rcases handler.run remaining h with ⟨_ | _, h₁⟩
      · rfl
      · exact ih h₁

theorem handOver_map (error : NavigationError) :
    handOver (r.map Routine.immediate Routine.immediate) error h = handOver r error h := by
  have hrun : r.fallback.immediate.run (r.path, error) h = r.fallback.run (r.path, error) h := by
    rw [Routine.run_eq, Routine.run_eq]
    rfl
  unfold handOver
  rw [← hrun]
  rfl

end

variable (n : Navigator ω) (path : RoutePath) (record : Bool) (h : Host ω)

/-- The calls of a navigation, and the host on which each is made. -/
def calls : List (Call ω × Host ω) :=
  let r := n.resolver.resolve path
  Stage.calls r r.queue (n.enter r.path record h)

theorem load_eq_match :
    n.load path record h =
      match runQueue (n.resolver.resolve path).queue
        (n.enter (n.resolver.resolve path).path record h) with
      | (.ok (), h') =>
        (.ok ⟨(n.resolver.resolve path).path, (n.resolver.resolve path).redirects, .completed⟩, h')
      | (.error error, h') => handOver (n.resolver.resolve path) error h' := rfl

/-- Watched or not, a path is loaded the same way. -/
theorem watch_eq :
    n.watch path record h =
      ((n.calls path record h).flatMap fun e => e.1.moments e.2, n.load path record h) := by
  rw [watch, Stage.run_queued, load_eq_match]
  rfl

theorem chain_calls :
    Call.Chain (n.enter (n.resolver.resolve path).path record h) (n.calls path record h)
      (n.load path record h).2 := by
  have hchain := Stage.chain_calls (n.resolver.resolve path) (n.resolver.resolve path).queue
    (n.enter (n.resolver.resolve path).path record h)
  rw [Stage.run_queued, ← load_eq_match] at hchain
  exact hchain

theorem resolve_immediate :
    n.immediate.resolver.resolve path =
      (n.resolver.resolve path).map Routine.immediate Routine.immediate :=
  n.resolver.resolve_map _ _ path

theorem load_immediate : n.immediate.load = n.load := by
  funext path record h
  rw [load_eq_match, load_eq_match, resolve_immediate]
  simp only [Resolution.map, runQueue_map, ← handOver_map (n.resolver.resolve path)]
  rfl

theorem calls_immediate :
    n.immediate.calls path record h =
      (n.calls path record h).map (Prod.map Call.immediate id) := by
  rw [calls, resolve_immediate]
  exact Stage.calls_map (n.resolver.resolve path) _ _

/-! ## Sessions -/

/-- The calls of a session, and the host on which each is made. -/
def callsAll (n : Navigator ω) : List Request → Host ω → List (Call ω × Host ω)
  | [], _ => []
  | request :: requests, h =>
    match request.load? h with
    | none => n.callsAll requests h
    | some (path, record, h₁) =>
      n.calls path record h₁ ++ n.callsAll requests (n.load path record h₁).2

theorem serve_eq_match (request : Request) :
    n.serve h request =
      match request.load? h with
      | none => h
      | some (path, record, h₁) => (n.load path record h₁).2 := by
  cases request with
  | navigate path => rfl
  | pop state => exact n.snd_popState state h
  | popValue value =>
    simp only [serve, popStateValue, Request.load?]
    cases value.member? "path" with
    | none => rfl
    | some x =>
      cases HistoryState.decoder.ofValue value with
      | ok state => exact n.snd_popState state h
      | error e => rfl
  | move d =>
    simp only [serve, Request.load?, replay_eq_replayMove, replayMove]
    rcases h.page.history.move d with ⟨history, _ | state⟩
    · rfl
    · exact n.snd_popState state _

/-- Watched or not, a session is the same. -/
theorem watchAll_eq (requests : List Request) :
    n.watchAll requests h =
      ((n.callsAll requests h).flatMap fun e => e.1.moments e.2, n.serveAll requests h) := by
  induction requests generalizing h with
  | nil => rfl
  | cons request requests ih =>
    rw [watchAll, callsAll, serveAll, List.foldl_cons, ← serveAll, serve_eq_match]
    cases request.load? h with
    | none => exact ih h
    | some load => simp only [watch_eq, ih, List.flatMap_append]

theorem callsAll_immediate (requests : List Request) :
    n.immediate.callsAll requests h =
      (n.callsAll requests h).map (Prod.map Call.immediate id) := by
  induction requests generalizing h with
  | nil => rfl
  | cons request requests ih =>
    rw [callsAll, callsAll]
    cases request.load? h with
    | none => exact ih h
    | some load => simp only [calls_immediate, load_immediate, ih, List.map_append]

section
variable {n} {n' : Navigator ω} (hload : n.load = n'.load)

include hload

/-- What a request does, it does by loading a path. -/
theorem serve_congr : n.serve = n'.serve := by
  funext h request
  rw [serve_eq_match, serve_eq_match, hload]

theorem answer_congr : n.answer = n'.answer := by
  have hpop : n.popState = n'.popState := by
    funext state h
    rw [popState_eq, popState_eq, hload]
  funext h request
  cases request with
  | navigate path => simp only [answer, navigate, hload]
  | pop state => simp only [answer, hpop]
  | popValue value => simp only [answer, popStateValue, hpop]
  | move d => simp only [answer, replay_eq_replayMove, replayMove, hpop]

theorem answers_congr (requests : List Request) : n.answers requests h = n'.answers requests h := by
  induction requests generalizing h with
  | nil => rfl
  | cons request requests ih => rw [answers, answers, ih, serve_congr hload, answer_congr hload]

end

/-- **Timing is invisible.**  Two navigators that differ in the timing of their routines only serve any
requests alike: the same answers, the same host at the end, and the same calls in the same order on
the same hosts.  In both, each call with all that its routine does and its await comes before the next
call, which is made on the host that the routine has left.  A call that is not awaited has done all
that a routine does that acts at once, and nothing of one that acts later. -/
theorem timing_is_invisible {n n' : Navigator ω} (hsame : n.immediate = n'.immediate)
    (requests : List Request) (start : Host ω) :
    n.serveAll requests start = n'.serveAll requests start ∧
    n.answers requests start = n'.answers requests start ∧
    (∃ calls calls' : List (Call ω × Host ω),
      n.watchAll requests start =
        (calls.flatMap fun e => e.1.moments e.2, n.serveAll requests start) ∧
      n'.watchAll requests start =
        (calls'.flatMap fun e => e.1.moments e.2, n'.serveAll requests start) ∧
      calls.map (Prod.map Call.immediate id) = calls'.map (Prod.map Call.immediate id)) ∧
    (∀ (m : Navigator ω) (path : RoutePath) (record : Bool) (h : Host ω),
      ∃ calls : List (Call ω × Host ω),
        m.watch path record h =
          (calls.flatMap fun e => e.1.moments e.2, m.load path record h) ∧
        Call.Chain (m.enter (m.resolver.resolve path).path record h) calls
          (m.load path record h).2) ∧
    ∀ (σ ι : Type) (r : Routine σ ι) (input : ι) (s : σ),
      (r.timing = .onCall → (r.call input s).2 = (r.action input s).2) ∧
      (r.timing = .onAwait → (r.call input s).2 = s) := by
  have hload : n.load = n'.load := by rw [← load_immediate n, hsame, load_immediate]
  refine ⟨?_, answers_congr start hload requests, ⟨_, _, n.watchAll_eq start requests,
    n'.watchAll_eq start requests, ?_⟩,
    fun m path record h => ⟨_, m.watch_eq path record h, m.chain_calls path record h⟩,
    fun σ ι r input s => ⟨fun ht => ?_, fun ht => ?_⟩⟩
  · rw [serveAll, serveAll, serve_congr hload]
  · rw [← callsAll_immediate, hsame, callsAll_immediate]
  · rw [r.call_onCall input s ht]
  · rw [r.call_onAwait input s ht]

end Navigator

/-! ## The kiosk with other timings -/

/-- Starts on an order when it is awaited. -/
def brewLater : Handler (Host (List String)) := { brew with timing := .onAwait }

/-- Says why as soon as it is called. -/
def apologizeAtOnce : Fallback (Host (List String)) := { apologize with timing := .onCall }

def otherKioskMap : Sitemap (Handler (Host (List String))) (Fallback (Host (List String))) where
  root :=
    { tree := .node { notFound := some apologizeAtOnce }
        [("order", .node { target := some (.handler brewLater) } [])]
      distinct := by simp [Tree.Distinct, Tree.DistinctAll] }
  faultless := by rfl

def otherKiosk : Navigator (List String) :=
  { kiosk with resolver := ⟨some otherKioskMap, Fallback.ignore, 16⟩ }

/-- Nobody can tell the two kiosks apart by their orders. -/
theorem otherKiosk_serves_alike :
    kiosk.immediate = otherKiosk.immediate ∧
    (brew.call orderPath kioskHost).2.page.document.body = "one moment, " ∧
    (brewLater.call orderPath kioskHost).2 = kioskHost ∧
    (otherKiosk.serveAll [.navigate orderPath] kioskHost).page.document =
      ⟨"/order", "one moment, no beans"⟩ := by
  obtain ⟨hhost, -, -, -, hdropped⟩ := Navigator.timing_is_invisible
    (show kiosk.immediate = otherKiosk.immediate from rfl) [.navigate orderPath] kioskHost
  refine ⟨rfl, ?_, (hdropped _ _ brewLater orderPath kioskHost).2 rfl, ?_⟩
  · rw [(hdropped _ _ brew orderPath kioskHost).1 rfl]
    decide +kernel
  · rw [← hhost]
    decide +kernel

end Wayfinder
