import Wayfinder.Journal.Store
import Wayfinder.Proofs.Fetch.Cache
import Wayfinder.Proofs.Keyed

/-!
# What the managers of journals hold

Managers that share their journals are called in any order, over a transport that answers or fails
as it likes.  The journals that they hold are told by what was to be seen of the calls: the names in
the order in which they were first created, each with the URL it was last created for and with the
entries that were last loaded since then, if any.

    js.names = created names, each once           (names_replay)
    js.get name = .ok j ↔ Told events name j      (get_replay)

A call leaves the journals of other names as they are, one that fails changes nothing, and only an
update asks for anything: once, if its journal is there and has a URL.
-/

namespace Wayfinder

variable {τ : Type}

/-! ## Calls -/

/-- A call of a manager. -/
inductive JournalStep where
  | create (name url : String)
  | get (name : String)
  | names
  | set (name : String) (entries : Json) (now : Timestamp)
  | update (name : String) (now : Timestamp)
  | search (name term : String) (fields : List String) (mode : CaseMode)

/-- What a call comes to. -/
inductive JournalOutcome where
  | created (j : Journal)
  | got (result : Except JournalError Journal)
  | listed (names : List String)
  | stored (result : Except JournalError Unit)
  | found (result : Except JournalError (List String))

namespace JournalStep

/-- The journal that the call names. -/
def name? : JournalStep → Option String
  | names => none
  | create name _ | get name | set name _ _ | update name _ | search name _ _ _ => some name

/-- Whether the call only looks. -/
def isQuery : JournalStep → Bool
  | get _ | names | search .. => true
  | _ => false

/-- Whether the call fetches entries. -/
def isUpdate : JournalStep → Bool
  | update .. => true
  | _ => false

end JournalStep

/-- Whether the call failed. -/
def JournalOutcome.isFailure : JournalOutcome → Bool
  | got (.error _) | stored (.error _) | found (.error _) => true
  | _ => false

/-- The entries that an answer brings. -/
def Exchange.entries (x : Exchange) : Except FetchError Json :=
  x.result.bind Response.json

/-- What all managers share: their journals, and what their fetchers share. -/
structure JournalState (τ : Type) where
  journals : Journals := []
  web : Web τ

/-- What is to be seen of a call. -/
structure JournalRecord where
  fetcher : Fetcher
  step : JournalStep
  outcome : JournalOutcome
  exchanges : List Exchange
  before : Journals
  after : Journals

namespace Journals

variable [DomainMapping] (send : Transport τ)

/-- A call of the manager that has the fetcher.  Clones of a manager have equal fetchers. -/
def perform (f : Fetcher) (step : JournalStep) (s : JournalState τ) :
    JournalOutcome × JournalState τ :=
  match step with
  | .create name url => (.created { name, url }, { s with journals := s.journals.create name url })
  | .get name => (.got (s.journals.get name), s)
  | .names => (.listed s.journals.names, s)
  | .set name entries now =>
    match s.journals.setEntries name entries now with
    | .ok journals => (.stored (.ok ()), { s with journals })
    | .error e => (.stored (.error e), s)
  | .update name now =>
    let (result, journals, web) := s.journals.update send f name now s.web
    (.stored result, { journals, web })
  | .search name term fields mode => (.found (s.journals.search name term fields mode), s)

/-- Calls in order, each of a manager of its own. -/
def performAll (calls : List (Fetcher × JournalStep)) (s : JournalState τ) : JournalState τ :=
  calls.foldl (fun s call => (perform send call.1 call.2 s).2) s

/-- A call, with what is to be seen of it. -/
def observe (f : Fetcher) (step : JournalStep) (s : JournalState τ) :
    JournalRecord × JournalState τ :=
  let (outcome, s') := perform send.noting f step { s with web := s.web.noted }
  ({ fetcher := f, step, outcome, exchanges := s'.web.wire.2, before := s.journals,
     after := s'.journals },
    { journals := s'.journals, web := { cache := s'.web.cache, wire := s'.web.wire.1 } })

/-- Calls in order, with what is to be seen of each. -/
def observeAll : List (Fetcher × JournalStep) → JournalState τ → List JournalRecord × JournalState τ
  | [], s => ([], s)
  | (f, step) :: calls, s =>
    let rest := observeAll calls (observe send f step s).2
    ((observe send f step s).1 :: rest.1, rest.2)

end Journals

/-! ## What a call may do -/

/-- What happens to journals. -/
inductive JournalEvent where
  | created (name url : String)
  | loaded (name : String) (entries : Json) (now : Timestamp)

namespace JournalEvent

/-- The journals after the event.  Only a journal that is there is loaded. -/
def apply (js : Journals) : JournalEvent → Journals
  | created name url => js.create name url
  | loaded name entries now =>
    match Keyed.find? js name with
    | some j => Keyed.put name (j.setEntries entries now) js
    | none => js

def name : JournalEvent → String
  | created name _ | loaded name _ _ => name

/-- The name that the event creates. -/
def created? : JournalEvent → Option String
  | created name _ => some name
  | loaded .. => none

/-- The name that the event loads. -/
def loaded? : JournalEvent → Option String
  | created .. => none
  | loaded name _ _ => some name

end JournalEvent

/-- The last event that has the property, and the events since. -/
structure LastOf (p : JournalEvent → Prop) (events : List JournalEvent) (e : JournalEvent)
    (since : List JournalEvent) : Prop where
  holds : p e
  split : ∃ earlier, events = earlier ++ e :: since
  last : ∀ e' ∈ since, ¬ p e'

/-- The journal that the events tell of: it was created last for its URL, and since then it was not
loaded or was loaded last with its entries. -/
inductive Told (events : List JournalEvent) (name : String) : Journal → Prop
  | created {url : String} {since : List JournalEvent}
      (hcreated : LastOf (·.created? = some name) events (.created name url) since)
      (hnot : ∀ e ∈ since, e.loaded? ≠ some name) : Told events name { name, url }
  | loaded {url : String} {entries : Json} {now : Timestamp} {since later : List JournalEvent}
      (hcreated : LastOf (·.created? = some name) events (.created name url) since)
      (hloaded : LastOf (·.loaded? = some name) since (.loaded name entries now) later) :
      Told events name { name, url, entries := some entries, updatedAt := some now }

namespace JournalRecord

variable [DomainMapping] (r : JournalRecord)

/-- What the call did to the journals: one that stored entries loads its journal with the entries
that it was given or that were answered. -/
def event? : Option JournalEvent :=
  match r.step, r.outcome with
  | .create name url, _ => some (.created name url)
  | .set name entries now, .stored (.ok ()) => some (.loaded name entries now)
  | .update name now, .stored (.ok ()) => do
    let exchange ← r.exchanges.head?
    let entries ← exchange.entries.toOption
    some (.loaded name entries now)
  | _, _ => none

/-- What a call may do. -/
structure Coherent : Prop where
  /-- The journals of other names stay as they are. -/
  others : ∀ name, r.step.name? ≠ some name → r.after.get name = r.before.get name
  /-- A failure changes nothing. -/
  failed : r.outcome.isFailure = true → r.after = r.before
  /-- Neither does a call that only looks. -/
  query : r.step.isQuery = true → r.after = r.before
  /-- Only an update asks for anything. -/
  offline : r.step.isUpdate = false → r.exchanges = []
  /-- A journal that is created has not been loaded. -/
  create : ∀ name url, r.step = .create name url → r.outcome = .created { name, url }
  get : ∀ name, r.step = .get name → r.outcome = .got (r.before.get name)
  names : r.step = .names → r.outcome = .listed r.before.names
  /-- Entries can be set for the names that are known. -/
  set : ∀ name entries now, r.step = .set name entries now → r.outcome = .stored
    (if name ∈ r.before.names then .ok () else .error (.notFound name))
  /-- An unknown name is not updated, and nothing is asked for. -/
  unknown : ∀ name now, r.step = .update name now → name ∉ r.before.names →
    r.outcome = .stored (.error (.notFound name)) ∧ r.exchanges = []
  /-- Nor is a journal whose text denotes no URL. -/
  unresolved : ∀ name now j e, r.step = .update name now → r.before.get name = .ok j →
    r.fetcher.resolve j.url = .error e →
    r.outcome = .stored (.error (.fetch e)) ∧ r.exchanges = []
  /-- Any other update asks once, and fails as the answer does. -/
  asks : ∀ name now j u, r.step = .update name now → r.before.get name = .ok j →
    r.fetcher.resolve j.url = .ok u →
    ∃ exchange, r.exchanges = [exchange] ∧ exchange.asked = u ∧
      (∀ entries, exchange.entries = .ok entries → r.outcome = .stored (.ok ())) ∧
      ∀ e, exchange.entries = .error e → r.outcome = .stored (.error (.fetch e))
  /-- A search fails at unknown names and at journals without entries, and nowhere else. -/
  search : ∀ name term fields mode, r.step = .search name term fields mode →
    (r.outcome = .found (.error (.notFound name)) ↔ name ∉ r.before.names) ∧
    (r.outcome = .found (.error (.notLoaded name)) ↔
      ∃ j, r.before.get name = .ok j ∧ j.isLoaded = false) ∧
    ∀ j entries, r.before.get name = .ok j → j.entries = some entries →
      r.outcome = .found (.ok (searchEntries entries term fields mode))

end JournalRecord

theorem Fetcher.fetchJson_ok [DomainMapping] (send : Transport τ) {f : Fetcher} {url : String}
    {u : Url} (h : f.resolve url = .ok u) (w : Web τ) :
    f.fetchJson send url w =
      (Exchange.entries ⟨u, (send u w.wire).1⟩, { w with wire := (send u w.wire).2 }) := by
  rw [fetchJson_eq, fetch_ok send h]
  rfl

namespace Journals

/-! ## Known names -/

section
variable {js : Journals} {name : String}

theorem get_eq_ok_iff {j : Journal} : js.get name = .ok j ↔ Keyed.find? js name = some j := by
  unfold get
  split <;> simp [*]

theorem get_eq_error_iff : js.get name = .error (.notFound name) ↔ name ∉ js.names := by
  rw [names, ← Keyed.find?_eq_none_iff]
  unfold get
  split <;> simp [*]

/-- A name is unknown or has a journal. -/
theorem get_cases (js : Journals) (name : String) :
    name ∉ js.names ∧ js.get name = .error (.notFound name) ∨
      name ∈ js.names ∧ ∃ j, js.get name = .ok j := by
  by_cases h : name ∈ js.names
  · obtain ⟨j, hj⟩ := Option.ne_none_iff_exists'.1 (mt Keyed.find?_eq_none_iff.1 (not_not.2 h))
    exact .inr ⟨h, j, get_eq_ok_iff.2 hj⟩
  · exact .inl ⟨h, get_eq_error_iff.2 h⟩

theorem get_put (name name' : String) (j : Journal) :
    get name' (Keyed.put name j js) = if name = name' then .ok j else js.get name' := by
  by_cases h : name = name' <;> simp [get, Keyed.find?_put, h]

end

/-- An event leaves the journals of other names. -/
theorem get_apply_of_ne {e : JournalEvent} {name : String} {js : Journals} (h : e.name ≠ name) :
    (e.apply js).get name = js.get name := by
  cases e with
  | created name' url => exact (get_put ..).trans (if_neg h)
  | loaded name' entries now =>
    simp only [JournalEvent.apply]
    split
    · exact (get_put ..).trans (if_neg h)
    · rfl

theorem get_apply_created (js : Journals) (name url : String) :
    get name (JournalEvent.apply js (.created name url)) = .ok { name, url } :=
  (get_put ..).trans (if_pos rfl)

theorem get_apply_loaded (js : Journals) (name : String) (entries : Json) (now : Timestamp) :
    get name (JournalEvent.apply js (.loaded name entries now)) =
      (js.get name).map (Journal.setEntries entries now) := by
  simp only [JournalEvent.apply]
  cases h : Keyed.find? js name with
  | none => simp [get, h, Except.map]
  | some j => simp [get, Keyed.find?_put, h, Except.map]

theorem names_apply_created (js : Journals) (name url : String) :
    names (JournalEvent.apply js (.created name url)) =
      if name ∈ js.names then js.names else js.names ++ [name] :=
  Keyed.keys_put ..

theorem names_apply_loaded (js : Journals) (name : String) (entries : Json) (now : Timestamp) :
    names (JournalEvent.apply js (.loaded name entries now)) = js.names := by
  simp only [JournalEvent.apply]
  split
  · rename_i j hj
    have hname : name ∈ js.names := by
      by_contra hnot
      simp [Keyed.find?_eq_none_iff.2 hnot] at hj
    exact (Keyed.keys_put ..).trans (if_pos hname)
  · rfl

/-! ## One update -/

section
variable [DomainMapping] (send : Transport τ) (f : Fetcher) {name : String} (now : Timestamp)
  {js : Journals}
  (w : Web τ)

theorem update_unknown (h : js.get name = .error (.notFound name)) :
    js.update send f name now w = (.error (.notFound name), js, w) := by
  simp only [update, h]

variable {j : Journal} (hj : js.get name = .ok j)

include hj

theorem update_unresolved {e : FetchError} (h : f.resolve j.url = .error e) :
    js.update send f name now w = (.error (.fetch e), js, w) := by
  simp only [update, hj, Fetcher.fetchJson_eq, Fetcher.fetch_error send h, Except.bind]

theorem update_answered {u : Url} (h : f.resolve j.url = .ok u) :
    js.update send f name now w =
      match Exchange.entries ⟨u, (send u w.wire).1⟩ with
      | .ok entries => (.ok (), Keyed.put name (j.setEntries entries now) js,
          { w with wire := (send u w.wire).2 })
      | .error e => (.error (.fetch e), js, { w with wire := (send u w.wire).2 }) := by
  simp only [update, hj, Fetcher.fetchJson_ok send h]
  cases Exchange.entries ⟨u, (send u w.wire).1⟩ <;> rfl

end

/-! ## What is to be seen of an update -/

section
variable [DomainMapping] (send : Transport τ) (f : Fetcher) {name : String} (now : Timestamp)
  (s : JournalState τ)

theorem observe_unknown (h : s.journals.get name = .error (.notFound name)) :
    observe send f (.update name now) s = ({
      fetcher := f, step := .update name now, outcome := .stored (.error (.notFound name)),
      exchanges := [], before := s.journals, after := s.journals }, s) := by
  simp only [observe, perform, update_unknown send.noting f now _ h, Web.noted]

variable {j : Journal} (hj : s.journals.get name = .ok j)

include hj

theorem observe_unresolved {e : FetchError} (h : f.resolve j.url = .error e) :
    observe send f (.update name now) s = ({
      fetcher := f, step := .update name now, outcome := .stored (.error (.fetch e)),
      exchanges := [], before := s.journals, after := s.journals }, s) := by
  simp only [observe, perform, update_unresolved send.noting f now _ hj h, Web.noted]

theorem observe_answered {u : Url} (h : f.resolve j.url = .ok u) :
    let exchange : Exchange := ⟨u, (send u s.web.wire).1⟩
    let web : Web τ := { s.web with wire := (send u s.web.wire).2 }
    observe send f (.update name now) s =
      match exchange.entries with
      | .ok entries =>
        let after := Keyed.put name (j.setEntries entries now) s.journals
        ({ fetcher := f, step := .update name now, outcome := .stored (.ok ()),
           exchanges := [exchange], before := s.journals, after }, ⟨after, web⟩)
      | .error e =>
        ({ fetcher := f, step := .update name now, outcome := .stored (.error (.fetch e)),
           exchanges := [exchange], before := s.journals, after := s.journals },
          ⟨s.journals, web⟩) := by
  intro exchange web
  simp only [observe, perform, update_answered send.noting f now _ hj h]
  cases hentries : exchange.entries <;>
    simp_all only [exchange, web, Web.noted, Transport.noting, List.nil_append]

end

/-! ## One call -/

section
variable [DomainMapping] (send : Transport τ) (f : Fetcher) (step : JournalStep)
  (s : JournalState τ)

/-- How an update ends: at an unknown name, at a text that is no URL, or with an answer. -/
theorem update_cases (js : Journals) (name : String) :
    js.get name = .error (.notFound name) ∨
      ∃ j, js.get name = .ok j ∧
        ((∃ e, f.resolve j.url = .error e) ∨ ∃ u, f.resolve j.url = .ok u) := by
  rcases get_cases js name with ⟨-, h⟩ | ⟨-, j, hj⟩
  · exact .inl h
  · cases h : f.resolve j.url with
    | error e => exact .inr ⟨j, hj, .inl ⟨e, h⟩⟩
    | ok u => exact .inr ⟨j, hj, .inr ⟨u, h⟩⟩

/-- To observe a call is not to change it. -/
theorem observe_eq_perform :
    (observe send f step s).1.outcome = (perform send f step s).1 ∧
      (observe send f step s).2 = (perform send f step s).2 := by
  cases step with
  | create name url | get name | names | search name term fields mode => exact ⟨rfl, rfl⟩
  | set name entries now =>
    simp only [observe, perform]
    cases s.journals.setEntries name entries now <;> exact ⟨rfl, rfl⟩
  | update name now =>
    rcases update_cases f s.journals name with h | ⟨j, hj, ⟨e, h⟩ | ⟨u, h⟩⟩
    · rw [observe_unknown send f now s h, perform, update_unknown send f now _ h]
      exact ⟨rfl, rfl⟩
    · rw [observe_unresolved send f now s hj h, perform, update_unresolved send f now _ hj h]
      exact ⟨rfl, rfl⟩
    · rw [observe_answered send f now s hj h, perform, update_answered send f now _ hj h]
      cases Exchange.entries ⟨u, (send u s.web.wire).1⟩ <;> exact ⟨rfl, rfl⟩

/-- What a call did to the journals is its event. -/
theorem after_observe :
    (observe send f step s).2.journals =
      (observe send f step s).1.event?.elim s.journals (JournalEvent.apply s.journals) := by
  cases step with
  | create name url | get name | names | search name term fields mode => rfl
  | set name entries now =>
    rcases get_cases s.journals name with ⟨-, h⟩ | ⟨-, j, hj⟩
    · simp [observe, perform, setEntries, h, Except.map, JournalRecord.event?]
    · simp [observe, perform, setEntries, hj, Except.map, JournalRecord.event?,
        JournalEvent.apply, get_eq_ok_iff.1 hj]
  | update name now =>
    rcases update_cases f s.journals name with h | ⟨j, hj, ⟨e, h⟩ | ⟨u, h⟩⟩
    · rw [observe_unknown send f now s h]
      rfl
    · rw [observe_unresolved send f now s hj h]
      rfl
    · rw [observe_answered send f now s hj h]
      cases hentries : Exchange.entries ⟨u, (send u s.web.wire).1⟩ with
      | error e => rfl
      | ok entries =>
        simp [JournalRecord.event?, hentries, Except.toOption, JournalEvent.apply,
          get_eq_ok_iff.1 hj]

/-- An event is about the journal that its call names. -/
theorem name?_of_event? : ∀ e ∈ (observe send f step s).1.event?, step.name? = some e.name := by
  intro e he
  unfold JournalRecord.event? at he
  have hstep : (observe send f step s).1.step = step := rfl
  rw [hstep] at he
  split at he
  · obtain rfl := Option.some.inj he
    rfl
  · obtain rfl := Option.some.inj he
    rfl
  · obtain ⟨exchange, -, he⟩ := Option.bind_eq_some_iff.1 he
    obtain ⟨entries, -, he⟩ := Option.bind_eq_some_iff.1 he
    obtain rfl := Option.some.inj he
    rfl
  · cases he

/-- A failure is no event. -/
theorem event?_of_isFailure (h : (observe send f step s).1.outcome.isFailure = true) :
    (observe send f step s).1.event? = none := by
  unfold JournalRecord.event?
  split
  · rename_i name url hstep
    obtain rfl : step = .create name url := hstep
    cases h
  · rename_i houtcome
    rw [houtcome] at h
    cases h
  · rename_i houtcome
    rw [houtcome] at h
    cases h
  · rfl

theorem get_after_of_ne {name : String} (h : step.name? ≠ some name) :
    (observe send f step s).2.journals.get name = s.journals.get name := by
  rw [after_observe]
  cases he : (observe send f step s).1.event? with
  | none => rfl
  | some e =>
    refine get_apply_of_ne fun heq => h ?_
    rw [name?_of_event? send f step s e he, heq]

theorem exchanges_observe (h : step.isUpdate = false) :
    (observe send f step s).1.exchanges = [] := by
  cases step with
  | update name now => cases h
  | set name entries now =>
    simp only [observe, perform]
    cases s.journals.setEntries name entries now <;> rfl
  | _ => rfl

theorem outcome_set (name : String) (entries : Json) (now : Timestamp) :
    (observe send f (.set name entries now) s).1.outcome = .stored
      (if name ∈ s.journals.names then .ok () else .error (.notFound name)) := by
  rw [(observe_eq_perform send f _ s).1]
  rcases get_cases s.journals name with ⟨hname, h⟩ | ⟨hname, j, h⟩ <;>
    simp [perform, setEntries, h, hname, Except.map]

omit [DomainMapping] in
/-- A search fails at an unknown name, at a journal that has not been loaded, and nowhere else. -/
theorem search_spec (js : Journals) (name term : String) (fields : List String)
    (mode : CaseMode) :
    (js.search name term fields mode = .error (.notFound name) ↔ name ∉ js.names) ∧
      (js.search name term fields mode = .error (.notLoaded name) ↔
        ∃ j, js.get name = .ok j ∧ j.isLoaded = false) ∧
      ∀ j entries, js.get name = .ok j → j.entries = some entries →
        js.search name term fields mode = .ok (searchEntries entries term fields mode) := by
  have hloaded (j : Journal) (entries : Json) (hj : js.get name = .ok j)
      (hentries : j.entries = some entries) :
      js.search name term fields mode = .ok (searchEntries entries term fields mode) := by
    simp only [search, hj, hentries]
  rw [← and_assoc]
  refine ⟨?_, hloaded⟩
  rcases get_cases js name with ⟨hname, h⟩ | ⟨hname, j, h⟩
  · simp [search, h, hname]
  · cases hentries : j.entries with
    | none => simp [search, h, hname, hentries, Journal.isLoaded]
    | some entries => simp [hloaded j entries h hentries, h, hname, hentries, Journal.isLoaded]

/-- Every call does what it may. -/
theorem coherent_observe : (observe send f step s).1.Coherent where
  others name h := get_after_of_ne send f step s h
  failed h := by
    have hafter := after_observe send f step s
    rwa [event?_of_isFailure send f step s h] at hafter
  query h := by
    cases step with
    | get name | names | search name term fields mode => rfl
    | _ => cases h
  offline h := exchanges_observe send f step s h
  create name url hstep := by
    obtain rfl : step = _ := hstep
    rfl
  get name hstep := by
    obtain rfl : step = _ := hstep
    rfl
  names hstep := by
    obtain rfl : step = _ := hstep
    rfl
  set name entries now hstep := by
    obtain rfl : step = _ := hstep
    exact outcome_set send f s name entries now
  unknown name now hstep hname := by
    obtain rfl : step = _ := hstep
    rw [observe_unknown send f now s (get_eq_error_iff.2 hname)]
    exact ⟨rfl, rfl⟩
  unresolved name now j e hstep hj h := by
    obtain rfl : step = _ := hstep
    rw [observe_unresolved send f now s hj h]
    exact ⟨rfl, rfl⟩
  asks name now j u hstep hj h := by
    obtain rfl : step = _ := hstep
    rw [observe_answered send f now s hj h]
    refine ⟨⟨u, (send u s.web.wire).1⟩, ?_⟩
    cases Exchange.entries ⟨u, (send u s.web.wire).1⟩ <;> simp
  search name term fields mode hstep := by
    obtain rfl : step = _ := hstep
    have hspec := search_spec s.journals name term fields mode
    simpa only [observe, perform, JournalOutcome.found.injEq] using hspec

end

end Journals

/-! ## What the journals are after all -/

section
variable {p : JournalEvent → Prop} {events since : List JournalEvent} {e a : JournalEvent}

theorem lastOf_concat_of_holds (ha : p a) :
    LastOf p (events ++ [a]) e since ↔ e = a ∧ since = [] := by
  constructor
  · rintro ⟨-, ⟨earlier, heq⟩, hlast⟩
    rcases List.eq_nil_or_concat since with rfl | ⟨since, last, rfl⟩
    · exact ⟨(List.append_singleton_inj.1 heq).2.symm, rfl⟩
    · rw [List.concat_eq_append, ← List.cons_append, ← List.append_assoc,
        List.append_singleton_inj] at heq
      exact absurd (heq.2 ▸ ha) (hlast last (by simp))
  · rintro ⟨rfl, rfl⟩
    exact ⟨ha, ⟨events, rfl⟩, by simp⟩

theorem lastOf_concat_of_not (ha : ¬ p a) :
    LastOf p (events ++ [a]) e since ↔
      ∃ since', since = since' ++ [a] ∧ LastOf p events e since' := by
  constructor
  · rintro ⟨he, ⟨earlier, heq⟩, hlast⟩
    rcases List.eq_nil_or_concat since with rfl | ⟨since, last, rfl⟩
    · exact absurd ((List.append_singleton_inj.1 heq).2 ▸ he) ha
    · rw [List.concat_eq_append, ← List.cons_append, ← List.append_assoc,
        List.append_singleton_inj] at heq
      obtain ⟨rfl, rfl⟩ := heq
      exact ⟨since, by simp, he, ⟨earlier, rfl⟩, fun e he => hlast e (by simp [he])⟩
  · rintro ⟨since, rfl, he, ⟨earlier, rfl⟩, hlast⟩
    refine ⟨he, ⟨earlier, by simp⟩, fun e' he' => ?_⟩
    rcases List.mem_append.1 he' with he' | he'
    · exact hlast e' he'
    · rwa [List.mem_singleton.1 he']

/-- Some event is the last one with the property, if any event has it. -/
theorem exists_lastOf (p : JournalEvent → Prop) (events : List JournalEvent) :
    (∀ e ∈ events, ¬ p e) ∨ ∃ e since, LastOf p events e since := by
  induction events using List.reverseRecOn with
  | nil => exact .inl (by simp)
  | append_singleton events a ih =>
    by_cases ha : p a
    · exact .inr ⟨a, [], (lastOf_concat_of_holds ha).2 ⟨rfl, rfl⟩⟩
    · rcases ih with hnot | ⟨e, since, h⟩
      · refine .inl fun e he => ?_
        rcases List.mem_append.1 he with he | he
        · exact hnot e he
        · rwa [List.mem_singleton.1 he]
      · exact .inr ⟨e, since ++ [a], (lastOf_concat_of_not ha).2 ⟨since, rfl, h⟩⟩

end

section
variable {events : List JournalEvent} {name : String} {j : Journal}

theorem JournalEvent.name_of_created? {e : JournalEvent} (h : e.created? = some name) :
    e.name = name := by
  cases e with
  | created name' url => exact Option.some.inj h
  | loaded name' entries now => cases h

theorem JournalEvent.name_of_loaded? {e : JournalEvent} (h : e.loaded? = some name) :
    e.name = name := by
  cases e with
  | created name' url => cases h
  | loaded name' entries now => exact Option.some.inj h

/-- What is told of a journal after it was created. -/
theorem exists_told {url : String} {since : List JournalEvent}
    (hcreated : LastOf (·.created? = some name) events (.created name url) since) :
    ∃ j, Told events name j ∧ j.name = name ∧ j.url = url := by
  rcases exists_lastOf (·.loaded? = some name) since with hnot | ⟨e, later, hloaded⟩
  · exact ⟨_, .created hcreated hnot, rfl, rfl⟩
  · have he := hloaded.holds
    cases e with
    | created name' url' => cases he
    | loaded name' entries now =>
      obtain rfl := Option.some.inj he
      exact ⟨_, .loaded hcreated hloaded, rfl, rfl⟩

/-- A journal that was just created has its URL and no entries. -/
theorem told_created {url : String} :
    Told (events ++ [.created name url]) name j ↔ j = { name, url } := by
  have hlast {e : JournalEvent} {since : List JournalEvent} :
      LastOf (·.created? = some name) (events ++ [.created name url]) e since ↔
        e = .created name url ∧ since = [] := lastOf_concat_of_holds rfl
  constructor
  · rintro (⟨hcreated, -⟩ | ⟨hcreated, hloaded⟩)
    · cases (hlast.1 hcreated).1
      rfl
    · obtain ⟨-, rfl⟩ := hlast.1 hcreated
      obtain ⟨-, ⟨_, hnil⟩, -⟩ := hloaded
      simp at hnil
  · rintro rfl
    exact .created (hlast.2 ⟨rfl, rfl⟩) (by simp)

/-- One that was just loaded is as before, with the entries. -/
theorem told_loaded {entries : Json} {now : Timestamp} :
    Told (events ++ [.loaded name entries now]) name j ↔
      ∃ j', Told events name j' ∧ j = j'.setEntries entries now := by
  have hcreated? {e : JournalEvent} {since : List JournalEvent} :
      LastOf (·.created? = some name) (events ++ [.loaded name entries now]) e since ↔
        ∃ since', since = since' ++ [.loaded name entries now] ∧
          LastOf (·.created? = some name) events e since' := lastOf_concat_of_not nofun
  have hloaded? {since later : List JournalEvent} {e : JournalEvent} :
      LastOf (·.loaded? = some name) (since ++ [.loaded name entries now]) e later ↔
        e = .loaded name entries now ∧ later = [] := lastOf_concat_of_holds rfl
  constructor
  · rintro (⟨hcreated, hnot⟩ | ⟨hcreated, hloaded⟩)
    · obtain ⟨since, rfl, -⟩ := hcreated?.1 hcreated
      exact absurd rfl (hnot (.loaded name entries now) (by simp))
    · obtain ⟨since, rfl, hbefore⟩ := hcreated?.1 hcreated
      cases (hloaded?.1 hloaded).1
      obtain ⟨j', hj', rfl, rfl⟩ := exists_told hbefore
      exact ⟨j', hj', rfl⟩
  · rintro ⟨j', ⟨hcreated, -⟩ | ⟨hcreated, -⟩, rfl⟩
    · exact .loaded (hcreated?.2 ⟨_, rfl, hcreated⟩) (hloaded?.2 ⟨rfl, rfl⟩)
    · exact .loaded (hcreated?.2 ⟨_, rfl, hcreated⟩) (hloaded?.2 ⟨rfl, rfl⟩)

/-- Events about other journals say nothing of this one. -/
theorem told_concat_of_ne {e : JournalEvent} (h : e.name ≠ name) :
    Told (events ++ [e]) name j ↔ Told events name j := by
  have hcreated : e.created? ≠ some name := mt JournalEvent.name_of_created? h
  have hloaded : e.loaded? ≠ some name := mt JournalEvent.name_of_loaded? h
  constructor
  · rintro (⟨hlast, hnot⟩ | ⟨hlast, hlater⟩)
    · obtain ⟨since, rfl, hbefore⟩ := (lastOf_concat_of_not hcreated).1 hlast
      exact .created hbefore fun e he => hnot e (by simp [he])
    · obtain ⟨since, rfl, hbefore⟩ := (lastOf_concat_of_not hcreated).1 hlast
      obtain ⟨later, rfl, hlater'⟩ := (lastOf_concat_of_not hloaded).1 hlater
      exact .loaded hbefore hlater'
  · rintro (⟨hlast, hnot⟩ | ⟨hlast, hlater⟩)
    · refine .created ((lastOf_concat_of_not hcreated).2 ⟨_, rfl, hlast⟩) fun e' he' => ?_
      rcases List.mem_append.1 he' with he' | he'
      · exact hnot e' he'
      · rwa [List.mem_singleton.1 he']
    · exact .loaded ((lastOf_concat_of_not hcreated).2 ⟨_, rfl, hlast⟩)
        ((lastOf_concat_of_not hloaded).2 ⟨_, rfl, hlater⟩)

end

namespace Journals

/-- After any events a journal is what they tell. -/
theorem get_replay (events : List JournalEvent) (name : String) (j : Journal) :
    get name (events.foldl JournalEvent.apply []) = .ok j ↔ Told events name j := by
  induction events using List.reverseRecOn generalizing j with
  | nil =>
    refine ⟨nofun, ?_⟩
    rintro (⟨⟨-, ⟨earlier, hnil⟩, -⟩, -⟩ | ⟨⟨-, ⟨earlier, hnil⟩, -⟩, -⟩) <;> simp at hnil
  | append_singleton events e ih =>
    rw [List.foldl_append, List.foldl_cons, List.foldl_nil]
    by_cases h : e.name = name
    · cases e with
      | created name' url =>
        obtain rfl : name' = name := h
        rw [get_apply_created, told_created, Except.ok.injEq, eq_comm]
      | loaded name' entries now =>
        obtain rfl : name' = name := h
        rw [get_apply_loaded, told_loaded]
        simp only [← ih]
        cases get name' (events.foldl JournalEvent.apply []) <;> simp [Except.map, eq_comm]
    · rw [get_apply_of_ne h, ih, told_concat_of_ne h]

/-- The names after any events are those created, in the order of their first creation. -/
theorem names_replay (events : List JournalEvent) :
    names (events.foldl JournalEvent.apply []) =
      (events.filterMap JournalEvent.created?).eraseDups := by
  induction events using List.reverseRecOn with
  | nil => rfl
  | append_singleton events e ih =>
    rw [List.foldl_append, List.foldl_cons, List.foldl_nil, List.filterMap_append]
    cases e with
    | created name url =>
      have hname : [JournalEvent.created name url].filterMap JournalEvent.created? = [name] := rfl
      rw [names_apply_created, ih, hname, Keyed.eraseDups_concat]
      simp only [List.mem_eraseDups]
    | loaded name entries now =>
      rw [names_apply_loaded, ih, List.filterMap_cons_none rfl, List.filterMap_nil, List.append_nil]

section
variable [DomainMapping] (send : Transport τ)

/-- Calls in order do what their events say, and to observe them is not to change them. -/
theorem observeAll_spec (calls : List (Fetcher × JournalStep)) (s : JournalState τ) :
    (observeAll send calls s).2 = performAll send calls s ∧
      (observeAll send calls s).2.journals =
        ((observeAll send calls s).1.filterMap JournalRecord.event?).foldl
          JournalEvent.apply s.journals := by
  induction calls generalizing s with
  | nil => exact ⟨rfl, rfl⟩
  | cons call calls ih =>
    obtain ⟨f, step⟩ := call
    obtain ⟨hstate, hjournals⟩ := ih (observe send f step s).2
    refine ⟨hstate.trans ?_, hjournals.trans ?_⟩
    · rw [(observe_eq_perform send f step s).2]
      rfl
    · rw [after_observe, observeAll]
      cases hevent : (observe send f step s).1.event? with
      | none => rw [List.filterMap_cons_none hevent]; rfl
      | some e => rw [List.filterMap_cons_some hevent]; rfl

end

/-- A journal that is told of has entries and a time of its last change together, or neither. -/
theorem isLoaded_of_told {events : List JournalEvent} {name : String} {j : Journal}
    (h : Told events name j) : j.isLoaded = j.entries.isSome ∧ j.isLoaded = j.updatedAt.isSome := by
  cases h <;> exact ⟨rfl, rfl⟩

/-- Whatever the transport does and whatever managers are called, in any order: the names are those
created, in the order of their first creation; each journal is as it was last created and has since
been loaded last; it has entries and a time together or neither; and the next call, whatever it is,
does what it may. -/
theorem performAll_told [DomainMapping] (send : Transport τ) (web : Web τ)
    (calls : List (Fetcher × JournalStep)) :
    let events := (observeAll send calls { web }).1.filterMap JournalRecord.event?
    let s := (observeAll send calls { web }).2
    s = performAll send calls { web } ∧
      s.journals.names = (events.filterMap JournalEvent.created?).eraseDups ∧
      (∀ name j, s.journals.get name = .ok j ↔ Told events name j) ∧
      (∀ name j, s.journals.get name = .ok j →
        j.isLoaded = j.entries.isSome ∧ j.isLoaded = j.updatedAt.isSome) ∧
      ∀ f step, (observe send f step s).1.before = s.journals ∧
        (observe send f step s).1.outcome = (perform send f step s).1 ∧
        (observe send f step s).1.after = (perform send f step s).2.journals ∧
        (observe send f step s).1.Coherent := by
  intro events s
  obtain ⟨hstate, hjournals⟩ := observeAll_spec send calls { web }
  have htold (name : String) (j : Journal) : s.journals.get name = .ok j ↔ Told events name j := by
    rw [hjournals]
    exact get_replay events name j
  refine ⟨hstate, ?_, htold, fun name j hj => isLoaded_of_told ((htold name j).1 hj),
    fun f step => ?_⟩
  · rw [hjournals]
    exact names_replay events
  · obtain ⟨houtcome, hafter⟩ := observe_eq_perform send f step s
    exact ⟨rfl, houtcome, congrArg JournalState.journals hafter, coherent_observe send f step s⟩

attribute [local instance] DomainMapping.asciiOnly in
/-- A journal that is created again is reset in its place. -/
example (now : Timestamp) : (performAll .unreachable
    [({}, .create "blog" "/blog.json"), ({}, .create "notes" "/notes.json"),
      ({}, .set "blog" (.array []) now), ({}, .create "blog" "/2.json")]
    { web := { wire := () } }).journals =
      [("blog", { name := "blog", url := "/2.json" }),
        ("notes", { name := "notes", url := "/notes.json" })] := rfl

end Journals

end Wayfinder
