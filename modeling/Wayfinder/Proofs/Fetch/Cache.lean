import Wayfinder.Fetch.Fetcher
import Wayfinder.Proofs.Url.Reading

/-!
# What fetchers remember

Fetchers that share their bodies are called in any order, over a transport that answers or fails as
it likes.  What they remember of a URL is told by what was to be seen of the calls: it is the body
that was last stored for it, by hand or by a successful answer, if nothing has dropped it since.

    web.remembered? k = some body ↔ LastStored events k body             (find?_replay)

A call reads a remembered body without asking for it, and otherwise asks once, for the URL that was
resolved.  There are two exceptions, as it is the text of this URL that is asked for.  The text of a
file on a drive may denote another file, and then that is what is asked for.  The text of a host with
a label that is too long to be decoded denotes nothing, and then nothing is asked for.
-/

namespace Wayfinder

variable {τ : Type}

/-! ## Calls -/

/-- A call of a fetcher. -/
inductive FetchStep where
  | prime (url body : String)
  | invalidate (url : String)
  | clear
  | cached (url : String)
  | fetch (url : String)
  | text (url : String) (useCache : Bool)
  | json (url : String)
  | fill (url : String) (useCache : Bool) (node : String)

/-- What a call comes to. -/
inductive FetchOutcome where
  | nothing
  | primed (result : Except FetchError Unit)
  | found (body : Option String)
  | answered (result : Except FetchError Response)
  | read (result : Except FetchError String)
  | decoded (result : Except FetchError Json)
  | filled (result : Except FetchError Unit) (node : String)

namespace FetchStep

/-- The URL that the call names. -/
def url? : FetchStep → Option String
  | clear => none
  | prime url _ | invalidate url | cached url | fetch url | text url _ | json url
  | fill url _ _ => some url

/-- The URL whose body the call reads, and whether a remembered one will do. -/
def reading? : FetchStep → Option (String × Bool)
  | text url useCache | fill url useCache _ => some (url, useCache)
  | _ => none

/-- The URL of which a remembered body will do. -/
def lookup? : FetchStep → Option String
  | cached url | text url true | fill url true _ => some url
  | _ => none

/-- Whether remembered bodies are at most looked at. -/
def isPassive : FetchStep → Bool
  | cached _ | fetch _ | json _ => true
  | _ => false

/-- What the call comes to if this is what it reads. -/
def outcome (result : Except FetchError String) : FetchStep → FetchOutcome
  | cached _ => .found result.toOption
  | fill _ _ node =>
    match result with
    | .ok html => .filled (.ok ()) ((MarkupEdit.replace html).apply node)
    | .error e => .filled (.error e) node
  | _ => .read result

end FetchStep

/-- Whether the call failed. -/
def FetchOutcome.isFailure : FetchOutcome → Bool
  | primed (.error _) | answered (.error _) | read (.error _) | decoded (.error _)
  | filled (.error _) _ => true
  | _ => false

/-- One request to the transport. -/
structure Exchange where
  asked : Url
  answer : Except TransportError Response

namespace Exchange

/-- What the answer comes to. -/
def result : Exchange → Except FetchError Response
  | ⟨u, .ok r⟩ => r.accept u
  | ⟨_, .error e⟩ => .error (.noAnswer e)

/-- What reading the answer as text comes to. -/
def text (x : Exchange) : Except FetchError String := x.result.bind Response.text

/-- The body of an answer with success, if it has come to its end. -/
def body? : Exchange → Option String
  | ⟨_, .ok r⟩ => if r.isSuccess then r.body.map Text.decodeUtf8 else none
  | _ => none

end Exchange

/-- The transport with a note of every request. -/
def Transport.noting (send : Transport τ) : Transport (τ × List Exchange) := fun u s =>
  ((send u s.1).1, ((send u s.1).2, s.2 ++ [⟨u, (send u s.1).1⟩]))

/-- The web, with nothing noted yet. -/
def Web.noted (w : Web τ) : Web (τ × List Exchange) := { cache := w.cache, wire := (w.wire, []) }

/-- What is to be seen of a call. -/
structure FetchRecord where
  fetcher : Fetcher
  step : FetchStep
  outcome : FetchOutcome
  exchanges : List Exchange
  before : BodyCache
  after : BodyCache

namespace Fetcher

variable [DomainMapping] (send : Transport τ)

/-- A call. -/
def perform (f : Fetcher) (step : FetchStep) (w : Web τ) : FetchOutcome × Web τ :=
  match step with
  | .prime url body => (.primed (f.prime url body w).1, (f.prime url body w).2)
  | .invalidate url => (.nothing, f.invalidate url w)
  | .clear => (.nothing, w.forgetAll)
  | .cached url => (.found (f.cached? url w), w)
  | .fetch url => (.answered (f.fetch send url w).1, (f.fetch send url w).2)
  | .text url useCache =>
    (.read (f.fetchText send url useCache w).1, (f.fetchText send url useCache w).2)
  | .json url => (.decoded (f.fetchJson send url w).1, (f.fetchJson send url w).2)
  | .fill url useCache node =>
    let (result, node, w) := f.fill send url useCache node w
    (.filled result node, w)

/-- Calls in order, each of a fetcher of its own. -/
def performAll (calls : List (Fetcher × FetchStep)) (w : Web τ) : Web τ :=
  calls.foldl (fun w call => (call.1.perform send call.2 w).2) w

/-- A call, with what is to be seen of it. -/
def observe (f : Fetcher) (step : FetchStep) (w : Web τ) : FetchRecord × Web τ :=
  let (outcome, w') := f.perform send.noting step w.noted
  ({ fetcher := f, step, outcome, exchanges := w'.wire.2, before := w.cache, after := w'.cache },
    { cache := w'.cache, wire := w'.wire.1 })

/-- Calls in order, with what is to be seen of each. -/
def observeAll : List (Fetcher × FetchStep) → Web τ → List FetchRecord × Web τ
  | [], w => ([], w)
  | (f, step) :: calls, w =>
    let rest := observeAll calls (f.observe send step w).2
    ((f.observe send step w).1 :: rest.1, rest.2)

/-- What is asked for to get the body of `k`: what the text of `k` denotes.  This is `k`, or a file
that may be another one if `k` is one on a drive. -/
structure AsksFor (f : Fetcher) (k asked : Url) : Prop where
  resolved : f.resolve k.serialize = .ok asked
  scheme_eq : asked.scheme = k.scheme
  eq : k.isFileOnDrive = false → asked = k

end Fetcher

/-! ## What a call may do -/

/-- What happens to remembered bodies. -/
inductive CacheEvent where
  | stored (k : Url) (body : String)
  | dropped (k : Url)
  | droppedAll

namespace CacheEvent

/-- The bodies after the event. -/
def apply (cache : BodyCache) : CacheEvent → BodyCache
  | stored k body => cache.put k.serialize body
  | dropped k => cache.erase k.serialize
  | droppedAll => []

/-- Whether the event is about the body of a URL. -/
def Concerns (k : Url) : CacheEvent → Prop
  | stored k' _ | dropped k' => k' = k
  | droppedAll => True

end CacheEvent

/-- A body was stored for the URL, and nothing has happened to it since. -/
def LastStored (events : List CacheEvent) (k : Url) (body : String) : Prop :=
  ∃ earlier later, events = earlier ++ .stored k body :: later ∧ ∀ e ∈ later, ¬ e.Concerns k

namespace FetchRecord

variable [DomainMapping] (r : FetchRecord)

/-- What the call did to remembered bodies: a body is stored by hand, or by an answer with success
to a call that reads one up to its end. -/
def event? : Option CacheEvent :=
  match r.step with
  | .prime url body => (r.fetcher.resolve url).toOption.map (.stored · body)
  | .invalidate url => (r.fetcher.resolve url).toOption.map .dropped
  | .clear => some .droppedAll
  | step => do
    let (url, _) ← step.reading?
    let k ← (r.fetcher.resolve url).toOption
    let exchange ← r.exchanges.head?
    exchange.body?.map (.stored k)

/-- What a call may do. -/
structure Coherent : Prop where
  /-- A remembered body will do, and nothing is asked for. -/
  hit : ∀ url k body, r.step.lookup? = some url → r.fetcher.resolve url = .ok k →
    r.before.find? k.serialize = some body →
    r.outcome = r.step.outcome (.ok body) ∧ r.exchanges = [] ∧ r.after = r.before
  /-- Any other reading of a body asks once, if the URL is legible. -/
  miss : ∀ url useCache k, r.step.reading? = some (url, useCache) → r.fetcher.resolve url = .ok k →
    (useCache = true → r.before.find? k.serialize = none) → k.isLegible = true →
    ∃ exchange, r.exchanges = [exchange] ∧ r.fetcher.AsksFor k exchange.asked ∧
      r.outcome = r.step.outcome exchange.text
  /-- If it is not, the reading fails, and nothing is asked for. -/
  lost : ∀ url useCache k, r.step.reading? = some (url, useCache) → r.fetcher.resolve url = .ok k →
    (useCache = true → r.before.find? k.serialize = none) → k.isLegible = false →
    r.exchanges = [] ∧ r.outcome = r.step.outcome (.error (.invalidUrl k.serialize .invalidDomain))
  /-- A failure changes nothing. -/
  failed : r.outcome.isFailure = true → r.after = r.before
  /-- A text that denotes no URL changes nothing, and nothing is asked for. -/
  unresolved : ∀ url e, r.step.url? = some url → r.fetcher.resolve url = .error e →
    r.exchanges = [] ∧ r.after = r.before
  /-- Neither do calls that read no body, or only look for one. -/
  passive : r.step.isPassive = true → r.after = r.before

end FetchRecord

/-! ## Answers -/

/-- An answer is accepted as it is, and for its status alone. -/
theorem Response.accept_eq_ok_iff (u : Url) (r r' : Response) :
    r.accept u = .ok r' ↔ r.isSuccess = true ∧ r' = r := by
  unfold accept
  by_cases hnone : r.status = 404
  · simp [hnone, isSuccess]
  · rw [if_neg hnone]
    split <;> simp [*, eq_comm]

theorem Response.toOption_text (r : Response) :
    r.text.toOption = r.body.map Text.decodeUtf8 := by
  cases hbody : r.body <;> simp [text, bytes, hbody, Except.map, Except.toOption]

/-- Only an answer with success has a body that counts. -/
theorem Exchange.toOption_text (x : Exchange) : x.text.toOption = x.body? := by
  obtain ⟨u, e | r⟩ := x
  · rfl
  · simp only [text, result, body?]
    cases hresult : r.accept u with
    | error e =>
      rw [if_neg fun hsuccess =>
        by cases hresult.symm.trans ((r.accept_eq_ok_iff u r).2 ⟨hsuccess, rfl⟩)]
      rfl
    | ok r' =>
      obtain ⟨hsuccess, rfl⟩ := (r.accept_eq_ok_iff u r').1 hresult
      rw [if_pos hsuccess]
      exact r'.toOption_text

theorem Transport.get_eq (send : Transport τ) (u : Url) (w : Web τ) :
    send.get u w = (Exchange.result ⟨u, (send u w.wire).1⟩, { w with wire := (send u w.wire).2 }) := by
  unfold get
  split <;> simp [*, Exchange.result]

/-! ## One call -/

namespace Fetcher

section
variable [DomainMapping] (send : Transport τ) {f : Fetcher} {url : String} {k : Url}

theorem isRead_of_resolve (hbase : ∀ b ∈ f.base, b.IsRead) (h : f.resolve url = .ok k) :
    k.IsRead := by
  unfold resolve at h
  split at h
  · rename_i hread
    obtain rfl := Except.ok.inj h
    exact .read hbase hread
  · cases h

/-- The text of a URL that was read denotes what is asked for, or nothing at all. -/
theorem resolve_serialize [LawfulDomainMapping] (f : Fetcher) (h : k.IsRead) :
    (k.isLegible = true ∧ ∃ asked, f.AsksFor k asked) ∨
      k.isLegible = false ∧ f.resolve k.serialize = .error (.invalidUrl k.serialize .invalidDomain) := by
  have hread := h.readAgain f.base
  generalize hresult : Url.parseWith f.base k.serialize = result at hread
  cases hread with
  | back hlegible hscheme hback =>
    exact Or.inl ⟨hlegible, _, by simp only [resolve, hresult], hscheme, hback⟩
  | lost hlegible => exact Or.inr ⟨hlegible, by simp only [resolve, hresult]⟩

theorem fetch_ok (h : f.resolve url = .ok k) (w : Web τ) :
    f.fetch send url w =
      (Exchange.result ⟨k, (send k w.wire).1⟩, { w with wire := (send k w.wire).2 }) := by
  simp only [fetch, h, Transport.get_eq]

theorem fetch_error {e : FetchError} (h : f.resolve url = .error e) (w : Web τ) :
    f.fetch send url w = (.error e, w) := by
  simp only [fetch, h]

/-- An answer by itself is not remembered. -/
theorem cache_fetch (f : Fetcher) (url : String) (w : Web τ) :
    (f.fetch send url w).2.cache = w.cache := by
  unfold fetch
  split
  · rw [Transport.get_eq]
  · rfl

theorem fetchJson_eq (f : Fetcher) (url : String) (w : Web τ) :
    f.fetchJson send url w =
      ((f.fetch send url w).1.bind Response.json, (f.fetch send url w).2) := by
  unfold fetchJson
  split <;> simp [*, Except.bind]

theorem fetchText_error {e : FetchError} (h : f.resolve url = .error e) (useCache : Bool)
    (w : Web τ) : f.fetchText send url useCache w = (.error e, w) := by
  simp only [fetchText, h]

omit [DomainMapping] in
theorem remembered_eq_none {useCache : Bool} {w : Web τ}
    (hmiss : useCache = true → w.cache.find? k.serialize = none) :
    (if useCache then w.remembered? k else none) = none := by
  split
  · exact hmiss ‹_›
  · rfl

theorem fetchText_hit {body : String} (h : f.resolve url = .ok k) {w : Web τ}
    (hfound : w.cache.find? k.serialize = some body) :
    f.fetchText send url true w = (.ok body, w) := by
  simp only [fetchText, h, Web.remembered?, if_true, hfound]

theorem fetchText_lost {e : FetchError} (h : f.resolve url = .ok k) {useCache : Bool} {w : Web τ}
    (hmiss : useCache = true → w.cache.find? k.serialize = none)
    (hlost : f.resolve k.serialize = .error e) : f.fetchText send url useCache w = (.error e, w) := by
  simp only [fetchText, h, remembered_eq_none hmiss, fetch_error send hlost]

theorem fetchText_miss (h : f.resolve url = .ok k) {useCache : Bool} {w : Web τ}
    (hmiss : useCache = true → w.cache.find? k.serialize = none) {asked : Url}
    (hasked : f.resolve k.serialize = .ok asked) :
    let exchange : Exchange := ⟨asked, (send asked w.wire).1⟩
    f.fetchText send url useCache w = (exchange.text,
      ⟨exchange.body?.elim w.cache (w.cache.put k.serialize ·), (send asked w.wire).2⟩) := by
  intro exchange
  have hbody := exchange.toOption_text
  simp only [fetchText, h, remembered_eq_none hmiss, fetch_ok send hasked]
  rw [← hbody, Exchange.text]
  cases exchange.result with
  | error e => rfl
  | ok r => cases hread : r.text <;> simp [hread, Except.bind, Except.toOption, Web.remember]

/-- Where a reading ends: at a text that is no URL, at a remembered body, at a request, or at the text
of the URL, which is no URL any more. -/
inductive Lookup (f : Fetcher) (cache : BodyCache) (url : String) (useCache : Bool) : Prop where
  | unresolved (e : FetchError) : f.resolve url = .error e → Lookup f cache url useCache
  | hit (k : Url) (body : String) : f.resolve url = .ok k → useCache = true →
      cache.find? k.serialize = some body → Lookup f cache url useCache
  | miss (k asked : Url) : f.resolve url = .ok k →
      (useCache = true → cache.find? k.serialize = none) → k.isLegible = true → f.AsksFor k asked →
      Lookup f cache url useCache
  | lost (k : Url) : f.resolve url = .ok k →
      (useCache = true → cache.find? k.serialize = none) → k.isLegible = false →
      f.resolve k.serialize = .error (.invalidUrl k.serialize .invalidDomain) →
      Lookup f cache url useCache

theorem lookup [LawfulDomainMapping] (hbase : ∀ b ∈ f.base, b.IsRead) (cache : BodyCache)
    (url : String) (useCache : Bool) : Lookup f cache url useCache := by
  cases hresolve : f.resolve url with
  | error e => exact .unresolved e hresolve
  | ok k =>
    by_cases hmiss : useCache = true → cache.find? k.serialize = none
    · rcases resolve_serialize f (isRead_of_resolve hbase hresolve) with
        ⟨hlegible, asked, hasked⟩ | ⟨hlegible, hlost⟩
      · exact .miss k asked hresolve hmiss hlegible hasked
      · exact .lost k hresolve hmiss hlegible hlost
    · obtain ⟨huse, hsome⟩ := Classical.not_imp.1 hmiss
      obtain ⟨body, hfound⟩ := Option.ne_none_iff_exists'.1 hsome
      exact .hit k body hresolve huse hfound

theorem perform_reading {step : FetchStep} {useCache : Bool}
    (hstep : step.reading? = some (url, useCache)) (w : Web τ) :
    f.perform send step w =
      (step.outcome (f.fetchText send url useCache w).1, (f.fetchText send url useCache w).2) := by
  cases step with
  | text url' useCache' =>
    obtain ⟨rfl, rfl⟩ := Prod.mk.inj (Option.some.inj hstep)
    rfl
  | fill url' useCache' node =>
    obtain ⟨rfl, rfl⟩ := Prod.mk.inj (Option.some.inj hstep)
    simp only [perform, fill, FetchStep.outcome]
    rcases f.fetchText send url' useCache' w with ⟨e | html, w'⟩ <;> rfl
  | _ => cases hstep

end

end Fetcher

namespace FetchStep

variable {step : FetchStep} {url : String} {useCache : Bool}

theorem of_reading? (h : step.reading? = some (url, useCache)) :
    step.url? = some url ∧ step.lookup? = (if useCache then some url else none) ∧
      step.isPassive = false := by
  cases step with
  | text url' useCache' | fill url' useCache' node =>
    obtain ⟨rfl, rfl⟩ := Prod.mk.inj (Option.some.inj h)
    cases useCache' <;> exact ⟨rfl, rfl, rfl⟩
  | _ => cases h

theorem exists_of_isFailure {result : Except FetchError String}
    (h : (step.outcome result).isFailure = true) : ∃ e, result = .error e := by
  cases result with
  | error e => exact ⟨e, rfl⟩
  | ok body => cases step <;> cases h

end FetchStep

theorem FetchRecord.event?_reading [DomainMapping] {r : FetchRecord} {url : String} {useCache : Bool}
    (h : r.step.reading? = some (url, useCache)) :
    r.event? = (r.fetcher.resolve url).toOption.bind fun k =>
      r.exchanges.head?.bind fun exchange => exchange.body?.map (.stored k) := by
  obtain ⟨f, step, outcome, exchanges, before, after⟩ := r
  cases step with
  | text url' useCache' | fill url' useCache' node =>
    obtain ⟨rfl, rfl⟩ := Prod.mk.inj (Option.some.inj h)
    rfl
  | _ => cases h

section
variable [DomainMapping] {r : FetchRecord} {url : String} {useCache : Bool}
  (hstep : r.step.reading? = some (url, useCache))

include hstep

/-- What a call that reads a body may do if its text denotes no URL. -/
theorem FetchRecord.coherent_of_unresolved {e : FetchError} (he : r.fetcher.resolve url = .error e)
    (hsilent : r.exchanges = []) (hkept : r.after = r.before) : r.Coherent := by
  obtain ⟨hurl, hlookup, -⟩ := FetchStep.of_reading? hstep
  have hno {url' : String} {k : Url} (hurl' : r.step.url? = some url')
      (hk : r.fetcher.resolve url' = .ok k) : False := by
    obtain rfl := Option.some.inj (hurl.symm.trans hurl')
    cases he.symm.trans hk
  refine ⟨fun url' k body hl hk => ?_, fun url' useCache' k hr hk => ?_,
    fun url' useCache' k hr hk => ?_, fun _ => hkept, fun _ _ _ _ => ⟨hsilent, hkept⟩,
    fun _ => hkept⟩
  · rw [hlookup] at hl
    split at hl
    · exact (hno (hurl.trans hl) hk).elim
    · cases hl
  · exact (hno (FetchStep.of_reading? hr).1 hk).elim
  · exact (hno (FetchStep.of_reading? hr).1 hk).elim

/-- What it may do otherwise, told of the one URL that it resolves to. -/
theorem FetchRecord.coherent_of_reading {k : Url} (hresolve : r.fetcher.resolve url = .ok k)
    (hit : ∀ body, useCache = true → r.before.find? k.serialize = some body →
      r.outcome = r.step.outcome (.ok body) ∧ r.exchanges = [] ∧ r.after = r.before)
    (miss : (useCache = true → r.before.find? k.serialize = none) → k.isLegible = true →
      ∃ exchange, r.exchanges = [exchange] ∧ r.fetcher.AsksFor k exchange.asked ∧
        r.outcome = r.step.outcome exchange.text)
    (lost : (useCache = true → r.before.find? k.serialize = none) → k.isLegible = false →
      r.exchanges = [] ∧
        r.outcome = r.step.outcome (.error (.invalidUrl k.serialize .invalidDomain)))
    (failed : r.outcome.isFailure = true → r.after = r.before) : r.Coherent := by
  obtain ⟨hurl, hlookup, hactive⟩ := FetchStep.of_reading? hstep
  refine ⟨fun url' k' body hl hk hb => ?_, fun url' useCache' k' hr hk => ?_,
    fun url' useCache' k' hr hk => ?_, failed, fun url' e hu he => ?_, fun hpassive => ?_⟩
  · rw [hlookup] at hl
    split at hl
    · obtain rfl := Option.some.inj hl
      obtain rfl := Except.ok.inj (hresolve.symm.trans hk)
      exact hit body ‹_› hb
    · cases hl
  · obtain ⟨rfl, rfl⟩ := Prod.mk.inj (Option.some.inj (hstep.symm.trans hr))
    obtain rfl := Except.ok.inj (hresolve.symm.trans hk)
    exact miss
  · obtain ⟨rfl, rfl⟩ := Prod.mk.inj (Option.some.inj (hstep.symm.trans hr))
    obtain rfl := Except.ok.inj (hresolve.symm.trans hk)
    exact lost
  · obtain rfl := Option.some.inj (hurl.symm.trans hu)
    cases hresolve.symm.trans he
  · cases hactive.symm.trans hpassive

end

/-- What a call that looks for no body may do. -/
theorem FetchRecord.coherent_of_not_reading [DomainMapping] {r : FetchRecord}
    (hlookup : r.step.lookup? = none) (hreading : r.step.reading? = none)
    (failed : r.outcome.isFailure = true → r.after = r.before)
    (unresolved : ∀ url e, r.step.url? = some url → r.fetcher.resolve url = .error e →
      r.exchanges = [] ∧ r.after = r.before)
    (passive : r.step.isPassive = true → r.after = r.before) : r.Coherent := by
  refine ⟨fun url k body h => ?_, fun url useCache k h => ?_, fun url useCache k h => ?_, failed,
    unresolved, passive⟩
  · cases hlookup.symm.trans h
  · cases hreading.symm.trans h
  · cases hreading.symm.trans h

namespace Fetcher

/-! ## What is to be seen of a reading -/

section
variable [DomainMapping] (send : Transport τ) {f : Fetcher} {step : FetchStep} {url : String}
  {useCache : Bool} {k : Url} {w : Web τ} (hstep : step.reading? = some (url, useCache))

include hstep

theorem observe_unresolved {e : FetchError} (h : f.resolve url = .error e) :
    f.observe send step w = (⟨f, step, step.outcome (.error e), [], w.cache, w.cache⟩, w) := by
  simp only [observe, perform_reading send.noting hstep, fetchText_error send.noting h]
  rfl

theorem observe_hit {body : String} (h : f.resolve url = .ok k) (huse : useCache = true)
    (hfound : w.cache.find? k.serialize = some body) :
    f.observe send step w = (⟨f, step, step.outcome (.ok body), [], w.cache, w.cache⟩, w) := by
  subst huse
  simp only [observe, perform_reading send.noting hstep,
    fetchText_hit send.noting h (w := w.noted) hfound]
  rfl

theorem observe_miss (h : f.resolve url = .ok k)
    (hmiss : useCache = true → w.cache.find? k.serialize = none) {asked : Url}
    (hasked : f.resolve k.serialize = .ok asked) :
    let exchange : Exchange := ⟨asked, (send asked w.wire).1⟩
    let after := exchange.body?.elim w.cache (w.cache.put k.serialize ·)
    f.observe send step w =
      (⟨f, step, step.outcome exchange.text, [exchange], w.cache, after⟩,
        ⟨after, (send asked w.wire).2⟩) := by
  simp only [observe, perform_reading send.noting hstep,
    fetchText_miss send.noting h (w := w.noted) hmiss hasked]
  rfl

theorem observe_lost {e : FetchError} (h : f.resolve url = .ok k)
    (hmiss : useCache = true → w.cache.find? k.serialize = none)
    (hlost : f.resolve k.serialize = .error e) :
    f.observe send step w = (⟨f, step, step.outcome (.error e), [], w.cache, w.cache⟩, w) := by
  simp only [observe, perform_reading send.noting hstep,
    fetchText_lost send.noting h (w := w.noted) hmiss hlost]
  rfl

variable [LawfulDomainMapping] (w) (hbase : ∀ b ∈ f.base, b.IsRead)

include hbase

theorem coherent_reading : (f.observe send step w).1.Coherent := by
  rcases lookup hbase w.cache url useCache with
    ⟨e, hresolve⟩ | ⟨k, body, hresolve, huse, hfound⟩ |
      ⟨k, asked, hresolve, hmiss, hlegible, hasked⟩ | ⟨k, hresolve, hmiss, hlegible, hlost⟩
  · rw [observe_unresolved send hstep hresolve]
    exact FetchRecord.coherent_of_unresolved hstep hresolve rfl rfl
  · rw [observe_hit send hstep hresolve huse hfound]
    refine FetchRecord.coherent_of_reading hstep hresolve (fun body' _ hb => ?_) (fun hnone => ?_)
      (fun hnone => ?_) fun _ => rfl
    · obtain rfl := Option.some.inj (hfound.symm.trans hb)
      exact ⟨rfl, rfl, rfl⟩
    · cases hfound.symm.trans (hnone huse)
    · cases hfound.symm.trans (hnone huse)
  · rw [observe_miss send hstep hresolve hmiss hasked.resolved]
    refine FetchRecord.coherent_of_reading hstep hresolve (fun body huse hb => ?_)
      (fun _ _ => ⟨_, rfl, hasked, rfl⟩) (fun _ hno => ?_) fun hfailed => ?_
    · cases (hmiss huse).symm.trans hb
    · cases hlegible.symm.trans hno
    · obtain ⟨e, he⟩ := FetchStep.exists_of_isFailure hfailed
      simp only [← Exchange.toOption_text, he, Except.toOption, Option.elim_none]
  · rw [observe_lost send hstep hresolve hmiss hlost]
    refine FetchRecord.coherent_of_reading hstep hresolve (fun body huse hb => ?_)
      (fun _ hread => ?_) (fun _ _ => ⟨rfl, rfl⟩) fun _ => rfl
    · cases (hmiss huse).symm.trans hb
    · cases hlegible.symm.trans hread

/-- A call that reads a body stores it if there is one in the answer. -/
theorem after_reading :
    (f.observe send step w).1.after =
      (f.observe send step w).1.event?.elim w.cache (CacheEvent.apply w.cache) := by
  rcases lookup hbase w.cache url useCache with
    ⟨e, hresolve⟩ | ⟨k, body, hresolve, huse, hfound⟩ |
      ⟨k, asked, hresolve, hmiss, -, hasked⟩ | ⟨k, hresolve, hmiss, -, hlost⟩
  · rw [observe_unresolved send hstep hresolve, FetchRecord.event?_reading hstep, hresolve]
    rfl
  · rw [observe_hit send hstep hresolve huse hfound, FetchRecord.event?_reading hstep, hresolve]
    rfl
  · rw [observe_miss send hstep hresolve hmiss hasked.resolved, FetchRecord.event?_reading hstep,
      hresolve]
    cases hbody : Exchange.body? ⟨asked, (send asked w.wire).1⟩ with
    | none => simp [hbody, Except.toOption]
    | some body => simp [hbody, Except.toOption, CacheEvent.apply]
  · rw [observe_lost send hstep hresolve hmiss hlost, FetchRecord.event?_reading hstep, hresolve]
    rfl

end

/-! ## All calls -/

section
variable [DomainMapping] [LawfulDomainMapping] (send : Transport τ) {f : Fetcher}
  (hbase : ∀ b ∈ f.base, b.IsRead) (step : FetchStep) (w : Web τ)

include hbase

theorem coherent_observe : (f.observe send step w).1.Coherent := by
  cases step with
  | text url useCache | fill url useCache node => exact coherent_reading send w rfl hbase
  | clear => exact FetchRecord.coherent_of_not_reading rfl rfl nofun nofun nofun
  | prime url body =>
    refine FetchRecord.coherent_of_not_reading rfl rfl (fun hfailed => ?_) (fun url' e hu he => ?_)
      nofun
    · cases hresolve : f.resolve url with
      | error e => simp only [observe, perform, prime, hresolve, Web.noted]
      | ok k =>
        simp only [observe, perform, prime, hresolve] at hfailed
        cases hfailed
    · obtain rfl := Option.some.inj hu
      simp only [observe, perform, prime, show f.resolve url = .error e from he]
      exact ⟨rfl, rfl⟩
  | invalidate url =>
    refine FetchRecord.coherent_of_not_reading rfl rfl nofun (fun url' e hu he => ?_) nofun
    obtain rfl := Option.some.inj hu
    simp only [observe, perform, invalidate, show f.resolve url = .error e from he]
    exact ⟨rfl, rfl⟩
  | cached url =>
    refine ⟨fun url' k body hl hk hb => ⟨?_, rfl, rfl⟩, nofun, nofun, nofun,
      fun _ _ _ _ => ⟨rfl, rfl⟩, fun _ => rfl⟩
    obtain rfl := Option.some.inj hl
    show FetchOutcome.found (f.cached? url w.noted) = .found (some body)
    simp only [cached?, show f.resolve url = .ok k from hk]
    exact congrArg _ hb
  | fetch url | json url =>
    have hkept : (f.fetch send.noting url w.noted).2.cache = w.cache :=
      cache_fetch send.noting f url w.noted
    refine FetchRecord.coherent_of_not_reading rfl rfl (fun _ => ?_) (fun url' e hu he => ?_)
      (fun _ => ?_)
    · simpa only [observe, perform, fetchJson_eq] using hkept
    · obtain rfl := Option.some.inj hu
      simp only [observe, perform, fetchJson_eq,
        fetch_error send.noting (show f.resolve url = .error e from he)]
      exact ⟨rfl, rfl⟩
    · simpa only [observe, perform, fetchJson_eq] using hkept

/-- What a call did to the remembered bodies is its event. -/
theorem after_observe :
    (f.observe send step w).1.after =
      (f.observe send step w).1.event?.elim w.cache (CacheEvent.apply w.cache) := by
  cases step with
  | text url useCache | fill url useCache node => exact after_reading send w rfl hbase
  | clear => rfl
  | prime url body =>
    cases hresolve : f.resolve url <;>
      simp [observe, perform, prime, FetchRecord.event?, hresolve, Except.toOption,
        CacheEvent.apply, Web.remember, Web.noted]
  | invalidate url =>
    cases hresolve : f.resolve url <;>
      simp [observe, perform, invalidate, FetchRecord.event?, hresolve, Except.toOption,
        CacheEvent.apply, Web.forget, Web.noted]
  | cached url => rfl
  | fetch url | json url => exact (coherent_observe send hbase _ w).passive rfl

/-- To observe a call is not to change it. -/
theorem observe_eq_perform :
    (f.observe send step w).1.outcome = (f.perform send step w).1 ∧
      (f.observe send step w).2 = (f.perform send step w).2 := by
  have hreading {step : FetchStep} {url : String} {useCache : Bool}
      (hstep : step.reading? = some (url, useCache)) :
      (f.observe send step w).1.outcome = (f.perform send step w).1 ∧
        (f.observe send step w).2 = (f.perform send step w).2 := by
    rw [perform_reading send hstep]
    rcases lookup hbase w.cache url useCache with
      ⟨e, hresolve⟩ | ⟨k, body, hresolve, huse, hfound⟩ |
        ⟨k, asked, hresolve, hmiss, -, hasked⟩ | ⟨k, hresolve, hmiss, -, hlost⟩
    · rw [observe_unresolved send hstep hresolve, fetchText_error send hresolve]
      exact ⟨rfl, rfl⟩
    · rw [observe_hit send hstep hresolve huse hfound]
      subst huse
      rw [fetchText_hit send hresolve hfound]
      exact ⟨rfl, rfl⟩
    · rw [observe_miss send hstep hresolve hmiss hasked.resolved,
        fetchText_miss send hresolve hmiss hasked.resolved]
      exact ⟨rfl, rfl⟩
    · rw [observe_lost send hstep hresolve hmiss hlost, fetchText_lost send hresolve hmiss hlost]
      exact ⟨rfl, rfl⟩
  cases step with
  | text url useCache | fill url useCache node => exact hreading rfl
  | clear | cached url => exact ⟨rfl, rfl⟩
  | prime url body =>
    cases hresolve : f.resolve url <;>
      simp [observe, perform, prime, hresolve, Web.remember, Web.noted]
  | invalidate url =>
    cases hresolve : f.resolve url <;>
      simp [observe, perform, invalidate, hresolve, Web.forget, Web.noted]
  | fetch url | json url =>
    cases hresolve : f.resolve url with
    | error e =>
      simp only [observe, perform, fetchJson_eq, fetch_error _ hresolve]
      exact ⟨trivial, rfl⟩
    | ok k =>
      simp only [observe, perform, fetchJson_eq, fetch_ok _ hresolve]
      exact ⟨rfl, rfl⟩

end

end Fetcher

/-! ## What is remembered after all -/

namespace CacheEvent

/-- The URL of the event, if there is one, was read. -/
def Read [DomainMapping] : CacheEvent → Prop
  | stored k _ | dropped k => k.IsRead
  | droppedAll => True

variable {e : CacheEvent} {k : Url}

/-- Events that are not about a URL leave its body. -/
theorem find?_apply_of_not_concerns [DomainMapping] [LawfulDomainMapping] (he : e.Read)
    (hk : k.IsRead) (h : ¬ e.Concerns k) (cache : BodyCache) :
    (e.apply cache).find? k.serialize = cache.find? k.serialize := by
  have hne {k' : Url} (hk' : k'.IsRead) (hother : k' ≠ k) : k'.serialize ≠ k.serialize :=
    fun heq => hother (hk'.settled.eq_of_serialize_eq hk.settled heq)
  cases e with
  | stored k' body => exact (Keyed.find?_put ..).trans (if_neg (hne he h))
  | dropped k' => exact (Keyed.find?_erase ..).trans (if_neg (hne he h))
  | droppedAll => exact absurd trivial h

/-- Those that are about it store it or drop it. -/
theorem find?_apply_of_concerns (h : e.Concerns k) (cache : BodyCache) (body : String) :
    (e.apply cache).find? k.serialize = some body ↔ e = .stored k body := by
  cases e with
  | stored k' body' =>
    obtain rfl : k' = k := h
    rw [apply, Keyed.find?_put, if_pos rfl]
    simp
  | dropped k' =>
    obtain rfl : k' = k := h
    rw [apply, Keyed.find?_erase, if_pos rfl]
    simp
  | droppedAll => simp [apply, Keyed.find?]

end CacheEvent

theorem lastStored_concat {events : List CacheEvent} {e : CacheEvent} {k : Url} {body : String} :
    LastStored (events ++ [e]) k body ↔
      e = .stored k body ∨ ¬ e.Concerns k ∧ LastStored events k body := by
  constructor
  · rintro ⟨earlier, later, heq, hlater⟩
    rcases List.eq_nil_or_concat later with rfl | ⟨later, last, rfl⟩
    · exact Or.inl (List.append_singleton_inj.1 heq).2
    · rw [List.concat_eq_append, ← List.cons_append, ← List.append_assoc,
        List.append_singleton_inj] at heq
      obtain ⟨rfl, rfl⟩ := heq
      exact Or.inr ⟨hlater e (by simp), earlier, later, rfl, fun e he => hlater e (by simp [he])⟩
  · rintro (rfl | ⟨hno, earlier, later, rfl, hlater⟩)
    · exact ⟨events, [], rfl, by simp⟩
    · refine ⟨earlier, later ++ [e], by simp, fun e' he' => ?_⟩
      rcases List.mem_append.1 he' with he' | he'
      · exact hlater e' he'
      · rwa [List.mem_singleton.1 he']

/-- After any events the body of a URL is the one that was stored last. -/
theorem find?_replay [DomainMapping] [LawfulDomainMapping] {events : List CacheEvent}
    (hevents : ∀ e ∈ events, e.Read) {k : Url} (hk : k.IsRead) (body : String) :
    Keyed.find? (events.foldl CacheEvent.apply []) k.serialize = some body ↔
      LastStored events k body := by
  induction events using List.reverseRecOn with
  | nil => simp [LastStored, Keyed.find?]
  | append_singleton events e ih =>
    have hread : e.Read := hevents e (by simp)
    rw [List.foldl_append, List.foldl_cons, List.foldl_nil, lastStored_concat]
    by_cases h : e.Concerns k
    · rw [CacheEvent.find?_apply_of_concerns h]
      simp [h]
    · rw [CacheEvent.find?_apply_of_not_concerns hread hk h,
        ih fun e he => hevents e (by simp [he])]
      constructor
      · exact fun hlast => Or.inr ⟨h, hlast⟩
      · rintro (rfl | ⟨-, hlast⟩)
        · exact absurd rfl h
        · exact hlast

namespace Fetcher

section
variable [DomainMapping] [LawfulDomainMapping]

omit [LawfulDomainMapping] in
/-- The URL of an event was read by the fetcher. -/
theorem read_of_event? (send : Transport τ) {f : Fetcher} (hbase : ∀ b ∈ f.base, b.IsRead)
    (step : FetchStep) (w : Web τ) :
    ∀ e ∈ (f.observe send step w).1.event?, e.Read := by
  intro e he
  have hread {url : String} {k : Url} (h : k ∈ (f.resolve url).toOption) : k.IsRead := by
    refine isRead_of_resolve (k := k) hbase (?_ : f.resolve url = .ok k)
    cases hresolve : f.resolve url with
    | error e => simp [hresolve, Except.toOption] at h
    | ok k' => simpa [hresolve, Except.toOption] using h
  have hreading {url : String} {useCache : Bool} (hstep : step.reading? = some (url, useCache)) :
      e.Read := by
    rw [FetchRecord.event?_reading (r := (f.observe send step w).1) hstep] at he
    obtain ⟨k, hk, he⟩ := Option.bind_eq_some_iff.1 he
    obtain ⟨exchange, -, he⟩ := Option.bind_eq_some_iff.1 he
    obtain ⟨body, -, rfl⟩ := Option.map_eq_some_iff.1 he
    exact hread hk
  cases step with
  | text url useCache | fill url useCache node => exact hreading rfl
  | prime url body | invalidate url =>
    obtain ⟨k, hk, rfl⟩ := Option.map_eq_some_iff.1 he
    exact hread hk
  | clear =>
    obtain rfl := Option.some.inj he
    trivial
  | cached url | fetch url | json url => cases he

section
variable (send : Transport τ) {calls : List (Fetcher × FetchStep)}
  (hbase : ∀ call ∈ calls, ∀ b ∈ call.1.base, b.IsRead) (w : Web τ)

include hbase

/-- Calls in order do what their events say, each is coherent, and to observe them is not to change
them. -/
theorem observeAll_spec :
    (observeAll send calls w).2 = performAll send calls w ∧
      (performAll send calls w).cache =
        ((observeAll send calls w).1.filterMap FetchRecord.event?).foldl CacheEvent.apply w.cache ∧
      (∀ r ∈ (observeAll send calls w).1, r.Coherent ∧ ∀ e ∈ r.event?, e.Read) := by
  induction calls generalizing w with
  | nil => exact ⟨rfl, rfl, by simp [observeAll]⟩
  | cons call calls ih =>
    obtain ⟨f, step⟩ := call
    have hf := hbase (f, step) List.mem_cons_self
    obtain ⟨hweb, hcache, hall⟩ := ih (fun call hcall => hbase call (List.mem_cons_of_mem _ hcall))
      (f.observe send step w).2
    have hafter : (f.observe send step w).2.cache =
        (f.observe send step w).1.event?.elim w.cache (CacheEvent.apply w.cache) :=
      after_observe send hf step w
    have hrest : performAll send ((f, step) :: calls) w =
        performAll send calls (f.observe send step w).2 := by
      rw [(observe_eq_perform send hf step w).2]
      rfl
    refine ⟨?_, ?_, ?_⟩
    · rw [hrest, ← hweb]
      rfl
    · rw [hrest, hcache, hafter, observeAll]
      cases hevent : (f.observe send step w).1.event? with
      | none => rw [List.filterMap_cons_none hevent]; rfl
      | some e => rw [List.filterMap_cons_some hevent]; rfl
    · intro r hr
      rcases List.mem_cons.1 hr with rfl | hr
      · exact ⟨coherent_observe send hf step w, read_of_event? send hf step w⟩
      · exact hall r hr

end

/-- Two fetchers mean the same body exactly when their texts denote the same URL. -/
theorem cached?_prime {f g : Fetcher} (hf : ∀ b ∈ f.base, b.IsRead) (hg : ∀ b ∈ g.base, b.IsRead)
    (url url' : String) (w : Web τ) :
    (∀ body, g.cached? url' (f.prime url body w).2 = some body) ↔
      ∃ k, f.resolve url = .ok k ∧ g.resolve url' = .ok k := by
  cases hk : f.resolve url with
  | error e =>
    -- nothing was stored, and one body cannot be all of them
    simp only [prime, hk]
    constructor
    · intro h
      have hsame := (h "").symm.trans (h "/")
      simp at hsame
    · rintro ⟨k, h, -⟩
      cases h
  | ok k =>
    simp only [prime, hk]
    cases hk' : g.resolve url' with
    | error e => simp [cached?, hk']
    | ok k' =>
      simp only [cached?, hk', Web.remembered?, Web.remember, Keyed.find?_put]
      constructor
      · intro h
        by_cases heq : k.serialize = k'.serialize
        · obtain rfl := (isRead_of_resolve hf hk).settled.eq_of_serialize_eq
            (isRead_of_resolve hg hk').settled heq
          exact ⟨k, rfl, rfl⟩
        · simp only [if_neg heq] at h
          have hsame := (h "").symm.trans (h "/")
          simp at hsame
      · rintro ⟨l, h, h'⟩ body
        obtain rfl := Except.ok.inj h
        obtain rfl := Except.ok.inj h'
        exact if_pos rfl

/-- Whatever the transport does and whatever fetchers are called, in any order: a body is remembered
exactly if it was the last to be stored, each call does what it may, and two fetchers share the body
of a URL exactly if both name it. -/
theorem observeAll_coherent (send : Transport τ) (wire : τ) (calls : List (Fetcher × FetchStep))
    (hbase : ∀ call ∈ calls, ∀ b ∈ call.1.base, b.IsRead) :
    let records := (observeAll send calls { wire }).1
    let web := (observeAll send calls { wire }).2
    web = performAll send calls { wire } ∧
      (∀ k body, k.IsRead → (web.remembered? k = some body ↔
        LastStored (records.filterMap FetchRecord.event?) k body)) ∧
      (∀ r ∈ records, r.Coherent) ∧
      ∀ f ∈ calls.map Prod.fst, ∀ g ∈ calls.map Prod.fst, ∀ url url',
        (∀ body, g.cached? url' (f.prime url body web).2 = some body) ↔
          ∃ k, f.resolve url = .ok k ∧ g.resolve url' = .ok k := by
  intro records web
  obtain ⟨hweb, hcache, hall⟩ := observeAll_spec send hbase { wire }
  have hread : ∀ e ∈ records.filterMap FetchRecord.event?, e.Read := by
    intro e he
    obtain ⟨r, hr, he⟩ := List.mem_filterMap.1 he
    exact (hall r hr).2 e he
  have hfetcher {f : Fetcher} (hf : f ∈ calls.map Prod.fst) : ∀ b ∈ f.base, b.IsRead := by
    obtain ⟨call, hcall, rfl⟩ := List.mem_map.1 hf
    exact hbase call hcall
  refine ⟨hweb, fun k body hk => ?_, fun r hr => (hall r hr).1, fun f hf g hg url url' => ?_⟩
  · rw [Web.remembered?, show web.cache = _ from (congrArg Web.cache hweb).trans hcache]
    exact find?_replay hread hk body
  · exact cached?_prime (hfetcher hf) (hfetcher hg) url url' web

end

end Fetcher

/-! ## A mirror -/

section

/-- The name of the mirror, which may be typed with an ideographic full stop. -/
@[reducible] def mirrorNames : DomainMapping := .ofNames [("ex。com", "ex.com")]

attribute [local instance] mirrorNames

theorem lawful_mirrorNames : LawfulDomainMapping := by
  refine DomainMapping.lawful_ofNames fun e he => ?_
  obtain rfl := List.mem_singleton.1 he
  have hchars : "ex.com".toList.all (fun c =>
      c.toNat < 128 ∧ c.toLower = c ∧ Url.isForbidden c = false) = true := by decide
  exact Url.isDomain_of_plain (fun c hc => of_decide_eq_true (List.all_eq_true.1 hchars c hc))
    (by decide)

/-- Pages of a mirror, named as they are below its base. -/
def mirror : Fetcher := ⟨some ⟨"http", some { host := "ex.com" }, "/docs/", none, none⟩⟩

theorem isRead_mirror : ∀ b ∈ mirror.base, b.IsRead := by
  intro b hb
  obtain rfl := Option.some.inj hb
  have hread : Url.parseWith none "http://ex。com/docs/" =
      .ok ⟨"http", some { host := "ex.com" }, "/docs/", none, none⟩ := by decide +kernel
  exact .read (by simp) hread

/-- One of its pages. -/
def mirrorPage : Url := ⟨"http", some { host := "ex.com" }, "/docs/page", none, none⟩

theorem resolve_mirrorPage : mirror.resolve "page" = .ok mirrorPage := by decide +kernel

/-- The text of the page denotes the page, for all fetchers. -/
theorem asksFor_mirrorPage (f : Fetcher) : f.AsksFor mirrorPage mirrorPage := by
  have := lawful_mirrorNames
  rcases f.resolve_serialize (Fetcher.isRead_of_resolve isRead_mirror resolve_mirrorPage) with
    ⟨-, asked, hasked⟩ | ⟨hno, -⟩
  · obtain rfl := hasked.eq (by decide)
    exact hasked
  · cases hno

/-- The first request is answered with success, and no other one is. -/
def answersOnce : Transport Nat := fun _ asked =>
  (.ok ⟨if asked = 0 then 200 else 500, some [0x6E, 0x65, 0x77]⟩, asked + 1)

/-- A page is primed and fetched under its whole name, then refetched in vain by the mirror. -/
def mirrorCalls : List (Fetcher × FetchStep) :=
  [(mirror, .prime "page" "old"), ({}, .text "http://ex。com/docs/page" false),
    (mirror, .text "page" false)]

theorem perform_text_mirrorPage {f : Fetcher} {url : String} (h : f.resolve url = .ok mirrorPage)
    (w : Web Nat) : (f.perform answersOnce (.text url false) w).2 =
      if w.wire = 0 then ⟨w.cache.put mirrorPage.serialize "new", 1⟩
      else { w with wire := w.wire + 1 } := by
  have hbody : Text.decodeUtf8 [0x6E, 0x65, 0x77] = "new" := by decide +kernel
  have hrefetch : false = true → w.cache.find? mirrorPage.serialize = none := nofun
  rw [Fetcher.perform_reading answersOnce rfl,
    Fetcher.fetchText_miss answersOnce h hrefetch (asksFor_mirrorPage f).resolved]
  by_cases hfirst : w.wire = 0 <;>
    simp [answersOnce, Exchange.body?, Response.isSuccess, hfirst, hbody]

theorem remembered_mirrorPage :
    (Fetcher.performAll answersOnce mirrorCalls { wire := 0 }).remembered? mirrorPage =
      some "new" := by
  have hprimed : (mirror.perform answersOnce (.prime "page" "old") { wire := 0 }).2 =
      ⟨[(mirrorPage.serialize, "old")], 0⟩ := by
    simp only [Fetcher.perform, Fetcher.prime, resolve_mirrorPage]
    rfl
  have hwhole : Fetcher.resolve {} "http://ex。com/docs/page" = .ok mirrorPage := by decide +kernel
  rw [Fetcher.performAll, mirrorCalls, List.foldl_cons, List.foldl_cons, List.foldl_cons,
    List.foldl_nil, hprimed, perform_text_mirrorPage hwhole,
    perform_text_mirrorPage resolve_mirrorPage]
  decide +kernel

/-- What was fetched under one name is what is remembered under the other. -/
theorem mirror_remembers :
    LawfulDomainMapping ∧ (∀ call ∈ mirrorCalls, ∀ b ∈ call.1.base, b.IsRead) ∧
      LastStored ((Fetcher.observeAll answersOnce mirrorCalls { wire := 0 }).1.filterMap
        FetchRecord.event?) mirrorPage "new" := by
  have := lawful_mirrorNames
  have hbase : ∀ call ∈ mirrorCalls, ∀ b ∈ call.1.base, b.IsRead := by
    intro call hcall
    simp only [mirrorCalls, List.mem_cons, List.not_mem_nil, or_false] at hcall
    rcases hcall with rfl | rfl | rfl
    · exact isRead_mirror
    · exact nofun
    · exact isRead_mirror
  have hpage := Fetcher.isRead_of_resolve isRead_mirror resolve_mirrorPage
  obtain ⟨hweb, hremembered, -⟩ := Fetcher.observeAll_coherent answersOnce 0 mirrorCalls hbase
  refine ⟨inferInstance, hbase, (hremembered mirrorPage "new" hpage).1 ?_⟩
  rw [hweb, remembered_mirrorPage]

/-- The text of a file on a drive is not always read back, so a call may ask for another file than
the one it resolved. -/
theorem asks_elsewhere : ¬ ∀ r ∈ (Fetcher.observeAll Transport.unreachable
      [({}, .text "file://[::1]//C:" false)] { wire := () }).1, ∀ url useCache k,
    r.step.reading? = some (url, useCache) → r.fetcher.resolve url = .ok k →
    (useCache = true → r.before.find? k.serialize = none) → r.exchanges.map Exchange.asked = [k] := by
  have hresolve : Fetcher.resolve {} "file://[::1]//C:" =
      .ok ⟨"file", some { host := "[::1]" }, "/C:", none, none⟩ := by decide +kernel
  have hasked : Fetcher.resolve {} "file://[::1]/C:" =
      .ok ⟨"file", some {}, "/C:", none, none⟩ := by decide +kernel
  have hreads : (FetchStep.text "file://[::1]//C:" false).reading? =
      some ("file://[::1]//C:", false) := rfl
  have hrecord := congrArg (·.1.exchanges.map Exchange.asked) (Fetcher.observe_miss
    Transport.unreachable (w := { wire := () }) hreads hresolve nofun hasked)
  intro h
  have hsame := h _ List.mem_cons_self _ _ _ rfl hresolve nofun
  exact absurd (hrecord.symm.trans hsame) (by decide)

end

end Wayfinder
