import Wayfinder.Proofs.Fetch.Cache

/-!
# Filling a node

A node is filled with a text that is fetched.  Either the fetch fails, and then the node and all
remembered bodies are as they were; or the node holds the text, which is then remembered as well:

    f.fetchText send url useCache w = (.error e, w')   → w'.cache = w.cache
    f.fetchText send url useCache w = (.ok html, w')   → f.cached? url w' = some html
                                                                        (fetchText_all_or_nothing)

Where the transport gets an answer, its status decides first: `r.accept u` is an error exactly if
`Refusal u r.status` has one for it (`accept_eq_error_iff`).  An answer that is not refused has been
fetched, but its text is still to be read, and that fails if the body breaks off (`Unreadable`).
-/

namespace Wayfinder

variable {τ : Type}

/-! ## Definitions -/

/-- The error that an answer's status comes to: one for what is not there, and another one, which
tells the status, for all else that is no success. -/
inductive Refusal (u : Url) : Nat → FetchError → Prop
  | notFound : Refusal u 404 (.notFound u)
  | status {code : Nat} (hthere : code ≠ 404) (hrange : code < 200 ∨ 299 < code) :
      Refusal u code (.status u code)

/-- The error that reading an answer as text comes to: it is refused, or its body breaks off. -/
inductive Unreadable (u : Url) (r : Response) : FetchError → Prop
  | refused {e : FetchError} (h : Refusal u r.status e) : Unreadable u r e
  | brokenOff (hsuccess : r.isSuccess = true) (hbody : r.body = none) : Unreadable u r .undecodable

/-- The transport answers for URLs of the web alone. -/
def Transport.AnswersWeb (send : Transport τ) : Prop :=
  ∀ u s r, (send u s).1 = .ok r → u.scheme = "http" ∨ u.scheme = "https"

namespace Fetcher

/-- The call asks the transport for a URL and gets an answer. -/
def Gets [DomainMapping] (send : Transport τ) (f : Fetcher) (step : FetchStep) (w : Web τ)
    (asked : Url) (r : Response) : Prop :=
  ⟨asked, .ok r⟩ ∈ (f.observe send step w).1.exchanges

end Fetcher

/-! ## Statuses -/

theorem Response.accept_eq_error_iff (u : Url) (r : Response) (e : FetchError) :
    r.accept u = .error e ↔ Refusal u r.status e := by
  unfold accept
  constructor
  · intro h
    split at h
    · next hmissing =>
      cases h
      rw [hmissing]
      exact .notFound
    · next hthere =>
      split at h
      · cases h
      · next hfailed =>
        cases h
        refine .status hthere ?_
        simp only [isSuccess, Bool.and_eq_true, decide_eq_true_eq] at hfailed
        omega
  · intro h
    generalize hcode : r.status = code at h
    cases h with
    | notFound => rw [if_pos rfl]
    | status hthere hrange =>
      have hfailed : ¬ r.isSuccess = true := by
        simp only [isSuccess, Bool.and_eq_true, decide_eq_true_eq]
        omega
      rw [if_neg hthere, if_neg hfailed]

/-- Whether an answer can be read is a matter of its status and of its body. -/
theorem Response.bind_text_eq_error_iff (u : Url) (r : Response) (e : FetchError) :
    (r.accept u).bind Response.text = .error e ↔ Unreadable u r e := by
  cases hresult : r.accept u with
  | error e' =>
    constructor
    · rintro ⟨⟩
      exact .refused ((r.accept_eq_error_iff u e).1 hresult)
    · rintro (hrefused | ⟨hsuccess, -⟩)
      · obtain rfl := Except.error.inj
          (hresult.symm.trans ((r.accept_eq_error_iff u e).2 hrefused))
        rfl
      · cases hresult.symm.trans ((r.accept_eq_ok_iff u r).2 ⟨hsuccess, rfl⟩)
  | ok r' =>
    obtain ⟨hsuccess, rfl⟩ := (r.accept_eq_ok_iff u r').1 hresult
    have haccepted {e : FetchError} (hrefused : Refusal u r'.status e) : False := by
      cases hresult.symm.trans ((r'.accept_eq_error_iff u e).2 hrefused)
    show r'.text = .error e ↔ _
    rw [text, bytes]
    cases hbody : r'.body with
    | none =>
      constructor
      · rintro ⟨⟩
        exact .brokenOff hsuccess hbody
      · rintro (hrefused | -)
        · exact (haccepted hrefused).elim
        · rfl
    | some bytes =>
      constructor
      · rintro ⟨⟩
      · rintro (hrefused | ⟨-, hbroken⟩)
        · exact (haccepted hrefused).elim
        · cases hbody.symm.trans hbroken

/-- A network is asked for URLs of the web alone. -/
theorem Transport.answersWeb_ofNetwork (network : Url → τ → Option Response × τ) :
    (ofNetwork network).AnswersWeb := by
  intro u s r h
  unfold ofNetwork at h
  simp only at h
  split at h
  · next hsendable =>
    have hscheme := (Bool.and_eq_true_iff.1 hsendable).1
    rw [Bool.or_eq_true, decide_eq_true_eq, decide_eq_true_eq] at hscheme
    exact hscheme
  · cases h

namespace Fetcher

/-! ## The bodies after a fetch -/

section
variable [DomainMapping] (send : Transport τ) (f : Fetcher) (url : String) (useCache : Bool)
  (w : Web τ)

theorem cached?_remember {k : Url} (h : f.resolve url = .ok k) (body : String) :
    f.cached? url (w.remember k body) = some body := by
  simp only [cached?, h, Web.remembered?, Web.remember, Keyed.find?_put, if_true]

/-- A text is fetched and remembered, or what is remembered stays as it is. -/
theorem fetchText_all_or_nothing :
    (∃ e w', f.fetchText send url useCache w = (.error e, w') ∧ w'.cache = w.cache) ∨
      ∃ html w', f.fetchText send url useCache w = (.ok html, w') ∧ f.cached? url w' = some html := by
  unfold fetchText
  split
  · next e _ => exact Or.inl ⟨e, w, rfl, rfl⟩
  · next k hresolve =>
    split
    · next body hfound =>
      refine Or.inr ⟨body, w, rfl, ?_⟩
      split at hfound
      · simpa only [cached?, hresolve] using hfound
      · cases hfound
    · have hkept := cache_fetch send f k.serialize w
      split
      · next e w' hfetch =>
        rw [hfetch] at hkept
        exact Or.inl ⟨e, w', rfl, hkept⟩
      · next r w' hfetch =>
        rw [hfetch] at hkept
        -- the body is remembered only when all of it has been read
        split
        · exact Or.inr ⟨_, _, rfl, f.cached?_remember url _ hresolve _⟩
        · next e _ => exact Or.inl ⟨e, w', rfl, hkept⟩

/-- A node is filled with what is fetched, and with nothing else. -/
theorem fill_eq (node : String) :
    f.fill send url useCache node w =
      ((f.fetchText send url useCache w).1.map fun _ => (),
        (f.fetchText send url useCache w).1.toOption.getD node,
        (f.fetchText send url useCache w).2) := by
  unfold fill
  rcases f.fetchText send url useCache w with ⟨e | html, w'⟩ <;> rfl

end

/-! ## Answers -/

section
variable [DomainMapping] {send : Transport τ} {f : Fetcher} {url : String} {useCache : Bool}
  {w : Web τ} {asked : Url} {r : Response}

/-- What is fetched is asked for under the URL that was resolved, and refused for its status. -/
theorem fetch_of_gets (h : f.Gets send (.fetch url) w asked r) :
    f.resolve url = .ok asked ∧ (f.fetch send url w).1 = r.accept asked := by
  unfold Gets at h
  cases hresolve : f.resolve url with
  | error e =>
    simp only [observe, perform, fetch_error send.noting hresolve] at h
    cases h
  | ok k =>
    simp only [observe, perform, fetch_ok send.noting hresolve] at h
    obtain ⟨rfl, hanswer⟩ := Exchange.mk.inj (List.mem_singleton.1 h)
    have hanswer' : (send asked w.wire).1 = .ok r := hanswer.symm
    rw [fetch_ok send hresolve, hanswer']
    exact ⟨rfl, rfl⟩

variable [LawfulDomainMapping] (hbase : ∀ b ∈ f.base, b.IsRead)

include hbase

/-- A text is asked for under the URL that the resolved one denotes, and refused for its status. -/
theorem fetchText_of_gets {step : FetchStep} (hstep : step.reading? = some (url, useCache))
    (h : f.Gets send step w asked r) :
    ∃ k, f.resolve url = .ok k ∧ f.AsksFor k asked ∧ (send.AnswersWeb → asked = k) ∧
      (f.fetchText send url useCache w).1 = (r.accept asked).bind Response.text := by
  unfold Gets at h
  rcases lookup hbase w.cache url useCache with
    ⟨e, hresolve⟩ | ⟨k, body, hresolve, huse, hfound⟩ | ⟨k, asked', hresolve, hmiss, -, hasked⟩ |
      ⟨k, hresolve, hmiss, -, hlost⟩
  · rw [observe_unresolved send hstep hresolve] at h
    cases h
  · rw [observe_hit send hstep hresolve huse hfound] at h
    cases h
  · rw [observe_miss send hstep hresolve hmiss hasked.resolved] at h
    obtain ⟨rfl, hanswer⟩ := Exchange.mk.inj (List.mem_singleton.1 h)
    refine ⟨k, hresolve, hasked, fun hweb => hasked.eq ?_, ?_⟩
    · have hscheme := hweb asked w.wire r hanswer.symm
      rw [hasked.scheme_eq] at hscheme
      rcases hscheme with hscheme | hscheme <;> simp [Url.isFileOnDrive, hscheme]
    · rw [fetchText_miss send hresolve hmiss hasked.resolved, ← hanswer]
      rfl
  · rw [observe_lost send hstep hresolve hmiss hlost] at h
    cases h

end

/-- **Filling is all or nothing.**  A node is filled with exactly the text that is fetched, and this
is what is remembered then; or nothing can be fetched, and the node and all remembered bodies are as
they were.  Where the transport gets an answer, the status decides: what is not there and what is no
success is refused under the URL that was asked for, and all else is fetched.  To read it as text
fails for one more reason, a body that breaks off, and then this is the error.  The URL that was asked
for is the one that was resolved, unless its text denotes another one; a transport that answers for
the web alone is never asked for another. -/
theorem fill_all_or_nothing [DomainMapping] [LawfulDomainMapping] (send : Transport τ) (f : Fetcher)
    (hbase : ∀ b ∈ f.base, b.IsRead) (url : String) (useCache : Bool) (node : String) (w : Web τ) :
    ((∃ e w', f.fill send url useCache node w = (.error e, node, w') ∧
        f.fetchText send url useCache w = (.error e, w') ∧ w'.cache = w.cache) ∨
      ∃ html w', f.fill send url useCache node w = (.ok (), html, w') ∧
        f.fetchText send url useCache w = (.ok html, w') ∧ f.cached? url w' = some html) ∧
    (∀ asked r, f.Gets send (.fetch url) w asked r → f.resolve url = .ok asked ∧
      ((f.fetch send url w).1 = .ok r ↔ r.isSuccess = true) ∧
      ∀ e, (f.fetch send url w).1 = .error e ↔ Refusal asked r.status e) ∧
    ∀ asked r, f.Gets send (.text url useCache) w asked r ∨
        f.Gets send (.fill url useCache node) w asked r →
      (∃ k, f.resolve url = .ok k ∧ f.AsksFor k asked ∧ (send.AnswersWeb → asked = k)) ∧
      ∀ e, ((f.fetchText send url useCache w).1 = .error e ↔ Unreadable asked r e) ∧
        ((f.fill send url useCache node w).1 = .error e ↔ Unreadable asked r e) := by
  refine ⟨?all, fun asked r h => ?fetch, fun asked r h => ?text⟩
  case all =>
    rw [fill_eq]
    rcases f.fetchText_all_or_nothing send url useCache w with
      ⟨e, w', hread, hkept⟩ | ⟨html, w', hread, hstored⟩ <;> rw [hread]
    · exact Or.inl ⟨e, w', rfl, rfl, hkept⟩
    · exact Or.inr ⟨html, w', rfl, rfl, hstored⟩
  case fetch =>
    obtain ⟨hresolve, hresult⟩ := fetch_of_gets h
    refine ⟨hresolve, ?_, fun e => ?_⟩
    · rw [hresult, Response.accept_eq_ok_iff]
      simp
    · rw [hresult, Response.accept_eq_error_iff]
  case text =>
    obtain ⟨k, hresolve, hasked, hweb, hresult⟩ :=
      h.elim (fetchText_of_gets hbase rfl) (fetchText_of_gets hbase rfl)
    refine ⟨⟨k, hresolve, hasked, hweb⟩, fun e => ?_⟩
    rw [fill_eq, hresult, ← Response.bind_text_eq_error_iff]
    cases (r.accept asked).bind Response.text <;> simp [Except.map]

end Fetcher

/-! ## A page that is gone -/

section
attribute [local instance] mirrorNames

/-- A network that answers every request alike. -/
def answering (r : Response) : Transport Unit := .ofNetwork fun _ s => (some r, s)

/-- Nothing is there. -/
def gone : Transport Unit := answering ⟨404, some []⟩

/-- All bodies break off. -/
def torn : Transport Unit := answering ⟨200, none⟩

/-- The page of the mirror from a time when it could be read. -/
def keptPage : Web Unit := { cache := [(mirrorPage.serialize, "old")], wire := () }

theorem answering_mirrorPage (r : Response) : answering r mirrorPage () = (.ok r, ()) := by
  have hsendable : mirrorPage.withoutCredentials.isSendable = true := by decide +kernel
  simp only [answering, Transport.ofNetwork, hsendable, if_true]

theorem gets_fetch_mirrorPage (r : Response) :
    mirror.Gets (answering r) (.fetch "page") keptPage mirrorPage r := by
  have hanswer : (answering r mirrorPage keptPage.wire).1 = .ok r :=
    congrArg Prod.fst (answering_mirrorPage r)
  unfold Fetcher.Gets
  simp only [Fetcher.observe, Fetcher.perform,
    Fetcher.fetch_ok (answering r).noting resolve_mirrorPage]
  rw [← hanswer]
  exact List.mem_cons_self

theorem gets_fill_mirrorPage (r : Response) :
    mirror.Gets (answering r) (.fill "page" false "draft") keptPage mirrorPage r := by
  have hreads : (FetchStep.fill "page" false "draft").reading? = some ("page", false) := rfl
  have hanswer : (answering r mirrorPage keptPage.wire).1 = .ok r :=
    congrArg Prod.fst (answering_mirrorPage r)
  unfold Fetcher.Gets
  rw [Fetcher.observe_miss (answering r) hreads resolve_mirrorPage nofun
    (asksFor_mirrorPage mirror).resolved, ← hanswer]
  exact List.mem_cons_self

/-- Filling a node with a page that is gone fails.  So it does if the page breaks off, although it has
been fetched by then.  Neither the node nor the remembered body is lost. -/
theorem gone_keeps_draft :
    LawfulDomainMapping ∧ (∀ b ∈ mirror.base, b.IsRead) ∧ gone.AnswersWeb ∧
      mirror.Gets gone (.fill "page" false "draft") keptPage mirrorPage ⟨404, some []⟩ ∧
      mirror.fill gone "page" false "draft" keptPage =
        (.error (.notFound mirrorPage), "draft", keptPage) ∧
      mirror.Gets torn (.fetch "page") keptPage mirrorPage ⟨200, none⟩ ∧
      (mirror.fetch torn "page" keptPage).1 = .ok ⟨200, none⟩ ∧
      mirror.fill torn "page" false "draft" keptPage = (.error .undecodable, "draft", keptPage) := by
  have := lawful_mirrorNames
  have hkept (r : Response) (e : FetchError) (h : Unreadable mirrorPage r e) :
      mirror.fill (answering r) "page" false "draft" keptPage = (.error e, "draft", keptPage) := by
    obtain ⟨hall, -, hread⟩ := Fetcher.fill_all_or_nothing (answering r) mirror isRead_mirror "page"
      false "draft" keptPage
    obtain ⟨-, hfails⟩ := hread mirrorPage r (Or.inr (gets_fill_mirrorPage r))
    have hfailed := (hfails e).2.2 h
    rcases hall with ⟨e', ⟨cache, ⟨⟩⟩, hfill, -, hcache⟩ | ⟨html, w', hfill, -⟩
    · obtain rfl : cache = keptPage.cache := hcache
      rw [hfill] at hfailed ⊢
      obtain rfl := Except.error.inj hfailed
      rfl
    · rw [hfill] at hfailed
      cases hfailed
  obtain ⟨-, hfetch, -⟩ := Fetcher.fill_all_or_nothing torn mirror isRead_mirror "page" false "draft"
    keptPage
  have htorn := gets_fetch_mirrorPage ⟨200, none⟩
  exact ⟨inferInstance, isRead_mirror, Transport.answersWeb_ofNetwork _,
    gets_fill_mirrorPage _, hkept _ _ (.refused .notFound), htorn,
    (hfetch _ _ htorn).2.1.2 rfl, hkept _ _ (.brokenOff rfl rfl)⟩

end

end Wayfinder
