import Wayfinder.Proofs.Navigation.Recording
import Wayfinder.Proofs.Route.Encoding

/-!
# States as a browser keeps them

A browser keeps the state of an entry as a JSON value.  The value is replayed as the path that the
strings under its key `path` denote, whatever else it holds; a value without that key, or with
anything else under it, is refused, and then nothing happens:

    (Decoder.list .string).ofValue v is the strings of v, or tells why v is no list of strings
                                                                       (ofValue_strings_cases)
    HistoryState.decoder.ofValue (.object members) = (RoutePath.decoder.ofValue x).map (⟨·⟩), where x
    is the member under `path`                                               (ofValue_members)

An object that comes from a text or is built member by member has each key once.
-/

namespace Wayfinder

variable {ω : Type}

/-! ## Definitions -/

namespace Json

/-- The value is an object and has the member under the key. -/
def HasMember (key : String) (v x : Json) : Prop :=
  ∃ members, v = .object members ∧ (key, x) ∈ members

/-- An array of strings only. -/
def strings (items : List String) : Json := .array (items.map .string)

/-- What is wrong with a value in place of an array of strings: it is no array, or of its items
there is a first one that is no string. -/
inductive NoStrings : Json → Cause → Prop
  | noArray {v : Json} (hv : ∀ items, v ≠ .array items) :
      NoStrings v (.invalidType v.unexpected "a sequence")
  | noString (before : List String) {item : Json} (after : List Json)
      (hitem : ∀ s, item ≠ .string s) :
      NoStrings (.array (before.map .string ++ item :: after))
        (.invalidType item.unexpected "a string")

end Json

open Json

/-! ## Lists of strings -/

theorem mapM_string_cases (items : List Json) :
    (∃ names : List String, items = names.map .string ∧
        items.mapM Decoder.string.ofValue = .ok names) ∨
      ∃ (before : List String) (item : Json) (after : List Json),
        items = before.map .string ++ item :: after ∧ (∀ s, item ≠ .string s) ∧
        items.mapM Decoder.string.ofValue = .error (.invalidType item.unexpected "a string") := by
  induction items with
  | nil => exact Or.inl ⟨[], rfl, rfl⟩
  | cons item items ih =>
    by_cases hitem : ∃ s, item = .string s
    · obtain ⟨s, rfl⟩ := hitem
      rw [List.mapM_cons]
      rcases ih with ⟨names, rfl, hok⟩ | ⟨before, bad, after, rfl, hbad, herror⟩
      · exact Or.inl ⟨s :: names, rfl, by rw [hok]; rfl⟩
      · exact Or.inr ⟨s :: before, bad, after, rfl, hbad, by rw [herror]; rfl⟩
    · have hne : ∀ s, item ≠ .string s := fun s h => hitem ⟨s, h⟩
      refine Or.inr ⟨[], item, items, rfl, hne, ?_⟩
      rw [List.mapM_cons]
      cases item with
      | string s => exact absurd rfl (hne s)
      | _ => rfl

/-- A value is read as the strings that it lists, or it is refused for what is wrong with it. -/
theorem ofValue_strings_cases (v : Json) :
    (∃ names, v = strings names ∧ (Decoder.list .string).ofValue v = .ok names) ∨
      ∃ cause, v.NoStrings cause ∧ (Decoder.list .string).ofValue v = .error cause := by
  cases v with
  | array items =>
    rcases mapM_string_cases items with ⟨names, rfl, hok⟩ | ⟨before, item, after, rfl, hitem, herror⟩
    · exact Or.inl ⟨names, rfl, hok⟩
    · exact Or.inr ⟨_, .noString before after hitem, herror⟩
  | _ => exact Or.inr ⟨_, .noArray (by simp), rfl⟩

theorem Json.NoStrings.ne_strings {v : Json} {cause : Cause} (h : v.NoStrings cause)
    (names : List String) : v ≠ strings names := by
  cases h with
  | noArray hv => exact hv _
  | @noString before item after hitem =>
    intro hnames
    have hmem : item ∈ names.map Json.string := by
      rw [← Json.array.inj hnames]
      exact List.mem_append_right _ List.mem_cons_self
    obtain ⟨s, -, hs⟩ := List.mem_map.1 hmem
    exact hitem s hs.symm

theorem Json.HasMember.unique {key : String} {v x y : Json} (hkeys : v.DistinctKeys)
    (hx : v.HasMember key x) (hy : v.HasMember key y) : x = y := by
  obtain ⟨members, rfl, hx⟩ := hx
  obtain ⟨_, hmembers, hy⟩ := hy
  cases hmembers
  have hnodup := (distinctKeys_object.1 hkeys).1
  exact Option.some.inj ((Keyed.find?_of_mem hnodup hx).symm.trans (Keyed.find?_of_mem hnodup hy))

/-! ## States -/

theorem RoutePath.ofValue_eq_map (v : Json) :
    RoutePath.decoder.ofValue v = ((Decoder.list .string).ofValue v).map .ofSegments := rfl

/-- A state is read from the member under `path`, whatever the other members are. -/
theorem HistoryState.ofValue_members {members : List (String × Json)}
    (hkeys : (Keyed.keys members).Nodup) {x : Json} (hx : ("path", x) ∈ members) :
    decoder.ofValue (.object members) = (RoutePath.decoder.ofValue x).map (⟨·⟩) := by
  have hothers (k : String) (hk : k ≠ "path") : record.field? k = none := by
    simp [Decoder.Record.field?, record, Decoder.field, hk.symm]
  have hdraft := record.draftOfMembers_of_mem record.blank members hkeys "path" x hx _ rfl hothers
  show (record.draftOfMembers record.blank members).bind record.finishDraft = _
  rw [hdraft]
  show ((RoutePath.decoder.ofValue x).map _).bind _ = _
  cases RoutePath.decoder.ofValue x <;> rfl

namespace Navigator

variable (n : Navigator ω) {v : Json} (h : Host ω)

theorem popStateValue_of_missing (hv : ∀ x, ¬ v.HasMember "path" x) :
    n.popStateValue v h = (.error .missingPath, h) := by
  have hnone : v.member? "path" = none := by
    cases v with
    | object members =>
      refine Option.eq_none_iff_forall_ne_some.2 fun x hx => ?_
      exact hv x ⟨members, rfl, Keyed.mem_of_find? hx⟩
    | _ => rfl
  unfold popStateValue
  rw [hnone]

/-- A value with the member is replayed as the path that its strings denote, or refused. -/
theorem popStateValue_of_hasMember (hkeys : v.DistinctKeys) {x : Json}
    (hx : v.HasMember "path" x) :
    n.popStateValue v h =
      match (Decoder.list .string).ofValue x with
      | .ok names => n.popState ⟨.ofSegments names⟩ h
      | .error cause => (.error (.invalidState cause), h) := by
  obtain ⟨members, rfl, hmem⟩ := hx
  have hnodup := (distinctKeys_object.1 hkeys).1
  have hfind : (Json.object members).member? "path" = some x := Keyed.find?_of_mem hnodup hmem
  unfold popStateValue
  rw [hfind, HistoryState.ofValue_members hnodup hmem, RoutePath.ofValue_eq_map]
  cases (Decoder.list .string).ofValue x <;> rfl

/-- The three things that can come of a value. -/
theorem popStateValue_outcome (hkeys : v.DistinctKeys) :
    ((∀ x, ¬ v.HasMember "path" x) ∧ n.popStateValue v h = (.error .missingPath, h)) ∨
    (∃ x cause, v.HasMember "path" x ∧ x.NoStrings cause ∧
      n.popStateValue v h = (.error (.invalidState cause), h)) ∨
    ∃ names, v.HasMember "path" (strings names) ∧
      n.popStateValue v h = n.popState ⟨.ofSegments names⟩ h := by
  by_cases hmem : ∃ x, v.HasMember "path" x
  · obtain ⟨x, hx⟩ := hmem
    have hvalue := n.popStateValue_of_hasMember h hkeys hx
    rcases ofValue_strings_cases x with ⟨names, rfl, hok⟩ | ⟨cause, hcause, herror⟩
    · rw [hok] at hvalue
      exact Or.inr (Or.inr ⟨names, hx, hvalue⟩)
    · rw [herror] at hvalue
      exact Or.inr (Or.inl ⟨x, cause, hx, hcause, hvalue⟩)
  · have hnone : ∀ x, ¬ v.HasMember "path" x := fun x hx => hmem ⟨x, hx⟩
    exact Or.inl ⟨hnone, n.popStateValue_of_missing h hnone⟩

/-- What fails in a replay is the navigation. -/
theorem navigation_of_popState (state : HistoryState) (e : HistoryError)
    (he : (n.popState state h).1 = .error e) : ∃ error, e = .navigation error := by
  rw [popState_eq] at he
  rcases hload : (n.load state.path false h).1 with error | nav <;> rw [hload] at he <;> cases he
  exact ⟨error, rfl⟩

/-- What refuses a value does not look at the navigator. -/
theorem popStateValue_of_refused {e : HistoryError} (he : (n.popStateValue v h).1 = .error e)
    (hne : ∀ error, e ≠ .navigation error) (n' : Navigator ω) :
    n'.popStateValue v h = (.error e, h) := by
  unfold popStateValue at he ⊢
  cases hmember : v.member? "path" with
  | none =>
    rw [hmember] at he
    cases he
    rfl
  | some x =>
    rw [hmember] at he
    cases hstate : HistoryState.decoder.ofValue v with
    | ok state =>
      rw [hstate] at he
      obtain ⟨error, rfl⟩ := n.navigation_of_popState h state e he
      exact absurd rfl (hne error)
    | error cause =>
      rw [hstate] at he
      cases he
      rfl

theorem popStateValue_toJson (state : HistoryState) :
    n.popStateValue state.toJson h = n.popState state h := by
  have hmember : state.toJson.member? "path" = some state.path.toJson := rfl
  unfold popStateValue
  rw [hmember, state.ofValue_toJson]

/-- **States as a browser keeps them.**  A value without a path, and one whose path is anything but
an array of strings, is refused for that, whatever the navigator, and the host is left as it is.
Every other value is replayed as the path that its strings denote, each read like a path of its own;
and so the value of a state is replayed as the state. -/
theorem popStateValue_decodes (v : Json) (hkeys : v.DistinctKeys) :
    ((n.popStateValue v h).1 = .error .missingPath ↔ ¬ ∃ x, v.HasMember "path" x) ∧
    ((∃ cause, (n.popStateValue v h).1 = .error (.invalidState cause)) ↔
      ∃ x, v.HasMember "path" x ∧ ∀ names, x ≠ strings names) ∧
    (∀ cause x, (n.popStateValue v h).1 = .error (.invalidState cause) →
      v.HasMember "path" x → x.NoStrings cause) ∧
    (∀ e, (n.popStateValue v h).1 = .error e → (∀ error, e ≠ .navigation error) →
      ∀ n' : Navigator ω, n'.popStateValue v h = (.error e, h)) ∧
    (∀ names, v.HasMember "path" (strings names) →
      n.popStateValue v h = ((n.load (.ofSegments names) false h).1.mapError .navigation,
        (n.load (.ofSegments names) false h).2) ∧
      (RoutePath.ofSegments names).segments =
        names.flatMap fun name => (RoutePath.parse name).segments) ∧
    ∀ s : HistoryState, n.popStateValue s.toJson h = n.popState s h := by
  refine ⟨?missing, ?invalid, ?cause, fun e he hne n' => n.popStateValue_of_refused h he hne n',
    ?path, n.popStateValue_toJson h⟩
  case missing =>
    rcases n.popStateValue_outcome h hkeys with
      ⟨hnone, hvalue⟩ | ⟨x, cause, hx, -, hvalue⟩ | ⟨names, hx, hvalue⟩
    · exact iff_of_true (by rw [hvalue]) fun ⟨x, hx⟩ => hnone x hx
    · exact iff_of_false (by rw [hvalue]; rintro ⟨⟩) (not_not.2 ⟨x, hx⟩)
    · refine iff_of_false (fun he => ?_) (not_not.2 ⟨_, hx⟩)
      rw [hvalue] at he
      obtain ⟨_, ⟨⟩⟩ := n.navigation_of_popState h _ _ he
  case invalid =>
    rcases n.popStateValue_outcome h hkeys with
      ⟨hnone, hvalue⟩ | ⟨x, cause, hx, hcause, hvalue⟩ | ⟨names, hx, hvalue⟩
    · exact iff_of_false (by rw [hvalue]; rintro ⟨_, ⟨⟩⟩) fun ⟨x, hx, _⟩ => hnone x hx
    · exact iff_of_true ⟨cause, by rw [hvalue]⟩ ⟨x, hx, hcause.ne_strings⟩
    · refine iff_of_false (fun ⟨cause, he⟩ => ?_) fun ⟨x, hx', hne⟩ =>
        hne names (hx'.unique hkeys hx)
      rw [hvalue] at he
      obtain ⟨_, ⟨⟩⟩ := n.navigation_of_popState h _ _ he
  case cause =>
    intro cause x he hx
    rcases n.popStateValue_outcome h hkeys with
      ⟨-, hvalue⟩ | ⟨y, cause', hy, hcause, hvalue⟩ | ⟨names, -, hvalue⟩ <;> rw [hvalue] at he
    · cases he
    · cases he
      exact hx.unique hkeys hy ▸ hcause
    · obtain ⟨error, herror⟩ := n.navigation_of_popState h _ _ he
      cases herror
  case path =>
    intro names hx
    have hnames : (Decoder.list .string).ofValue (strings names) = .ok names :=
      Decoder.list_ofValue fun _ _ => rfl
    refine ⟨?_, rfl⟩
    rw [n.popStateValue_of_hasMember h hkeys hx, hnames]
    exact n.popState_eq _ h

end Navigator

/-! ## States at the kiosk -/

/-- The state of the order page, carelessly spelled and with a title kept beside it. -/
def orderState : Json := .object [("title", .string "Order"), ("path", strings ["", "order/"])]

/-- The state of a page with a nameless part. -/
def namelessState : Json := .object [("path", .array [.string "order", .null])]

/-- The first state is replayed as an order, which fails at the kiosk; the second one is refused for
the part without a name, and the kiosk stays as it is. -/
theorem kiosk_decodes :
    orderState.DistinctKeys ∧
    (kiosk.popStateValue orderState kioskHost).1 =
      .error (.navigation ⟨orderPath, .message "closed"⟩) ∧
    namelessState.DistinctKeys ∧
    ∃ cause, kiosk.popStateValue namelessState kioskHost =
      (.error (.invalidState cause), kioskHost) := by
  have horder : orderState.DistinctKeys :=
    (by simp [orderState, strings] : orderState.IsPlain).distinctKeys
  have hnameless : namelessState.DistinctKeys :=
    (by simp [namelessState] : namelessState.IsPlain).distinctKeys
  have hnostrings : ∀ names, Json.array [.string "order", .null] ≠ strings names := by
    intro names hnames
    have hnull : Json.null ∈ names.map Json.string := by
      rw [← Json.array.inj hnames]
      simp
    simp at hnull
  have hload : (kiosk.load (.ofSegments ["", "order/"]) false kioskHost).1 =
      .error ⟨orderPath, .message "closed"⟩ := by decide +kernel
  obtain ⟨-, -, -, -, hpath, -⟩ := kiosk.popStateValue_decodes kioskHost orderState horder
  obtain ⟨-, hinvalid, -, hrefused, -⟩ :=
    kiosk.popStateValue_decodes kioskHost namelessState hnameless
  obtain ⟨cause, hcause⟩ := hinvalid.2 ⟨_, ⟨_, rfl, List.mem_singleton.2 rfl⟩, hnostrings⟩
  refine ⟨horder, ?_, hnameless, cause, hrefused _ hcause (by simp) kiosk⟩
  rw [(hpath ["", "order/"] ⟨_, rfl, by simp⟩).1, hload]
  rfl

end Wayfinder
