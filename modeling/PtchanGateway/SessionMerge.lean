import PtchanGateway.Session

/-! What a merge of cookies leaves behind. The values of a response are stored one after another, and the first that
is not text or that the store refuses ends the merge; those before it stay. So a merge that fails leaves the session
alone when the first value is the one refused; otherwise the jar has the values before. -/

namespace PtchanGateway.Session

open TextRust JsonValue Config

variable {Jar : Type} (library : CookieLibrary Jar)

/-- Storing one value; none if it is refused. -/
def storeValue (url : String) (now : Int) (store : Jar) (value : Bytes) : Option Jar :=
  (headerText value).bind fun text => (library.parse store text url now).toOption

/-- Storing the values in order; none if one is refused. -/
def storeAll (url : String) (now : Int) : Jar → List Bytes → Option Jar
  | store, [] => some store
  | store, value :: updates => (storeValue library url now store value).bind fun store => storeAll url now store updates

/-- Two stores from which the gateway reads the same, at any time. -/
def SameSession (url : String) (store other : Jar) : Prop :=
  ∀ now, (SessionCookie.mk store url).get library now = (SessionCookie.mk other url).get library now ∧
    (SessionCookie.mk store url).expiresAt library now = (SessionCookie.mk other url).expiresAt library now

/-- A merge that keeps the session when it fails and stores every value when it does not. -/
structure AllOrNothing (cookie : SessionCookie Jar) (updates : List Bytes) (now : Int) : Prop where
  failed : ∀ err, (cookie.merge library updates now).2 = .error err →
    SameSession library cookie.url (cookie.merge library updates now).1.store cookie.store
  stored : ∀ changed, (cookie.merge library updates now).2 = .ok changed →
    storeAll library cookie.url now cookie.store updates = some (cookie.merge library updates now).1.store

/-- The store as it stands takes the first value, and a value after it is refused. -/
def RefusedLater (url : String) (now : Int) (store : Jar) (updates : List Bytes) : Prop :=
  ∃ first rest after, updates = first :: rest ∧ storeValue library url now store first = some after ∧
    storeAll library url now after rest = none

/-- The value `refused` is the first that is refused, and the store was brought to `reached` by those before it. -/
structure Stops (url : String) (now : Int) (store : Jar) (updates stored : List Bytes) (reached : Jar) : Prop where
  brought : storeAll library url now store stored = some reached
  refused : ∃ value rest, updates = stored ++ value :: rest ∧ storeValue library url now reached value = none

variable {library} {url : String} {now : Int}

theorem mergeAll_cons {store : Jar} {value : Bytes} {updates : List Bytes} :
    (∃ after, storeValue library url now store value = some after ∧
      SessionCookie.mergeAll library url now store (value :: updates) =
        SessionCookie.mergeAll library url now after updates) ∨
    (storeValue library url now store value = none ∧
      ∃ err, SessionCookie.mergeAll library url now store (value :: updates) = (store, .error err)) := by
  rw [SessionCookie.mergeAll, storeValue]
  cases headerText value with
  | none => exact .inr ⟨rfl, _, rfl⟩
  | some text =>
      simp only [Option.bind_some]
      cases library.parse store text url now with
      | error err => exact .inr ⟨rfl, _, rfl⟩
      | ok after => exact .inl ⟨after, rfl, rfl⟩

/-- The loop stores every value, or stops at the first that is refused. -/
theorem mergeAll_cases (store : Jar) (updates : List Bytes) :
    (∃ after, SessionCookie.mergeAll library url now store updates = (after, .ok ()) ∧
      storeAll library url now store updates = some after) ∨
    (∃ stored reached err, SessionCookie.mergeAll library url now store updates = (reached, .error err) ∧
      Stops library url now store updates stored reached) := by
  induction updates generalizing store with
  | nil => exact .inl ⟨store, rfl, rfl⟩
  | cons value updates ih =>
      rcases @mergeAll_cons Jar library url now store value updates with ⟨after, hvalue, hrest⟩ | ⟨hvalue, err, hstop⟩
      · rw [hrest, storeAll, hvalue, Option.bind_some]
        rcases ih after with hall | ⟨stored, reached, err, hstopped, hbrought, refused, rest, rfl, hrefused⟩
        · exact .inl hall
        · refine .inr ⟨value :: stored, reached, err, hstopped, ?_, refused, rest, rfl, hrefused⟩
          rw [storeAll, hvalue, Option.bind_some, hbrought]
      · exact .inr ⟨[], store, err, hstop, rfl, value, updates, rfl, hvalue⟩

theorem storeAll_append (store : Jar) (stored rest : List Bytes) :
    storeAll library url now store (stored ++ rest) =
      (storeAll library url now store stored).bind fun reached => storeAll library url now reached rest := by
  induction stored generalizing store with
  | nil => rfl
  | cons value stored ih =>
      rw [List.cons_append, storeAll, storeAll, Option.bind_assoc]
      exact congrArg _ (funext ih)

theorem storeAll_of_stops {store reached : Jar} {updates stored : List Bytes}
    (h : Stops library url now store updates stored reached) : storeAll library url now store updates = none := by
  obtain ⟨hbrought, refused, rest, rfl, hrefused⟩ := h
  rw [storeAll_append, hbrought, Option.bind_some, storeAll, hrefused, Option.bind_none]

theorem refusedLater_iff {store reached : Jar} {updates stored : List Bytes}
    (h : Stops library url now store updates stored reached) :
    RefusedLater library url now store updates ↔ stored ≠ [] := by
  have hnone := storeAll_of_stops h
  obtain ⟨hbrought, refused, rest, rfl, hrefused⟩ := h
  constructor
  · rintro ⟨first, others, after, hupdates, hfirst, -⟩ rfl
    -- the first value is the refused one, which the store would have to take
    cases hbrought
    rw [List.nil_append, List.cons.injEq] at hupdates
    rw [hupdates.1, hfirst] at hrefused
    cases hrefused
  · intro hstored
    obtain ⟨first, stored, rfl⟩ := List.exists_cons_of_ne_nil hstored
    obtain ⟨after, hfirst, -⟩ := Option.bind_eq_some_iff.1 hbrought
    refine ⟨first, stored ++ refused :: rest, after, rfl, hfirst, ?_⟩
    rwa [List.cons_append, storeAll, hfirst, Option.bind_some] at hnone

/-- A merge is all or nothing when no value is refused after the first was taken. When one is, the merge fails
and leaves a jar into which every value before it was written, and there is at least one. -/
theorem merge_is_all_or_nothing_unless_refused_later (library : CookieLibrary Jar) (cookie : SessionCookie Jar)
    (updates : List Bytes) (now : Int) :
    (¬RefusedLater library cookie.url now cookie.store updates → AllOrNothing library cookie updates now) ∧
    (RefusedLater library cookie.url now cookie.store updates →
      ∃ stored reached err, stored ≠ [] ∧ Stops library cookie.url now cookie.store updates stored reached ∧
        cookie.merge library updates now = ({ cookie with store := reached }, .error err)) := by
  rcases @mergeAll_cases Jar library cookie.url now cookie.store updates with
    ⟨after, hmerge, hstored⟩ | ⟨stored, reached, err, hmerge, hstops⟩
  · refine ⟨fun _ => ⟨fun err herror => ?_, fun changed _ => ?_⟩, ?_⟩
    · rw [SessionCookie.merge, hmerge] at herror
      cases herror
    · rw [SessionCookie.merge, hmerge]
      exact hstored
    · rintro ⟨first, rest, next, hupdates, hfirst, hrest⟩
      rw [hupdates, storeAll, hfirst, Option.bind_some, hrest] at hstored
      cases hstored
  · have hresult : cookie.merge library updates now = ({ cookie with store := reached }, .error err) := by
      rw [SessionCookie.merge, hmerge]
      rfl
    refine ⟨fun hnot => ⟨fun _ _ => ?_, fun changed hok => ?_⟩, fun hlater => ?_⟩
    · rw [hresult]
      rw [refusedLater_iff hstops, not_not] at hnot
      subst hnot
      cases hstops.brought
      exact fun _ => ⟨rfl, rfl⟩
    · rw [hresult] at hok
      cases hok
    · exact ⟨stored, reached, err, (refusedLater_iff hstops).1 hlater, hstops, hresult⟩

namespace Sample

/-- Session cookies by name, as they come in texts of a name and a value. -/
def plainCookies : CookieLibrary (List (String × String)) where
  getRequestValues jar _ _ := jar
  expirations jar _ _ := jar.map fun _ => .sessionEnd
  parse jar text _ _ :=
    match text.toList.span (· != '=') with
    | (name, '=' :: value) =>
        .ok ((String.ofList name, String.ofList value) :: jar.filter fun pair => pair.1 != String.ofList name)
    | _ => .error "the cookie is missing a name/value pair"

/-- A second value that is no text, after one that replaces the session. -/
theorem merge_keeps_first_value :
    ¬AllOrNothing plainCookies ⟨[("session", "old")], "https://ptchan.test"⟩ [asBytes "session=new", [255]] 0 := by
  intro h
  have hsame := h.failed ["ptchan Set-Cookie header was not text", "failed to convert header to a str"] rfl 0
  exact absurd hsame.1 (by decide)

/-- Two values that are taken, two of which the first is refused, and two of which the second is. -/
theorem merge_is_all_or_nothing_unless_refused_later_session :
    AllOrNothing plainCookies ⟨[("session", "old")], "https://ptchan.test"⟩
        [asBytes "session=new", asBytes "theme=dark"] 0 ∧
      AllOrNothing plainCookies ⟨[("session", "old")], "https://ptchan.test"⟩ [[255], asBytes "session=new"] 0 ∧
      ∃ stored reached err, stored ≠ [] ∧
        Stops plainCookies "https://ptchan.test" 0 [("session", "old")] [asBytes "session=new", [255]] stored reached ∧
        SessionCookie.merge plainCookies ⟨[("session", "old")], "https://ptchan.test"⟩
            [asBytes "session=new", [255]] 0 = (⟨reached, "https://ptchan.test"⟩, .error err) := by
  refine ⟨(merge_is_all_or_nothing_unless_refused_later plainCookies _ _ 0).1 ?_,
    (merge_is_all_or_nothing_unless_refused_later plainCookies _ _ 0).1 ?_,
    (merge_is_all_or_nothing_unless_refused_later plainCookies
      ⟨[("session", "old")], "https://ptchan.test"⟩ _ 0).2
      ⟨asBytes "session=new", [[255]], [("session", "new")], rfl, rfl, rfl⟩⟩
  · rintro ⟨first, rest, after, hupdates, hfirst, hrest⟩
    cases hupdates
    cases hfirst
    cases hrest
  · rintro ⟨first, rest, after, hupdates, hfirst, hrest⟩
    cases hupdates
    cases hfirst

end Sample

end PtchanGateway.Session
