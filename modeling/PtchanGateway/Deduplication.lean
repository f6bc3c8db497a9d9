import PtchanGateway.StoreScheduler
import PtchanGateway.StoredPayloads

/-!
Deduplication. The id of an event joins its kind, its board and the number of its post by colons. The board is
text of ptchan and may hold colons itself, but kinds hold none and numbers hold none, so the first and the last
colon tell the parts apart. In a store that the gateway filled, an event is a duplicate exactly when one of the
same kind, board and post is there.
-/

namespace PtchanGateway

open TextRfc3339 TextRust JsonValue Config Upstream RunSystem Store

/-- The id of an event about a post. -/
def eventKey (kind : EventKind) (board : String) (postId : Int) : String :=
  "ptchan:" ++ kind.asStr ++ ":" ++ board ++ ":" ++ toString postId

theorem EventKind.asStr_inj {kind other : EventKind} (h : kind.asStr = other.asStr) : kind = other := by
  cases kind <;> cases other <;> first | rfl | exact absurd h (by decide)

theorem EventKind.colon_not_mem (kind : EventKind) : ':' ∉ kind.asStr.toList := by
  cases kind <;> decide

theorem colon_not_mem_toString (n : Int) : ':' ∉ (toString n).toList := by
  intro hc
  rcases chars_of_toString hc with hsign | hdigit
  · exact absurd hsign (by decide)
  · exact absurd hdigit (by decide)

/-- The parts of an id can be told apart. -/
theorem eventKey_inj {kind other : EventKind} {board otherBoard : String} {postId otherId : Int} :
    eventKey kind board postId = eventKey other otherBoard otherId ↔
      kind = other ∧ board = otherBoard ∧ postId = otherId := by
  constructor
  · intro h
    -- The number ends the text and holds no colon: what stands before the last colon is equal.
    have hchars := congrArg String.toList h
    simp only [eventKey, String.toList_append, show ":".toList = [':'] from rfl, List.append_assoc,
      List.singleton_append] at hchars
    rw [List.append_right_inj] at hchars
    -- The kind starts the rest and holds no colon either.
    obtain ⟨hkind, hrest⟩ := append_separator_inj kind.colon_not_mem other.colon_not_mem hchars
    obtain ⟨hboard, hid⟩ :=
      append_separator_inj_last (colon_not_mem_toString postId) (colon_not_mem_toString otherId) hrest
    exact ⟨EventKind.asStr_inj (String.toList_inj.mp hkind), String.toList_inj.mp hboard,
      toString_inj (String.toList_inj.mp hid)⟩
  · rintro ⟨hkind, hboard, hid⟩
    rw [hkind, hboard, hid]

/-- The same post under the same kind: both have a thread, or neither has. -/
def SamePost (left right : Upstream.Post) : Prop :=
  left.board = right.board ∧ left.id = right.id ∧ left.thread.isSome = right.thread.isSome

theorem eventKind_eq_iff {left right : Upstream.Post} :
    eventKind left = eventKind right ↔ left.thread.isSome = right.thread.isSome := by
  unfold eventKind
  cases left.thread.isSome <;> cases right.thread.isSome <;> simp

theorem eventId_eq_iff {left right : Upstream.Post} : eventId left = eventId right ↔ SamePost left right := by
  have hkey := @eventKey_inj (eventKind left) (eventKind right) left.board right.board left.id.toInt right.id.toInt
  rw [eventKind_eq_iff, Int64.toInt_inj] at hkey
  calc
    _ ↔ left.thread.isSome = right.thread.isSome ∧ left.board = right.board ∧ left.id = right.id := hkey
    _ ↔ SamePost left right := by
      rw [SamePost]
      tauto

/-- An accepted value is announced by the event of the post it decodes to. -/
theorem event_of_gatewayEvent {serde : Serde} {baseUrl : String} {value : Json} {observedAt : Instant}
    {built : BuiltEvent} (h : gatewayEvent serde baseUrl value observedAt = .ok built) :
    ∃ decoded, DecodedPost.tryFrom serde value = .ok decoded ∧
      built.event = webhookEvent baseUrl decoded.post observedAt := by
  obtain ⟨decoded, hdecoded, rfl⟩ := decoded_of_gatewayEvent serde h
  exact ⟨decoded, hdecoded, rfl⟩

/-- An event with the origin its tripcode was found to have. -/
def attributed (event : WebhookEvent) (origin : Option PostOrigin) : WebhookEvent :=
  { event with post := { event.post with origin := origin } }

/-- The call creates the event of an accepted value, or creates none. -/
def Announced (_ : Store) : StoreCall → Prop
  | .createEvent _ event _ _ => ∃ serde baseUrl value observedAt built origin,
      gatewayEvent serde baseUrl value observedAt = .ok built ∧ event = attributed built.event origin
  | _ => True

/-- The states such calls lead to from a new file. -/
def Filled (s : Store) : Prop := ∃ calls, Path (fun s c => some (Store.call s c)) Announced .empty calls s

/-- The id of every event is that of its kind, its board and its post. -/
def Keyed (s : Store) : Prop := ∀ e ∈ s.events, e.id = eventKey e.kind e.board e.postId

theorem newEvent_keyed {serde : Serde} {baseUrl : String} {value : Json} {observedAt : Instant} {built : BuiltEvent}
    (h : gatewayEvent serde baseUrl value observedAt = .ok built) (origin : Option PostOrigin) (payload : Bytes) :
    let e := newEvent (attributed built.event origin) payload
    e.id = eventKey e.kind e.board e.postId := by
  obtain ⟨decoded, -, hevent⟩ := event_of_gatewayEvent h
  rw [hevent]
  rfl

theorem Keyed.call {s : Store} (hs : Keyed s) {c : StoreCall} (hc : Announced s c) : Keyed (s.call c) := by
  cases c with
  | createEvent faults event payload ds =>
      obtain ⟨serde, baseUrl, value, observedAt, built, origin, hbuilt, rfl⟩ := hc
      intro e he
      rcases mem_events_createEvent he with hold | rfl
      · exact hs e hold
      · exact newEvent_keyed hbuilt origin payload
  | pruneDeliveredEvents cutoff => exact fun e he => hs e (List.mem_of_mem_filter he)
  | migrate => exact hs
  | markDelivered eventId webhook now => exact hs
  | markFailed eventId webhook error attempts next => exact hs

theorem Filled.keyed {s : Store} (h : Filled s) : Keyed s := by
  obtain ⟨calls, hpath⟩ := h
  refine hpath.invariant Keyed ?_ (by intro e he; cases he)
  intro s c s' hs hc hstep
  rw [Option.some.injEq] at hstep
  subst hstep
  exact hs.call hc

/-- An event of the post's kind, board and number is stored. -/
def Holds (s : Store) (post : Upstream.Post) : Prop :=
  ∃ e ∈ s.events, e.kind = eventKind post ∧ e.board = post.board ∧ e.postId = post.id.toInt

theorem mem_ids_iff {s : Store} (h : Keyed s) (post : Upstream.Post) :
    eventId post ∈ s.events.map EventRow.id ↔ Holds s post := by
  have hrow : ∀ e ∈ s.events, e.id = eventId post ↔
      e.kind = eventKind post ∧ e.board = post.board ∧ e.postId = post.id.toInt := by
    intro e he
    rw [h e he]
    exact eventKey_inj
  rw [List.mem_map]
  constructor
  · rintro ⟨e, he, hid⟩
    exact ⟨e, he, (hrow e he).mp hid⟩
  · rintro ⟨e, he, hparts⟩
    exact ⟨e, he, (hrow e he).mpr hparts⟩

theorem Filled.call {s : Store} (h : Filled s) {c : StoreCall} (hc : Announced s c) : Filled (s.call c) := by
  obtain ⟨calls, hpath⟩ := h
  exact ⟨calls ++ [c], hpath.append (.cons hc rfl (.nil _))⟩

section Ingestion

variable {serde : Serde} {mac : Bytes → Bytes → Bytes}

theorem storeEvent_store (faults : TxFaults) (store : Store) (built : BuiltEvent) (deliveries : List EventDelivery) :
    (storeEvent faults store built deliveries).store =
      (store.createEvent faults built.event built.payload deliveries).2 := by
  rw [storeEvent]
  split <;> simp only [*]

/-- An ingestion leaves the store alone or creates the event of its argument. -/
theorem filled_newPost {store : Store} (h : Filled store) (baseUrl : String) (arguments : List Json)
    (observedAt : Instant) (faults : TxFaults) (webhooks : List WebhookConfig) (origins : OriginMatcher)
    (fingerprintSecret : Option String) :
    Filled (newPost serde mac baseUrl arguments observedAt faults store webhooks origins fingerprintSecret).store := by
  rw [newPost]
  split
  · exact h
  · rename_i value _
    split
    · exact h
    · rename_i built hbuilt
      dsimp only
      split
      · exact h
      · split
        · exact h
        · split
          · exact h
          · rw [storeEvent_store]
            exact h.call (c := .createEvent faults _ _ _) ⟨serde, baseUrl, value, observedAt, built, _, hbuilt, rfl⟩

/-- Every store the gateway reaches is filled, whatever its configurations were. -/
theorem filled_of_operations {ok : Store → Operation → Prop} {operations : List Operation} {s : Store}
    (h : Path (operate serde mac) ok .empty operations s) : Filled s := by
  refine h.invariant Filled ?_ ⟨[], .nil _⟩
  intro s operation s' hs _ hstep
  cases operation with
  | newPost config arguments observedAt faults =>
      rw [operate, Option.some.injEq] at hstep
      rw [← hstep]
      exact filled_newPost hs _ _ _ _ _ _ _
  | markDelivered eventId webhook now =>
      rw [operate, Option.some.injEq] at hstep
      rw [← hstep]
      exact hs.call (c := .markDelivered eventId webhook now) trivial
  | markFailed eventId webhook error attempts next =>
      rw [operate, Option.some.injEq] at hstep
      rw [← hstep]
      exact hs.call (c := .markFailed eventId webhook error attempts next) trivial
  | pruneDeliveredEvents cutoff =>
      rw [operate, Option.some.injEq] at hstep
      rw [← hstep]
      exact hs.call (c := .pruneDeliveredEvents cutoff) trivial

end Ingestion

/-- `create_event` answers that an event is a duplicate when its id is stored and the database refuses nothing. -/
theorem createEvent_eq_false_iff {faults : TxFaults} {event : WebhookEvent} {s : Store} (payload : Bytes)
    (ds : List EventDelivery) :
    s.createEvent faults event payload ds = (.ok false, s) ↔ event.eventId ∈ s.events.map EventRow.id ∧
      faults.start = false ∧ faults.insertEvent = false ∧ faults.commit = false := by
  by_cases hmem : event.eventId ∈ s.events.map EventRow.id
  · unfold createEvent createEventTx
    rw [insertOrIgnoreEvent_of_mem (newEvent event payload) hmem]
    cases hstart : faults.start <;> cases hinsert : faults.insertEvent <;> cases hcommit : faults.commit <;>
      simp [hmem]
  · rcases createEvent_cases faults event payload ds s with ⟨err, heq⟩ | ⟨hstored, -⟩ | ⟨-, s', heq, -, -⟩
    · simp [heq, hmem]
    · exact absurd hstored hmem
    · simp [heq, hmem]

/-- The ids in the table after `create_event`. -/
theorem mem_ids_createEvent {faults : TxFaults} {event : WebhookEvent} {s : Store} {payload : Bytes}
    {ds : List EventDelivery} {id : String} (hne : id ≠ event.eventId) :
    id ∈ (s.createEvent faults event payload ds).2.events.map EventRow.id ↔ id ∈ s.events.map EventRow.id := by
  rcases createEvent_cases faults event payload ds s with ⟨err, heq⟩ | ⟨-, heq⟩ | ⟨-, s', heq, hevents, -⟩
  · rw [heq]
  · rw [heq]
  · rw [heq, hevents, List.map_append, List.mem_append]
    simp [newEvent, hne]

/-- Two accepted posts have the same id exactly when they are of one board, number and kind. So in every store
the gateway filled, an event is a duplicate, and then changes nothing, exactly when one about the same post is
stored; and creating the event of another post beforehand makes no difference. -/
theorem deduplication_exact {serde otherSerde : Serde} {baseUrl otherUrl : String} {value otherValue : Json}
    {observedAt otherTime : Instant} {built other : BuiltEvent}
    (hbuilt : gatewayEvent serde baseUrl value observedAt = .ok built)
    (hother : gatewayEvent otherSerde otherUrl otherValue otherTime = .ok other) :
    ∃ decoded otherDecoded, DecodedPost.tryFrom serde value = .ok decoded ∧
      DecodedPost.tryFrom otherSerde otherValue = .ok otherDecoded ∧
      (built.event.eventId = other.event.eventId ↔ SamePost decoded.post otherDecoded.post) ∧
      ∀ s, Filled s → ∀ origin payload ds,
        (∀ faults, s.createEvent faults (attributed built.event origin) payload ds = (.ok false, s) ↔
          Holds s decoded.post ∧ faults.start = false ∧ faults.insertEvent = false ∧ faults.commit = false) ∧
        (∀ faults after, s.createEvent faults (attributed built.event origin) payload ds = (.ok false, after) →
          after = s) ∧
        ∀ faults otherOrigin otherPayload otherDs, ¬SamePost decoded.post otherDecoded.post →
          let after := (s.createEvent faults (attributed other.event otherOrigin) otherPayload otherDs).2
          after.createEvent .none (attributed built.event origin) payload ds = (.ok false, after) ↔
            Holds s decoded.post := by
  obtain ⟨decoded, hdecoded, hevent⟩ := event_of_gatewayEvent hbuilt
  obtain ⟨otherDecoded, hotherDecoded, hotherEvent⟩ := event_of_gatewayEvent hother
  have hid : ∀ origin, (attributed built.event origin).eventId = eventId decoded.post := by
    intro origin
    rw [hevent]
    rfl
  have hotherId : ∀ origin, (attributed other.event origin).eventId = eventId otherDecoded.post := by
    intro origin
    rw [hotherEvent]
    rfl
  refine ⟨decoded, otherDecoded, hdecoded, hotherDecoded, ?_, ?_⟩
  · rw [hevent, hotherEvent]
    exact eventId_eq_iff
  intro s hs origin payload ds
  refine ⟨?_, ?_, ?_⟩
  · intro faults
    rw [createEvent_eq_false_iff, hid, mem_ids_iff hs.keyed]
  · intro faults after h
    rcases createEvent_cases faults (attributed built.event origin) payload ds s with
      ⟨err, heq⟩ | ⟨-, heq⟩ | ⟨-, s', heq, -, -⟩
    · simp [heq] at h
    · rw [heq] at h
      exact (congrArg Prod.snd h).symm
    · simp [heq] at h
  · intro faults otherOrigin otherPayload otherDs hdifferent after
    have hne : eventId decoded.post ≠ (attributed other.event otherOrigin).eventId := by
      rw [hotherId, Ne, eventId_eq_iff]
      exact hdifferent
    rw [createEvent_eq_false_iff, hid, mem_ids_createEvent hne, mem_ids_iff hs.keyed]
    simp [TxFaults.none]

namespace Sample

/-- The value is ingested, and then announced once more. -/
theorem deduplication_exact_announced :
    ∃ built s, gatewayEvent serde "https://ptchan.test" value observedAt = .ok built ∧
      Path (operate serde mac) (fun _ _ => True) .empty [.newPost config [value] observedAt .none] s ∧ Filled s ∧
      s.createEvent .none (attributed built.event none) [] [] = (.ok false, s) := by
  obtain ⟨decoded, hdecoded⟩ : ∃ decoded, DecodedPost.tryFrom serde value = .ok decoded := ⟨_, rfl⟩
  obtain ⟨built, hbuilt⟩ : ∃ built, gatewayEvent serde "https://ptchan.test" value observedAt = .ok built :=
    ⟨_, gatewayEvent_of_decoded serde hdecoded⟩
  have hresolve : resolve (fun _ _ => .ok "secret") parsers file = .ok config := rfl
  obtain ⟨-, hcases, hrefused, -⟩ :=
    ingest_is_exact serde mac config.ptchan.baseUrl observedAt hresolve [value] .empty .none
  obtain ⟨-, hstored⟩ := hcases.resolve_left fun hidle => accepted_value (hrefused.mpr hidle.1)
  obtain ⟨_, _, stored, heq, hsame, hevents, -⟩ := hstored
  cases heq
  rw [hdecoded, Except.ok.injEq] at hsame
  subst hsame
  have hpath : Path (operate serde mac) (fun _ _ => True) .empty [.newPost config [value] observedAt .none] _ :=
    .cons trivial rfl (.nil _)
  obtain ⟨decoded', _, hdecoded', -, -, hstores⟩ := deduplication_exact hbuilt hbuilt
  rw [hdecoded, Except.ok.injEq] at hdecoded'
  subst hdecoded'
  have hfilled := filled_of_operations hpath
  refine ⟨built, _, hbuilt, hpath, hfilled, ((hstores _ hfilled none [] []).1 .none).mpr ⟨?_, rfl, rfl, rfl⟩⟩
  let event := announcedEvent config.ptchan.baseUrl observedAt (.new config.postings) decoded.post
  have hmem := List.mem_append_right Store.empty.events
    (List.mem_singleton_self (newEvent event (serde.codec.write event.toJson)))
  rw [← hevents] at hmem
  exact ⟨_, hmem, rfl, rfl, rfl⟩

end Sample

end PtchanGateway
