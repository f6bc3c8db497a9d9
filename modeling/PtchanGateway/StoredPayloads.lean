import PtchanGateway.RunSystem
import PtchanGateway.SdkEvents

/-!
The payloads of the delivery rows, over every write the gateway makes to its store, also across restarts
under other configurations. A row gets its payload from the ingestion that inserts it: the event with the
row's id, as the row's webhook may see it under the configuration of that moment. No later write changes
it, so every batch hands out the same bytes until the row is removed.
-/

namespace PtchanGateway

open TextRfc3339 TextRust JsonValue JsonGo Config Upstream Sdk RunSystem Store

/-- A write to the store. -/
inductive Operation where
  | newPost (config : Config) (arguments : List Json) (observedAt : Instant) (faults : TxFaults)
  | markDelivered (eventId webhook : String) (now : Instant)
  | markFailed (eventId webhook error : String) (attempts : Int) (nextAttemptAt : Instant)
  | pruneDeliveredEvents (cutoff : Instant)

section Operations

variable (serde : Serde) (mac : Bytes → Bytes → Bytes)

def operate (store : Store) : Operation → Option Store
  | .newPost config arguments observedAt faults =>
      some (newPost serde mac config.ptchan.baseUrl arguments observedAt faults store config.webhooks
        (.new config.postings) config.fingerprintSecret).store
  | .markDelivered eventId webhook now => some (store.markDelivered eventId webhook now)
  | .markFailed eventId webhook error attempts next => some (store.markFailed eventId webhook error attempts next)
  | .pruneDeliveredEvents cutoff => some (store.pruneDeliveredEvents cutoff).2

/-- An ingestion works under a resolved configuration. -/
def Configured (_ : Store) : Operation → Prop
  | .newPost config _ _ _ => ∃ getSecret parsers file, resolve getSecret parsers file = .ok config
  | _ => True

/-- A configured operation on a store that has the row. -/
def Keeps (key : String × String) (store : Store) (operation : Operation) : Prop :=
  Configured store operation ∧ (store.row? key).isSome = true

/-- A batch hands the delivery out for the row, in the given state or later, before the row is removed. -/
def HandedOut (store : Store) (key : String × String) (delivery : PendingDelivery) : Prop :=
  ∃ operations later limit now deliveries, Path (operate serde mac) (Keeps key) store operations later ∧
    later.pendingDeliveries limit now = .ok deliveries ∧ delivery ∈ deliveries ∧ delivery.key = key

end Operations

section Rows

variable {serde : Serde} {mac : Bytes → Bytes → Bytes} {store after : Store} {key : String × String}
  {row found : DeliveryRow}

/-- Rows of an ingestion stand beside those that were there. -/
theorem row?_of_stored {baseUrl : String} {observedAt : Instant} {config : Config} {arguments : List Json}
    (h : Stored serde mac baseUrl observedAt config store arguments after) (hfound : after.row? key = some found) :
    store.row? key = some found ∨ store.row? key = none ∧
      ∃ value rest decoded, arguments = value :: rest ∧ DecodedPost.tryFrom serde value = .ok decoded ∧
        ∃ webhook ∈ config.webhooks, found = queuedRow serde mac
          (announcedEvent baseUrl observedAt (.new config.postings) decoded.post) decoded.posterIdentity
            config.fingerprintSecret webhook := by
  obtain ⟨value, rest, decoded, harguments, hdecoded, -, hdeliveries⟩ := h
  obtain ⟨hmem, hkey⟩ := row?_eq_some_iff.mp hfound
  cases hrow : store.row? key with
  | some row =>
      obtain ⟨hold, hold'⟩ := row?_eq_some_iff.mp hrow
      have hkept : row ∈ after.deliveries := by
        rw [hdeliveries]
        exact List.mem_append_left _ hold
      exact .inl (congrArg some (eq_of_key hkept hmem (hold'.trans hkey.symm)))
  | none =>
      rw [hdeliveries, List.mem_append] at hmem
      rcases hmem with hold | hnew
      · exact absurd hkey (row?_eq_none_iff.mp hrow found hold)
      · obtain ⟨webhook, hwebhook, heq⟩ := List.mem_map.mp hnew
        exact .inr ⟨rfl, value, rest, decoded, harguments, hdecoded, webhook, List.mem_of_mem_filter hwebhook, heq.symm⟩

/-- No update touches a payload. -/
theorem payload_update {eventId webhook : String} {set : DeliveryRow → DeliveryRow} {hset : ∀ d, (set d).key = d.key}
    (hfound : (store.update eventId webhook set hset).row? key = some found)
    (hpayload : ∀ d, (set d).payload = d.payload) :
    ∃ row, store.row? key = some row ∧ found.payload = row.payload := by
  rw [row?_update] at hfound
  split_ifs at hfound
  · obtain ⟨row, hrow, rfl⟩ := Option.map_eq_some_iff.mp hfound
    exact ⟨row, hrow, hpayload row⟩
  · exact ⟨found, hfound, rfl⟩

/-- A row has its payload from before the operation, or the operation is the ingestion that inserts it. -/
theorem payload_operate {operation : Operation} (hconfigured : Configured store operation)
    (hstep : operate serde mac store operation = some after) (hfound : after.row? key = some found) :
    (∃ row, store.row? key = some row ∧ found.payload = row.payload) ∨
      store.row? key = none ∧ ∃ config arguments observedAt faults,
        operation = .newPost config arguments observedAt faults ∧
        ∃ value rest decoded, arguments = value :: rest ∧ DecodedPost.tryFrom serde value = .ok decoded ∧
          ∃ webhook ∈ config.webhooks, found = queuedRow serde mac
            (announcedEvent config.ptchan.baseUrl observedAt (.new config.postings) decoded.post)
              decoded.posterIdentity config.fingerprintSecret webhook := by
  cases operation with
  | newPost config arguments observedAt faults =>
      obtain ⟨getSecret, parsers, file, hresolve⟩ := hconfigured
      rw [operate, Option.some.injEq] at hstep
      rcases newPost_cases serde mac config.ptchan.baseUrl observedAt (resolution_of_resolve hresolve) arguments with
        ⟨hidle, -⟩ | ⟨-, -, hstored, -⟩
      · rw [← hstep, hidle.store] at hfound
        exact .inl ⟨found, hfound, rfl⟩
      · rw [hstep] at hstored
        rcases row?_of_stored hstored hfound with hold | ⟨hnone, hnew⟩
        · exact .inl ⟨found, hold, rfl⟩
        · exact .inr ⟨hnone, config, arguments, observedAt, faults, rfl, hnew⟩
  | markDelivered eventId webhook now =>
      rw [operate, Option.some.injEq] at hstep
      rw [← hstep, Store.markDelivered] at hfound
      exact .inl (payload_update hfound fun _ => rfl)
  | markFailed eventId webhook error attempts next =>
      rw [operate, Option.some.injEq] at hstep
      rw [← hstep, Store.markFailed] at hfound
      exact .inl (payload_update hfound fun _ => rfl)
  | pruneDeliveredEvents cutoff =>
      rw [operate, Option.some.injEq] at hstep
      rw [← hstep, row?_prune] at hfound
      split_ifs at hfound
      exact .inl ⟨found, hfound, rfl⟩

/-- While the row is kept, so is its payload. -/
theorem payload_of_kept {operations : List Operation} {later : Store}
    (h : Path (operate serde mac) (Keeps key) store operations later) (hrow : store.row? key = some row)
    (hfound : later.row? key = some found) : found.payload = row.payload := by
  have hinvariant := Path.invariant
    (fun s : Store => ∀ held, s.row? key = some held → held.payload = row.payload) ?_ h ?_
  · exact hinvariant found hfound
  · intro s operation s' hinv hkeeps hstep held hheld
    obtain ⟨hconfigured, hpresent⟩ := hkeeps
    rcases payload_operate hconfigured hstep hheld with ⟨old, hold, heq⟩ | ⟨hnone, -⟩
    · rw [heq, hinv old hold]
    · rw [hnone] at hpresent
      cases hpresent
  · intro held hheld
    rw [hrow, Option.some.injEq] at hheld
    rw [hheld]

end Rows

section Payloads

variable {serde : Serde} {mac : Bytes → Bytes → Bytes}

theorem identity_of_tryFrom {value : Json} {decoded : DecodedPost}
    (h : DecodedPost.tryFrom serde value = .ok decoded) : decoded.posterIdentity = posterIdentitySource value := by
  obtain ⟨-, h⟩ := bind_unit_eq_ok.mp h
  obtain ⟨post, -, h⟩ := bind_eq_ok.mp h
  cases h
  rfl

/-- The fingerprint in what a webhook gets is its own or none. -/
theorem posterFingerprint_personalEvent (baseUrl : String) (observedAt : Instant) (origins : OriginMatcher)
    (post : Upstream.Post) (posterIdentity fingerprintSecret : Option String) (webhook : WebhookConfig) :
    (personalEvent mac (announcedEvent baseUrl observedAt origins post) posterIdentity fingerprintSecret
        webhook).post.posterFingerprint =
      if webhook.includePosterFingerprint then
        fingerprintSecret.bind fun secret => posterFingerprint mac secret webhook.name posterIdentity
      else none := by
  rw [personalEvent]
  split_ifs
  · rfl
  · rfl

theorem get?_sorted {members : List (String × Json)} (h : PlainNames members) (name : String) :
    (sorted (.obj members)).get? name = (lookup name members).map sorted := by
  rw [sorted_obj, Json.get?, lookup_mapOrder h]

/-- Reading an encoded event back gives its id and its fingerprint. -/
theorem read_event (serde : Serde) (event : WebhookEvent) :
    ∃ value, serde.codec.read (serde.codec.write event.toJson) = .ok value ∧
      value.get? "event_id" = some (.str event.eventId) ∧
      (value.get? "post").bind (Json.get? "poster_fingerprint") = event.post.posterFingerprint.map .str := by
  have hsafe := event.toJson_safe
  let members : List (String × Json) := [("schema_version", event.schemaVersion.toJson),
    ("event_id", .str event.eventId), ("kind", .str event.kind.asStr), ("source", .str event.source),
    ("observed_at", momentJson event.observedAt.moment), ("post", event.post.toJson)]
  have heq : event.toJson = .obj members := rfl
  have hplain : PlainNames members := ⟨by simp [members], by simp [members, foldName]; decide⟩
  have hid : lookup "event_id" members = some (.str event.eventId) := by simp [members, lookup]
  have hheld : lookup "post" members = some event.post.toJson := by simp [members, lookup]
  obtain ⟨postMembers, hjson, hpost⟩ := toJson_postMembers event.post
  refine ⟨sorted event.toJson,
    serde.codec.read_write _ hsafe.plain (Nat.lt_of_le_of_lt hsafe.shallow (by decide)), ?_, ?_⟩
  · rw [heq, get?_sorted hplain, hid, Option.map_some, sorted_str]
  · rw [heq, get?_sorted hplain, hheld, Option.map_some, Option.bind_some, hjson, get?_sorted hpost.plain,
      hpost.posterFingerprint, Option.map_map]
    exact congrFun (congrArg Option.map (funext sorted_str)) _

end Payloads

section Batches

variable {serde : Serde} {mac : Bytes → Bytes → Bytes} {store : Store}

/-- A batch hands out the payload of the row itself. -/
theorem payload_of_pending {limit : Nat} {now : Instant} {deliveries : List PendingDelivery}
    {delivery : PendingDelivery} (h : store.pendingDeliveries limit now = .ok deliveries)
    (hmem : delivery ∈ deliveries) :
    ∃ row, store.row? delivery.key = some row ∧ delivery.payload = row.payload.getD (store.eventPayload row) := by
  have hlimit : limit < 2 ^ 63 := by
    by_contra hlarge
    rw [pendingDeliveries, if_neg hlarge] at h
    cases h
  rw [pendingDeliveries_eq hlimit, Except.ok.injEq] at h
  subst h
  obtain ⟨row, hrow, rfl⟩ := List.mem_map.mp hmem
  exact ⟨row, (mem_loaded hrow).1, rfl⟩

/-- In every reachable store, each row was inserted by an ingestion of the run and has been there since. Its
payload, the same in every batch until the row is removed, reads back as an event with the row's id, and
holds a fingerprint only if the webhook asked for one under the configuration of that ingestion: the one
in the webhook's own scope. -/
theorem stored_payloads_match_rows (serde : Serde) (mac : Bytes → Bytes → Bytes) {operations : List Operation}
    (h : Path (operate serde mac) Configured .empty operations store) {row : DeliveryRow}
    (hrow : row ∈ store.deliveries) :
    ∃ before config arguments observedAt faults after previous inserted,
      operations = before ++ .newPost config arguments observedAt faults :: after ∧
      Path (operate serde mac) Configured .empty before previous ∧ previous.row? row.key = none ∧
      operate serde mac previous (.newPost config arguments observedAt faults) = some inserted ∧
      Path (operate serde mac) (Keeps row.key) inserted after store ∧
      ∃ post rest webhook payload value, arguments = post :: rest ∧
        webhook ∈ config.webhooks ∧ webhook.name = row.webhook ∧
        (∀ delivery, HandedOut serde mac store row.key delivery →
          delivery.payload = payload ∧ ∀ endpoint timestamp,
            let request := Webhook.deliveryRequest mac endpoint delivery.eventId timestamp delivery.payload
            request.body = payload ∧ request.headers.lookup "x-ptchan-event-id" = some row.eventId) ∧
        serde.codec.read payload = .ok value ∧ value.get? "event_id" = some (.str row.eventId) ∧
        (value.get? "post").bind (Json.get? "poster_fingerprint") =
          (if webhook.includePosterFingerprint then config.fingerprintSecret.bind fun secret =>
            posterFingerprint mac secret row.webhook (posterIdentitySource post) else none).map .str := by
  have hheld : store.row? row.key = some row := row?_eq_some_iff.mpr ⟨hrow, rfl⟩
  rcases h.since (fun s => (s.row? row.key).isSome = true) (by rw [hheld]; rfl) with
    ⟨hempty, -⟩ | ⟨before, operation, after, previous, inserted, hsplit, hbefore, hconfigured, hstep, habsent,
      hpresent, hkept⟩
  · cases hempty
  obtain ⟨first, hfirst⟩ := Option.isSome_iff_exists.mp hpresent
  rcases payload_operate hconfigured hstep hfirst with ⟨old, hold, -⟩ | ⟨hnone, config, arguments, observedAt, faults,
    rfl, post, rest, decoded, harguments, hdecoded, webhook, hwebhook, heq⟩
  · rw [hold] at habsent
    exact absurd rfl habsent
  let event := personalEvent mac (announcedEvent config.ptchan.baseUrl observedAt (.new config.postings) decoded.post)
    decoded.posterIdentity config.fingerprintSecret webhook
  have hpayload : first.payload = some (serde.codec.write event.toJson) := by rw [heq]; rfl
  have hkey : first.key = row.key := (row?_eq_some_iff.mp hfirst).2
  rw [heq] at hkey
  have hname : webhook.name = row.webhook := congrArg Prod.snd hkey
  have hid : event.eventId = row.eventId :=
    (personalEvent_frame mac _ _ _ webhook).1.trans (congrArg Prod.fst hkey)
  obtain ⟨value, hread, heventId, hfingerprint⟩ := read_event serde event
  refine ⟨before, config, arguments, observedAt, faults, after, previous, inserted, hsplit, hbefore, hnone, hstep,
    hkept, post, rest, webhook, serde.codec.write event.toJson, value, harguments, hwebhook, hname, ?_, hread, ?_, ?_⟩
  · intro delivery hdelivery
    obtain ⟨_, later, limit, now, deliveries, hpath, hpending, hmem, hsame⟩ := hdelivery
    obtain ⟨found, hfound, hhanded⟩ := payload_of_pending hpending hmem
    rw [hsame] at hfound
    have hsent : delivery.payload = serde.codec.write event.toJson := by
      rw [hhanded, payload_of_kept hpath hheld hfound, payload_of_kept hkept hfirst hheld, hpayload, Option.getD_some]
    have heventId : delivery.eventId = row.eventId := congrArg Prod.fst hsame
    refine ⟨hsent, fun endpoint timestamp => ⟨hsent, ?_⟩⟩
    rw [heventId]
    rfl
  · rw [heventId, hid]
  · rw [hfingerprint, posterFingerprint_personalEvent, identity_of_tryFrom hdecoded, hname]

end Batches

namespace Sample

theorem stored_payloads_match_rows_announced :
    ∃ store, Path (operate serde mac) Configured .empty [.newPost config [value] observedAt .none] store ∧
      ∃ row ∈ store.deliveries, row.webhook = "alerts" ∧ ∃ payload stored,
        (∀ delivery, HandedOut serde mac store row.key delivery → delivery.payload = payload) ∧
        serde.codec.read payload = .ok stored ∧ stored.get? "event_id" = some (.str row.eventId) := by
  have hresolve : resolve (fun _ _ => .ok "secret") parsers file = .ok config := rfl
  obtain ⟨decoded, hdecoded⟩ : ∃ decoded, DecodedPost.tryFrom serde value = .ok decoded := ⟨_, rfl⟩
  have hread := Sdk.readFrom_of_tryFrom rfl hdecoded
  have hrow := stored_rows rfl hdecoded (Option.some.inj hread.board).symm
  have hpath : Path (operate serde mac) Configured .empty [.newPost config [value] observedAt .none]
      (newPost serde mac "https://ptchan.test" [value] observedAt .none .empty config.webhooks
        (.new config.postings) config.fingerprintSecret).store :=
    .cons ⟨_, parsers, file, hresolve⟩ rfl (.nil _)
  obtain ⟨_, _, _, _, _, _, _, _, -, -, -, -, -, _, _, _, payload, stored, -, -, -, hhanded, hstored, hid, -⟩ :=
    stored_payloads_match_rows serde mac hpath hrow
  exact ⟨_, hpath, _, hrow, rfl, payload, stored, fun delivery h => (hhanded delivery h).1, hstored, hid⟩

end Sample

end PtchanGateway
