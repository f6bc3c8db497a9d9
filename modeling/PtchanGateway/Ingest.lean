import PtchanGateway.ConfigFacts
import PtchanGateway.Event
import PtchanGateway.JsonText
import PtchanGateway.StoreFacts

/-!
Ingesting a `newPost` (`socket/ingest.rs`, `origin.rs`). The event is built from the first argument,
attributed by its public tripcode and encoded once for the store and once for each webhook that admits its
board; one transaction stores them all, and the delivery loop is woken when it has. Under a resolved
configuration no webhook stands in another's way, so that the event is stored exactly when its argument is
accepted, some webhook admits it, it is new and the database refuses nothing.
-/

namespace PtchanGateway

open TextRfc3339 TextRust JsonValue Config Upstream

/-- Integration names by public tripcode, in the order of insertion. -/
structure OriginMatcher where
  integrations : List (String × String)

namespace OriginMatcher

def new (postings : List PostingConfig) : OriginMatcher :=
  ⟨postings.map fun posting => (posting.publicTripcode, posting.name)⟩

def get? (matcher : OriginMatcher) (tripcode : String) : Option String :=
  (collectBy Prod.fst matcher.integrations tripcode).map Prod.snd

def annotatePost (matcher : OriginMatcher) (post : Post) : Post :=
  { post with origin := (post.tripcode.bind matcher.get?).map fun name => ⟨.integration, name⟩ }

def annotateThread (matcher : OriginMatcher) (thread : Thread) : Thread :=
  { thread with posts := thread.posts.map matcher.annotatePost }

end OriginMatcher

section Deliveries

variable (serde : Serde) (mac : Bytes → Bytes → Bytes)

/-- The event as one webhook gets it. -/
def deliveredEvent (built : BuiltEvent) (fingerprintSecret : Option String) (webhook : WebhookConfig) :
    Except Chain WebhookEvent :=
  if webhook.includePosterFingerprint then
    match fingerprintSecret with
    | none => bail "poster fingerprint secret is not loaded"
    | some secret =>
        .ok { built.event with post := { built.event.post with
          posterFingerprint := posterFingerprint mac secret webhook.name built.posterIdentity } }
  else .ok built.event

def eventDelivery (built : BuiltEvent) (fingerprintSecret : Option String) (webhook : WebhookConfig) :
    Except Chain EventDelivery := do
  let event ← deliveredEvent mac built fingerprintSecret webhook
  let payload ← encodeEvent serde event
  pure ⟨webhook.name, payload⟩

def eventDeliveries (built : BuiltEvent) (webhooks : List WebhookConfig) (fingerprintSecret : Option String) :
    Except Chain (List EventDelivery) :=
  (webhooks.filter fun webhook => webhook.boardAllowed built.event.post.board).mapM
    (eventDelivery serde mac built fingerprintSecret)

/-- What `new_post` did: the answer of `create_event` if it was called, the store and the wakeup. -/
structure Ingestion where
  created : Option (Except String Bool)
  store : Store
  notified : Bool

def storeEvent (faults : Store.TxFaults) (store : Store) (built : BuiltEvent) (deliveries : List EventDelivery) :
    Ingestion :=
  match store.createEvent faults built.event built.payload deliveries with
  | (.ok true, store) => ⟨some (.ok true), store, true⟩
  | (.ok false, store) => ⟨some (.ok false), store, false⟩
  | (.error err, store) => ⟨some (.error err), store, false⟩

def newPost (baseUrl : String) (arguments : List Json) (observedAt : Instant) (faults : Store.TxFaults)
    (store : Store) (webhooks : List WebhookConfig) (origins : OriginMatcher)
    (fingerprintSecret : Option String) : Ingestion :=
  match arguments.head?.filter Json.isObject with
  | none => ⟨none, store, false⟩
  | some value =>
      match gatewayEvent serde baseUrl value observedAt with
      | .error _ => ⟨none, store, false⟩
      | .ok built =>
          let event := { built.event with post := origins.annotatePost built.event.post }
          match encodeEvent serde event with
          | .error _ => ⟨none, store, false⟩
          | .ok payload =>
              let built : BuiltEvent := ⟨event, payload, built.posterIdentity⟩
              match eventDeliveries serde mac built webhooks fingerprintSecret with
              | .error _ => ⟨none, store, false⟩
              | .ok deliveries =>
                  if deliveries.isEmpty then ⟨none, store, false⟩
                  else storeEvent faults store built deliveries

/-! ### What is stored -/

/-- The event a decoded post is announced by. -/
def announcedEvent (baseUrl : String) (observedAt : Instant) (origins : OriginMatcher) (post : Upstream.Post) :
    WebhookEvent :=
  { webhookEvent baseUrl post observedAt with
    post := origins.annotatePost (webhookEvent baseUrl post observedAt).post }

/-- An event with the pseudonym its webhook may see. -/
def personalEvent (event : WebhookEvent) (posterIdentity fingerprintSecret : Option String)
    (webhook : WebhookConfig) : WebhookEvent :=
  if webhook.includePosterFingerprint then
    let pseudonym := fingerprintSecret.bind fun secret => posterFingerprint mac secret webhook.name posterIdentity
    { event with post := { event.post with posterFingerprint := pseudonym } }
  else event

def personalDelivery (event : WebhookEvent) (posterIdentity fingerprintSecret : Option String)
    (webhook : WebhookConfig) : EventDelivery :=
  ⟨webhook.name, serde.codec.write (personalEvent mac event posterIdentity fingerprintSecret webhook).toJson⟩

def admitted (webhooks : List WebhookConfig) (board : String) : List WebhookConfig :=
  webhooks.filter fun webhook => webhook.boardAllowed board

/-- Every webhook that asks for fingerprints has the secret. -/
def SecretLoaded (webhooks : List WebhookConfig) (fingerprintSecret : Option String) : Prop :=
  ∀ webhook ∈ webhooks, webhook.includePosterFingerprint = true → fingerprintSecret.isSome = true

variable {webhooks : List WebhookConfig} {fingerprintSecret : Option String}

theorem eventDelivery_eq (built : BuiltEvent) {webhook : WebhookConfig}
    (h : webhook.includePosterFingerprint = true → fingerprintSecret.isSome = true) :
    eventDelivery serde mac built fingerprintSecret webhook =
      .ok (personalDelivery serde mac built.event built.posterIdentity fingerprintSecret webhook) := by
  have hevent : deliveredEvent mac built fingerprintSecret webhook =
      .ok (personalEvent mac built.event built.posterIdentity fingerprintSecret webhook) := by
    unfold deliveredEvent personalEvent
    by_cases hincludes : webhook.includePosterFingerprint = true
    · obtain ⟨secret, rfl⟩ := Option.isSome_iff_exists.1 (h hincludes)
      rw [if_pos hincludes, if_pos hincludes]
      rfl
    · rw [if_neg hincludes, if_neg hincludes]
  rw [eventDelivery, hevent]
  simp only [encodeEvent_eq, personalDelivery, bind, Except.bind, pure, Except.pure]

theorem eventDeliveries_eq (built : BuiltEvent) (h : SecretLoaded webhooks fingerprintSecret) :
    eventDeliveries serde mac built webhooks fingerprintSecret =
      .ok ((admitted webhooks built.event.post.board).map
        (personalDelivery serde mac built.event built.posterIdentity fingerprintSecret)) := by
  apply mapM_eq_ok
  intro webhook hwebhook
  exact eventDelivery_eq serde mac built (h webhook (List.mem_of_mem_filter hwebhook))

theorem gatewayEvent_of_decoded {baseUrl : String} {value : Json} {observedAt : Instant} {decoded : DecodedPost}
    (h : DecodedPost.tryFrom serde value = .ok decoded) :
    gatewayEvent serde baseUrl value observedAt =
      .ok ⟨webhookEvent baseUrl decoded.post observedAt,
        serde.codec.write (webhookEvent baseUrl decoded.post observedAt).toJson, decoded.posterIdentity⟩ := by
  rw [gatewayEvent, decodeAs, h]
  simp only [bind, Except.bind, encodeEvent_eq, pure, Except.pure]

theorem gatewayEvent_of_rejected {baseUrl : String} {value : Json} {observedAt : Instant} {causes : Chain}
    (h : DecodedPost.tryFrom serde value = .error causes) :
    gatewayEvent serde baseUrl value observedAt =
      bail ("decode upstream newPost: " ++ causes.headD "") := by
  rw [gatewayEvent, decodeAs, h]
  rfl

/-- What is built is built of a decoded post. -/
theorem decoded_of_gatewayEvent {baseUrl : String} {value : Json} {observedAt : Instant} {built : BuiltEvent}
    (h : gatewayEvent serde baseUrl value observedAt = .ok built) :
    ∃ decoded, DecodedPost.tryFrom serde value = .ok decoded ∧
      built = ⟨webhookEvent baseUrl decoded.post observedAt,
        serde.codec.write (webhookEvent baseUrl decoded.post observedAt).toJson, decoded.posterIdentity⟩ := by
  cases hdecoded : DecodedPost.tryFrom serde value with
  | error causes =>
      rw [gatewayEvent_of_rejected serde hdecoded] at h
      cases h
  | ok decoded =>
      rw [gatewayEvent_of_decoded serde hdecoded, Except.ok.injEq] at h
      exact ⟨decoded, rfl, h.symm⟩

section NewPost

variable (baseUrl : String) (observedAt : Instant) (faults : Store.TxFaults) (store : Store)
  (origins : OriginMatcher) {arguments : List Json}

theorem newPost_of_no_object (h : arguments.head?.filter Json.isObject = none) :
    newPost serde mac baseUrl arguments observedAt faults store webhooks origins fingerprintSecret =
      ⟨none, store, false⟩ := by
  rw [newPost, h]

theorem newPost_of_rejected {value : Json} {rest : List Json} {causes : Chain}
    (hrejected : DecodedPost.tryFrom serde value = .error causes) :
    newPost serde mac baseUrl (value :: rest) observedAt faults store webhooks origins fingerprintSecret =
      ⟨none, store, false⟩ := by
  rw [newPost]
  cases hobject : ((value :: rest).head?.filter Json.isObject) with
  | none => rfl
  | some first =>
      obtain ⟨hhead, -⟩ := Option.filter_eq_some_iff.1 hobject
      rw [List.head?_cons, Option.some.injEq] at hhead
      subst hhead
      simp only [gatewayEvent_of_rejected serde hrejected, bail]

theorem newPost_of_decoded {value : Json} {rest : List Json} {decoded : DecodedPost}
    (hloaded : SecretLoaded webhooks fingerprintSecret) (hobject : value.isObject = true)
    (hdecoded : DecodedPost.tryFrom serde value = .ok decoded) :
    let event := announcedEvent baseUrl observedAt origins decoded.post
    newPost serde mac baseUrl (value :: rest) observedAt faults store webhooks origins fingerprintSecret =
      if (admitted webhooks decoded.post.board).isEmpty then ⟨none, store, false⟩
      else storeEvent faults store ⟨event, serde.codec.write event.toJson, decoded.posterIdentity⟩
        ((admitted webhooks decoded.post.board).map
          (personalDelivery serde mac event decoded.posterIdentity fingerprintSecret)) := by
  intro event
  have hfirst : (value :: rest).head?.filter Json.isObject = some value := by
    rw [List.head?_cons, Option.filter_some, if_pos hobject]
  simp only [newPost, hfirst, gatewayEvent_of_decoded serde hdecoded, encodeEvent_eq,
    eventDeliveries_eq serde mac _ hloaded, List.isEmpty_map]
  rfl

end NewPost

/-- Nothing was stored and nobody was woken. -/
structure Ingestion.Idle (ingestion : Ingestion) (store : Store) : Prop where
  created : ingestion.created ≠ some (.ok true)
  store : ingestion.store = store
  notified : ingestion.notified = false

/-- The event and its deliveries were stored, and the delivery loop was woken. -/
structure Ingestion.Stores (ingestion : Ingestion) (store : Store) (event : WebhookEvent) (payload : Bytes)
    (deliveries : List EventDelivery) : Prop where
  created : ingestion.created = some (.ok true)
  events : ingestion.store.events = store.events ++ [Store.newEvent event payload]
  deliveries : ingestion.store.deliveries =
    store.deliveries ++ deliveries.map (Store.newDelivery event.eventId event.observedAt.toRfc3339)
  notified : ingestion.notified = true

theorem storeEvent_cases (faults : Store.TxFaults) (store : Store) (built : BuiltEvent)
    {deliveries : List EventDelivery} (hnodup : (deliveries.map EventDelivery.webhook).Nodup) :
    ((storeEvent faults store built deliveries).Idle store ∧
      ¬(built.event.eventId ∉ store.events.map EventRow.id ∧
        faults.Spare (deliveries.map EventDelivery.webhook))) ∨
    ((storeEvent faults store built deliveries).Stores store built.event built.payload deliveries ∧
      built.event.eventId ∉ store.events.map EventRow.id ∧
        faults.Spare (deliveries.map EventDelivery.webhook)) := by
  rw [← Store.createEvent_eq_true_iff built.payload hnodup]
  unfold storeEvent
  rcases Store.createEvent_cases faults built.event built.payload deliveries store with
    ⟨err, heq⟩ | ⟨-, heq⟩ | ⟨-, after, heq, hevents, hdeliveries⟩
  · rw [heq]
    exact .inl ⟨⟨by simp, rfl, rfl⟩, by simp⟩
  · rw [heq]
    exact .inl ⟨⟨by simp, rfl, rfl⟩, by simp⟩
  · rw [heq]
    exact .inr ⟨⟨rfl, hevents, hdeliveries, rfl⟩, rfl⟩

end Deliveries

section Exactness

variable (serde : Serde) (mac : Bytes → Bytes → Bytes) (baseUrl : String) (observedAt : Instant)

/-- The reasons for which an argument list is not stored. -/
inductive Refused (webhooks : List WebhookConfig) (store : Store) (faults : Store.TxFaults) : List Json → Prop
  | missing : Refused webhooks store faults []
  | notObject {value : Json} {rest : List Json} (h : value.isObject = false) :
      Refused webhooks store faults (value :: rest)
  | rejected {value : Json} {rest : List Json} {causes : Chain}
      (h : DecodedPost.tryFrom serde value = .error causes) : Refused webhooks store faults (value :: rest)
  | unadmitted {value : Json} {rest : List Json} {decoded : DecodedPost}
      (h : DecodedPost.tryFrom serde value = .ok decoded)
      (hboards : ∀ webhook ∈ webhooks, webhook.boardAllowed decoded.post.board = false) :
      Refused webhooks store faults (value :: rest)
  | duplicate {value : Json} {rest : List Json} {decoded : DecodedPost}
      (h : DecodedPost.tryFrom serde value = .ok decoded)
      (hstored : eventId decoded.post ∈ store.events.map EventRow.id) :
      Refused webhooks store faults (value :: rest)
  | faulted {value : Json} {rest : List Json} {decoded : DecodedPost}
      (h : DecodedPost.tryFrom serde value = .ok decoded)
      (hfaults : ¬faults.Spare ((admitted webhooks decoded.post.board).map WebhookConfig.name)) :
      Refused webhooks store faults (value :: rest)

/-- The row of one webhook that admits the event. -/
def queuedRow (event : WebhookEvent) (posterIdentity fingerprintSecret : Option String)
    (webhook : WebhookConfig) : DeliveryRow where
  eventId := event.eventId
  webhook := webhook.name
  status := .pending
  attempts := 0
  nextAttemptAt := event.observedAt.toRfc3339
  payload := some (serde.codec.write (personalEvent mac event posterIdentity fingerprintSecret webhook).toJson)
  lastError := none
  deliveredAt := none

/-- The first argument was accepted, and the tables grew by its event and by one row for each webhook that
admits its board. -/
def Stored (config : Config) (store : Store) (arguments : List Json) (after : Store) : Prop :=
  ∃ value rest decoded, arguments = value :: rest ∧ DecodedPost.tryFrom serde value = .ok decoded ∧
    let event := announcedEvent baseUrl observedAt (.new config.postings) decoded.post
    after.events = store.events ++ [Store.newEvent event (serde.codec.write event.toJson)] ∧
    after.deliveries = store.deliveries ++
      (config.webhooks.filter fun webhook => webhook.boardAllowed decoded.post.board).map
        (queuedRow serde mac event decoded.posterIdentity config.fingerprintSecret)

variable {serde} {config : Config} {webhooks : List WebhookConfig} {store : Store} {faults : Store.TxFaults}
  {value : Json} {rest : List Json} {decoded : DecodedPost}

theorem refused_iff_of_decoded (hobject : value.isObject = true)
    (hdecoded : DecodedPost.tryFrom serde value = .ok decoded) :
    Refused serde webhooks store faults (value :: rest) ↔
      (admitted webhooks decoded.post.board).isEmpty = true ∨
        ¬(eventId decoded.post ∉ store.events.map EventRow.id ∧
          faults.Spare ((admitted webhooks decoded.post.board).map WebhookConfig.name)) := by
  have hempty : (admitted webhooks decoded.post.board).isEmpty = true ↔
      ∀ webhook ∈ webhooks, webhook.boardAllowed decoded.post.board = false := by
    simp [admitted]
  rw [hempty]
  refine ⟨?_, ?_⟩
  · rintro (_ | h | h | ⟨h, hboards⟩ | ⟨h, hstored⟩ | ⟨h, hfaults⟩)
    · rw [hobject] at h
      exact absurd h (by decide)
    · rw [hdecoded] at h
      exact absurd h (by simp)
    all_goals
      rw [hdecoded, Except.ok.injEq] at h
      subst h
    · exact .inl hboards
    · exact .inr fun hnew => hnew.1 hstored
    · exact .inr fun hnew => hfaults hnew.2
  · rintro (hboards | hreason)
    · exact .unadmitted hdecoded hboards
    · by_cases hstored : eventId decoded.post ∈ store.events.map EventRow.id
      · exact .duplicate hdecoded hstored
      · exact .faulted hdecoded fun hspare => hreason ⟨hstored, hspare⟩

variable (serde)

theorem newPost_decoded_cases (hresolved : Resolution config) (hobject : value.isObject = true)
    (hdecoded : DecodedPost.tryFrom serde value = .ok decoded) :
    let ingestion := newPost serde mac baseUrl (value :: rest) observedAt faults store config.webhooks
      (.new config.postings) config.fingerprintSecret
    (ingestion.Idle store ∧ Refused serde config.webhooks store faults (value :: rest)) ∨
      (ingestion.created = some (.ok true) ∧ ingestion.notified = true ∧
        Stored serde mac baseUrl observedAt config store (value :: rest) ingestion.store ∧
        ¬Refused serde config.webhooks store faults (value :: rest)) := by
  intro ingestion
  let event := announcedEvent baseUrl observedAt (.new config.postings) decoded.post
  have heq : ingestion = _ := newPost_of_decoded serde mac baseUrl observedAt faults store
    (.new config.postings) hresolved.fingerprintSecret hobject hdecoded
  rw [refused_iff_of_decoded hobject hdecoded]
  by_cases hempty : (admitted config.webhooks decoded.post.board).isEmpty = true
  · rw [if_pos hempty] at heq
    rw [heq]
    exact .inl ⟨⟨by simp, rfl, rfl⟩, .inl hempty⟩
  rw [if_neg hempty] at heq
  have hnodup : ((admitted config.webhooks decoded.post.board).map WebhookConfig.name).Nodup :=
    (List.filter_sublist.map _).nodup hresolved.webhookNames
  have hnames : ((admitted config.webhooks decoded.post.board).map (personalDelivery serde mac event
      decoded.posterIdentity config.fingerprintSecret)).map EventDelivery.webhook =
      (admitted config.webhooks decoded.post.board).map WebhookConfig.name := by
    rw [List.map_map]
    rfl
  have hcases := storeEvent_cases faults store
    ⟨event, serde.codec.write event.toJson, decoded.posterIdentity⟩ (hnames.symm ▸ hnodup)
  rw [hnames, ← heq] at hcases
  rcases hcases with ⟨hidle, hreason⟩ | ⟨hstores, hnew⟩
  · exact .inl ⟨hidle, .inr hreason⟩
  · refine .inr ⟨hstores.created, hstores.notified, ⟨value, rest, decoded, rfl, hdecoded, hstores.events, ?_⟩, ?_⟩
    · rw [hstores.deliveries, List.map_map]
      rfl
    · rintro (h | h)
      · exact hempty h
      · exact h hnew

theorem newPost_cases (hresolved : Resolution config) (arguments : List Json) :
    let ingestion := newPost serde mac baseUrl arguments observedAt faults store config.webhooks
      (.new config.postings) config.fingerprintSecret
    (ingestion.Idle store ∧ Refused serde config.webhooks store faults arguments) ∨
      (ingestion.created = some (.ok true) ∧ ingestion.notified = true ∧
        Stored serde mac baseUrl observedAt config store arguments ingestion.store ∧
        ¬Refused serde config.webhooks store faults arguments) := by
  intro ingestion
  have hidle : ingestion = ⟨none, store, false⟩ → ingestion.Idle store := by
    intro heq
    rw [heq]
    exact ⟨by simp, rfl, rfl⟩
  rcases arguments with - | ⟨value, rest⟩
  · exact .inl ⟨hidle (newPost_of_no_object serde mac baseUrl observedAt faults store _ rfl), .missing⟩
  by_cases hobject : value.isObject = true
  · cases hdecoded : DecodedPost.tryFrom serde value with
    | error causes =>
        exact .inl ⟨hidle (newPost_of_rejected serde mac baseUrl observedAt faults store _ hdecoded),
          .rejected hdecoded⟩
    | ok decoded => exact newPost_decoded_cases serde mac baseUrl observedAt hresolved hobject hdecoded
  · have hnone : (value :: rest).head?.filter Json.isObject = none := by
      rw [List.head?_cons, Option.filter_some, if_neg hobject]
    exact .inl ⟨hidle (newPost_of_no_object serde mac baseUrl observedAt faults store _ hnone),
      .notObject (Bool.not_eq_true _ ▸ hobject)⟩

/-- Ingest is exact and atomic: under a resolved configuration the deliveries can always be prepared, the
tables stay as they were or grow by one event and its rows, the former exactly for the listed reasons, and
the delivery loop is woken exactly in the latter case. -/
theorem ingest_is_exact {getSecret : String → String → Except Chain String} {parsers : Parsers}
    {file : FileConfig} (hresolve : resolve getSecret parsers file = .ok config) (arguments : List Json)
    (store : Store) (faults : Store.TxFaults) :
    let ingestion := newPost serde mac baseUrl arguments observedAt faults store config.webhooks
      (.new config.postings) config.fingerprintSecret
    (∀ built, ∃ deliveries,
      eventDeliveries serde mac built config.webhooks config.fingerprintSecret = .ok deliveries) ∧
    ((ingestion.created ≠ some (.ok true) ∧ ingestion.store = store) ∨
      (ingestion.created = some (.ok true) ∧
        Stored serde mac baseUrl observedAt config store arguments ingestion.store)) ∧
    (Refused serde config.webhooks store faults arguments ↔ ingestion.created ≠ some (.ok true)) ∧
    (ingestion.notified = true ↔ ingestion.created = some (.ok true)) := by
  intro ingestion
  have hresolved := resolution_of_resolve hresolve
  refine ⟨fun built => ⟨_, eventDeliveries_eq serde mac built hresolved.fingerprintSecret⟩, ?_⟩
  rcases newPost_cases serde mac baseUrl observedAt hresolved arguments with
    ⟨hidle, hrefused⟩ | ⟨hcreated, hnotified, hstored, hrefused⟩
  · refine ⟨.inl ⟨hidle.created, hidle.store⟩, iff_of_true hrefused hidle.created, iff_of_false ?_ hidle.created⟩
    rw [hidle.notified]
    exact Bool.false_ne_true
  · exact ⟨.inr ⟨hcreated, hstored⟩, iff_of_false hrefused fun h => h hcreated, iff_of_true hnotified hcreated⟩

end Exactness

namespace Sample

/-- JSON texts and RFC 3339 dates. -/
def serde : Serde := ⟨JsonText.codec, parseRfc3339, fun _ => (".", "invalid value")⟩

/-- The MAC of the poster below under the secret below. -/
def mac (_ _ : Bytes) : Bytes :=
  [179, 106, 169, 106, 183, 126, 241, 234, 8, 131, 65, 98, 145, 5, 42, 230, 244, 253, 180, 143,
    151, 16, 215, 53, 229, 215, 227, 253, 239, 69, 150, 102]

def parsers : Parsers := ⟨fun _ => .ok (), fun _ => .ok ()⟩

def file : FileConfig where
  ptchan := ⟨"https://ptchan.test"⟩
  runtime := .default
  storage := ⟨"gateway.db", defaultEventRetention⟩
  integrations := [⟨"alerts", ["i"], none, some ⟨"http://alerts.test/", true⟩, none, .default⟩]

def config : Config where
  ptchan := ⟨"https://ptchan.test"⟩
  runtime := .default
  storage := ⟨"gateway.db", defaultEventRetention⟩
  integrations := [⟨"alerts", ["i"], false, .default, "secret"⟩]
  webhooks := [⟨"alerts", "http://alerts.test/", ["i"], true, "secret"⟩]
  postings := []
  fingerprintSecret := some "secret"

def value : Json :=
  .obj [("board", .str "i"), ("date", .str "2026-07-19T12:00:00Z"), ("ip", .obj [("cloak", .str " c ")]),
    ("postId", .num (.int 101))]

def observedAt : Instant := ⟨63951681601 * 10 ^ 9, by decide⟩

/-- A new store does not refuse the value. -/
theorem accepted_value : ¬Refused serde config.webhooks .empty .none [value] := by
  rw [refused_iff_of_decoded rfl rfl]
  rintro (hempty | hreason)
  · exact absurd hempty (by decide)
  · exact hreason ⟨List.not_mem_nil, rfl, rfl, fun _ _ => rfl, rfl⟩

theorem ingest_is_exact_announced :
    resolve (fun _ _ => .ok "secret") parsers file = .ok config ∧
      (newPost serde mac "https://ptchan.test" [value] observedAt .none .empty config.webhooks
        (.new config.postings) config.fingerprintSecret).created = some (.ok true) := by
  have hresolve : resolve (fun _ _ => .ok "secret") parsers file = .ok config := rfl
  have hexact := ingest_is_exact serde mac "https://ptchan.test" observedAt hresolve [value] .empty .none
  exact ⟨hresolve, by_contra fun hcreated => accepted_value (hexact.2.2.1.2 hcreated)⟩

end Sample

end PtchanGateway
