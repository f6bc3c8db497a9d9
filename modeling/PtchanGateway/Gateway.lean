import PtchanGateway.DeliveryDurability
import PtchanGateway.DurationRanges
import PtchanGateway.SocketSteps
import PtchanGateway.StoredPayloads

/-!
The running process (`run` of `main.rs`): the session refresh task, the socket supervisor with the ingestion
it calls, the delivery loop and the cleanup task over one store. Their steps interleave in any order. The
transaction of an ingestion is one step and its return another, and the supervisor may be dropped between the
two. A restart keeps the store and brings its own configuration.
-/

namespace PtchanGateway

open TextRfc3339 TextRust JsonValue Config Session Upstream RunSystem

section Ingestion

variable (serde : Serde) (mac : Bytes → Bytes → Bytes)

/-- `new_post` up to the call of `create_event`. -/
def preparePost (baseUrl : String) (arguments : List Json) (observedAt : Instant) (webhooks : List WebhookConfig)
    (origins : OriginMatcher) (fingerprintSecret : Option String) : Option (BuiltEvent × List EventDelivery) :=
  match arguments.head?.filter Json.isObject with
  | none => none
  | some value =>
      match gatewayEvent serde baseUrl value observedAt with
      | .error _ => none
      | .ok built =>
          let event := { built.event with post := origins.annotatePost built.event.post }
          match encodeEvent serde event with
          | .error _ => none
          | .ok payload =>
              let built : BuiltEvent := ⟨event, payload, built.posterIdentity⟩
              match eventDeliveries serde mac built webhooks fingerprintSecret with
              | .error _ => none
              | .ok deliveries => if deliveries.isEmpty then none else some (built, deliveries)

/-- The two halves of `new_post`. -/
theorem newPost_eq (baseUrl : String) (arguments : List Json) (observedAt : Instant) (faults : Store.TxFaults)
    (store : Store) (webhooks : List WebhookConfig) (origins : OriginMatcher) (fingerprintSecret : Option String) :
    newPost serde mac baseUrl arguments observedAt faults store webhooks origins fingerprintSecret =
      match preparePost serde mac baseUrl arguments observedAt webhooks origins fingerprintSecret with
      | none => ⟨none, store, false⟩
      | some (built, deliveries) => storeEvent faults store built deliveries := by
  cases hvalue : arguments.head?.filter Json.isObject with
  | none => simp only [newPost, preparePost, hvalue]
  | some value =>
      cases hbuilt : gatewayEvent serde baseUrl value observedAt with
      | error err => simp only [newPost, preparePost, hvalue, hbuilt]
      | ok built =>
          cases hdeliveries : eventDeliveries serde mac
              ⟨{ built.event with post := origins.annotatePost built.event.post },
                serde.codec.write { built.event with post := origins.annotatePost built.event.post }.toJson,
                built.posterIdentity⟩ webhooks fingerprintSecret with
          | error err => simp only [newPost, preparePost, hvalue, hbuilt, encodeEvent_eq, hdeliveries]
          | ok deliveries =>
              simp only [newPost, preparePost, hvalue, hbuilt, encodeEvent_eq, hdeliveries]
              by_cases hempty : deliveries.isEmpty = true
              · rw [if_pos hempty, if_pos hempty]
              · rw [if_neg hempty, if_neg hempty]

/-- A post of a board that some webhook admits is prepared for each of them. -/
theorem preparePost_of_decoded (baseUrl : String) (observedAt : Instant) (origins : OriginMatcher) {value : Json}
    (rest : List Json) {webhooks : List WebhookConfig} {fingerprintSecret : Option String} {decoded : DecodedPost}
    (hloaded : SecretLoaded webhooks fingerprintSecret) (hobject : value.isObject = true)
    (hdecoded : DecodedPost.tryFrom serde value = .ok decoded)
    (hadmitted : (admitted webhooks decoded.post.board).isEmpty = false) :
    let event := announcedEvent baseUrl observedAt origins decoded.post
    preparePost serde mac baseUrl (value :: rest) observedAt webhooks origins fingerprintSecret =
      some (⟨event, serde.codec.write event.toJson, decoded.posterIdentity⟩,
        (admitted webhooks decoded.post.board).map
          (personalDelivery serde mac event decoded.posterIdentity fingerprintSecret)) := by
  intro event
  have hfirst : (value :: rest).head?.filter Json.isObject = some value := by
    rw [List.head?_cons, Option.filter_some, if_pos hobject]
  simp only [preparePost, hfirst, gatewayEvent_of_decoded serde hdecoded, encodeEvent_eq,
    eventDeliveries_eq serde mac _ hloaded, List.isEmpty_map]
  exact if_neg (by rw [Bool.not_eq_true]; exact hadmitted)

end Ingestion

namespace Gateway

/-- A configuration that `resolve` returned. -/
structure LoadedConfig extends Config where
  resolved : ∃ getSecret parsers file, resolve getSecret parsers file = .ok toConfig

theorem LoadedConfig.resolution (config : LoadedConfig) : Resolution config.toConfig := by
  obtain ⟨getSecret, parsers, file, hresolve⟩ := config.resolved
  exact resolution_of_resolve hresolve

def cleanupInterval : Nat := 3600 * 10 ^ 9

/-- The days before 1970, in nanoseconds. -/
def epochOffset : Int := 719528 * 86400 * 10 ^ 9

/-- Where `cleanup_loop` stands. -/
inductive CleanupPoint where
  | top
  | pruning
  | sleeping (wakeAt : Nat)
  | stopped
  deriving DecidableEq, Repr

inductive CleanupEvent where
  | proceed
  | prune (now : Instant) (succeeds : Bool)
  | elapsed
  | shutdownChanged

/-- How far back `prune_once` reaches. -/
inductive Reach where
  | tooLarge
  | panics
  | beforeEra
  | cutoff (cutoff : Instant)

/-- `Utc::now() - retention`. A cutoff before year 0 stands before every stored text. -/
def reach (retention : Duration) (now : Instant) : Reach :=
  if timeDeltaMax < retention.nanos then .tooLarge
  else if (now.ns : Int) - epochOffset - retention.nanos < dateTimeMin then .panics
  else if now.ns < retention.nanos then .beforeEra
  else .cutoff ⟨now.ns - retention.nanos, Nat.lt_of_le_of_lt (Nat.sub_le _ _) now.inEra⟩

/-- Where an ingestion stands while the supervisor waits for it: before its transaction, or after it with the
event it committed, if any. -/
inductive PostStage where
  | storing
  | stored (committed : Option String)
  deriving DecidableEq, Repr

structure System (Jar : Type) where
  config : LoadedConfig
  socket : Socket.System Jar
  stage : PostStage
  delivery : Delivery.System
  cleanup : CleanupPoint

inductive Action (Jar : Type) where
  | tick (elapsed : Nat)
  | refresh (event : Session.Event)
  | supervise (event : Socket.Event)
  | createEvent (observedAt : Instant) (faults : Store.TxFaults)
  | posted
  | deliver (action : Delivery.Action)
  | cleanup (event : CleanupEvent)
  | shutdown
  | restart (config : LoadedConfig) (cookie : SessionCookie Jar)

/-- The actions of the delivery loop itself. -/
def ofLoop : Delivery.Action → Bool
  | .ingest _ _ _ _ | .notify _ | .prune _ _ | .shutdown | .restart _ => false
  | .check _ | .load _ | .start _ | .answer _ _ _ | .write _ _ | .drain _ | .measure _ | .sleep _ | .wake _ => true

/-- The event that ends an ingestion has an action of its own. -/
def ofIngestion : Socket.Event → Bool
  | .ingested => true
  | _ => false

section Steps

variable {Jar Url : Type} (setup : Socket.Setup Jar Url) (mac : Bytes → Bytes → Bytes) (limit : Nat)

/-- The process has just started on a store. The cookie is read only if a webhook is configured. -/
def System.init (config : LoadedConfig) (cookie : SessionCookie Jar) (store : Store) : System Jar where
  config := config
  socket := .init (!config.webhooks.isEmpty) cookie
  stage := .storing
  delivery := .init store config.webhooks
  cleanup := .top

/-- The libraries with the address of the configuration. -/
def setupOf (config : LoadedConfig) : Socket.Setup Jar Url := { setup with baseUrl := config.ptchan.baseUrl }

/-- What `new_post` makes of its arguments under a configuration. -/
def prepare (config : LoadedConfig) (arguments : List Json) (observedAt : Instant) :
    Option (BuiltEvent × List EventDelivery) :=
  preparePost setup.serde mac config.ptchan.baseUrl arguments observedAt config.webhooks (.new config.postings)
    config.fingerprintSecret

/-- The arguments of the ingestion that the supervisor waits for. -/
def System.ingesting? (s : System Jar) : Option (List Json) :=
  match s.socket.supervisor.point with
  | .running _ (.ingesting _ payload) => some payload
  | _ => none

/-- The event that `create_event` commits, if it does. -/
def committed? (store : Store) (faults : Store.TxFaults) (built : BuiltEvent) (deliveries : List EventDelivery) :
    Option String :=
  match (store.createEvent faults built.event built.payload deliveries).1 with
  | .ok true => some built.event.eventId
  | _ => none

/-- The wakeup that follows a commit. -/
def notify (delivery : Delivery.System) : Option String → Option Delivery.System
  | none => some delivery
  | some eventId => Delivery.step limit delivery (.notify eventId)

/-- One step of `cleanup_loop`. -/
def cleanupStep (s : System Jar) : CleanupEvent → Option (System Jar)
  | .proceed =>
      match s.cleanup with
      | .top => some { s with cleanup := if s.socket.shutdown then .stopped else .pruning }
      | _ => none
  | .prune now succeeds =>
      match s.cleanup with
      | .pruning =>
          let sleeping : CleanupPoint := .sleeping (s.socket.clock + cleanupInterval)
          match reach s.config.storage.eventRetention now with
          | .panics => some { s with cleanup := .stopped }
          | .tooLarge | .beforeEra => some { s with cleanup := sleeping }
          | .cutoff cutoff =>
              (Delivery.step limit s.delivery (.prune cutoff succeeds)).map fun delivery =>
                { s with delivery := delivery, cleanup := sleeping }
      | _ => none
  | .elapsed =>
      match s.cleanup with
      | .sleeping wakeAt => if wakeAt ≤ s.socket.clock then some { s with cleanup := .top } else none
      | _ => none
  | .shutdownChanged =>
      match s.cleanup with
      | .sleeping _ => if s.socket.shutdown then some { s with cleanup := .top } else none
      | _ => none

/-- One step of the process. -/
def step (s : System Jar) : Action Jar → Option (System Jar)
  | .tick elapsed =>
      (Socket.step (setupOf setup s.config) s.socket (.tick elapsed)).map fun socket => { s with socket := socket }
  | .refresh event =>
      (Socket.step (setupOf setup s.config) s.socket (.refresh event)).map fun socket => { s with socket := socket }
  | .supervise event =>
      if ofIngestion event then none
      else
        (Socket.step (setupOf setup s.config) s.socket (.supervise event)).map fun socket =>
          { s with socket := socket, stage := .storing }
  | .createEvent observedAt faults =>
      match s.ingesting?, s.stage with
      | some arguments, .storing =>
          match prepare setup mac s.config arguments observedAt with
          | none => some { s with stage := .stored none }
          | some (built, deliveries) =>
              (Delivery.step limit s.delivery (.ingest faults built.event built.payload deliveries)).map
                fun delivery =>
                  { s with
                    delivery := delivery
                    stage := .stored (committed? s.delivery.store faults built deliveries) }
      | _, _ => none
  | .posted =>
      match s.stage with
      | .storing => none
      | .stored committed => do
          let socket ← Socket.step (setupOf setup s.config) s.socket (.supervise .ingested)
          let delivery ← notify limit s.delivery committed
          some { s with socket := socket, delivery := delivery, stage := .storing }
  | .deliver action =>
      if ofLoop action then
        (Delivery.step limit s.delivery action).map fun delivery => { s with delivery := delivery }
      else none
  | .cleanup event => cleanupStep limit s event
  | .shutdown => do
      let socket ← Socket.step (setupOf setup s.config) s.socket .shutdown
      let delivery ← Delivery.step limit s.delivery .shutdown
      some { s with socket := socket, delivery := delivery }
  | .restart config cookie =>
      (Delivery.step limit s.delivery (.restart config.webhooks)).map fun delivery =>
        { System.init config cookie s.delivery.store with delivery := delivery }

end Steps

end Gateway

end PtchanGateway
