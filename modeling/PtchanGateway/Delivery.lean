import PtchanGateway.Config
import PtchanGateway.Store

/-!
The delivery loop (`webhook.rs`) beside ingestion, retention and restarts, as a step function. Each await
of the loop ends a step: a clock reading and the store call that uses it are two steps, and so are an
HTTP answer and the call that records it. Up to sixteen deliveries of a batch are under way at once and
finish in any order. Any store call may fail. A restart keeps the store and nothing else, and may bring
another configuration. The history is a ghost: it lists what happened, the latest first.
-/

namespace PtchanGateway

open TextRfc3339 JsonValue Config

/-- A reading of the clock that leaves room for a backoff within the era. -/
structure Reading where
  ns : Nat
  inEra : ns + 300 * 10 ^ 9 < 3652425 * 86400 * 10 ^ 9
  deriving DecidableEq

theorem deliveryBackoff_le (attempts : Int) : deliveryBackoff attempts ≤ 300 := min_le_right _ _

theorem deliveryBackoff_pos (attempts : Int) : 0 < deliveryBackoff attempts :=
  lt_min (Nat.pow_pos (by decide)) (by decide)

namespace Reading

/-- The reading at so many nanoseconds, counted around the era less the room. -/
def ofNanos (ns : Nat) : Reading where
  ns := ns % ((3652425 * 86400 - 300) * 10 ^ 9)
  inEra := by omega

def instant (now : Reading) : Instant := ⟨now.ns, by have := now.inEra; omega⟩

/-- `Utc::now() + backoff`. -/
def afterBackoff (now : Reading) (attempts : Int) : Instant where
  ns := now.ns + deliveryBackoff attempts * 10 ^ 9
  inEra :=
    lt_of_le_of_lt (Nat.add_le_add_left (Nat.mul_le_mul_right _ (deliveryBackoff_le attempts)) _) now.inEra

end Reading

namespace Delivery

def idleSweepInterval : Nat := 60 * 10 ^ 9

def deliveryConcurrency : Nat := 16

def batchLimit : Nat := 50

/-- How an HTTP attempt ends: a final response, with the library's name for its status, or an error. -/
inductive Outcome where
  | response (status : Nat) (reason : String)
  | failure (error : String)
  deriving DecidableEq, Repr

def Outcome.isSuccess : Outcome → Bool
  | .response status _ => 200 ≤ status && status < 300
  | .failure _ => false

/-- `deliver`, once the request has ended. -/
def deliver (outcome : Outcome) : Except String Unit :=
  match outcome with
  | .response status reason =>
      if outcome.isSuccess then .ok () else .error ("webhook status " ++ toString status ++ " " ++ reason)
  | .failure error => .error error

/-- A store call that ends `deliver_one`. -/
inductive Write where
  | markDelivered (now : Reading)
  | markFailed (error : String) (attempts : Int) (next : Instant)
  deriving DecidableEq

/-- `mark_failed` of the loop, up to its store call. -/
def markFailed (delivery : PendingDelivery) (error : String) (now : Reading) : Write :=
  .markFailed error (delivery.attempts + 1) (now.afterBackoff (delivery.attempts + 1))

/-- `deliver_one` after the request. -/
def deliverOne (delivery : PendingDelivery) (outcome : Outcome) (now : Reading) : Write :=
  match deliver outcome with
  | .ok () => .markDelivered now
  | .error error => markFailed delivery error now

def Write.apply (key : String × String) (store : Store) : Write → Store
  | .markDelivered now => store.markDelivered key.1 key.2 now.instant
  | .markFailed error attempts next => store.markFailed key.1 key.2 error attempts next

inductive Stage where
  | sending
  | writing (write : Write)
  deriving DecidableEq

/-- A delivery whose future has been polled. -/
structure Flight where
  delivery : PendingDelivery
  stage : Stage
  deriving DecidableEq

def Flight.key (flight : Flight) : String × String := flight.delivery.key

/-- What the loop knows when it goes to sleep. -/
structure Wait where
  now : Reading
  succeeded : Bool
  sleepFor : Nat
  deriving DecidableEq

inductive Phase where
  | top
  | loading (now : Reading)
  | delivering (queue : List PendingDelivery) (flights : List Flight)
  | measuring (now : Reading)
  | measured (wait : Wait)
  | waiting (wait : Wait) (wakeAt : Nat)
  | stopped
  deriving DecidableEq

inductive Record where
  | committed (eventId : String) (webhooks : List String)
  | sent (delivery : PendingDelivery) (now : Reading)
  | unconfigured (delivery : PendingDelivery)
  | answered (key : String × String) (outcome : Outcome)
  | markedDelivered (key : String × String)
  | markedFailed (key : String × String)
  | passed
  | measured
  deriving DecidableEq

structure System where
  store : Store
  webhooks : List WebhookConfig
  phase : Phase
  /-- The permit of `delivery_wakeup`. -/
  permit : Bool
  /-- Events that are committed and for which `notify_one` is still to be called. -/
  notifying : List String
  shutdown : Bool
  /-- The last clock reading. -/
  clock : Nat
  history : List Record

/-- The process has just started on a store. -/
def System.init (store : Store) (webhooks : List WebhookConfig) : System where
  store := store
  webhooks := webhooks
  phase := .top
  permit := false
  notifying := []
  shutdown := false
  clock := 0
  history := []

inductive WakeCause where
  | shutdown
  | notified
  | elapsed
  deriving DecidableEq, Repr

inductive Action where
  | ingest (faults : Store.TxFaults) (event : WebhookEvent) (payload : Bytes) (deliveries : List EventDelivery)
  | notify (eventId : String)
  | prune (cutoff : Instant) (succeeds : Bool)
  | shutdown
  | restart (webhooks : List WebhookConfig)
  | check (now : Reading)
  | load (succeeds : Bool)
  | start (now : Reading)
  | answer (key : String × String) (outcome : Outcome) (now : Reading)
  | write (key : String × String) (succeeds : Bool)
  | drain (now : Reading)
  | measure (succeeds : Bool)
  | sleep (now : Reading)
  | wake (cause : WakeCause)

def plainWebhook (name : String) : WebhookConfig where
  name := name
  url := "https://integration.example/events"
  allowedBoards := []
  includePosterFingerprint := false
  secret := "secret"

/-- The endpoint of a name. A later webhook of the same name replaces an earlier one. -/
def endpoint? (webhooks : List WebhookConfig) (name : String) : Option WebhookConfig :=
  webhooks.reverse.find? fun webhook => webhook.name == name

/-- The rows a pass works on; none when the query fails. -/
def loadBatch (limit : Nat) (now : Reading) (succeeds : Bool) (store : Store) : List PendingDelivery :=
  if succeeds then
    match store.pendingDeliveries limit now.instant with
    | .ok deliveries => deliveries
    | .error _ => []
  else []

/-- What the loop makes of `next_delivery_delay`. -/
def sleepOf (now : Reading) (succeeds : Bool) (store : Store) : Wait :=
  if succeeds then
    match store.nextDeliveryDelay now.instant with
    | .ok (some delay) => ⟨now, true, delay⟩
    | .ok none => ⟨now, true, idleSweepInterval⟩
    | .error _ => ⟨now, false, idleSweepInterval⟩
  else ⟨now, false, idleSweepInterval⟩

def Write.record (key : String × String) : Write → Record
  | .markDelivered _ => .markedDelivered key
  | .markFailed _ _ _ => .markedFailed key

/-- One step. Actions that the state does not allow have no result. -/
def step (limit : Nat) (s : System) : Action → Option System
  | .ingest faults event payload deliveries =>
      match s.store.createEvent faults event payload deliveries with
      | (.ok true, store) => some { s with
          store := store
          notifying := event.eventId :: s.notifying
          history := .committed event.eventId (deliveries.map EventDelivery.webhook) :: s.history }
      | (_, store) => some { s with store := store }
  | .notify eventId =>
      if eventId ∈ s.notifying then
        some { s with notifying := s.notifying.erase eventId, permit := true }
      else none
  | .prune cutoff succeeds =>
      some { s with store := if succeeds then (s.store.pruneDeliveredEvents cutoff).2 else s.store }
  | .shutdown => some { s with shutdown := true }
  | .restart webhooks =>
      some { s with webhooks := webhooks, phase := .top, permit := false, notifying := [], shutdown := false }
  | .check now =>
      match s.phase with
      | .top =>
          if s.shutdown then some { s with phase := .stopped }
          else some { s with phase := .loading now, clock := now.ns }
      | _ => none
  | .load succeeds =>
      match s.phase with
      | .loading now => some { s with phase := .delivering (loadBatch limit now succeeds s.store) [] }
      | _ => none
  | .start now =>
      match s.phase with
      | .delivering (delivery :: queue) flights =>
          if flights.length < deliveryConcurrency then
            match endpoint? s.webhooks delivery.webhook with
            | some _ => some { s with
                phase := .delivering queue (flights ++ [⟨delivery, .sending⟩])
                clock := now.ns
                history := .sent delivery now :: s.history }
            | none => some { s with
                phase := .delivering queue
                  (flights ++ [⟨delivery, .writing (markFailed delivery "webhook is not configured" now)⟩])
                clock := now.ns
                history := .unconfigured delivery :: s.history }
          else none
      | _ => none
  | .answer key outcome now =>
      match s.phase with
      | .delivering queue flights =>
          match flights.find? fun flight => flight.key == key with
          | some ⟨_, .sending⟩ => some { s with
              phase := .delivering queue (flights.map fun flight =>
                if flight.key = key then
                  { flight with stage := .writing (deliverOne flight.delivery outcome now) }
                else flight)
              clock := now.ns
              history := .answered key outcome :: s.history }
          | _ => none
      | _ => none
  | .write key succeeds =>
      match s.phase with
      | .delivering queue flights =>
          match flights.find? fun flight => flight.key == key with
          | some ⟨_, .writing write⟩ =>
              let phase := .delivering queue (flights.filter fun flight => flight.key != key)
              if succeeds then
                some { s with
                  store := write.apply key s.store
                  phase := phase
                  history := write.record key :: s.history }
              else some { s with phase := phase }
          | _ => none
      | _ => none
  | .drain now =>
      match s.phase with
      | .delivering [] [] =>
          some { s with phase := .measuring now, clock := now.ns, history := .passed :: s.history }
      | _ => none
  | .measure succeeds =>
      match s.phase with
      | .measuring now =>
          some { s with phase := .measured (sleepOf now succeeds s.store), history := .measured :: s.history }
      | _ => none
  | .sleep now =>
      match s.phase with
      | .measured wait => some { s with phase := .waiting wait (now.ns + wait.sleepFor), clock := now.ns }
      | _ => none
  | .wake cause =>
      match s.phase, cause with
      | .waiting _ _, .shutdown => if s.shutdown then some { s with phase := .top } else none
      | .waiting _ _, .notified => if s.permit then some { s with phase := .top, permit := false } else none
      | .waiting _ _, .elapsed => some { s with phase := .top }
      | _, _ => none

end Delivery

end PtchanGateway
