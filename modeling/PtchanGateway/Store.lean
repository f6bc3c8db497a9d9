import PtchanGateway.Contract
import PtchanGateway.QueueOrder

/-!
The SQLite store (`store.rs`). A store value carries the constraints its schema declares: the two primary
keys and the foreign key from deliveries to events. Tables list their rows in the order of insertion.
Timestamps are kept as texts and compared as texts, as the queries do. Each call may fail; a failed call
leaves the tables as they were, and an event and its deliveries are inserted in one transaction.
-/

namespace PtchanGateway

open TextRfc3339 JsonValue QueueOrder

inductive DeliveryStatus where
  | pending
  | delivered
  deriving DecidableEq, Repr

/-- A row of `events`. -/
structure EventRow where
  id : String
  kind : EventKind
  board : String
  threadId : Int
  postId : Int
  payload : Bytes
  createdAt : String
  deriving DecidableEq, Repr

/-- A row of `deliveries`. -/
structure DeliveryRow where
  eventId : String
  webhook : String
  status : DeliveryStatus
  attempts : Int
  nextAttemptAt : String
  payload : Option Bytes
  lastError : Option String
  deliveredAt : Option String
  deriving DecidableEq, Repr

def DeliveryRow.key (d : DeliveryRow) : String × String := (d.eventId, d.webhook)

/-- What `pending_deliveries` hands to the delivery loop. -/
structure PendingDelivery where
  eventId : String
  webhook : String
  payload : Bytes
  attempts : Int
  deriving DecidableEq, Repr

def PendingDelivery.key (d : PendingDelivery) : String × String := (d.eventId, d.webhook)

/-- One webhook's copy of an event. -/
structure EventDelivery where
  webhook : String
  payload : Bytes
  deriving DecidableEq, Repr

structure Store where
  events : List EventRow
  deliveries : List DeliveryRow
  eventKey : (events.map EventRow.id).Nodup
  deliveryKey : (deliveries.map DeliveryRow.key).Nodup
  foreignKey : ∀ d ∈ deliveries, d.eventId ∈ events.map EventRow.id

namespace Store

/-- The tables `migrate` creates in a new file. -/
def empty : Store := ⟨[], [], by simp, by simp, by simp⟩

theorem eq_of_key {s : Store} {d d' : DeliveryRow} (hd : d ∈ s.deliveries) (hd' : d' ∈ s.deliveries)
    (h : d.key = d'.key) : d = d' :=
  List.inj_on_of_nodup_map s.deliveryKey hd hd' h

/-- Which statements of a transaction the database refuses. -/
structure TxFaults where
  start : Bool
  insertEvent : Bool
  insertDelivery : String → Bool
  commit : Bool

def TxFaults.none : TxFaults := ⟨false, false, fun _ => false, false⟩

private theorem nodup_map_snoc {α β : Type} {f : α → β} {rows : List α} {row : α}
    (hrows : (rows.map f).Nodup) (hrow : f row ∉ rows.map f) : ((rows ++ [row]).map f).Nodup := by
  rw [List.map_append, List.map_singleton]
  exact (List.nodup_append_comm.mp (List.nodup_cons.mpr ⟨hrow, hrows⟩))

/-- `INSERT OR IGNORE INTO events`: the number of rows inserted. -/
def insertOrIgnoreEvent (row : EventRow) (s : Store) : Nat × Store :=
  if h : row.id ∈ s.events.map EventRow.id then (0, s)
  else (1, {
    events := s.events ++ [row]
    deliveries := s.deliveries
    eventKey := nodup_map_snoc s.eventKey h
    deliveryKey := s.deliveryKey
    foreignKey := fun d hd => by
      rw [List.map_append]
      exact List.mem_append_left _ (s.foreignKey d hd) })

/-- `INSERT INTO deliveries`: refused when a key constraint would break. -/
def insertDelivery (row : DeliveryRow) (s : Store) : Option Store :=
  if h : row.key ∉ s.deliveries.map DeliveryRow.key ∧ row.eventId ∈ s.events.map EventRow.id then
    some {
      events := s.events
      deliveries := s.deliveries ++ [row]
      eventKey := s.eventKey
      deliveryKey := nodup_map_snoc s.deliveryKey h.1
      foreignKey := fun d hd => by
        rcases List.mem_append.mp hd with hold | hnew
        · exact s.foreignKey d hold
        · rw [List.mem_singleton.mp hnew]
          exact h.2 }
  else none

/-- The row `create_event` inserts for one webhook. -/
def newDelivery (eventId createdAt : String) (delivery : EventDelivery) : DeliveryRow where
  eventId := eventId
  webhook := delivery.webhook
  status := .pending
  attempts := 0
  nextAttemptAt := createdAt
  payload := some delivery.payload
  lastError := none
  deliveredAt := none

/-- The row `create_event` inserts for the event. -/
def newEvent (event : WebhookEvent) (payload : Bytes) : EventRow where
  id := event.eventId
  kind := event.kind
  board := event.post.board
  threadId := event.post.threadId.toInt
  postId := event.post.id.toInt
  payload := payload
  createdAt := event.observedAt.toRfc3339

def insertDeliveries (faults : TxFaults) (eventId createdAt : String) :
    List EventDelivery → Store → Except String Store
  | [], tx => .ok tx
  | delivery :: deliveries, tx =>
      if faults.insertDelivery delivery.webhook then
        .error ("insert delivery for webhook " ++ delivery.webhook)
      else
        match insertDelivery (newDelivery eventId createdAt delivery) tx with
        | some tx => insertDeliveries faults eventId createdAt deliveries tx
        | none => .error ("insert delivery for webhook " ++ delivery.webhook)

/-- The transaction of `create_event`, up to its commit. -/
def createEventTx (faults : TxFaults) (event : WebhookEvent) (payload : Bytes)
    (deliveries : List EventDelivery) (s : Store) : Except String (Bool × Store) :=
  if faults.start then .error "begin event transaction"
  else if faults.insertEvent then .error "insert event"
  else
    let (inserted, tx) := insertOrIgnoreEvent (newEvent event payload) s
    let written :=
      if inserted = 1 then
        insertDeliveries faults event.eventId event.observedAt.toRfc3339 deliveries tx
      else .ok tx
    match written with
    | .error err => .error err
    | .ok tx => if faults.commit then .error "commit event transaction" else .ok (inserted == 1, tx)

/-- `create_event`: a transaction that did not commit is rolled back. -/
def createEvent (faults : TxFaults) (event : WebhookEvent) (payload : Bytes)
    (deliveries : List EventDelivery) (s : Store) : Except String Bool × Store :=
  match createEventTx faults event payload deliveries s with
  | .ok (inserted, tx) => (.ok inserted, tx)
  | .error err => (.error err, s)

/-- `UPDATE deliveries … WHERE event_id = … AND webhook = …`, for an update that keeps the key. -/
def update (eventId webhook : String) (set : DeliveryRow → DeliveryRow) (hset : ∀ d, (set d).key = d.key)
    (s : Store) : Store where
  events := s.events
  deliveries := s.deliveries.map fun d => if d.key = (eventId, webhook) then set d else d
  eventKey := s.eventKey
  deliveryKey := by
    have hkeys : DeliveryRow.key ∘ (fun d => if d.key = (eventId, webhook) then set d else d) =
        DeliveryRow.key := by
      funext d
      simp only [Function.comp_apply]
      split_ifs
      · exact hset d
      · rfl
    rw [List.map_map, hkeys]
    exact s.deliveryKey
  foreignKey := by
    intro d hd
    obtain ⟨d0, hd0, rfl⟩ := List.mem_map.mp hd
    have hid : ∀ d, (set d).eventId = d.eventId := fun d => congrArg Prod.fst (hset d)
    split_ifs
    · rw [hid]
      exact s.foreignKey d0 hd0
    · exact s.foreignKey d0 hd0

def markDelivered (eventId webhook : String) (now : Instant) (s : Store) : Store :=
  s.update eventId webhook
    (fun d => { d with status := .delivered, deliveredAt := some now.toRfc3339 }) fun _ => rfl

/-- The first characters of a text. -/
def truncate (value : String) (max : Nat) : String := String.ofList (value.toList.take max)

def markFailed (eventId webhook error : String) (attempts : Int) (nextAttemptAt : Instant) (s : Store) : Store :=
  s.update eventId webhook
    (fun d => { d with
      attempts := attempts
      nextAttemptAt := nextAttemptAt.toRfc3339
      lastError := some (truncate error 500) }) fun _ => rfl

/-- The `WHERE` clause of the pruning query. -/
def prunable (cutoff : Instant) (s : Store) (e : EventRow) : Bool :=
  decide (e.createdAt < cutoff.toRfc3339) &&
    !s.deliveries.any fun d => d.eventId == e.id && d.status != .delivered

/-- `prune_delivered_events`: the number of events deleted. The foreign key deletes the deliveries of a
deleted event with it. -/
def pruneDeliveredEvents (cutoff : Instant) (s : Store) : Nat × Store :=
  (s.events.countP (s.prunable cutoff), {
    events := s.events.filter fun e => !s.prunable cutoff e
    deliveries := s.deliveries.filter fun d => !s.events.any fun e => e.id == d.eventId && s.prunable cutoff e
    eventKey := s.eventKey.sublist (List.filter_sublist.map _)
    deliveryKey := s.deliveryKey.sublist (List.filter_sublist.map _)
    foreignKey := by
      intro d hd
      obtain ⟨hd, hkept⟩ := List.mem_filter.mp hd
      obtain ⟨e, he, hid⟩ := List.mem_map.mp (s.foreignKey d hd)
      refine List.mem_map.mpr ⟨e, List.mem_filter.mpr ⟨he, ?_⟩, hid⟩
      by_contra hprune
      rw [Bool.not_eq_true', List.any_eq_false] at hkept
      exact hkept e he (by simpa [hid] using hprune) })

/-- `ORDER BY d.next_attempt_at, d.event_id`. -/
def queueLe (left right : DeliveryRow) : Prop :=
  left.nextAttemptAt < right.nextAttemptAt ∨
    left.nextAttemptAt = right.nextAttemptAt ∧ left.eventId ≤ right.eventId

instance : DecidableRel queueLe := fun _ _ => inferInstanceAs (Decidable (_ ∨ _ ∧ _))

/-- `WHERE d.status = 'pending' AND d.next_attempt_at <= now`. -/
def isDue (now : Instant) (d : DeliveryRow) : Bool :=
  d.status == .pending && decide (d.nextAttemptAt ≤ now.toRfc3339)

/-- `deliveries d JOIN events e ON e.id = d.event_id`. -/
def joined (s : Store) : List (DeliveryRow × EventRow) :=
  s.deliveries.filterMap fun d => (s.events.find? fun e => e.id == d.eventId).map fun e => (d, e)

/-- `pending_deliveries`. Rows with the same due time and event come in table order. -/
def pendingDeliveries (limit : Nat) (now : Instant) (s : Store) : Except String (List PendingDelivery) :=
  if limit < 2 ^ 63 then
    let due := s.joined.filter fun row => isDue now row.1
    .ok ((firstOf (fun left right => queueLe left.1 right.1) limit due).map fun (d, e) =>
      ⟨d.eventId, d.webhook, d.payload.getD e.payload, d.attempts⟩)
  else .error "pending delivery limit is too large"

def pendingCount (s : Store) : Nat := s.deliveries.countP fun d => d.status == .pending

/-- `pending_counts_by_webhook`: each webhook with pending rows, with their number. -/
def pendingCountsByWebhook (s : Store) : List (String × Nat) :=
  let pending := s.deliveries.filter fun d => d.status == .pending
  ((pending.map DeliveryRow.webhook).dedup.insertionSort (· ≤ ·)).map fun webhook =>
    (webhook, pending.countP fun d => d.webhook == webhook)

/-- The time left until `next`, zero when it has passed. -/
def delayUntil (next : Moment) (now : Instant) : Nat := (next.signedDurationSince now.moment).toNat

/-- `oldest_pending_age`, in nanoseconds. -/
def oldestPendingAge (now : Instant) (s : Store) : Except String (Option Nat) :=
  let created := (s.joined.filter fun row => row.1.status == .pending).map fun row => row.2.createdAt
  match (created.insertionSort (· ≤ ·)).head? with
  | none => .ok none
  | some oldest =>
      match parseRfc3339 oldest with
      | some oldest => .ok (some (now.moment.signedDurationSince oldest).toNat)
      | none => .error "parse oldest pending event time"

/-- `next_delivery_delay`, in nanoseconds. -/
def nextDeliveryDelay (now : Instant) (s : Store) : Except String (Option Nat) :=
  let next := (s.deliveries.filter fun d => d.status == .pending).map DeliveryRow.nextAttemptAt
  match (next.insertionSort (· ≤ ·)).head? with
  | none => .ok none
  | some next =>
      match parseRfc3339 next with
      | some next => .ok (some (delayUntil next now))
      | none => .error "parse next pending delivery time"

end Store

/-- `delivery_backoff`, in seconds. -/
def deliveryBackoff (attempts : Int) : Nat := min (2 ^ (max 1 (min attempts 8)).toNat) 300

end PtchanGateway
