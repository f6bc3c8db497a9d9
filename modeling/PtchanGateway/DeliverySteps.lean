import PtchanGateway.Delivery
import PtchanGateway.StoreFacts
import PtchanGateway.RunSystem

/-! What a step of the delivery system can do, said once (`Step`), and the invariant every run keeps: the
deliveries in hand have distinct keys, and each still has its pending row with the number of attempts
that was read from it. -/

namespace PtchanGateway

open TextRfc3339 JsonValue Config Store RunSystem

namespace Delivery

/-- The steps of the system, with what each needs and leaves. -/
inductive Step (limit : Nat) (s : System) : Action → System → Prop where
  | committed {faults : TxFaults} {event : WebhookEvent} {payload : Bytes} {deliveries : List EventDelivery}
      {store : Store} (hfresh : event.eventId ∉ s.store.events.map EventRow.id)
      (hevents : store.events = s.store.events ++ [newEvent event payload])
      (hrows : store.deliveries =
        s.store.deliveries ++ deliveries.map (newDelivery event.eventId event.observedAt.toRfc3339)) :
      Step limit s (.ingest faults event payload deliveries) { s with
        store := store
        notifying := event.eventId :: s.notifying
        history := .committed event.eventId (deliveries.map EventDelivery.webhook) :: s.history }
  | notCommitted {faults : TxFaults} {event : WebhookEvent} {payload : Bytes} {deliveries : List EventDelivery} :
      Step limit s (.ingest faults event payload deliveries) s
  | notified {eventId : String} (hmem : eventId ∈ s.notifying) :
      Step limit s (.notify eventId) { s with notifying := s.notifying.erase eventId, permit := true }
  | pruned {cutoff : Instant} :
      Step limit s (.prune cutoff true) { s with store := (s.store.pruneDeliveredEvents cutoff).2 }
  | pruneFailed {cutoff : Instant} : Step limit s (.prune cutoff false) s
  | shutdown : Step limit s .shutdown { s with shutdown := true }
  | restarted {webhooks : List WebhookConfig} :
      Step limit s (.restart webhooks)
        { s with webhooks := webhooks, phase := .top, permit := false, notifying := [], shutdown := false }
  | stopped {now : Reading} (hphase : s.phase = .top) :
      Step limit s (.check now) { s with phase := .stopped }
  | checked {now : Reading} (hphase : s.phase = .top) :
      Step limit s (.check now) { s with phase := .loading now, clock := now.ns }
  | loaded {now : Reading} {succeeds : Bool} (hphase : s.phase = .loading now) :
      Step limit s (.load succeeds) { s with phase := .delivering (loadBatch limit now succeeds s.store) [] }
  | sent {now : Reading} {delivery : PendingDelivery} {queue : List PendingDelivery} {flights : List Flight}
      (hphase : s.phase = .delivering (delivery :: queue) flights)
      (hendpoint : (endpoint? s.webhooks delivery.webhook).isSome = true) :
      Step limit s (.start now) { s with
        phase := .delivering queue (flights ++ [⟨delivery, .sending⟩])
        clock := now.ns
        history := .sent delivery now :: s.history }
  | unconfigured {now : Reading} {delivery : PendingDelivery} {queue : List PendingDelivery}
      {flights : List Flight} (hphase : s.phase = .delivering (delivery :: queue) flights)
      (hendpoint : endpoint? s.webhooks delivery.webhook = none) :
      Step limit s (.start now) { s with
        phase := .delivering queue
          (flights ++ [⟨delivery, .writing (markFailed delivery "webhook is not configured" now)⟩])
        clock := now.ns
        history := .unconfigured delivery :: s.history }
  | answered {delivery : PendingDelivery} {outcome : Outcome} {now : Reading} {queue : List PendingDelivery}
      {flights : List Flight} (hphase : s.phase = .delivering queue flights)
      (hmem : ⟨delivery, .sending⟩ ∈ flights) :
      Step limit s (.answer delivery.key outcome now) { s with
        phase := .delivering queue (flights.map fun flight =>
          if flight.key = delivery.key then
            { flight with stage := .writing (deliverOne flight.delivery outcome now) }
          else flight)
        clock := now.ns
        history := .answered delivery.key outcome :: s.history }
  | wrote {delivery : PendingDelivery} {write : Write} {queue : List PendingDelivery} {flights : List Flight}
      (hphase : s.phase = .delivering queue flights) (hmem : ⟨delivery, .writing write⟩ ∈ flights) :
      Step limit s (.write delivery.key true) { s with
        store := write.apply delivery.key s.store
        phase := .delivering queue (flights.filter fun flight => flight.key != delivery.key)
        history := write.record delivery.key :: s.history }
  | writeFailed {delivery : PendingDelivery} {write : Write} {queue : List PendingDelivery}
      {flights : List Flight} (hphase : s.phase = .delivering queue flights)
      (hmem : ⟨delivery, .writing write⟩ ∈ flights) :
      Step limit s (.write delivery.key false)
        { s with phase := .delivering queue (flights.filter fun flight => flight.key != delivery.key) }
  | drained {now : Reading} (hphase : s.phase = .delivering [] []) :
      Step limit s (.drain now)
        { s with phase := .measuring now, clock := now.ns, history := .passed :: s.history }
  | measured {now : Reading} {succeeds : Bool} (hphase : s.phase = .measuring now) :
      Step limit s (.measure succeeds)
        { s with phase := .measured (sleepOf now succeeds s.store), history := .measured :: s.history }
  | slept {now : Reading} {wait : Wait} (hphase : s.phase = .measured wait) :
      Step limit s (.sleep now) { s with phase := .waiting wait (now.ns + wait.sleepFor), clock := now.ns }
  | woken {cause : WakeCause} {wait : Wait} {wakeAt : Nat} {permit : Bool} (hphase : s.phase = .waiting wait wakeAt) :
      Step limit s (.wake cause) { s with phase := .top, permit := permit }

/-- The steps of one run of the loop, by a clock that does not go backwards. -/
def Running (s : System) : Action → Prop
  | .restart _ => False
  | .check now | .start now | .answer _ _ now | .drain now | .sleep now => s.clock ≤ now.ns
  | _ => True

instance (s : System) : (a : Action) → Decidable (Running s a)
  | .restart _ => inferInstanceAs (Decidable False)
  | .check now | .start now | .answer _ _ now | .drain now | .sleep now =>
      inferInstanceAs (Decidable (s.clock ≤ now.ns))
  | .ingest _ _ _ _ | .notify _ | .prune _ _ | .shutdown | .load _ | .write _ _ | .measure _ | .wake _ =>
      inferInstanceAs (Decidable True)

theorem flight_of_find {flights : List Flight} {key : String × String} {flight : Flight}
    (h : (flights.find? fun flight => flight.key == key) = some flight) : flight ∈ flights ∧ flight.key = key :=
  ⟨List.mem_of_find?_eq_some h, by simpa using List.find?_some h⟩

variable {limit : Nat} {s s' : System} {a : Action}

/-- The step function takes no other steps. -/
theorem step_cases (h : step limit s a = some s') : Step limit s a s' := by
  cases a with
  | ingest faults event payload deliveries =>
      rcases createEvent_cases faults event payload deliveries s.store with
        ⟨err, heq⟩ | ⟨_, heq⟩ | ⟨hfresh, store, heq, hevents, hrows⟩
      · simp only [step, heq, Option.some.injEq] at h
        subst h
        exact .notCommitted
      · simp only [step, heq, Option.some.injEq] at h
        subst h
        exact .notCommitted
      · simp only [step, heq, Option.some.injEq] at h
        subst h
        exact .committed hfresh hevents hrows
  | notify eventId =>
      simp only [step] at h
      split_ifs at h with hmem
      rw [Option.some.injEq] at h
      subst h
      exact .notified hmem
  | prune cutoff succeeds =>
      simp only [step, Option.some.injEq] at h
      subst h
      cases succeeds with
      | true => exact .pruned
      | false => exact .pruneFailed
  | shutdown =>
      simp only [step, Option.some.injEq] at h
      subst h
      exact .shutdown
  | restart webhooks =>
      simp only [step, Option.some.injEq] at h
      subst h
      exact .restarted
  | check now =>
      simp only [step] at h
      split at h
      next hphase =>
        split_ifs at h
        · rw [Option.some.injEq] at h
          subst h
          exact .stopped hphase
        · rw [Option.some.injEq] at h
          subst h
          exact .checked hphase
      next => cases h
  | load succeeds =>
      simp only [step] at h
      split at h
      next hphase =>
        rw [Option.some.injEq] at h
        subst h
        exact .loaded hphase
      next => cases h
  | start now =>
      simp only [step] at h
      split at h
      next hphase =>
        split_ifs at h
        split at h
        next hendpoint =>
          rw [Option.some.injEq] at h
          subst h
          exact .sent hphase (by rw [hendpoint]; rfl)
        next hendpoint =>
          rw [Option.some.injEq] at h
          subst h
          exact .unconfigured hphase hendpoint
      next => cases h
  | answer key outcome now =>
      simp only [step] at h
      split at h
      next hphase =>
        split at h
        next hfind =>
          obtain ⟨hmem, rfl⟩ := flight_of_find hfind
          rw [Option.some.injEq] at h
          subst h
          exact .answered hphase hmem
        next => cases h
      next => cases h
  | write key succeeds =>
      simp only [step] at h
      split at h
      next hphase =>
        split at h
        next hfind =>
          obtain ⟨hmem, rfl⟩ := flight_of_find hfind
          cases succeeds with
          | true =>
              simp only [if_true, Option.some.injEq] at h
              subst h
              exact .wrote hphase hmem
          | false =>
              simp only [Bool.false_eq_true, if_false, Option.some.injEq] at h
              subst h
              exact .writeFailed hphase hmem
        next => cases h
      next => cases h
  | drain now =>
      simp only [step] at h
      split at h
      next hphase =>
        rw [Option.some.injEq] at h
        subst h
        exact .drained hphase
      next => cases h
  | measure succeeds =>
      simp only [step] at h
      split at h
      next hphase =>
        rw [Option.some.injEq] at h
        subst h
        exact .measured hphase
      next => cases h
  | sleep now =>
      simp only [step] at h
      split at h
      next hphase =>
        rw [Option.some.injEq] at h
        subst h
        exact .slept hphase
      next => cases h
  | wake cause =>
      simp only [step] at h
      split at h
      next hphase =>
        split_ifs at h
        rw [Option.some.injEq] at h
        subst h
        exact .woken hphase
      next hphase =>
        split_ifs at h
        rw [Option.some.injEq] at h
        subst h
        exact .woken hphase
      next hphase =>
        rw [Option.some.injEq] at h
        subst h
        exact .woken hphase
      next => cases h

theorem Step.clock_le (h : Step limit s a s') (hrunning : Running s a) : s.clock ≤ s'.clock := by
  cases h with
  | committed | notCommitted | notified | pruned | pruneFailed | shutdown | stopped | loaded | wrote |
      writeFailed | measured | woken => exact le_refl _
  | restarted => exact hrunning.elim
  | checked | sent | unconfigured | answered | drained | slept => exact hrunning

theorem Step.webhooks_eq (h : Step limit s a s') (hrunning : Running s a) : s'.webhooks = s.webhooks := by
  cases h with
  | restarted => exact hrunning.elim
  | _ => rfl

/-- The history only grows. -/
theorem Step.history_grows (h : Step limit s a s') : ∃ new, s'.history = new ++ s.history := by
  cases h with
  | notCommitted | notified | pruned | pruneFailed | shutdown | restarted | stopped | checked | loaded |
      writeFailed | slept | woken => exact ⟨[], rfl⟩
  | committed | sent | unconfigured | answered | wrote | drained | measured => exact ⟨[_], rfl⟩

theorem path_history_grows {ok : System → Action → Prop} {actions : List Action}
    (h : Path (step limit) ok s actions s') : ∃ new, s'.history = new ++ s.history := by
  refine h.invariant (fun t => ∃ new, t.history = new ++ s.history) ?_ ⟨[], rfl⟩
  rintro t a t' ⟨new, hnew⟩ - hstep
  obtain ⟨latest, hlatest⟩ := (step_cases hstep).history_grows
  exact ⟨latest ++ new, by rw [hlatest, hnew, List.append_assoc]⟩

/-- What a write does to its row. -/
def Write.set : Write → DeliveryRow → DeliveryRow
  | .markDelivered now, d => { d with status := .delivered, deliveredAt := some now.instant.toRfc3339 }
  | .markFailed error attempts next, d => { d with
      attempts := attempts
      nextAttemptAt := next.toRfc3339
      lastError := some (truncate error 500) }

theorem row?_apply (write : Write) (key other : String × String) (store : Store) :
    (write.apply key store).row? other =
      if other = key then (store.row? other).map write.set else store.row? other := by
  cases write with
  | markDelivered now => exact @row?_update _ _ (Write.set (.markDelivered now)) (fun _ => rfl) store other
  | markFailed error attempts next =>
      exact @row?_update _ _ (Write.set (.markFailed error attempts next)) (fun _ => rfl) store other

/-- An insertion keeps the rows there were. -/
theorem row?_of_committed {store store' : Store} {event : WebhookEvent} {deliveries : List EventDelivery}
    (hfresh : event.eventId ∉ store.events.map EventRow.id)
    (hrows : store'.deliveries =
      store.deliveries ++ deliveries.map (newDelivery event.eventId event.observedAt.toRfc3339))
    {key : String × String} {d : DeliveryRow} (hrow : store.row? key = some d) : store'.row? key = some d := by
  rw [row?_of_inserted hfresh hrows, if_neg, hrow]
  intro hkey
  have hevent := hasEvent_of_row? hrow
  rw [hasEvent, decide_eq_true_eq, hkey] at hevent
  exact hfresh hevent

/-- Pruning keeps pending rows. -/
theorem row?_prune_of_pending {store : Store} (cutoff : Instant) {key : String × String} {d : DeliveryRow}
    (hrow : store.row? key = some d) (hpending : d.status = .pending) :
    (store.pruneDeliveredEvents cutoff).2.row? key = some d := by
  rw [row?_prune, if_neg, hrow]
  intro hprune
  rw [delivered_of_prunes hprune hrow] at hpending
  cases hpending

/-! ### Deliveries in hand -/

/-- The deliveries of the batch that are not started. -/
def Phase.queue : Phase → List PendingDelivery
  | .delivering queue _ => queue
  | _ => []

/-- The deliveries of the batch that are not finished. -/
def Phase.inHand : Phase → List PendingDelivery
  | .delivering queue flights => queue ++ flights.map Flight.delivery
  | _ => []

def Phase.flights : Phase → List Flight
  | .delivering _ flights => flights
  | _ => []

theorem deliverOne_cases (delivery : PendingDelivery) (outcome : Outcome) (now : Reading) :
    deliverOne delivery outcome now = .markDelivered now ∨
      ∃ error, deliverOne delivery outcome now = markFailed delivery error now := by
  unfold deliverOne
  cases deliver outcome with
  | ok value => exact Or.inl rfl
  | error error => exact Or.inr ⟨error, rfl⟩

/-- Where the flights of a state come from. -/
theorem Step.flight_cases (h : Step limit s a s') {flight : Flight} (hflight : flight ∈ s'.phase.flights) :
    flight ∈ s.phase.flights ∨ flight.stage = .sending ∨ (∃ now, flight.stage = .writing (.markDelivered now)) ∨
      ∃ error now, s'.clock = now.ns ∧ flight.stage = .writing (markFailed flight.delivery error now) := by
  cases h with
  | committed | notCommitted | notified | pruned | pruneFailed | shutdown => exact Or.inl hflight
  | restarted | stopped | checked | drained | measured | slept | woken | loaded => cases hflight
  | sent hphase =>
      rcases List.mem_append.mp hflight with hold | hnew
      · exact Or.inl (by rw [hphase]; exact hold)
      · rw [List.mem_singleton.mp hnew]
        exact Or.inr (Or.inl rfl)
  | unconfigured hphase =>
      rcases List.mem_append.mp hflight with hold | hnew
      · exact Or.inl (by rw [hphase]; exact hold)
      · rw [List.mem_singleton.mp hnew]
        exact Or.inr (Or.inr (Or.inr ⟨_, _, rfl, rfl⟩))
  | @answered delivery outcome now queue flights hphase hmem =>
      obtain ⟨old, hold, rfl⟩ := List.mem_map.mp hflight
      by_cases hkey : old.key = delivery.key
      · rw [if_pos hkey]
        rcases deliverOne_cases old.delivery outcome now with hdone | ⟨error, hfailed⟩
        · exact Or.inr (Or.inr (Or.inl ⟨now, by rw [hdone]⟩))
        · exact Or.inr (Or.inr (Or.inr ⟨error, now, rfl, by rw [hfailed]⟩))
      · rw [if_neg hkey]
        exact Or.inl (by rw [hphase]; exact hold)
  | wrote hphase => exact Or.inl (by rw [hphase]; exact List.mem_of_mem_filter hflight)
  | writeFailed hphase => exact Or.inl (by rw [hphase]; exact List.mem_of_mem_filter hflight)

/-- The batch is sound: distinct keys, and rows as they were read. -/
structure Sound (s : System) : Prop where
  nodup : (s.phase.inHand.map PendingDelivery.key).Nodup
  live : ∀ p ∈ s.phase.inHand, ∃ d, s.store.row? p.key = some d ∧ d.status = .pending ∧ d.attempts = p.attempts

theorem Sound.of_inHand_nil (h : s.phase.inHand = []) : Sound s := by
  constructor
  · rw [h]
    exact List.nodup_nil
  · rw [h]
    intro p hp
    cases hp

theorem loadBatch_eq (limit : Nat) (now : Reading) (succeeds : Bool) (store : Store) :
    loadBatch limit now succeeds store = [] ∨
      loadBatch limit now succeeds store = (store.loaded limit now.instant).map store.handOut := by
  by_cases hlimit : limit < 2 ^ 63
  · cases succeeds with
    | true => exact Or.inr (by rw [loadBatch, if_pos rfl, pendingDeliveries_eq hlimit])
    | false => exact Or.inl rfl
  · apply Or.inl
    rw [loadBatch, pendingDeliveries, if_neg hlimit]
    split_ifs <;> rfl

theorem Sound.loaded {now : Reading} {succeeds : Bool} :
    Sound { s with phase := .delivering (loadBatch limit now succeeds s.store) [] } := by
  rcases loadBatch_eq limit now succeeds s.store with hnil | hbatch
  · exact .of_inHand_nil (by rw [hnil]; rfl)
  · have hin : (Phase.delivering (loadBatch limit now succeeds s.store) []).inHand =
        (s.store.loaded limit now.instant).map s.store.handOut := by
      rw [Phase.inHand, hbatch, List.map_nil, List.append_nil]
    constructor
    · rw [hin, List.map_map]
      exact loaded_keys_nodup limit now.instant s.store
    · rw [hin]
      intro p hp
      obtain ⟨d, hd, rfl⟩ := List.mem_map.mp hp
      obtain ⟨hrow, hpending, _⟩ := mem_loaded hd
      exact ⟨d, hrow, hpending, rfl⟩

theorem map_delivery_of_answered (flights : List Flight) (key : String × String) (write : PendingDelivery → Write) :
    (flights.map fun flight => if flight.key = key then
      { flight with stage := .writing (write flight.delivery) } else flight).map Flight.delivery =
      flights.map Flight.delivery := by
  rw [List.map_map]
  apply List.map_congr_left
  intro flight _
  simp only [Function.comp_apply]
  split_ifs <;> rfl

theorem map_key_of_answered (flights : List Flight) (key : String × String) (write : PendingDelivery → Write) :
    (flights.map fun flight => if flight.key = key then
      { flight with stage := .writing (write flight.delivery) } else flight).map Flight.key =
      flights.map Flight.key := by
  have hkeys : ∀ list : List Flight, list.map Flight.key = (list.map Flight.delivery).map PendingDelivery.key := by
    intro list
    rw [List.map_map]
    rfl
  rw [hkeys, map_delivery_of_answered, ← hkeys]

theorem inHand_start (delivery : PendingDelivery) (queue : List PendingDelivery) (flights : List Flight)
    (stage : Stage) :
    (Phase.delivering queue (flights ++ [⟨delivery, stage⟩])).inHand.Perm
      (Phase.delivering (delivery :: queue) flights).inHand := by
  simp only [Phase.inHand, List.map_append, List.map_singleton, ← List.append_assoc]
  exact List.perm_append_singleton delivery _

theorem Sound.start (h : Sound s) {delivery : PendingDelivery} {queue : List PendingDelivery}
    {flights : List Flight} (hphase : s.phase = .delivering (delivery :: queue) flights)
    {stage : Stage} (hphase' : s'.phase = .delivering queue (flights ++ [⟨delivery, stage⟩]))
    (hstore : s'.store = s.store) : Sound s' := by
  have hperm := inHand_start delivery queue flights stage
  rw [← hphase, ← hphase'] at hperm
  constructor
  · exact (hperm.map _).nodup_iff.mpr h.nodup
  · rw [hstore]
    exact fun p hp => h.live p (hperm.mem_iff.mp hp)

/-- The delivery at the head of the queue is not under way, nor queued again. -/
theorem Sound.head_ne (h : Sound s) {delivery : PendingDelivery} {queue : List PendingDelivery}
    {flights : List Flight} (hphase : s.phase = .delivering (delivery :: queue) flights) :
    (∀ p ∈ queue, delivery.key ≠ p.key) ∧ ∀ flight ∈ flights, delivery.key ≠ flight.key := by
  have hnodup := h.nodup
  rw [hphase, Phase.inHand, List.cons_append, List.map_cons, List.nodup_cons, List.map_append,
    List.mem_append, not_or] at hnodup
  refine ⟨fun p hp heq => hnodup.1.1 ?_, fun flight hflight heq => hnodup.1.2 ?_⟩
  · rw [heq]
    exact List.mem_map_of_mem hp
  · rw [heq]
    exact List.mem_map_of_mem (List.mem_map_of_mem hflight)

theorem inHand_finish {queue : List PendingDelivery} {flights : List Flight} {key : String × String} :
    ((Phase.delivering queue (flights.filter fun flight => flight.key != key)).inHand).Sublist
      (Phase.delivering queue flights).inHand :=
  (List.filter_sublist.map _).append_left _

/-- A finished delivery is not in hand any more. -/
theorem Sound.key_ne (h : Sound s) {queue : List PendingDelivery} {flights : List Flight}
    (hphase : s.phase = .delivering queue flights) {flight : Flight} (hmem : flight ∈ flights) :
    ∀ p ∈ (Phase.delivering queue (flights.filter fun other => other.key != flight.key)).inHand,
      p.key ≠ flight.key := by
  have hnodup := h.nodup
  rw [hphase, Phase.inHand, List.map_append, List.nodup_append] at hnodup
  intro p hp
  rcases List.mem_append.mp hp with hqueue | hflight
  · exact hnodup.2.2 _ (List.mem_map_of_mem hqueue) _ (List.mem_map_of_mem (List.mem_map_of_mem hmem))
  · obtain ⟨other, hother, rfl⟩ := List.mem_map.mp hflight
    exact bne_iff_ne.mp (List.mem_filter.mp hother).2

theorem Sound.finish (h : Sound s) {queue : List PendingDelivery} {flights : List Flight}
    (hphase : s.phase = .delivering queue flights) {flight : Flight} (hmem : flight ∈ flights)
    (hphase' : s'.phase = .delivering queue (flights.filter fun other => other.key != flight.key))
    (hrows : ∀ key, key ≠ flight.key → s'.store.row? key = s.store.row? key) : Sound s' := by
  constructor
  · rw [hphase']
    exact (hphase ▸ h.nodup).sublist (inHand_finish.map _)
  · rw [hphase']
    intro p hp
    rw [hrows p.key (h.key_ne hphase hmem p hp)]
    exact h.live p (by rw [hphase]; exact inHand_finish.subset hp)

/-- Every step keeps the batch sound. -/
theorem Sound.step (h : Sound s) (hstep : Step limit s a s') : Sound s' := by
  cases hstep with
  | committed hfresh hevents hrows =>
      refine ⟨h.nodup, fun p hp => ?_⟩
      obtain ⟨d, hrow, hrest⟩ := h.live p hp
      exact ⟨d, row?_of_committed hfresh hrows hrow, hrest⟩
  | pruned =>
      refine ⟨h.nodup, fun p hp => ?_⟩
      obtain ⟨d, hrow, hpending, hattempts⟩ := h.live p hp
      exact ⟨d, row?_prune_of_pending _ hrow hpending, hpending, hattempts⟩
  | notCommitted | notified | pruneFailed | shutdown => exact ⟨h.nodup, h.live⟩
  | restarted | stopped | checked | drained | measured | slept | woken => exact .of_inHand_nil rfl
  | loaded => exact .loaded
  | sent hphase => exact h.start hphase rfl rfl
  | unconfigured hphase => exact h.start hphase rfl rfl
  | @answered delivery outcome now queue flights hphase hmem =>
      have hin : (Phase.delivering queue (flights.map fun flight => if flight.key = delivery.key then
          { flight with stage := .writing (deliverOne flight.delivery outcome now) } else flight)).inHand =
          s.phase.inHand := by
        rw [hphase, Phase.inHand, Phase.inHand,
          map_delivery_of_answered flights delivery.key fun delivery => deliverOne delivery outcome now]
      constructor
      · rw [hin]
        exact h.nodup
      · rw [hin]
        exact h.live
  | wrote hphase hmem =>
      apply h.finish hphase hmem rfl
      intro key hne
      rw [row?_apply]
      exact if_neg hne
  | writeFailed hphase hmem => exact h.finish hphase hmem rfl fun _ _ => rfl

end Delivery

end PtchanGateway
