import Mathlib.Data.List.Find
import PtchanGateway.StoredTimes

/-!
Retention. Pruning compares texts, asks that no row of the event is undelivered, and leaves the rows of a
deleted event to the foreign key. In every reachable store it deletes the old and fully delivered events with
their rows and nothing else. A pending row keeps its event, so no query about pending rows sees a difference.
-/

namespace PtchanGateway

open TextRfc3339 JsonValue QueueOrder RunSystem

namespace Store

theorem ext_tables {s s' : Store} (hevents : s.events = s'.events) (hdeliveries : s.deliveries = s'.deliveries) :
    s = s' := by
  cases s
  cases s'
  simp only at hevents hdeliveries
  subst hevents hdeliveries
  rfl

/-- The event was observed before the cutoff, and all its deliveries are delivered. -/
def Spent (observed : EventRow → Instant) (cutoff : Instant) (s : Store) (e : EventRow) : Prop :=
  (observed e).ns < cutoff.ns ∧ ∀ d ∈ s.deliveries, d.eventId = e.id → d.status = .delivered

instance (observed : EventRow → Instant) (cutoff : Instant) (s : Store) : DecidablePred (Spent observed cutoff s) :=
  fun _ => inferInstanceAs (Decidable (_ ∧ _))

section Rows

variable {cutoff : Instant} {s : Store}

theorem events_prune (cutoff : Instant) (s : Store) :
    (s.pruneDeliveredEvents cutoff).2.events = s.events.filter fun e => !s.prunable cutoff e := rfl

theorem deliveries_prune (cutoff : Instant) (s : Store) :
    (s.pruneDeliveredEvents cutoff).2.deliveries = s.deliveries.filter fun d => !s.prunes cutoff d.eventId := rfl

theorem not_prunes_of_undelivered {d : DeliveryRow} (hd : d ∈ s.deliveries) (h : d.status ≠ .delivered) :
    s.prunes cutoff d.eventId = false := by
  cases hprune : s.prunes cutoff d.eventId with
  | false => rfl
  | true =>
      have hrow : s.row? d.key = some d := row?_eq_some_iff.mpr ⟨hd, rfl⟩
      exact absurd (delivered_of_prunes hprune hrow) h

theorem not_prunable_of_not_prunes {e : EventRow} {eventId : String} (he : e ∈ s.events) (hid : e.id = eventId)
    (h : s.prunes cutoff eventId = false) : s.prunable cutoff e = false := by
  rw [prunes, List.any_eq_false] at h
  have := h e he
  simpa [hid] using this

/-- A delivery that stays has the same event as before. -/
theorem find_event_prune {d : DeliveryRow} (h : s.prunes cutoff d.eventId = false) :
    (s.pruneDeliveredEvents cutoff).2.events.find? (fun e => e.id == d.eventId) =
      s.events.find? fun e => e.id == d.eventId := by
  rw [events_prune, List.find?_filter]
  apply List.find?_congr
  intro e he
  by_cases hid : e.id = d.eventId
  · simp [hid, not_prunable_of_not_prunes he hid h]
  · simp [hid]

theorem joined_prune (cutoff : Instant) (s : Store) :
    (s.pruneDeliveredEvents cutoff).2.joined = s.joined.filter fun row => !s.prunes cutoff row.1.eventId := by
  rw [joined, joined, deliveries_prune, List.filterMap_filter, List.filter_filterMap]
  apply List.filterMap_congr
  intro d hd
  obtain ⟨e, he⟩ := find_event hd
  cases hprune : s.prunes cutoff d.eventId with
  | true => simp [he, hprune, Option.filter]
  | false => simp [find_event_prune hprune, he, hprune, Option.filter]

/-- The undelivered rows of the join are all there after pruning, in the same order. -/
theorem filter_joined_prune {p : DeliveryRow → Bool} (hp : ∀ d, p d = true → d.status = .pending) :
    ((s.pruneDeliveredEvents cutoff).2.joined.filter fun row => p row.1) = s.joined.filter fun row => p row.1 := by
  rw [joined_prune, List.filter_filter]
  apply List.filter_congr
  intro row hrow
  cases hpending : p row.1 with
  | false => rfl
  | true =>
      have hstatus : row.1.status ≠ .delivered := by simp [hp row.1 hpending]
      rw [not_prunes_of_undelivered (mem_joined hrow).1 hstatus]
      rfl

/-- So are the undelivered rows of the table. -/
theorem filter_deliveries_prune {p : DeliveryRow → Bool} (hp : ∀ d, p d = true → d.status = .pending) :
    (s.pruneDeliveredEvents cutoff).2.deliveries.filter p = s.deliveries.filter p := by
  have hrows : ∀ s : Store, (s.joined.filter fun row => p row.1).map Prod.fst = s.deliveries.filter p := by
    intro s
    rw [← joined_map_fst s, List.filter_map]
    rfl
  calc
    _ = ((s.pruneDeliveredEvents cutoff).2.joined.filter fun row => p row.1).map Prod.fst := (hrows _).symm
    _ = (s.joined.filter fun row => p row.1).map Prod.fst := by rw [filter_joined_prune hp]
    _ = s.deliveries.filter p := hrows s

end Rows

/-- What stays is not deleted by the next pruning with the same cutoff. -/
theorem not_prunable_after {cutoff : Instant} {s : Store} {e : EventRow}
    (he : e ∈ (s.pruneDeliveredEvents cutoff).2.events) :
    (s.pruneDeliveredEvents cutoff).2.prunable cutoff e = false := by
  rw [events_prune, List.mem_filter] at he
  obtain ⟨he, hkept⟩ := he
  cases hagain : (s.pruneDeliveredEvents cutoff).2.prunable cutoff e with
  | false => rfl
  | true =>
      rw [prunable, Bool.and_eq_true, decide_eq_true_eq, Bool.not_eq_true', List.any_eq_false] at hagain
      obtain ⟨hold, hnone⟩ := hagain
      -- The event is old, so it stayed for the sake of an undelivered row, and that row is still there.
      rw [prunable, decide_eq_true hold, Bool.true_and, Bool.not_not, List.any_eq_true] at hkept
      obtain ⟨d, hd, hrow⟩ := hkept
      have hstatus : d.status ≠ .delivered := by
        intro hdelivered
        simp [hdelivered] at hrow
      refine absurd hrow (hnone d ?_)
      rw [deliveries_prune, List.mem_filter, not_prunes_of_undelivered hd hstatus]
      exact ⟨hd, rfl⟩

theorem prune_idempotent (cutoff : Instant) (s : Store) :
    (s.pruneDeliveredEvents cutoff).2.pruneDeliveredEvents cutoff = (0, (s.pruneDeliveredEvents cutoff).2) := by
  have hnone : ∀ eventId, (s.pruneDeliveredEvents cutoff).2.prunes cutoff eventId = false := by
    intro eventId
    rw [prunes, List.any_eq_false]
    intro e he
    simp [not_prunable_after he]
  apply Prod.ext
  · change List.countP _ _ = 0
    rw [List.countP_eq_zero]
    intro e he
    simp [not_prunable_after he]
  · apply ext_tables
    · rw [events_prune, List.filter_eq_self]
      intro e he
      simp [not_prunable_after he]
    · rw [deliveries_prune, List.filter_eq_self]
      intro d _
      simp [hnone]

section Queries

variable (cutoff : Instant) (s : Store)

theorem pendingCount_prune : (s.pruneDeliveredEvents cutoff).2.pendingCount = s.pendingCount := by
  rw [pendingCount, pendingCount, List.countP_eq_length_filter, List.countP_eq_length_filter,
    filter_deliveries_prune (by simp)]

theorem pendingCountsByWebhook_prune :
    (s.pruneDeliveredEvents cutoff).2.pendingCountsByWebhook = s.pendingCountsByWebhook := by
  rw [pendingCountsByWebhook, pendingCountsByWebhook, filter_deliveries_prune (by simp)]

theorem nextDeliveryDelay_prune (now : Instant) :
    (s.pruneDeliveredEvents cutoff).2.nextDeliveryDelay now = s.nextDeliveryDelay now := by
  rw [nextDeliveryDelay, nextDeliveryDelay, filter_deliveries_prune (by simp)]

theorem oldestPendingAge_prune (now : Instant) :
    (s.pruneDeliveredEvents cutoff).2.oldestPendingAge now = s.oldestPendingAge now := by
  rw [oldestPendingAge, oldestPendingAge, filter_joined_prune (p := fun d => d.status == .pending) (by simp)]

theorem pendingDeliveries_prune (limit : Nat) (now : Instant) :
    (s.pruneDeliveredEvents cutoff).2.pendingDeliveries limit now = s.pendingDeliveries limit now := by
  have hdue : ∀ d, isDue now d = true → d.status = .pending := by
    intro d h
    rw [isDue, Bool.and_eq_true, beq_iff_eq] at h
    exact h.1
  rw [pendingDeliveries, pendingDeliveries, filter_joined_prune hdue]

end Queries

/-- Pruning deletes the events observed before the cutoff whose deliveries are all delivered, and the
deliveries of these events. It counts the events, leaves every other row as it is, finds nothing more to
delete the second time, and changes no answer about pending deliveries. -/
theorem prune_exact {s : Store} (hs : Reachable s) (cutoff : Instant) :
    ∃ observed : EventRow → Instant,
      (∀ e ∈ s.events, ∃ event payload, e = newEvent event payload ∧ event.observedAt = observed e) ∧
      ∀ count after, s.pruneDeliveredEvents cutoff = (count, after) →
        after.events = s.events.filter (fun e => decide ¬Spent observed cutoff s e) ∧
        after.deliveries = s.deliveries.filter
          (fun d => decide ¬∃ e ∈ s.events, e.id = d.eventId ∧ Spent observed cutoff s e) ∧
        count = (s.events.filter fun e => decide (Spent observed cutoff s e)).length ∧
        after.pruneDeliveredEvents cutoff = (0, after) ∧
        after.pendingCount = s.pendingCount ∧ after.pendingCountsByWebhook = s.pendingCountsByWebhook ∧
        ∀ now, (∀ limit, after.pendingDeliveries limit now = s.pendingDeliveries limit now) ∧
          after.nextDeliveryDelay now = s.nextDeliveryDelay now ∧
          after.oldestPendingAge now = s.oldestPendingAge now := by
  obtain ⟨observed, due, hdated⟩ := hs.dated
  have hspent : ∀ e ∈ s.events, s.prunable cutoff e = decide (Spent observed cutoff s e) := by
    intro e he
    rw [Bool.eq_iff_iff, prunable_iff hdated cutoff he, decide_eq_true_eq]
    rfl
  refine ⟨observed, hdated.created, ?_⟩
  intro count after h
  obtain rfl : (s.pruneDeliveredEvents cutoff).1 = count := congrArg Prod.fst h
  obtain rfl : (s.pruneDeliveredEvents cutoff).2 = after := congrArg Prod.snd h
  refine ⟨?_, ?_, ?_, prune_idempotent cutoff s, pendingCount_prune cutoff s, pendingCountsByWebhook_prune cutoff s, ?_⟩
  · rw [events_prune]
    apply List.filter_congr
    intro e he
    rw [hspent e he, decide_not]
  · rw [deliveries_prune]
    apply List.filter_congr
    intro d _
    rw [decide_not, prunes, Bool.not_inj_iff, Bool.eq_iff_iff, List.any_eq_true, decide_eq_true_eq]
    constructor
    · rintro ⟨e, he, hrow⟩
      rw [Bool.and_eq_true, beq_iff_eq, hspent e he, decide_eq_true_eq] at hrow
      exact ⟨e, he, hrow⟩
    · rintro ⟨e, he, hid, hrow⟩
      refine ⟨e, he, ?_⟩
      rw [Bool.and_eq_true, beq_iff_eq, hspent e he, decide_eq_true_eq]
      exact ⟨hid, hrow⟩
  · rw [← List.countP_eq_length_filter]
    apply List.countP_congr
    intro e he
    rw [hspent e he]
  · intro now
    exact ⟨fun limit => pendingDeliveries_prune cutoff s limit now, nextDeliveryDelay_prune cutoff s now,
      oldestPendingAge_prune cutoff s now⟩

/-- A delivered event and a pending one of the same time. -/
def halfDelivered (at0 : Instant) : Store :=
  ((oneDelivery at0).call (.createEvent .none (.bare "f" at0) [] [⟨"w", []⟩])).call (.markDelivered "f" "w" at0)

theorem halfDelivered_reachable (at0 : Instant) : Reachable (halfDelivered at0) :=
  ⟨[_, _, _], .cons trivial rfl (.cons trivial rfl (.cons trivial rfl (.nil _)))⟩

/-- The delivered event goes and the pending one stays. -/
theorem prune_exact_halfDelivered :
    Reachable (halfDelivered (.ofNanos 0)) ∧
      ((halfDelivered (.ofNanos 0)).pruneDeliveredEvents (.ofNanos 1)).1 = 1 ∧
      ((halfDelivered (.ofNanos 0)).pruneDeliveredEvents (.ofNanos 1)).2.pendingCount = 1 := by
  obtain ⟨_, -, h⟩ := prune_exact (halfDelivered_reachable (.ofNanos 0)) (.ofNanos 1)
  obtain ⟨-, -, -, -, hcount, -⟩ := h _ _ rfl
  exact ⟨halfDelivered_reachable _, by decide +kernel, hcount.trans (by rfl)⟩

end Store

end PtchanGateway
