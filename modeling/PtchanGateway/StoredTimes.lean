import PtchanGateway.StoreScheduler
import PtchanGateway.TextRust

/-!
The times in the store. SQLite compares texts by their bytes, and the queries compare, sort and minimise the
texts of instants. In every reachable store each time is such a text, so each of these queries answers as it
would over the instants themselves.
-/

namespace PtchanGateway

open TextRfc3339 TextRust JsonValue QueueOrder RunSystem

namespace Store

/-- The instants of the rows: at which the event was observed, and at which a delivery is due. -/
structure Dated (s : Store) (created : EventRow → Instant) (due : DeliveryRow → Instant) : Prop where
  created : ∀ e ∈ s.events, ∃ event payload, e = newEvent event payload ∧ event.observedAt = created e
  due : ∀ d ∈ s.deliveries, d.nextAttemptAt = (due d).toRfc3339

/-- Every event row is as `create_event` writes it. -/
def Stamped (s : Store) : Prop := ∀ e ∈ s.events, ∃ event payload, e = newEvent event payload

theorem Stamped.call {s : Store} (h : Stamped s) (c : StoreCall) : Stamped (s.call c) := by
  cases c with
  | createEvent faults event payload ds =>
      intro e he
      rcases mem_events_createEvent he with hold | hnew
      · exact h e hold
      · exact ⟨event, payload, hnew⟩
  | pruneDeliveredEvents cutoff => exact fun e he => h e (List.mem_of_mem_filter he)
  | migrate => exact h
  | markDelivered eventId webhook now => exact h
  | markFailed eventId webhook error attempts next => exact h

theorem Reachable.stamped {s : Store} (h : Reachable s) : Stamped s := by
  obtain ⟨calls, hpath⟩ := h
  refine hpath.invariant Stamped ?_ (by intro e he; cases he)
  intro s c s' hs _ hstep
  rw [Option.some.injEq] at hstep
  subst hstep
  exact hs.call c

theorem Reachable.dated {s : Store} (h : Reachable s) : ∃ created due, Dated s created due := by
  have hcreated : ∀ e : EventRow, ∃ t : Instant, e ∈ s.events →
      ∃ event payload, e = newEvent event payload ∧ event.observedAt = t := by
    intro e
    by_cases he : e ∈ s.events
    · obtain ⟨event, payload, heq⟩ := h.stamped e he
      exact ⟨event.observedAt, fun _ => ⟨event, payload, heq, rfl⟩⟩
    · exact ⟨.ofNanos 0, fun hmem => absurd hmem he⟩
  have hdue : ∀ d : DeliveryRow, ∃ t : Instant, d ∈ s.deliveries → d.nextAttemptAt = t.toRfc3339 := by
    intro d
    by_cases hd : d ∈ s.deliveries
    · obtain ⟨t, ht⟩ := h.timed d hd
      exact ⟨t, fun _ => ht⟩
    · exact ⟨.ofNanos 0, fun hmem => absurd hmem hd⟩
  choose created hcreated using hcreated
  choose due hdue using hdue
  exact ⟨created, due, hcreated, hdue⟩

theorem Dated.createdAt {s : Store} {created : EventRow → Instant} {due : DeliveryRow → Instant}
    (h : Dated s created due) {e : EventRow} (he : e ∈ s.events) : e.createdAt = (created e).toRfc3339 := by
  obtain ⟨event, payload, heq, hobserved⟩ := h.created e he
  rw [← hobserved, heq, newEvent]

section Comparisons

variable {s : Store} {created : EventRow → Instant} {due : DeliveryRow → Instant}

theorem isDue_iff (h : Dated s created due) (now : Instant) {d : DeliveryRow} (hd : d ∈ s.deliveries) :
    isDue now d = true ↔ d.status = .pending ∧ (due d).ns ≤ now.ns := by
  rw [isDue, Bool.and_eq_true, beq_iff_eq, decide_eq_true_eq, h.due d hd, Instant.toRfc3339_le_iff]

theorem queueLe_iff (h : Dated s created due) {left right : DeliveryRow} (hleft : left ∈ s.deliveries)
    (hright : right ∈ s.deliveries) :
    queueLe left right ↔ (due left).ns < (due right).ns ∨ due left = due right ∧ left.eventId ≤ right.eventId := by
  have heq : (due left).toRfc3339 = (due right).toRfc3339 ↔ due left = due right :=
    ⟨Instant.toRfc3339_injective, congrArg _⟩
  rw [queueLe, h.due left hleft, h.due right hright, Instant.toRfc3339_lt_iff, heq]

theorem prunable_iff (h : Dated s created due) (cutoff : Instant) {e : EventRow} (he : e ∈ s.events) :
    s.prunable cutoff e = true ↔ (created e).ns < cutoff.ns ∧
      ∀ d ∈ s.deliveries, d.eventId = e.id → d.status = .delivered := by
  rw [prunable, Bool.and_eq_true, decide_eq_true_eq, h.createdAt he, Instant.toRfc3339_lt_iff]
  simp [List.any_eq_false]

end Comparisons

section Minima

variable {s : Store} {created : EventRow → Instant} {due : DeliveryRow → Instant}

/-- The first of the sorted texts of some rows is that of the earliest of their instants. -/
theorem first_of_texts {α : Type} {rows : List α} {text : α → String} {time : α → Instant}
    (h : ∀ row ∈ rows, text row = (time row).toRfc3339) :
    ((rows.map text).insertionSort (· ≤ ·)).head? = none ∧ (rows.map fun row => (time row).ns).min? = none ∨
      ∃ t : Instant, ((rows.map text).insertionSort (· ≤ ·)).head? = some t.toRfc3339 ∧
        (rows.map fun row => (time row).ns).min? = some t.ns := by
  cases hhead : ((rows.map text).insertionSort (· ≤ ·)).head? with
  | none =>
      have hlength := (List.perm_insertionSort (· ≤ ·) (rows.map text)).length_eq
      rw [List.head?_eq_none_iff.mp hhead, List.length_map, List.length_nil] at hlength
      rw [List.eq_nil_of_length_eq_zero hlength.symm]
      exact .inl ⟨rfl, rfl⟩
  | some first =>
      obtain ⟨hfirst, hleast⟩ := head_le hhead
      obtain ⟨row, hrow, rfl⟩ := List.mem_map.mp hfirst
      refine .inr ⟨time row, congrArg some (h row hrow), List.min?_eq_some_iff.mpr ⟨?_, ?_⟩⟩
      · exact List.mem_map.mpr ⟨row, hrow, rfl⟩
      · intro ns hns
        obtain ⟨later, hlater, rfl⟩ := List.mem_map.mp hns
        have hle := hleast _ (List.mem_map_of_mem hlater)
        rw [h row hrow, h later hlater] at hle
        exact Instant.toRfc3339_le_iff.mp hle

theorem mem_joined {row : DeliveryRow × EventRow} (h : row ∈ s.joined) :
    row.1 ∈ s.deliveries ∧ row.2 ∈ s.events ∧ row.2.id = row.1.eventId := by
  obtain ⟨hd, he⟩ := find_of_mem_joined h
  exact ⟨hd, List.mem_of_find?_eq_some he, by simpa using List.find?_some he⟩

/-- The delay lasts until the earliest instant at which a pending row is due. -/
theorem nextDeliveryDelay_eq (h : Dated s created due) (now : Instant) :
    s.nextDeliveryDelay now = .ok ((((s.deliveries.filter fun d => d.status == .pending).map fun d =>
      (due d).ns).min?).map fun next => next - now.ns) := by
  have htexts : ∀ d ∈ s.deliveries.filter fun d => d.status == .pending, d.nextAttemptAt = (due d).toRfc3339 := by
    intro d hd
    exact h.due d (List.mem_of_mem_filter hd)
  unfold nextDeliveryDelay
  rcases first_of_texts htexts with ⟨hhead, hmin⟩ | ⟨t, hhead, hmin⟩
  · simp only [hhead, hmin, Option.map_none]
  · simp only [hhead, hmin, Option.map_some, t.parse_toRfc3339, delayUntil, Instant.signedDurationSince_moment]
    congr 2
    omega

/-- The age is counted from the earliest event with a pending row. -/
theorem oldestPendingAge_eq (h : Dated s created due) (now : Instant) :
    s.oldestPendingAge now = .ok ((((s.joined.filter fun row => row.1.status == .pending).map fun row =>
      (created row.2).ns).min?).map fun oldest => now.ns - oldest) := by
  have htexts : ∀ row ∈ s.joined.filter fun row => row.1.status == .pending,
      row.2.createdAt = (created row.2).toRfc3339 := by
    intro row hrow
    exact h.createdAt (mem_joined (List.mem_of_mem_filter hrow)).2.1
  unfold oldestPendingAge
  rcases first_of_texts htexts with ⟨hhead, hmin⟩ | ⟨t, hhead, hmin⟩
  · simp only [hhead, hmin, Option.map_none]
  · simp only [hhead, hmin, Option.map_some, t.parse_toRfc3339, Instant.signedDurationSince_moment]
    congr 2
    omega

end Minima

/-- Times are stored as texts whose bytes are ordered as the instants, which are told apart by their texts and
read back from them. Texts are compared by their bytes, so in every reachable store each comparison, order and
minimum of a query is that of the instants of the rows. -/
theorem stored_times_order_as_time :
    (∀ t later : Instant,
      (asBytes t.toRfc3339 < asBytes later.toRfc3339 ↔ t.ns < later.ns) ∧
      (asBytes t.toRfc3339 ≤ asBytes later.toRfc3339 ↔ t.ns ≤ later.ns) ∧
      (asBytes t.toRfc3339 = asBytes later.toRfc3339 → t = later) ∧
      parseRfc3339 t.toRfc3339 = some t.moment) ∧
    (∀ left right : String, (left < right ↔ asBytes left < asBytes right) ∧
      (left ≤ right ↔ asBytes left ≤ asBytes right)) ∧
    ∀ s, Reachable s → ∃ created due, Dated s created due ∧
      (∀ now, ∀ d ∈ s.deliveries, isDue now d = true ↔ d.status = .pending ∧ (due d).ns ≤ now.ns) ∧
      (∀ left ∈ s.deliveries, ∀ right ∈ s.deliveries, queueLe left right ↔
        (due left).ns < (due right).ns ∨ due left = due right ∧ left.eventId ≤ right.eventId) ∧
      (∀ now, s.nextDeliveryDelay now = .ok ((((s.deliveries.filter fun d => d.status == .pending).map fun d =>
        (due d).ns).min?).map fun next => next - now.ns)) ∧
      (∀ now, s.oldestPendingAge now = .ok ((((s.joined.filter fun row => row.1.status == .pending).map fun row =>
        (created row.2).ns).min?).map fun oldest => now.ns - oldest)) ∧
      ∀ cutoff, ∀ e ∈ s.events, s.prunable cutoff e = true ↔ (created e).ns < cutoff.ns ∧
        ∀ d ∈ s.deliveries, d.eventId = e.id → d.status = .delivered := by
  have hle : ∀ left right : String, asBytes left ≤ asBytes right ↔ left ≤ right := by
    intro left right
    calc
      _ ↔ ¬asBytes right < asBytes left := List.not_lt.symm
      _ ↔ ¬right < left := not_congr asBytes_lt_iff
      _ ↔ left ≤ right := not_lt
  refine ⟨?_, ?_, ?_⟩
  · intro t later
    rw [asBytes_lt_iff, hle, Instant.toRfc3339_lt_iff, Instant.toRfc3339_le_iff]
    exact ⟨Iff.rfl, Iff.rfl, fun h => Instant.toRfc3339_injective (asBytes_inj h), t.parse_toRfc3339⟩
  · intro left right
    exact ⟨asBytes_lt_iff.symm, (hle left right).symm⟩
  · intro s hs
    obtain ⟨created, due, hdated⟩ := hs.dated
    refine ⟨created, due, hdated, ?_, ?_, nextDeliveryDelay_eq hdated, oldestPendingAge_eq hdated, ?_⟩
    · intro now d hd
      exact isDue_iff hdated now hd
    · intro left hleft right hright
      exact queueLe_iff hdated hleft hright
    · intro cutoff e he
      exact prunable_iff hdated cutoff he

theorem stored_times_order_as_time_oneDelivery :
    asBytes (Instant.ofNanos 0).toRfc3339 < asBytes (Instant.ofNanos 1).toRfc3339 ∧
      Reachable (oneDelivery (.ofNanos 0)) ∧
      ∃ created due, Dated (oneDelivery (.ofNanos 0)) created due := by
  obtain ⟨htexts, -, hqueries⟩ := stored_times_order_as_time
  obtain ⟨created, due, hdated, -⟩ := hqueries _ (oneDelivery_reachable (.ofNanos 0))
  exact ⟨(htexts (.ofNanos 0) (.ofNanos 1)).1.mpr (by decide), oneDelivery_reachable _, created, due, hdated⟩

end Store

end PtchanGateway
