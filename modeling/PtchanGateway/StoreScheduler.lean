import PtchanGateway.StoreFacts
import PtchanGateway.RunSystem

/-! The two queries of the delivery scheduler agree. `next_delivery_delay` reads the deliveries table alone
and parses the text it finds; `pending_deliveries` joins the events and compares texts. In every reachable
store each due time is the text of an instant and each delivery has its event, so the delay is zero exactly
when a batch would not be empty, and otherwise ends at the first instant at which one is not. -/

namespace PtchanGateway

open TextRfc3339 JsonValue QueueOrder RunSystem

/-- The calls that write to the store. -/
inductive StoreCall where
  | migrate
  | createEvent (faults : Store.TxFaults) (event : WebhookEvent) (payload : Bytes) (ds : List EventDelivery)
  | markDelivered (eventId webhook : String) (now : Instant)
  | markFailed (eventId webhook error : String) (attempts : Int) (nextAttemptAt : Instant)
  | pruneDeliveredEvents (cutoff : Instant)

namespace Store

/-- One call. `migrate` finds its tables in place. -/
def call (s : Store) : StoreCall → Store
  | .migrate => s
  | .createEvent faults event payload ds => (s.createEvent faults event payload ds).2
  | .markDelivered eventId webhook now => s.markDelivered eventId webhook now
  | .markFailed eventId webhook error attempts next => s.markFailed eventId webhook error attempts next
  | .pruneDeliveredEvents cutoff => (s.pruneDeliveredEvents cutoff).2

/-- The states calls lead to from a new file. -/
def Reachable (s : Store) : Prop :=
  ∃ calls, Path (fun s c => some (call s c)) (fun _ _ => True) empty calls s

/-- Every due time is the text of an instant. -/
def Timed (s : Store) : Prop := ∀ d ∈ s.deliveries, ∃ t : Instant, d.nextAttemptAt = t.toRfc3339

theorem Timed.createEvent {s : Store} (h : Timed s) (faults : TxFaults) (event : WebhookEvent)
    (payload : Bytes) (ds : List EventDelivery) : Timed (s.createEvent faults event payload ds).2 := by
  intro d hd
  rcases mem_deliveries_createEvent hd with hold | ⟨_, _, rfl⟩
  · exact h d hold
  · exact ⟨event.observedAt, rfl⟩

theorem Timed.update {s : Store} (h : Timed s) (eventId webhook : String) (set : DeliveryRow → DeliveryRow)
    (hset : ∀ d, (set d).key = d.key)
    (htimed : ∀ d ∈ s.deliveries, ∃ t : Instant, (set d).nextAttemptAt = t.toRfc3339) :
    Timed (s.update eventId webhook set hset) := by
  intro d hd
  obtain ⟨d0, hd0, rfl⟩ := List.mem_map.mp hd
  split_ifs
  · exact htimed d0 hd0
  · exact h d0 hd0

theorem Timed.call {s : Store} (h : Timed s) (c : StoreCall) : Timed (s.call c) := by
  cases c with
  | migrate => exact h
  | createEvent faults event payload ds => exact h.createEvent faults event payload ds
  | markDelivered eventId webhook now =>
      rw [Store.call, markDelivered]
      exact h.update _ _ _ _ fun d hd => h d hd
  | markFailed eventId webhook error attempts next =>
      rw [Store.call, markFailed]
      exact h.update _ _ _ _ fun _ _ => ⟨next, rfl⟩
  | pruneDeliveredEvents cutoff => exact fun d hd => h d (List.mem_of_mem_filter hd)

theorem Reachable.timed {s : Store} (h : Reachable s) : Timed s := by
  obtain ⟨calls, hpath⟩ := h
  refine hpath.invariant Timed ?_ (by intro d hd; cases hd)
  rintro s c s' hs - hstep
  rw [Option.some.injEq] at hstep
  subst hstep
  exact hs.call c

/-- The earliest due time of the pending rows. -/
structure EarliestDue (s : Store) (t : Instant) : Prop where
  attained : ∃ d ∈ s.deliveries, d.status = .pending ∧ d.nextAttemptAt = t.toRfc3339
  least : ∀ d ∈ s.deliveries, d.status = .pending → t.toRfc3339 ≤ d.nextAttemptAt

theorem pendingCount_eq_zero_iff {s : Store} :
    s.pendingCount = 0 ↔ ∀ d ∈ s.deliveries, d.status ≠ .pending := by
  simp [pendingCount, List.countP_eq_zero]

theorem nextDeliveryDelay_cases {s : Store} (h : Timed s) (now : Instant) :
    (s.pendingCount = 0 ∧ s.nextDeliveryDelay now = .ok none) ∨
    (s.pendingCount ≠ 0 ∧ ∃ t, EarliestDue s t ∧ s.nextDeliveryDelay now = .ok (some (t.ns - now.ns))) := by
  have hmem : ∀ text, text ∈ (s.deliveries.filter fun d => d.status == .pending).map DeliveryRow.nextAttemptAt ↔
      ∃ d ∈ s.deliveries, d.status = .pending ∧ d.nextAttemptAt = text := by
    intro text
    simp only [List.mem_map, List.mem_filter, beq_iff_eq, and_assoc]
  unfold nextDeliveryDelay
  generalize (s.deliveries.filter fun d => d.status == .pending).map DeliveryRow.nextAttemptAt = next at hmem
  dsimp only
  cases hhead : (next.insertionSort (· ≤ ·)).head? with
  | none =>
      refine Or.inl ⟨pendingCount_eq_zero_iff.mpr fun d hd hpending => ?_, rfl⟩
      have hin := (List.perm_insertionSort (· ≤ ·) next).mem_iff.mpr ((hmem _).mpr ⟨d, hd, hpending, rfl⟩)
      rw [List.head?_eq_none_iff.mp hhead] at hin
      cases hin
  | some first =>
      obtain ⟨hfirst, hleast⟩ := head_le hhead
      obtain ⟨d, hd, hpending, hdue⟩ := (hmem first).mp hfirst
      obtain ⟨t, ht⟩ := h d hd
      rw [hdue] at ht
      subst ht
      refine Or.inr ⟨fun hzero => pendingCount_eq_zero_iff.mp hzero d hd hpending, t, ⟨⟨d, hd, hpending, hdue⟩, ?_⟩, ?_⟩
      · exact fun d' hd' hpending' => hleast _ ((hmem _).mpr ⟨d', hd', hpending', rfl⟩)
      · dsimp only
        rw [t.parse_toRfc3339]
        simp only [delayUntil, Instant.signedDurationSince_moment, Except.ok.injEq, Option.some.injEq]
        omega

/-- A batch is not empty exactly from the earliest due time on. -/
theorem loaded_ne_nil_iff {s : Store} {t : Instant} (h : EarliestDue s t) {limit : Nat} (hlimit : 1 ≤ limit)
    (now : Instant) : s.loaded limit now ≠ [] ↔ t.ns ≤ now.ns := by
  rw [loaded, Ne, firstOf_eq_nil_iff hlimit]
  constructor
  · intro hsome
    obtain ⟨d, hd⟩ := List.exists_mem_of_ne_nil _ hsome
    obtain ⟨hd, hdue⟩ := List.mem_filter.mp hd
    simp only [isDue, Bool.and_eq_true, beq_iff_eq, decide_eq_true_eq] at hdue
    exact Instant.toRfc3339_le_iff.mp ((h.least d hd hdue.1).trans hdue.2)
  · intro hle
    obtain ⟨d, hd, hpending, hdue⟩ := h.attained
    refine List.ne_nil_of_mem (List.mem_filter.mpr ⟨hd, ?_⟩)
    simp only [isDue, Bool.and_eq_true, beq_iff_eq, decide_eq_true_eq, hdue]
    exact ⟨hpending, Instant.toRfc3339_le_iff.mpr hle⟩

theorem loaded_eq_nil_of_none {s : Store} (h : s.pendingCount = 0) (limit : Nat) (now : Instant) :
    s.loaded limit now = [] := by
  rw [List.eq_nil_iff_forall_not_mem]
  intro d hd
  obtain ⟨hrow, hpending, _⟩ := mem_loaded hd
  exact pendingCount_eq_zero_iff.mp h d (row?_eq_some_iff.mp hrow).1 hpending

/-- The query answers with a batch that is not empty. -/
def HasBatch (limit : Nat) (now : Instant) (s : Store) : Prop :=
  ∃ batch, s.pendingDeliveries limit now = .ok batch ∧ batch ≠ []

theorem hasBatch_iff {limit : Nat} (hlimit : limit < 2 ^ 63) (now : Instant) (s : Store) :
    HasBatch limit now s ↔ s.loaded limit now ≠ [] := by
  simp [HasBatch, pendingDeliveries_eq hlimit]

/-- The scheduler's two queries agree, for every limit the query accepts. -/
theorem scheduler_queries_agree {s : Store} (hs : Reachable s) (now : Instant) {limit : Nat}
    (hpos : 1 ≤ limit) (hlimit : limit < 2 ^ 63) :
    (s.nextDeliveryDelay now = .ok none ↔ s.pendingCount = 0) ∧
    (s.nextDeliveryDelay now = .ok (some 0) ↔ HasBatch limit now s) ∧
    ∀ d, 0 < d → s.nextDeliveryDelay now = .ok (some d) →
      (∃ later : Instant, later.ns = now.ns + d ∧ HasBatch limit later s) ∧
      ∀ t : Instant, t.ns < now.ns + d → s.pendingDeliveries limit t = .ok [] := by
  rcases nextDeliveryDelay_cases hs.timed now with ⟨hzero, hdelay⟩ | ⟨hpending, first, hfirst, hdelay⟩
  · rw [hdelay, hasBatch_iff hlimit]
    simp [hzero, loaded_eq_nil_of_none hzero]
  · rw [hdelay, hasBatch_iff hlimit, loaded_ne_nil_iff hfirst hpos]
    refine ⟨by simp [hpending], ?_, ?_⟩
    · simp only [Except.ok.injEq, Option.some.injEq]
      omega
    · intro d hd heq
      simp only [Except.ok.injEq, Option.some.injEq] at heq
      refine ⟨⟨first, by omega, ?_⟩, fun t ht => ?_⟩
      · rw [hasBatch_iff hlimit, loaded_ne_nil_iff hfirst hpos]
      · have hempty : ¬s.loaded limit t ≠ [] := by
          rw [loaded_ne_nil_iff hfirst hpos]
          omega
        rw [pendingDeliveries_eq hlimit, not_not.mp hempty, List.map_nil]

/-- A store with one delivery, due at once. -/
def oneDelivery (at0 : Instant) : Store := empty.call (.createEvent .none (.bare "e" at0) [] [⟨"w", []⟩])

theorem oneDelivery_reachable (at0 : Instant) : Reachable (oneDelivery at0) :=
  ⟨[_], .cons trivial rfl (.nil _)⟩

theorem oneDelivery_delay (at0 : Instant) : (oneDelivery at0).nextDeliveryDelay at0 = .ok (some 0) := by
  have hrows : (oneDelivery at0).deliveries = [newDelivery "e" at0.toRfc3339 ⟨"w", []⟩] := rfl
  rcases nextDeliveryDelay_cases (oneDelivery_reachable at0).timed at0 with ⟨hzero, _⟩ | ⟨_, t, ht, hdelay⟩
  · rw [pendingCount_eq_zero_iff, hrows] at hzero
    exact absurd rfl (hzero _ List.mem_cons_self)
  · obtain ⟨d, hd, _, hdue⟩ := ht.attained
    rw [hrows, List.mem_singleton] at hd
    subst hd
    rw [hdelay, ← Instant.toRfc3339_injective hdue, Nat.sub_self]

theorem scheduler_queries_agree_oneDelivery :
    Reachable (oneDelivery (.ofNanos 0)) ∧ HasBatch 50 (.ofNanos 0) (oneDelivery (.ofNanos 0)) :=
  ⟨oneDelivery_reachable _, ((scheduler_queries_agree (oneDelivery_reachable _) (.ofNanos 0)
    (by decide) (by decide)).2.1).mp (oneDelivery_delay _)⟩

/-- A limit beyond the range of SQLite's integers is refused, so the agreement needs the bound. -/
theorem scheduler_queries_disagree :
    ¬∀ (s : Store) (now : Instant) (limit : Nat), Reachable s → 1 ≤ limit →
      (s.nextDeliveryDelay now = .ok none ↔ s.pendingCount = 0) ∧
      (s.nextDeliveryDelay now = .ok (some 0) ↔ HasBatch limit now s) ∧
      ∀ d, 0 < d → s.nextDeliveryDelay now = .ok (some d) →
        (∃ later : Instant, later.ns = now.ns + d ∧ HasBatch limit later s) ∧
        ∀ t : Instant, t.ns < now.ns + d → s.pendingDeliveries limit t = .ok [] := by
  intro hall
  obtain ⟨_, hiff, _⟩ := hall _ (.ofNanos 0) (2 ^ 63) (oneDelivery_reachable (.ofNanos 0)) (by decide)
  obtain ⟨batch, hbatch, _⟩ := hiff.mp (oneDelivery_delay _)
  rw [pendingDeliveries, if_neg (by decide)] at hbatch
  cases hbatch

end Store

end PtchanGateway
