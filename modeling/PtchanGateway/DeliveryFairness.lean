import PtchanGateway.DeliverySteps

/-! No delivery starves. For a due row, the rows ahead of it in the queue are counted. A pass takes a full
batch of them or takes the row itself; what it takes is delivered or comes back behind the row, because a
backoff reaches past every time at which the row was due. So the row is attempted after as many passes as
the rows ahead of it fill batches. -/

namespace PtchanGateway

open TextRfc3339 JsonValue Config Store RunSystem QueueOrder

namespace Delivery

/-- The other pending rows ordered at or before a row. -/
def ahead (r : DeliveryRow) (store : Store) : List DeliveryRow :=
  store.deliveries.filter fun d => d.status = .pending ∧ d.key ≠ r.key ∧ queueLe d r

theorem mem_ahead {r d : DeliveryRow} {store : Store} :
    d ∈ ahead r store ↔ store.row? d.key = some d ∧ d.status = .pending ∧ d.key ≠ r.key ∧ queueLe d r := by
  rw [ahead, List.mem_filter, decide_eq_true_eq, row?_eq_some_iff, and_iff_left rfl]

theorem ahead_nodup (r : DeliveryRow) (store : Store) : (ahead r store).Nodup :=
  (store.deliveryKey.of_map _).filter _

theorem not_queueLe_of_lt {d r : DeliveryRow} (h : r.nextAttemptAt < d.nextAttemptAt) : ¬queueLe d r := by
  rintro (hlt | ⟨heq, _⟩)
  · exact lt_asymm h hlt
  · exact absurd heq.symm h.ne

/-- Store calls succeed, and new events are observed after the row is due. -/
def Succeeds (r : DeliveryRow) : Action → Prop
  | .load succeeds | .write _ succeeds | .measure succeeds | .prune _ succeeds => succeeds = true
  | .ingest _ event _ _ => r.nextAttemptAt < event.observedAt.toRfc3339
  | _ => True

instance (r : DeliveryRow) : (a : Action) → Decidable (Succeeds r a)
  | .load succeeds | .write _ succeeds | .measure succeeds | .prune _ succeeds =>
      inferInstanceAs (Decidable (succeeds = true))
  | .ingest _ event _ _ => inferInstanceAs (Decidable (r.nextAttemptAt < event.observedAt.toRfc3339))
  | .notify _ | .shutdown | .restart _ | .check _ | .start _ | .answer _ _ _ | .drain _ | .sleep _ | .wake _ =>
      inferInstanceAs (Decidable True)

def Undisturbed (r : DeliveryRow) (s : System) (a : Action) : Prop := Running s a ∧ Succeeds r a

instance (r : DeliveryRow) (s : System) (a : Action) : Decidable (Undisturbed r s a) :=
  inferInstanceAs (Decidable (_ ∧ _))

variable {limit : Nat} {s s' : System} {a : Action} {r : DeliveryRow}

/-- From a time at which the row was due, whatever is scheduled comes after it. -/
structure Later (due : Reading) (s : System) : Prop where
  clock : due.ns ≤ s.clock
  loading : ∀ now, s.phase = .loading now → due.ns ≤ now.ns
  writing : ∀ flight ∈ s.phase.flights, ∀ error attempts next,
    flight.stage = .writing (.markFailed error attempts next) → due.ns < next.ns

theorem Later.step {due : Reading} (h : Later due s) (hrunning : Running s a) (hstep : Step limit s a s') :
    Later due s' := by
  have hclock := hstep.clock_le hrunning
  refine ⟨h.clock.trans hclock, ?_, ?_⟩
  · intro now hphase
    cases hstep with
    | committed | notCommitted | notified | pruned | pruneFailed | shutdown => exact h.loading now hphase
    | checked =>
        cases hphase
        exact h.clock.trans hclock
    | restarted | stopped | loaded | sent | unconfigured | answered | wrote | writeFailed | drained | measured |
        slept | woken => cases hphase
  · intro flight hflight error attempts next hstage
    rcases hstep.flight_cases hflight with hold | hsending | ⟨now, hdone⟩ | ⟨reason, now, hnow, hfailed⟩
    · exact h.writing flight hold error attempts next hstage
    · rw [hsending] at hstage
      cases hstage
    · rw [hdone] at hstage
      cases hstage
    · rw [hfailed, markFailed] at hstage
      obtain ⟨_, _, rfl⟩ := Write.markFailed.inj (Stage.writing.inj hstage)
      calc due.ns ≤ s.clock := h.clock
        _ ≤ now.ns := hnow ▸ hclock
        _ < now.ns + deliveryBackoff (flight.delivery.attempts + 1) * 10 ^ 9 :=
            Nat.lt_add_of_pos_right (Nat.mul_pos (deliveryBackoff_pos _) (by decide))

/-- A written row is not ahead any more. -/
theorem not_queueLe_set {due : Reading} (hdue : r.nextAttemptAt ≤ due.instant.toRfc3339) {write : Write}
    (hwrite : ∀ error attempts next, write = .markFailed error attempts next → due.ns < next.ns)
    (d : DeliveryRow) : (write.set d).status ≠ .pending ∨ ¬queueLe (write.set d) r := by
  cases write with
  | markDelivered now => exact Or.inl (by simp [Write.set])
  | markFailed error attempts next =>
      refine Or.inr (not_queueLe_of_lt (lt_of_le_of_lt hdue ?_))
      exact Instant.toRfc3339_lt_iff.mpr (hwrite error attempts next rfl)

section Rows

variable {due : Reading} (hdue : r.nextAttemptAt ≤ due.instant.toRfc3339)

include hdue

/-- No row moves ahead, and a row that is written leaves. -/
theorem ahead_step (h : Later due s) (hundisturbed : Undisturbed r s a) (hstep : Step limit s a s')
    {d : DeliveryRow} (hd : d ∈ ahead r s'.store) : d ∈ ahead r s.store ∧ ∀ succeeds, a ≠ .write d.key succeeds := by
  rw [mem_ahead] at hd ⊢
  obtain ⟨hrow, hpending, hkey, hle⟩ := hd
  cases hstep with
  | committed hfresh hevents hrows =>
      rw [row?_of_inserted hfresh hrows] at hrow
      split_ifs at hrow with hevent
      · obtain ⟨delivery, _, rfl⟩ := Option.map_eq_some_iff.mp hrow
        exact absurd hle (not_queueLe_of_lt hundisturbed.2)
      · exact ⟨⟨hrow, hpending, hkey, hle⟩, by simp⟩
  | pruned =>
      rw [row?_prune] at hrow
      split_ifs at hrow
      exact ⟨⟨hrow, hpending, hkey, hle⟩, by simp⟩
  | @wrote delivery write queue flights hphase hmem =>
      rw [row?_apply] at hrow
      split_ifs at hrow with hmine
      · obtain ⟨old, _, rfl⟩ := Option.map_eq_some_iff.mp hrow
        have hwrite : ∀ error attempts next, write = .markFailed error attempts next → due.ns < next.ns := by
          rintro error attempts next rfl
          exact h.writing _ (by rw [hphase]; exact hmem) error attempts next rfl
        rcases not_queueLe_set hdue hwrite old with hstatus | hbehind
        · exact absurd hpending hstatus
        · exact absurd hle hbehind
      · exact ⟨⟨hrow, hpending, hkey, hle⟩, by simpa using fun heq => absurd heq.symm hmine⟩
  | writeFailed => cases hundisturbed.2
  | notCommitted | notified | pruneFailed | shutdown | restarted | stopped | checked | loaded | sent |
      unconfigured | answered | drained | measured | slept | woken =>
      exact ⟨⟨hrow, hpending, hkey, hle⟩, by simp⟩

end Rows

/-- The rows ahead that are not in the batch in hand. -/
def free (r : DeliveryRow) (s : System) : List DeliveryRow :=
  (ahead r s.store).filter fun d => !s.phase.inHand.any fun delivery => delivery.key == d.key

theorem free_eq (r : DeliveryRow) (s : System) :
    free r s = (ahead r s.store).filter fun d => d.key ∉ s.phase.inHand.map PendingDelivery.key := by
  apply List.filter_congr
  intro d _
  rw [Bool.eq_iff_iff]
  simp

theorem mem_free {d : DeliveryRow} :
    d ∈ free r s ↔ d ∈ ahead r s.store ∧ d.key ∉ s.phase.inHand.map PendingDelivery.key := by
  rw [free_eq, List.mem_filter, decide_eq_true_eq]

theorem free_nodup (r : DeliveryRow) (s : System) : (free r s).Nodup := (ahead_nodup r s.store).filter _

theorem free_of_inHand_nil (h : s.phase.inHand = []) : free r s = ahead r s.store := by
  rw [free, h]
  simp

theorem mem_inHand_or_write {queue : List PendingDelivery} {flights : List Flight} {key written : String × String}
    {succeeds : Bool} (hkey : key ∈ (Phase.delivering queue flights).inHand.map PendingDelivery.key) :
    key ∈ (Phase.delivering queue (flights.filter fun flight => flight.key != written)).inHand.map
      PendingDelivery.key ∨ ∃ outcome, Action.write written succeeds = .write key outcome := by
  by_cases hwritten : key = written
  · exact Or.inr ⟨succeeds, by rw [hwritten]⟩
  · left
    obtain ⟨p, hp, rfl⟩ := List.mem_map.mp hkey
    apply List.mem_map_of_mem
    rcases List.mem_append.mp hp with hqueue | hflight
    · exact List.mem_append_left _ hqueue
    · obtain ⟨flight, hmem, rfl⟩ := List.mem_map.mp hflight
      exact List.mem_append_right _ (List.mem_map_of_mem (List.mem_filter.mpr ⟨hmem, bne_iff_ne.mpr hwritten⟩))

/-- Only a write takes a delivery out of hand. -/
theorem Step.inHand_keys (h : Step limit s a s') (hrunning : Running s a) {key : String × String}
    (hkey : key ∈ s.phase.inHand.map PendingDelivery.key) :
    key ∈ s'.phase.inHand.map PendingDelivery.key ∨ ∃ succeeds, a = .write key succeeds := by
  cases h with
  | committed | notCommitted | notified | pruned | pruneFailed | shutdown => exact Or.inl hkey
  | restarted => exact hrunning.elim
  | stopped hphase | checked hphase | loaded hphase | drained hphase | measured hphase | slept hphase
  | woken hphase =>
      rw [hphase] at hkey
      cases hkey
  | @sent now delivery queue flights hphase =>
      rw [hphase] at hkey
      exact Or.inl (((inHand_start delivery queue flights _).map _).mem_iff.mpr hkey)
  | @unconfigured now delivery queue flights hphase =>
      rw [hphase] at hkey
      exact Or.inl (((inHand_start delivery queue flights _).map _).mem_iff.mpr hkey)
  | @answered delivery outcome now queue flights hphase =>
      left
      rw [hphase] at hkey
      rwa [Phase.inHand, map_delivery_of_answered flights delivery.key fun p => deliverOne p outcome now]
  | @wrote delivery write queue flights hphase =>
      rw [hphase] at hkey
      exact mem_inHand_or_write hkey
  | @writeFailed delivery write queue flights hphase =>
      rw [hphase] at hkey
      exact mem_inHand_or_write hkey

/-- No step frees a row. -/
theorem free_step {due : Reading} (hdue : r.nextAttemptAt ≤ due.instant.toRfc3339) (h : Later due s)
    (hundisturbed : Undisturbed r s a) (hstep : Step limit s a s') : free r s' ⊆ free r s := by
  intro d hd
  obtain ⟨hahead, hout⟩ := mem_free.mp hd
  obtain ⟨hahead', hwrite⟩ := ahead_step hdue h hundisturbed hstep hahead
  refine mem_free.mpr ⟨hahead', fun hin => ?_⟩
  rcases hstep.inHand_keys hundisturbed.1 hin with hin' | ⟨succeeds, heq⟩
  · exact hout hin'
  · exact hwrite succeeds heq

theorem loadBatch_true (now : Reading) (store : Store) :
    loadBatch batchLimit now true store = (store.loaded batchLimit now.instant).map store.handOut := by
  rw [loadBatch, if_pos rfl, pendingDeliveries_eq (by decide)]

/-- A pass takes the row, or a full batch of the rows ahead of it. -/
theorem free_loaded {now : Reading} (hphase : s.phase = .loading now) (hrow : s.store.row? r.key = some r)
    (hpending : r.status = .pending) (hdue : r.nextAttemptAt ≤ now.instant.toRfc3339) :
    r.key ∈ (loadBatch batchLimit now true s.store).map PendingDelivery.key ∨
      (free r { s with phase := .delivering (loadBatch batchLimit now true s.store) [] }).length + batchLimit ≤
        (free r s).length := by
  have hkeys : (loadBatch batchLimit now true s.store).map PendingDelivery.key =
      (s.store.loaded batchLimit now.instant).map DeliveryRow.key := by
    rw [loadBatch_true, List.map_map]
    rfl
  rw [hkeys]
  by_cases hin : r ∈ s.store.loaded batchLimit now.instant
  · exact Or.inl (List.mem_map_of_mem hin)
  · right
    have hmem : r ∈ s.store.deliveries.filter (isDue now.instant) := by
      refine List.mem_filter.mpr ⟨(row?_eq_some_iff.mp hrow).1, ?_⟩
      simp only [isDue, hpending, beq_self_eq_true, Bool.true_and, decide_eq_true_eq]
      exact hdue
    obtain ⟨hbefore, hlength⟩ := before_of_not_mem_firstOf hmem hin
    rw [← loaded] at hbefore hlength
    have hsubset : s.store.loaded batchLimit now.instant ⊆
        (ahead r s.store).filter fun d => d.key ∈ (s.store.loaded batchLimit now.instant).map DeliveryRow.key := by
      intro d hd
      obtain ⟨hrow', hpending', _⟩ := mem_loaded hd
      have hne : d.key ≠ r.key := by
        intro heq
        rw [heq, hrow, Option.some.injEq] at hrow'
        exact hin (hrow' ▸ hd)
      refine List.mem_filter.mpr ⟨mem_ahead.mpr ⟨hrow', hpending', hne, hbefore d hd⟩, ?_⟩
      exact decide_eq_true (List.mem_map_of_mem hd)
    have hnodup : (s.store.loaded batchLimit now.instant).Nodup := (loaded_keys_nodup _ _ _).of_map _
    have htaken := (List.subperm_of_subset hnodup hsubset).length_le
    have hsplit := (ahead r s.store).length_eq_length_filter_add
      fun d => decide (d.key ∈ (s.store.loaded batchLimit now.instant).map DeliveryRow.key)
    have hfree : free r { s with phase := .delivering (loadBatch batchLimit now true s.store) [] } =
        (ahead r s.store).filter fun d =>
          !decide (d.key ∈ (s.store.loaded batchLimit now.instant).map DeliveryRow.key) := by
      rw [free_eq, Phase.inHand, List.map_nil, List.append_nil, hkeys]
      simp only [decide_not]
    rw [hfree, free_of_inHand_nil (by rw [hphase]; rfl)]
    omega

/-! ### Passes -/

/-- `deliver_one` ran for the delivery: it sent a request, or found its webhook not configured. -/
def Attempted (webhooks : List WebhookConfig) (key : String × String) (records : List Record) : Prop :=
  ∃ delivery : PendingDelivery, delivery.key = key ∧
    (((endpoint? webhooks key.2).isSome = true ∧ ∃ now, .sent delivery now ∈ records) ∨
      (endpoint? webhooks key.2 = none ∧ .unconfigured delivery ∈ records))

/-- A batch is under way. -/
def Phase.begun : Phase → Nat
  | .delivering _ _ => 1
  | _ => 0

/-- The row is as it was, after this many passes, and unless it is next, they took a full batch each from
the rows ahead of it. -/
structure Unattempted (r : DeliveryRow) (count passes : Nat) (s : System) : Prop where
  row : s.store.row? r.key = some r
  grounded : r.key ∉ s.phase.flights.map Flight.key
  queued : (r.key ∈ s.phase.queue.map PendingDelivery.key ∧ batchLimit * passes ≤ count) ∨
    (free r s).length + batchLimit * (passes + s.phase.begun) ≤ count

theorem Unattempted.of_free {count passes : Nat} (h : Unattempted r count passes s)
    (hrow : s'.store.row? r.key = some r) (hflights : s'.phase.flights.map Flight.key = s.phase.flights.map Flight.key)
    (hqueue : s'.phase.queue = s.phase.queue) (hbegun : s'.phase.begun = s.phase.begun)
    (hfree : free r s' ⊆ free r s) : Unattempted r count passes s' := by
  refine ⟨hrow, ?_, ?_⟩
  · rw [hflights]
    exact h.grounded
  · rw [hqueue, hbegun]
    refine h.queued.imp_right fun hle => le_trans (Nat.add_le_add_right ?_ _) hle
    exact (List.subperm_of_subset (free_nodup r s') hfree).length_le

theorem Unattempted.started {count passes : Nat} (h : Unattempted r count passes s)
    {delivery : PendingDelivery} {queue : List PendingDelivery} {flights : List Flight} {stage : Stage}
    (hphase : s.phase = .delivering (delivery :: queue) flights) (hstore : s'.store = s.store)
    (hphase' : s'.phase = .delivering queue (flights ++ [⟨delivery, stage⟩])) (hfree : free r s' ⊆ free r s)
    (hne : delivery.key ≠ r.key) : Unattempted r count passes s' := by
  have hgrounded := h.grounded
  have hqueued := h.queued
  rw [hphase] at hgrounded hqueued
  refine ⟨by rw [hstore]; exact h.row, ?_, ?_⟩
  · rw [hphase', Phase.flights, List.map_append, List.mem_append, not_or]
    exact ⟨hgrounded, fun hmem => hne (List.mem_singleton.mp hmem).symm⟩
  · rw [hphase']
    rcases hqueued with ⟨hin, hpasses⟩ | hle
    · exact Or.inl ⟨(List.mem_cons.mp hin).resolve_left hne.symm, hpasses⟩
    · exact Or.inr (le_trans (Nat.add_le_add_right (List.subperm_of_subset (free_nodup r s') hfree).length_le _) hle)

theorem Unattempted.loaded {count passes : Nat} (h : Unattempted r count passes s) (hpending : r.status = .pending)
    {now : Reading} (hdue : r.nextAttemptAt ≤ now.instant.toRfc3339) (hphase : s.phase = .loading now) :
    Unattempted r count passes { s with phase := .delivering (loadBatch batchLimit now true s.store) [] } := by
  have hqueued := h.queued
  rw [hphase] at hqueued
  have hle := hqueued.resolve_left fun hin => List.not_mem_nil hin.1
  refine ⟨h.row, List.not_mem_nil, ?_⟩
  simp only [Phase.begun, Nat.add_zero, Nat.mul_add, Nat.mul_one] at hle ⊢
  refine (free_loaded hphase h.row hpending hdue).imp (fun hin => ⟨hin, ?_⟩) fun hfull => ?_
  · omega
  · omega

theorem Unattempted.wrote {count passes : Nat} (h : Unattempted r count passes s) {delivery : PendingDelivery}
    {write : Write} {queue : List PendingDelivery} {flights : List Flight}
    (hphase : s.phase = .delivering queue flights) (hmem : ⟨delivery, .writing write⟩ ∈ flights)
    (hstore : s'.store = write.apply delivery.key s.store)
    (hphase' : s'.phase = .delivering queue (flights.filter fun flight => flight.key != delivery.key))
    (hfree : free r s' ⊆ free r s) : Unattempted r count passes s' := by
  have hgrounded := h.grounded
  have hqueued := h.queued
  rw [hphase] at hgrounded hqueued
  have hne : r.key ≠ delivery.key := by
    intro heq
    rw [heq] at hgrounded
    exact hgrounded (List.mem_map_of_mem hmem)
  refine ⟨by rw [hstore, row?_apply, if_neg hne]; exact h.row, ?_, ?_⟩
  · rw [hphase']
    exact fun hin => hgrounded ((List.filter_sublist.map _).subset hin)
  · rw [hphase']
    refine hqueued.imp_right fun hle => le_trans (Nat.add_le_add_right ?_ _) hle
    exact (List.subperm_of_subset (free_nodup r s') hfree).length_le

theorem Unattempted.drained {count passes : Nat} (h : Unattempted r count passes s)
    (hphase : s.phase = .delivering [] []) {now : Reading} (hstore : s'.store = s.store)
    (hphase' : s'.phase = .measuring now) (hfree : free r s' ⊆ free r s) :
    Unattempted r count (passes + 1) s' := by
  have hqueued := h.queued
  rw [hphase] at hqueued
  have hle := hqueued.resolve_left fun hin => List.not_mem_nil hin.1
  have hlength := (List.subperm_of_subset (free_nodup r s') hfree).length_le
  refine ⟨by rw [hstore]; exact h.row, by rw [hphase']; exact List.not_mem_nil, Or.inr ?_⟩
  rw [hphase']
  simp only [Phase.begun, Nat.add_zero] at hle ⊢
  omega

theorem Unattempted.step {count passes : Nat} {due : Reading} (h : Unattempted r count passes s)
    (hpending : r.status = .pending) (hdue : r.nextAttemptAt ≤ due.instant.toRfc3339) (hlater : Later due s)
    (hundisturbed : Undisturbed r s a) (hstep : Step batchLimit s a s') :
    ∃ new, s'.history = new ++ s.history ∧
      (Attempted s.webhooks r.key new ∨ Unattempted r count (passes + new.count .passed) s') := by
  have hfree := free_step hdue hlater hundisturbed hstep
  cases hstep with
  | committed hfresh hevents hrows =>
      exact ⟨[_], rfl, Or.inr (h.of_free (row?_of_committed hfresh hrows h.row) rfl rfl rfl hfree)⟩
  | pruned => exact ⟨[], rfl, Or.inr (h.of_free (row?_prune_of_pending _ h.row hpending) rfl rfl rfl hfree)⟩
  | notCommitted | notified | pruneFailed | shutdown => exact ⟨[], rfl, Or.inr (h.of_free h.row rfl rfl rfl hfree)⟩
  | restarted => exact hundisturbed.1.elim
  | stopped hphase | checked hphase | slept hphase | woken hphase =>
      refine ⟨[], rfl, Or.inr (h.of_free h.row ?_ ?_ ?_ hfree)⟩
      · rw [hphase]
        rfl
      · rw [hphase]
        rfl
      · rw [hphase]
        rfl
  | measured hphase =>
      refine ⟨[.measured], rfl, Or.inr (h.of_free h.row ?_ ?_ ?_ hfree)⟩
      · rw [hphase]
        rfl
      · rw [hphase]
        rfl
      · rw [hphase]
        rfl
  | @loaded now succeeds hphase =>
      obtain rfl : succeeds = true := hundisturbed.2
      have hdue' : r.nextAttemptAt ≤ now.instant.toRfc3339 :=
        hdue.trans (Instant.toRfc3339_le_iff.mpr (hlater.loading now hphase))
      exact ⟨[], rfl, Or.inr (h.loaded hpending hdue' hphase)⟩
  | @sent now delivery queue flights hphase hendpoint =>
      refine ⟨[.sent delivery now], rfl, ?_⟩
      by_cases hkey : delivery.key = r.key
      · refine Or.inl ⟨delivery, hkey, Or.inl ⟨?_, now, List.mem_singleton.mpr rfl⟩⟩
        rw [← hkey]
        exact hendpoint
      · exact Or.inr (h.started hphase rfl rfl hfree hkey)
  | @unconfigured now delivery queue flights hphase hendpoint =>
      refine ⟨[.unconfigured delivery], rfl, ?_⟩
      by_cases hkey : delivery.key = r.key
      · refine Or.inl ⟨delivery, hkey, Or.inr ⟨?_, List.mem_singleton.mpr rfl⟩⟩
        rw [← hkey]
        exact hendpoint
      · exact Or.inr (h.started hphase rfl rfl hfree hkey)
  | @answered delivery outcome now queue flights hphase =>
      refine ⟨[.answered delivery.key outcome], rfl, Or.inr (h.of_free h.row ?_ ?_ ?_ hfree)⟩
      · rw [hphase]
        exact map_key_of_answered flights delivery.key fun p => deliverOne p outcome now
      · rw [hphase]
        rfl
      · rw [hphase]
        rfl
  | @wrote delivery write queue flights hphase hmem =>
      have hcount : [write.record delivery.key].count .passed = 0 := by cases write <;> rfl
      refine ⟨[write.record delivery.key], rfl, Or.inr ?_⟩
      rw [hcount]
      exact h.wrote hphase hmem rfl rfl hfree
  | writeFailed => cases hundisturbed.2
  | drained hphase => exact ⟨[.passed], rfl, Or.inr (h.drained hphase rfl rfl hfree)⟩

theorem Attempted.mono {webhooks : List WebhookConfig} {key : String × String} {records more : List Record}
    (h : Attempted webhooks key records) (hsubset : records ⊆ more) : Attempted webhooks key more := by
  obtain ⟨delivery, hkey, ⟨hendpoint, now, hsent⟩ | ⟨hendpoint, hskipped⟩⟩ := h
  · exact ⟨delivery, hkey, Or.inl ⟨hendpoint, now, hsubset hsent⟩⟩
  · exact ⟨delivery, hkey, Or.inr ⟨hendpoint, hsubset hskipped⟩⟩

/-- The clock is not behind the reading that a load uses. -/
theorem loading_le_clock {store : Store} {webhooks : List WebhookConfig} {actions : List Action}
    (h : Path (step limit) Running (System.init store webhooks) actions s) {now : Reading}
    (hphase : s.phase = .loading now) : now.ns ≤ s.clock := by
  have hinv : ∀ now, s.phase = .loading now → now.ns ≤ s.clock := by
    refine h.invariant (fun s => ∀ now, s.phase = .loading now → now.ns ≤ s.clock) ?_ (by simp [System.init])
    intro s a s' hle hrunning hstep now hphase
    cases step_cases hstep with
    | committed | notCommitted | notified | pruned | pruneFailed | shutdown => exact hle now hphase
    | checked =>
        cases hphase
        exact le_refl _
    | restarted | stopped | loaded | sent | unconfigured | answered | wrote | writeFailed | drained | measured |
        slept | woken => cases hphase
  exact hinv now hphase

/-- What a run keeps for a row that was due at a load: it is attempted, or the passes take the rows ahead. -/
structure Progress (r : DeliveryRow) (now : Reading) (s₀ s : System) : Prop where
  later : Later now s
  webhooks : s.webhooks = s₀.webhooks
  passes : ∃ new, s.history = new ++ s₀.history ∧
    (Attempted s₀.webhooks r.key new ∨ Unattempted r (ahead r s₀.store).length (new.count .passed) s)

theorem Progress.step {s₀ : System} {now : Reading} (h : Progress r now s₀ s) (hpending : r.status = .pending)
    (hdue : r.nextAttemptAt ≤ now.instant.toRfc3339) (hundisturbed : Undisturbed r s a)
    (hstep : Step batchLimit s a s') : Progress r now s₀ s' := by
  refine ⟨h.later.step hundisturbed.1 hstep, (hstep.webhooks_eq hundisturbed.1).trans h.webhooks, ?_⟩
  obtain ⟨new, hnew, hattempted | hunattempted⟩ := h.passes
  · obtain ⟨latest, hlatest⟩ := hstep.history_grows
    refine ⟨latest ++ new, by rw [hlatest, hnew, List.append_assoc], Or.inl ?_⟩
    exact hattempted.mono (List.subset_append_right _ _)
  · obtain ⟨latest, hlatest, hprogress⟩ := hunattempted.step hpending hdue h.later hundisturbed hstep
    refine ⟨latest ++ new, by rw [hlatest, hnew, List.append_assoc], ?_⟩
    rw [h.webhooks] at hprogress
    rw [List.count_append, Nat.add_comm]
    exact hprogress.imp_left fun hattempted => hattempted.mono (List.subset_append_left _ _)

theorem progress {s₀ : System} {now : Reading} (hphase : s₀.phase = .loading now) (hclock : now.ns ≤ s₀.clock)
    (hrow : s₀.store.row? r.key = some r) (hpending : r.status = .pending)
    (hdue : r.nextAttemptAt ≤ now.instant.toRfc3339) {actions : List Action}
    (h : Path (step batchLimit) (Undisturbed r) s₀ actions s) : Progress r now s₀ s := by
  refine h.invariant (Progress r now s₀) ?_ ⟨⟨hclock, ?_, ?_⟩, rfl, [], rfl, Or.inr ⟨hrow, ?_, Or.inr ?_⟩⟩
  · exact fun _ _ _ hprogress hundisturbed hstep => hprogress.step hpending hdue hundisturbed (step_cases hstep)
  · intro other hother
    rw [hphase, Phase.loading.injEq] at hother
    rw [hother]
  · rw [hphase]
    intro flight hflight
    cases hflight
  · rw [hphase]
    exact List.not_mem_nil
  · rw [hphase, free_of_inHand_nil (by rw [hphase]; rfl)]
    exact le_refl _

theorem ahead_path {due : Reading} (hdue : r.nextAttemptAt ≤ due.instant.toRfc3339) (hlater : Later due s)
    {actions : List Action} (h : Path (step batchLimit) (Undisturbed r) s actions s') :
    ahead r s'.store ⊆ ahead r s.store := by
  have hinv : Later due s' ∧ ahead r s'.store ⊆ ahead r s.store := by
    refine h.invariant (fun t => Later due t ∧ ahead r t.store ⊆ ahead r s.store) ?_ ⟨hlater, List.Subset.refl _⟩
    rintro t a t' ⟨hlater, hsubset⟩ hundisturbed hstep
    refine ⟨hlater.step hundisturbed.1 (step_cases hstep), fun d hd => hsubset ?_⟩
    exact (ahead_step hdue hlater hundisturbed (step_cases hstep) hd).1
  exact hinv.2

/-- The end of a pass that began with a load. -/
structure PassEnds (s s' : System) : Prop where
  done : s'.phase = .delivering [] []
  one : ∃ pass, s'.history = pass ++ s.history ∧ .passed ∉ pass

/-- One pass attempts the row or takes a full batch from the rows ahead of it. -/
theorem pass_takes {now : Reading} (hphase : s.phase = .loading now) (hclock : now.ns ≤ s.clock)
    (hrow : s.store.row? r.key = some r) (hpending : r.status = .pending)
    (hdue : r.nextAttemptAt ≤ now.instant.toRfc3339) {actions : List Action}
    (h : Path (step batchLimit) (Undisturbed r) s actions s') (hends : PassEnds s s') :
    (∃ new, s'.history = new ++ s.history ∧ Attempted s.webhooks r.key new) ∨
      (ahead r s'.store).length + batchLimit ≤ (ahead r s.store).length := by
  obtain ⟨new, hnew, hattempted | hunattempted⟩ := (progress hphase hclock hrow hpending hdue h).passes
  · exact Or.inl ⟨new, hnew, hattempted⟩
  · right
    obtain ⟨pass, hpass, hnone⟩ := hends.one
    obtain rfl : new = pass := List.append_cancel_right (hnew.symm.trans hpass)
    have hqueued := hunattempted.queued
    rw [free_of_inHand_nil (by rw [hends.done]; rfl), hends.done, List.count_eq_zero.mpr hnone] at hqueued
    exact hqueued.resolve_left fun hin => List.not_mem_nil hin.1

/-- A due row is not overtaken, every pass brings it forward, and it is attempted in time. -/
theorem no_delivery_starves {store : Store} {webhooks : List WebhookConfig} {before : List Action} {s₀ : System}
    (hbefore : Path (step batchLimit) Running (System.init store webhooks) before s₀)
    {now : Reading} (hphase : s₀.phase = .loading now) (hrow : s₀.store.row? r.key = some r)
    (hpending : r.status = .pending) (hdue : r.nextAttemptAt ≤ now.instant.toRfc3339)
    {actions : List Action} (hrun : Path (step batchLimit) (Undisturbed r) s₀ actions s) :
    (∀ flight ∈ s.phase.flights, ∀ error attempts next,
      flight.stage = .writing (.markFailed error attempts next) → r.nextAttemptAt < next.toRfc3339) ∧
    (∀ later s', Path (step batchLimit) (Undisturbed r) s later s' → ahead r s'.store ⊆ ahead r s.store) ∧
    (∀ again later s', s.phase = .loading again → Path (step batchLimit) (Undisturbed r) s later s' →
      PassEnds s s' → (∃ new, s'.history = new ++ s₀.history ∧ Attempted s₀.webhooks r.key new) ∨
        (ahead r s'.store).length + min 50 (ahead r s.store).length ≤ (ahead r s.store).length) ∧
    (∀ new, s.history = new ++ s₀.history → ((ahead r s₀.store).length + 1 + 49) / 50 ≤ new.count .passed →
      Attempted s₀.webhooks r.key new) := by
  obtain ⟨hlater, hwebhooks, new, hnew, hstate⟩ :=
    progress hphase (loading_le_clock hbefore hphase) hrow hpending hdue hrun
  refine ⟨?_, fun later s' hpath => ahead_path hdue hlater hpath, ?_, ?_⟩
  · intro flight hflight error attempts next hstage
    exact lt_of_le_of_lt hdue (Instant.toRfc3339_lt_iff.mpr (hlater.writing flight hflight error attempts next hstage))
  · intro again later s' hagain hpath hends
    rcases hstate with hattempted | hunattempted
    · obtain ⟨latest, hlatest⟩ := path_history_grows hpath
      exact Or.inl ⟨latest ++ new, by rw [hlatest, hnew, List.append_assoc],
        hattempted.mono (List.subset_append_right _ _)⟩
    · have hreached := hbefore.append (hrun.mono fun _ _ hundisturbed => hundisturbed.1)
      have hdue' : r.nextAttemptAt ≤ again.instant.toRfc3339 :=
        hdue.trans (Instant.toRfc3339_le_iff.mpr (hlater.loading again hagain))
      rcases pass_takes hagain (loading_le_clock hreached hagain) hunattempted.row hpending hdue' hpath hends with
        ⟨latest, hlatest, hattempted⟩ | hle
      · rw [hwebhooks] at hattempted
        exact Or.inl ⟨latest ++ new, by rw [hlatest, hnew, List.append_assoc],
          hattempted.mono (List.subset_append_left _ _)⟩
      · refine Or.inr (le_trans (Nat.add_le_add_left (min_le_left _ _) _) ?_)
        exact hle
  · intro new' hnew' hpasses
    obtain rfl : new = new' := List.append_cancel_right (hnew.symm.trans hnew')
    apply hstate.resolve_right
    intro hunattempted
    rcases hunattempted.queued with ⟨_, hle⟩ | hle
    · simp only [batchLimit] at hle
      omega
    · simp only [batchLimit, Nat.mul_add] at hle
      omega

/-- A row that is due at the first load, behind two others. -/
def firstRow : DeliveryRow := newDelivery "e" (Instant.toRfc3339 (.ofNanos 0)) ⟨"w", []⟩

/-- The pass that follows, during which another event comes. -/
def firstPass : List Action :=
  [.load true, .start (.ofNanos 0), .ingest .none (.bare "f" (.ofNanos (10 ^ 9))) [] [⟨"w", []⟩],
    .start (.ofNanos (10 ^ 9)), .start (.ofNanos (10 ^ 9)),
    .answer ("d", "v") (.failure "send webhook request") (.ofNanos (10 ^ 10)),
    .answer ("d", "w") (.failure "send webhook request") (.ofNanos (10 ^ 10)), .write ("d", "v") true,
    .answer ("e", "w") (.failure "send webhook request") (.ofNanos (10 ^ 10)), .write ("e", "w") true,
    .write ("d", "w") true, .drain (.ofNanos (10 ^ 10))]

theorem no_delivery_starves_firstPass :
    ∃ s₀ s new, Path (step batchLimit) (Undisturbed firstRow) s₀ firstPass s ∧ s.history = new ++ s₀.history ∧
      (ahead firstRow s₀.store).length = 2 ∧ Attempted [plainWebhook "v", plainWebhook "w"] ("e", "w") new := by
  obtain ⟨s₀, hbefore, hphase, hrow, hwebhooks, hahead, hrun⟩ :
      ∃ s₀, Path (step batchLimit) Running (System.init Store.empty [plainWebhook "v", plainWebhook "w"])
        [.ingest .none (.bare "e" (.ofNanos 0)) [] [⟨"w", []⟩],
          .ingest .none (.bare "d" (.ofNanos 0)) [] [⟨"v", []⟩, ⟨"w", []⟩], .check (.ofNanos 0)] s₀ ∧
      s₀.phase = .loading (.ofNanos 0) ∧ s₀.store.row? firstRow.key = some firstRow ∧
      s₀.webhooks = [plainWebhook "v", plainWebhook "w"] ∧ (ahead firstRow s₀.store).length = 2 ∧
      (exec (step batchLimit) (Undisturbed firstRow) s₀ firstPass).any (fun s => decide
        (.passed ∈ s.history.take (s.history.length - s₀.history.length))) = true := by
    apply Path.exists_of_exec _
    decide +kernel
  obtain ⟨s, hrun, hpassed⟩ := Path.exists_of_exec _ hrun
  obtain ⟨new, hnew⟩ := path_history_grows hrun
  rw [hnew, List.length_append, Nat.add_sub_cancel, List.take_left' rfl] at hpassed
  have hstarves := (no_delivery_starves hbefore hphase hrow rfl (le_refl _) hrun).2.2.2 new hnew
  refine ⟨s₀, s, new, hrun, hnew, hahead, hwebhooks ▸ hstarves ?_⟩
  rw [hahead]
  exact List.count_pos_iff.mpr hpassed

end Delivery

end PtchanGateway
