import PtchanGateway.DeliverySteps

/-! Two requests for one delivery are at least `delivery_backoff(1)` apart, as long as every outcome is
recorded. The distance is kept in the due time of the row, which only `mark_failed` moves; a write that
fails leaves the row overdue and the loop sends it again at once. -/

namespace PtchanGateway

open TextRfc3339 JsonValue Config Store RunSystem

namespace Delivery

/-- The shortest backoff, in nanoseconds. -/
def spacing : Nat := deliveryBackoff 1 * 10 ^ 9

theorem spacing_le (attempts : Int) : spacing ≤ deliveryBackoff attempts * 10 ^ 9 := by
  refine Nat.mul_le_mul_right _ (min_le_min_right _ (Nat.pow_le_pow_right (by decide) ?_))
  have hone : (max 1 (min (1 : Int) 8)).toNat = 1 := rfl
  omega

/-- The requests sent, the latest first. -/
def sends (history : List Record) : List (PendingDelivery × Reading) :=
  history.filterMap fun
    | .sent delivery now => some (delivery, now)
    | _ => none

/-- Two requests for one delivery are apart. -/
def Spaced (requests : List (PendingDelivery × Reading)) : Prop :=
  requests.Pairwise fun later earlier => later.1.key = earlier.1.key → earlier.2.ns + spacing ≤ later.2.ns

/-- A request for the delivery at this time would be apart from all earlier ones. -/
def Clear (requests : List (PendingDelivery × Reading)) (key : String × String) (time : Nat) : Prop :=
  ∀ request ∈ requests, request.1.key = key → request.2.ns + spacing ≤ time

theorem Clear.mono {requests : List (PendingDelivery × Reading)} {key : String × String} {time later : Nat}
    (h : Clear requests key time) (hle : time ≤ later) : Clear requests key later :=
  fun request hrequest hkey => (h request hrequest hkey).trans hle

theorem Clear.cons_of_ne {requests : List (PendingDelivery × Reading)} {key : String × String} {time : Nat}
    (h : Clear requests key time) {delivery : PendingDelivery} {now : Reading} (hne : delivery.key ≠ key) :
    Clear ((delivery, now) :: requests) key time := by
  intro request hrequest hkey
  rcases List.mem_cons.mp hrequest with rfl | hold
  · exact absurd hkey hne
  · exact h request hold hkey

/-- The row waits until a request is clear. -/
def Defers (requests : List (PendingDelivery × Reading)) (d : DeliveryRow) : Prop :=
  ∀ request ∈ requests, request.1.key = d.key →
    ∃ t : Instant, d.nextAttemptAt = t.toRfc3339 ∧ request.2.ns + spacing ≤ t.ns

theorem Clear.defers {requests : List (PendingDelivery × Reading)} {d : DeliveryRow} {t : Instant}
    (h : Clear requests d.key t.ns) (hdue : d.nextAttemptAt = t.toRfc3339) : Defers requests d :=
  fun request hrequest hkey => ⟨t, hdue, h request hrequest hkey⟩

theorem Defers.clear {requests : List (PendingDelivery × Reading)} {d : DeliveryRow} {now : Instant}
    (h : Defers requests d) (hdue : d.nextAttemptAt ≤ now.toRfc3339) : Clear requests d.key now.ns := by
  intro request hrequest hkey
  obtain ⟨t, ht, hle⟩ := h request hrequest hkey
  rw [ht, Instant.toRfc3339_le_iff] at hdue
  exact hle.trans hdue

/-- The outcome is recorded, and an event that was pruned does not come back sooner than the spacing after
its last request. -/
def Recorded (s : System) : Action → Prop
  | .write _ succeeds => succeeds = true
  | .ingest _ event _ _ => s.store.hasEvent event.eventId = false →
      ∀ request ∈ sends s.history, request.1.eventId = event.eventId →
        request.2.ns + spacing ≤ event.observedAt.ns
  | _ => True

instance (s : System) : (a : Action) → Decidable (Recorded s a)
  | .write _ succeeds => inferInstanceAs (Decidable (succeeds = true))
  | .ingest _ event _ _ => inferInstanceAs (Decidable (s.store.hasEvent event.eventId = false →
      ∀ request ∈ sends s.history, request.1.eventId = event.eventId →
        request.2.ns + spacing ≤ event.observedAt.ns))
  | .restart _ | .check _ | .start _ | .answer _ _ _ | .drain _ | .sleep _ | .notify _ | .prune _ _ |
      .shutdown | .load _ | .measure _ | .wake _ => inferInstanceAs (Decidable True)

def Timely (s : System) (a : Action) : Prop := Running s a ∧ Recorded s a

instance (s : System) (a : Action) : Decidable (Timely s a) := inferInstanceAs (Decidable (_ ∧ _))

/-- Every row that is not under way waits, and every queued delivery has waited. -/
structure Waits (s : System) : Prop where
  spaced : Spaced (sends s.history)
  past : ∀ request ∈ sends s.history, request.2.ns ≤ s.clock
  loading : ∀ now, s.phase = .loading now → now.ns ≤ s.clock
  queued : ∀ p ∈ s.phase.queue, Clear (sends s.history) p.key s.clock
  writing : ∀ flight ∈ s.phase.flights, ∀ error attempts next,
    flight.stage = .writing (.markFailed error attempts next) → Clear (sends s.history) flight.key next.ns
  rows : ∀ key d, s.store.row? key = some d → d.status = .pending →
    key ∉ s.phase.flights.map Flight.key → Defers (sends s.history) d

variable {limit : Nat} {s s' : System} {a : Action}

theorem Waits.clear_afterBackoff (h : Waits s) {now : Reading} (hclock : s.clock ≤ now.ns) (key : String × String)
    (attempts : Int) : Clear (sends s.history) key (now.afterBackoff attempts).ns := by
  intro request hrequest _
  exact Nat.add_le_add ((h.past request hrequest).trans hclock) (spacing_le attempts)

/-- A step that sends and schedules nothing. -/
theorem Waits.idle (h : Waits s) (hsends : sends s'.history = sends s.history) (hclock : s.clock ≤ s'.clock)
    (hloading : ∀ now, s'.phase = .loading now → now.ns ≤ s'.clock) (hqueue : s'.phase.queue ⊆ s.phase.queue)
    (hflights : s'.phase.flights = s.phase.flights)
    (hrows : ∀ key d, s'.store.row? key = some d → s.store.row? key = some d) : Waits s' where
  spaced := by
    rw [hsends]
    exact h.spaced
  past := by
    rw [hsends]
    exact fun request hrequest => (h.past request hrequest).trans hclock
  loading := hloading
  queued := by
    rw [hsends]
    exact fun p hp => (h.queued p (hqueue hp)).mono hclock
  writing := by
    rw [hsends, hflights]
    exact h.writing
  rows := by
    rw [hsends, hflights]
    exact fun key d hrow => h.rows key d (hrows key d hrow)

theorem Waits.committing (h : Waits s) {faults : TxFaults} {event : WebhookEvent} {payload : Bytes}
    {deliveries : List EventDelivery} {store : Store}
    (htimely : Timely s (.ingest faults event payload deliveries))
    (hfresh : event.eventId ∉ s.store.events.map EventRow.id)
    (hrows : store.deliveries =
      s.store.deliveries ++ deliveries.map (newDelivery event.eventId event.observedAt.toRfc3339)) :
    Waits { s with
      store := store
      notifying := event.eventId :: s.notifying
      history := .committed event.eventId (deliveries.map EventDelivery.webhook) :: s.history } where
  spaced := h.spaced
  past := h.past
  loading := h.loading
  queued := h.queued
  writing := h.writing
  rows := by
    intro key d hrow hpending hflight
    rw [row?_of_inserted hfresh hrows] at hrow
    split_ifs at hrow with hkey
    · obtain ⟨delivery, _, rfl⟩ := Option.map_eq_some_iff.mp hrow
      intro request hrequest hmine
      refine ⟨event.observedAt, rfl, htimely.2 ?_ request hrequest ?_⟩
      · rw [hasEvent, decide_eq_false_iff_not]
        exact hfresh
      · exact congrArg Prod.fst hmine
    · exact h.rows key d hrow hpending hflight

theorem Waits.loaded (h : Waits s) {now : Reading} {succeeds : Bool} (hphase : s.phase = .loading now) :
    Waits { s with phase := .delivering (loadBatch limit now succeeds s.store) [] } where
  spaced := h.spaced
  past := h.past
  loading := by
    intro other hother
    cases hother
  queued := by
    rcases loadBatch_eq limit now succeeds s.store with hnil | hbatch
    · rw [hnil]
      intro p hp
      cases hp
    · rw [hbatch]
      intro p hp
      obtain ⟨d, hd, rfl⟩ := List.mem_map.mp hp
      obtain ⟨hrow, hpending, hdue⟩ := mem_loaded hd
      have hdefers := h.rows d.key d hrow hpending (by rw [hphase]; exact List.not_mem_nil)
      exact (hdefers.clear hdue).mono (h.loading now hphase)
  writing := by
    intro flight hflight
    cases hflight
  rows := by
    intro key d hrow hpending _
    exact h.rows key d hrow hpending (by rw [hphase]; exact List.not_mem_nil)

section Start

variable {delivery : PendingDelivery} {queue : List PendingDelivery} {flights : List Flight}

theorem Waits.sent (h : Waits s) (hsound : Sound s) (hphase : s.phase = .delivering (delivery :: queue) flights)
    {now : Reading} (hclock : s.clock ≤ now.ns) :
    Waits { s with
      phase := .delivering queue (flights ++ [⟨delivery, .sending⟩])
      clock := now.ns
      history := .sent delivery now :: s.history } := by
  obtain ⟨hqueue, hflights⟩ := hsound.head_ne hphase
  have hqueued := h.queued
  have hwriting := h.writing
  have hrows := h.rows
  rw [hphase] at hqueued hwriting hrows
  refine ⟨?_, ?_, ?_, ?_, ?_, ?_⟩
  · refine List.Pairwise.cons (fun request hrequest hkey => ?_) h.spaced
    exact (hqueued delivery List.mem_cons_self request hrequest hkey.symm).trans hclock
  · intro request hrequest
    rcases List.mem_cons.mp hrequest with rfl | hold
    · exact le_refl _
    · exact (h.past request hold).trans hclock
  · intro other hother
    cases hother
  · intro p hp
    exact ((hqueued p (List.mem_cons_of_mem _ hp)).mono hclock).cons_of_ne (hqueue p hp)
  · intro flight hflight error attempts next hstage
    rcases List.mem_append.mp hflight with hold | hnew
    · exact (hwriting flight hold error attempts next hstage).cons_of_ne (hflights flight hold)
    · rw [List.mem_singleton.mp hnew] at hstage
      cases hstage
  · intro key d hrow hpending hflight
    simp only [Phase.flights, List.map_append, List.mem_append, not_or] at hflight
    have hkey : d.key = key := (row?_eq_some_iff.mp hrow).2
    intro request hrequest hmine
    rcases List.mem_cons.mp hrequest with rfl | hold
    · exact absurd (List.mem_singleton.mpr (hkey.symm.trans hmine.symm)) hflight.2
    · exact hrows key d hrow hpending hflight.1 request hold hmine

theorem Waits.unconfigured (h : Waits s) (hphase : s.phase = .delivering (delivery :: queue) flights)
    {now : Reading} (hclock : s.clock ≤ now.ns) :
    Waits { s with
      phase := .delivering queue
        (flights ++ [⟨delivery, .writing (markFailed delivery "webhook is not configured" now)⟩])
      clock := now.ns
      history := .unconfigured delivery :: s.history } := by
  have hqueued := h.queued
  have hwriting := h.writing
  have hrows := h.rows
  rw [hphase] at hqueued hwriting hrows
  refine ⟨h.spaced, fun request hrequest => (h.past request hrequest).trans hclock, ?_, ?_, ?_, ?_⟩
  · intro other hother
    cases hother
  · exact fun p hp => (hqueued p (List.mem_cons_of_mem _ hp)).mono hclock
  · intro flight hflight error attempts next hstage
    rcases List.mem_append.mp hflight with hold | hnew
    · exact hwriting flight hold error attempts next hstage
    · rw [List.mem_singleton.mp hnew, markFailed] at hstage
      obtain ⟨_, _, rfl⟩ := Write.markFailed.inj (Stage.writing.inj hstage)
      exact h.clear_afterBackoff hclock _ _
  · intro key d hrow hpending hflight
    simp only [Phase.flights, List.map_append, List.mem_append, not_or] at hflight
    exact hrows key d hrow hpending hflight.1

end Start

section Flights

variable {delivery : PendingDelivery} {queue : List PendingDelivery} {flights : List Flight}

theorem Waits.answered (h : Waits s) (hphase : s.phase = .delivering queue flights) {outcome : Outcome}
    {now : Reading} (hclock : s.clock ≤ now.ns) :
    Waits { s with
      phase := .delivering queue (flights.map fun flight =>
        if flight.key = delivery.key then
          { flight with stage := .writing (deliverOne flight.delivery outcome now) }
        else flight)
      clock := now.ns
      history := .answered delivery.key outcome :: s.history } := by
  have hqueued := h.queued
  have hwriting := h.writing
  have hrows := h.rows
  rw [hphase] at hqueued hwriting hrows
  refine ⟨h.spaced, fun request hrequest => (h.past request hrequest).trans hclock, ?_, ?_, ?_, ?_⟩
  · intro other hother
    cases hother
  · exact fun p hp => (hqueued p hp).mono hclock
  · intro flight hflight error attempts next hstage
    obtain ⟨old, hold, rfl⟩ := List.mem_map.mp hflight
    by_cases hkey : old.key = delivery.key
    · rw [if_pos hkey] at hstage ⊢
      rcases deliverOne_cases old.delivery outcome now with hdone | ⟨reason, hfailed⟩
      · rw [hdone] at hstage
        cases hstage
      · rw [hfailed, markFailed] at hstage
        obtain ⟨_, _, rfl⟩ := Write.markFailed.inj (Stage.writing.inj hstage)
        exact h.clear_afterBackoff hclock _ _
    · rw [if_neg hkey] at hstage ⊢
      exact hwriting old hold error attempts next hstage
  · intro key d hrow hpending hflight
    rw [Phase.flights, map_key_of_answered flights delivery.key fun p => deliverOne p outcome now] at hflight
    exact hrows key d hrow hpending hflight

theorem Waits.wrote (h : Waits s) (hphase : s.phase = .delivering queue flights) {write : Write}
    (hmem : ⟨delivery, .writing write⟩ ∈ flights) :
    Waits { s with
      store := write.apply delivery.key s.store
      phase := .delivering queue (flights.filter fun flight => flight.key != delivery.key)
      history := write.record delivery.key :: s.history } := by
  have hsends : sends (write.record delivery.key :: s.history) = sends s.history := by
    cases write with
    | markDelivered now => rfl
    | markFailed error attempts next => rfl
  have hqueued := h.queued
  have hwriting := h.writing
  have hrows := h.rows
  rw [hphase] at hqueued hwriting hrows
  rw [← hsends] at hqueued hwriting hrows
  refine ⟨hsends ▸ h.spaced, hsends ▸ h.past, ?_, hqueued, ?_, ?_⟩
  · intro other hother
    cases hother
  · exact fun flight hflight => hwriting flight (List.mem_of_mem_filter hflight)
  · intro key d hrow hpending hflight
    rw [row?_apply] at hrow
    split_ifs at hrow with hkey
    · subst hkey
      obtain ⟨old, hold, rfl⟩ := Option.map_eq_some_iff.mp hrow
      cases write with
      | markDelivered now => cases hpending
      | markFailed error attempts next =>
          have hclear := hwriting _ hmem error attempts next rfl
          have hkey : old.key = delivery.key := (row?_eq_some_iff.mp hold).2
          refine Clear.defers (d := Write.set (.markFailed error attempts next) old) (t := next) ?_ rfl
          exact fun request hrequest hmine => hclear request hrequest (hmine.trans hkey)
    · refine hrows key d hrow hpending fun hin => hflight ?_
      obtain ⟨flight, hmine, rfl⟩ := List.mem_map.mp hin
      exact List.mem_map_of_mem (List.mem_filter.mpr ⟨hmine, bne_iff_ne.mpr hkey⟩)

end Flights

theorem Waits.step (h : Waits s) (hsound : Sound s) (htimely : Timely s a) (hstep : Step limit s a s') :
    Waits s' := by
  cases hstep with
  | committed hfresh hevents hrows => exact h.committing htimely hfresh hrows
  | notCommitted | notified | pruneFailed | shutdown =>
      exact h.idle rfl (le_refl _) h.loading (List.Subset.refl _) rfl fun _ _ hrow => hrow
  | pruned =>
      refine h.idle rfl (le_refl _) h.loading (List.Subset.refl _) rfl fun key d hrow => ?_
      rw [row?_prune] at hrow
      split_ifs at hrow
      exact hrow
  | restarted => exact htimely.1.elim
  | stopped hphase =>
      exact h.idle rfl (le_refl _) (by simp) (List.nil_subset _) (by rw [hphase]; rfl) fun _ _ hrow => hrow
  | checked hphase =>
      refine h.idle rfl htimely.1 ?_ (List.nil_subset _) (by rw [hphase]; rfl) fun _ _ hrow => hrow
      rintro now ⟨⟩
      exact le_refl _
  | loaded hphase => exact h.loaded hphase
  | sent hphase => exact h.sent hsound hphase htimely.1
  | unconfigured hphase => exact h.unconfigured hphase htimely.1
  | answered hphase => exact h.answered hphase htimely.1
  | wrote hphase hmem => exact h.wrote hphase hmem
  | writeFailed => cases htimely.2
  | drained hphase =>
      exact h.idle rfl htimely.1 (by simp) (List.nil_subset _) (by rw [hphase]; rfl) fun _ _ hrow => hrow
  | measured hphase =>
      exact h.idle rfl (le_refl _) (by simp) (List.nil_subset _) (by rw [hphase]; rfl) fun _ _ hrow => hrow
  | slept hphase =>
      exact h.idle rfl htimely.1 (by simp) (List.nil_subset _) (by rw [hphase]; rfl) fun _ _ hrow => hrow
  | woken hphase =>
      exact h.idle rfl (le_refl _) (by simp) (List.nil_subset _) (by rw [hphase]; rfl) fun _ _ hrow => hrow

/-- In a timely run of the loop, requests for one delivery are apart. -/
theorem requests_are_spaced {store : Store} {webhooks : List WebhookConfig} {actions : List Action}
    (h : Path (step batchLimit) Timely (System.init store webhooks) actions s) : Spaced (sends s.history) := by
  have hwaits : Sound s ∧ Waits s := by
    refine h.invariant (fun s => Sound s ∧ Waits s) ?_ ⟨.of_inHand_nil rfl, ?_⟩
    · rintro s a s' ⟨hsound, hwaits⟩ htimely hstep
      exact ⟨hsound.step (step_cases hstep), hwaits.step hsound htimely (step_cases hstep)⟩
    · refine ⟨List.Pairwise.nil, ?_, by simp [System.init], ?_, ?_, ?_⟩
      · intro request hrequest
        cases hrequest
      · intro p hp
        cases hp
      · intro flight hflight
        cases hflight
      · intro key d _ _ _ request hrequest
        cases hrequest
  exact hwaits.2.spaced

/-- A delivery fails and is sent again after its backoff. -/
def spacedRetry : List Action :=
  [.ingest .none (.bare "e" (.ofNanos 0)) [] [⟨"w", []⟩], .check (.ofNanos 0), .load true,
    .start (.ofNanos 0), .answer ("e", "w") (.response 503 "Service Unavailable") (.ofNanos 0),
    .write ("e", "w") true, .drain (.ofNanos 0), .measure true, .sleep (.ofNanos 0), .wake .elapsed,
    .check (.ofNanos (2 * 10 ^ 9)), .load true, .start (.ofNanos (2 * 10 ^ 9))]

theorem requests_are_spaced_retry :
    ∃ s, Path (step batchLimit) Timely (System.init Store.empty [plainWebhook "w"]) spacedRetry s ∧
      (sends s.history).length = 2 ∧ Spaced (sends s.history) := by
  obtain ⟨s, hrun, hlength⟩ : ∃ s, Path (step batchLimit) Timely (System.init Store.empty [plainWebhook "w"])
      spacedRetry s ∧ (sends s.history).length = 2 := Path.exists_of_exec _ (by decide +kernel)
  exact ⟨s, hrun, hlength, requests_are_spaced hrun⟩

/-- A success is not recorded, and the delivery is sent again one millisecond later. -/
def unrecordedSuccess : List Action :=
  [.ingest .none (.bare "e" (.ofNanos 0)) [] [⟨"w", []⟩], .check (.ofNanos 0), .load true,
    .start (.ofNanos 0), .answer ("e", "w") (.response 200 "OK") (.ofNanos 0),
    .write ("e", "w") false, .drain (.ofNanos 0), .measure true, .sleep (.ofNanos 0), .wake .elapsed,
    .check (.ofNanos (10 ^ 6)), .load true, .start (.ofNanos (10 ^ 6))]

/-- Without the record of an outcome, requests need not be apart. -/
theorem requests_need_not_be_spaced :
    ¬∀ store webhooks actions s, Path (step batchLimit) Running (System.init store webhooks) actions s →
      Spaced (sends s.history) := by
  intro hall
  obtain ⟨s, hrun, hsends⟩ : ∃ s, Path (step batchLimit) Running (System.init Store.empty [plainWebhook "w"])
      unrecordedSuccess s ∧
        sends s.history = [(⟨"e", "w", [], 0⟩, .ofNanos (10 ^ 6)), (⟨"e", "w", [], 0⟩, .ofNanos 0)] :=
    Path.exists_of_exec _ (by decide +kernel)
  have hspaced := hall _ _ _ s hrun
  rw [hsends, Spaced, List.pairwise_cons] at hspaced
  exact absurd (hspaced.1 _ (List.mem_singleton.mpr rfl) rfl) (by decide)

end Delivery

end PtchanGateway
