import PtchanGateway.DeliveryDurability
import PtchanGateway.StoreScheduler

/-! No wakeup is lost between ingestion and delivery. While the loop sleeps, each pending row was either
there when `next_delivery_delay` looked, and then the sleep is no longer than the row allows, or it was
committed later, and then the permit is there or is still to be given. -/

namespace PtchanGateway

open TextRfc3339 JsonValue Config Store RunSystem

namespace Delivery

/-- The events committed after the last `next_delivery_delay` call. -/
def committedSince (history : List Record) : List String :=
  (history.takeWhile fun record => record != .measured).filterMap fun
    | .committed eventId _ => some eventId
    | _ => none

/-- What the loop will sleep on, or sleeps on. -/
def Phase.wait? : Phase → Option Wait
  | .measured wait => some wait
  | .waiting wait _ => some wait
  | _ => none

/-- The row wakes the loop: its event was committed after the last call, and the permit is there or will be
given. -/
def Notifies (s : System) (eventId : String) : Prop :=
  eventId ∈ committedSince s.history ∧ (s.permit = true ∨ eventId ∈ s.notifying)

/-- The sleep is no longer than the row allows. -/
def Allows (wait : Wait) (due : String) : Prop :=
  ∃ t : Instant, due = t.toRfc3339 ∧ wait.sleepFor ≤ t.ns - wait.now.ns

/-- Every due time is that of an instant, and no pending row is slept through. -/
structure Awake (s : System) : Prop where
  timed : s.store.Timed
  awake : ∀ wait, s.phase.wait? = some wait → wait.succeeded = true → ∀ d ∈ s.store.deliveries,
    d.status = .pending → Allows wait d.nextAttemptAt ∨ Notifies s d.eventId

variable {limit : Nat} {s s' : System} {a : Action}

theorem timed_apply {store : Store} (h : store.Timed) (write : Write) (key : String × String) :
    (write.apply key store).Timed := by
  cases write with
  | markDelivered now => exact h.call (.markDelivered key.1 key.2 now.instant)
  | markFailed error attempts next => exact h.call (.markFailed key.1 key.2 error attempts next)

/-- The delay the loop takes from a successful call lets no pending row down. -/
theorem sleepOf_allows {store : Store} (h : store.Timed) {now : Reading} {succeeds : Bool}
    (hsucceeded : (sleepOf now succeeds store).succeeded = true) {d : DeliveryRow} (hd : d ∈ store.deliveries)
    (hpending : d.status = .pending) : Allows (sleepOf now succeeds store) d.nextAttemptAt := by
  cases succeeds with
  | false => cases hsucceeded
  | true =>
      rcases nextDeliveryDelay_cases h now.instant with ⟨hzero, _⟩ | ⟨_, first, hfirst, hdelay⟩
      · exact absurd hpending (pendingCount_eq_zero_iff.mp hzero d hd)
      · obtain ⟨t, ht⟩ := h d hd
        have hle := hfirst.least d hd hpending
        rw [ht, Instant.toRfc3339_le_iff] at hle
        refine ⟨t, ht, ?_⟩
        rw [sleepOf, if_pos rfl, hdelay]
        exact Nat.sub_le_sub_right hle _

theorem Awake.of_no_wait (h : s'.store.Timed) (hwait : s'.phase.wait? = none) : Awake s' where
  timed := h
  awake := by
    intro wait hsome
    rw [hwait] at hsome
    cases hsome

theorem Awake.of_rows (h : Awake s) (hrows : s'.store.deliveries ⊆ s.store.deliveries)
    (hwait : s'.phase.wait? = s.phase.wait?) (hnotifies : ∀ eventId, Notifies s eventId → Notifies s' eventId) :
    Awake s' where
  timed := fun d hd => h.timed d (hrows hd)
  awake := by
    rw [hwait]
    intro wait hsome hsucceeded d hd hpending
    exact (h.awake wait hsome hsucceeded d (hrows hd) hpending).imp_right (hnotifies d.eventId)

theorem Awake.committing (h : Awake s) {event : WebhookEvent} {deliveries : List EventDelivery} {store : Store}
    (hrows : store.deliveries =
      s.store.deliveries ++ deliveries.map (newDelivery event.eventId event.observedAt.toRfc3339)) :
    Awake { s with
      store := store
      notifying := event.eventId :: s.notifying
      history := .committed event.eventId (deliveries.map EventDelivery.webhook) :: s.history } := by
  have hsince : committedSince (.committed event.eventId (deliveries.map EventDelivery.webhook) :: s.history) =
      event.eventId :: committedSince s.history := rfl
  refine ⟨fun d hd => ?_, fun wait hsome hsucceeded d hd hpending => ?_⟩
  · rw [hrows, List.mem_append] at hd
    rcases hd with hold | hnew
    · exact h.timed d hold
    · obtain ⟨_, _, rfl⟩ := List.mem_map.mp hnew
      exact ⟨event.observedAt, rfl⟩
  · rw [hrows, List.mem_append] at hd
    rcases hd with hold | hnew
    · refine (h.awake wait hsome hsucceeded d hold hpending).imp_right fun hnotifies => ⟨?_, ?_⟩
      · rw [hsince]
        exact List.mem_cons_of_mem _ hnotifies.1
      · exact hnotifies.2.imp_right fun hmem => List.mem_cons_of_mem _ hmem
    · obtain ⟨_, _, rfl⟩ := List.mem_map.mp hnew
      refine Or.inr ⟨?_, Or.inr List.mem_cons_self⟩
      rw [hsince]
      exact List.mem_cons_self

theorem Awake.step (h : Awake s) (hstep : Step limit s a s') : Awake s' := by
  cases hstep with
  | committed hfresh hevents hrows => exact h.committing hrows
  | notCommitted | pruneFailed => exact h
  | shutdown => exact h.of_rows (List.Subset.refl _) rfl fun _ hnotifies => hnotifies
  | notified => exact h.of_rows (List.Subset.refl _) rfl fun _ hnotifies => ⟨hnotifies.1, Or.inl rfl⟩
  | pruned =>
      exact h.of_rows (fun _ hd => List.mem_of_mem_filter hd) rfl fun _ hnotifies => hnotifies
  | slept hphase =>
      exact h.of_rows (List.Subset.refl _) (by rw [hphase]; rfl) fun _ hnotifies => hnotifies
  | measured =>
      refine ⟨h.timed, ?_⟩
      rintro wait ⟨⟩ hsucceeded d hd hpending
      exact Or.inl (sleepOf_allows h.timed hsucceeded hd hpending)
  | restarted | stopped | checked | loaded | sent | unconfigured | answered | writeFailed | drained | woken =>
      exact .of_no_wait h.timed rfl
  | wrote => exact .of_no_wait (timed_apply h.timed _ _) rfl

/-- While the loop sleeps after a successful `next_delivery_delay`, every pending row that is due before it
wakes either allows the sleep or has been announced. -/
theorem no_wakeup_is_lost {webhooks : List WebhookConfig} {actions : List Action}
    (h : Run batchLimit webhooks actions s) {wait : Wait} {wakeAt : Nat} (hphase : s.phase = .waiting wait wakeAt)
    (hsucceeded : wait.succeeded = true) {d : DeliveryRow} (hd : d ∈ s.store.deliveries)
    (hpending : d.status = .pending) :
    ∃ due : Instant, d.nextAttemptAt = due.toRfc3339 ∧ (due.ns < wakeAt →
      (d.eventId ∈ committedSince s.history ∧ (s.permit = true ∨ d.eventId ∈ s.notifying)) ∨
      wait.sleepFor ≤ due.ns - wait.now.ns) := by
  have hawake : Awake s := by
    apply h.invariant Awake (fun _ _ _ hawake _ hstep => hawake.step (step_cases hstep))
    refine .of_no_wait ?_ rfl
    intro d hd
    cases hd
  rcases hawake.awake wait (by rw [hphase]; rfl) hsucceeded d hd hpending with ⟨due, hdue, hle⟩ | hnotifies
  · exact ⟨due, hdue, fun _ => Or.inr hle⟩
  · obtain ⟨due, hdue⟩ := hawake.timed d hd
    exact ⟨due, hdue, fun _ => Or.inl hnotifies⟩

/-- An event is committed while the loop sleeps, and not yet announced. -/
def committedAsleep : List Action :=
  [.check (.ofNanos 0), .load true, .drain (.ofNanos 0), .measure true, .sleep (.ofNanos 0),
    .ingest .none (.bare "e" (.ofNanos (10 ^ 9))) [] [⟨"w", []⟩]]

theorem no_wakeup_is_lost_committedAsleep :
    ∃ s, Run batchLimit [plainWebhook "w"] committedAsleep s ∧ "e" ∈ committedSince s.history ∧
      (s.permit = true ∨ "e" ∈ s.notifying) := by
  obtain ⟨s, hrun, hphase, hrows⟩ : ∃ s, Run batchLimit [plainWebhook "w"] committedAsleep s ∧
      s.phase = .waiting ⟨.ofNanos 0, true, idleSweepInterval⟩ idleSweepInterval ∧
      newDelivery "e" (Instant.toRfc3339 (.ofNanos (10 ^ 9))) ⟨"w", []⟩ ∈ s.store.deliveries :=
    Path.exists_of_exec _ (by decide +kernel)
  obtain ⟨due, hdue, hwoken⟩ := no_wakeup_is_lost hrun hphase rfl hrows rfl
  obtain rfl := Instant.toRfc3339_injective hdue
  exact ⟨s, hrun, (hwoken (by decide)).resolve_right (by decide)⟩

/-- An event is committed between the load and `next_delivery_delay`, and is overdue by then. -/
def committedBetween : List Action :=
  [.check (.ofNanos 0), .load true, .ingest .none (.bare "e" (.ofNanos 0)) [] [⟨"w", []⟩], .notify "e",
    .drain (.ofNanos (10 ^ 9)), .measure true, .sleep (.ofNanos (10 ^ 9))]

/-- A row that is overdue before it sleeps was not committed after the call. -/
theorem overdue_rows_are_older :
    ¬∀ webhooks actions s wait wakeAt d, Run batchLimit webhooks actions s → s.phase = .waiting wait wakeAt →
      wait.succeeded = true → d ∈ s.store.deliveries → d.status = .pending →
      ∀ due : Instant, d.nextAttemptAt = due.toRfc3339 → due.ns < wakeAt →
        d.eventId ∈ committedSince s.history ∧ (s.permit = true ∨ d.eventId ∈ s.notifying) := by
  intro hall
  obtain ⟨s, hrun, hphase, hrows, hnone⟩ : ∃ s, Run batchLimit [plainWebhook "w"] committedBetween s ∧
      s.phase = .waiting ⟨.ofNanos (10 ^ 9), true, 0⟩ (10 ^ 9) ∧
      newDelivery "e" (Instant.toRfc3339 (.ofNanos 0)) ⟨"w", []⟩ ∈ s.store.deliveries ∧
      "e" ∉ committedSince s.history := Path.exists_of_exec _ (by decide +kernel)
  exact hnone (hall _ _ s _ _ _ hrun hphase rfl hrows rfl (.ofNanos 0) rfl (by decide)).1

end Delivery

end PtchanGateway
