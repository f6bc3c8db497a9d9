import PtchanGateway.DeliveryDurability

/-! Rows only move forward and count exactly. `attempts` is written from a snapshot without a guard, so
the count rests on the batch being sound: while a delivery is in hand, no other write touches its row.
What happened to a row is read off the history since its event was last committed, because a pruned event
may be ingested again and then has new rows. -/

namespace PtchanGateway

open TextRfc3339 JsonValue Config Store RunSystem

namespace Delivery

def Record.commits (eventId : String) : Record → Bool
  | .committed other _ => other == eventId
  | _ => false

/-- The history since the event was last committed. -/
def since (eventId : String) (history : List Record) : List Record :=
  history.takeWhile fun record => !record.commits eventId

/-- The `mark_failed` calls that succeeded for the row there is now. -/
def failures (key : String × String) (history : List Record) : Nat :=
  (since key.1 history).count (.markedFailed key)

theorem since_cons {eventId : String} {record : Record} (h : record.commits eventId = false)
    (history : List Record) : since eventId (record :: history) = record :: since eventId history := by
  rw [since, List.takeWhile_cons, h]
  rfl

theorem since_committed (eventId : String) (webhooks : List String) (history : List Record) :
    since eventId (.committed eventId webhooks :: history) = [] := by
  simp [since, Record.commits]

theorem since_append {eventId : String} {new : List Record}
    (h : ∀ record ∈ new, record.commits eventId = false) (history : List Record) :
    since eventId (new ++ history) = new ++ since eventId history := by
  induction new with
  | nil => rfl
  | cons record new ih =>
      rw [List.cons_append, since_cons (h record List.mem_cons_self),
        ih fun other hother => h other (List.mem_cons_of_mem _ hother), List.cons_append]

/-- A row agrees with what the history says of it. -/
structure Agrees (key : String × String) (d : DeliveryRow) (history : List Record) : Prop where
  attempts : d.attempts = failures key history
  delivered : d.status = .delivered ↔ .markedDelivered key ∈ since key.1 history

/-- A record that says nothing of the row. -/
def Record.silent (key : String × String) (record : Record) : Prop :=
  record.commits key.1 = false ∧ record ≠ .markedDelivered key ∧ record ≠ .markedFailed key

theorem Agrees.cons {key : String × String} {d : DeliveryRow} {history : List Record} {record : Record}
    (h : Agrees key d history) (hsilent : record.silent key) : Agrees key d (record :: history) := by
  obtain ⟨hcommits, hdelivered, hfailed⟩ := hsilent
  constructor
  · rw [failures, since_cons hcommits, List.count_cons_of_ne hfailed]
    exact h.attempts
  · rw [since_cons hcommits, List.mem_cons, h.delivered]
    exact ⟨Or.inr, fun hmem => hmem.resolve_left fun heq => hdelivered heq.symm⟩

/-- Every row agrees with the history, and no request was sent for a row that was marked delivered. -/
structure Counted (s : System) : Prop where
  writes : ∀ flight ∈ s.phase.flights, ∀ error attempts next,
    flight.stage = .writing (.markFailed error attempts next) → attempts = flight.delivery.attempts + 1
  rows : ∀ key d, s.store.row? key = some d → Agrees key d s.history
  sent : ∀ newer older delivery now, s.history = newer ++ .sent delivery now :: older →
    .markedDelivered delivery.key ∉ since delivery.eventId older

variable {limit : Nat} {s s' : System} {a : Action}

theorem sent_cons {history : List Record} {record : Record} (hrecord : ∀ delivery now, record ≠ .sent delivery now)
    (h : ∀ newer older delivery now, history = newer ++ .sent delivery now :: older →
      .markedDelivered delivery.key ∉ since delivery.eventId older) :
    ∀ newer older delivery now, record :: history = newer ++ .sent delivery now :: older →
      .markedDelivered delivery.key ∉ since delivery.eventId older := by
  intro newer older delivery now heq
  cases newer with
  | nil => exact absurd (List.cons.inj heq).1 (hrecord delivery now)
  | cons _ newer => exact h newer older delivery now (List.cons.inj heq).2

section Rows

variable (hwrites : ∀ flight ∈ s'.phase.flights, ∀ error attempts next,
  flight.stage = .writing (.markFailed error attempts next) → attempts = flight.delivery.attempts + 1)

include hwrites

theorem Counted.same (h : Counted s) (hrows : ∀ key d, s'.store.row? key = some d → s.store.row? key = some d)
    (hhistory : s'.history = s.history) : Counted s' := by
  refine ⟨hwrites, ?_, ?_⟩
  · rw [hhistory]
    exact fun key d hrow => h.rows key d (hrows key d hrow)
  · rw [hhistory]
    exact h.sent

theorem Counted.silent (h : Counted s) {record : Record} (hsilent : ∀ key, record.silent key)
    (hrecord : ∀ delivery now, record ≠ .sent delivery now)
    (hstore : s'.store = s.store) (hhistory : s'.history = record :: s.history) : Counted s' := by
  refine ⟨hwrites, ?_, ?_⟩
  · rw [hstore, hhistory]
    exact fun key d hrow => (h.rows key d hrow).cons (hsilent key)
  · rw [hhistory]
    exact sent_cons hrecord h.sent

theorem Counted.committing (h : Counted s) {event : WebhookEvent} {deliveries : List EventDelivery}
    (hfresh : event.eventId ∉ s.store.events.map EventRow.id)
    (hrows : s'.store.deliveries =
      s.store.deliveries ++ deliveries.map (newDelivery event.eventId event.observedAt.toRfc3339))
    (hhistory : s'.history = .committed event.eventId (deliveries.map EventDelivery.webhook) :: s.history) :
    Counted s' := by
  refine ⟨hwrites, ?_, ?_⟩
  · intro key d hrow
    rw [row?_of_inserted hfresh hrows] at hrow
    rw [hhistory]
    split_ifs at hrow with hkey
    · obtain ⟨delivery, _, rfl⟩ := Option.map_eq_some_iff.mp hrow
      constructor
      · rw [failures, hkey, since_committed]
        rfl
      · rw [hkey, since_committed]
        simp [newDelivery]
    · refine (h.rows key d hrow).cons ⟨?_, by simp, by simp⟩
      simpa [Record.commits] using fun heq => hkey heq.symm
  · rw [hhistory]
    exact sent_cons (by simp) h.sent

theorem Counted.sending (h : Counted s) (hsound : Sound s) {delivery : PendingDelivery}
    {queue : List PendingDelivery} {flights : List Flight} {now : Reading}
    (hphase : s.phase = .delivering (delivery :: queue) flights) (hstore : s'.store = s.store)
    (hhistory : s'.history = .sent delivery now :: s.history) : Counted s' := by
  refine ⟨hwrites, ?_, ?_⟩
  · rw [hstore, hhistory]
    exact fun key d hrow => (h.rows key d hrow).cons ⟨rfl, by simp, by simp⟩
  · rw [hhistory]
    intro newer older other at0 heq
    cases newer with
    | nil =>
        obtain ⟨hrecord, rfl⟩ := List.cons.inj heq
        obtain ⟨rfl, rfl⟩ := Record.sent.inj hrecord
        obtain ⟨d, hrow, hpending, _⟩ := hsound.live delivery (by rw [hphase]; exact List.mem_cons_self)
        intro hmem
        rw [(h.rows _ d hrow).delivered.mpr hmem] at hpending
        cases hpending
    | cons _ newer => exact h.sent newer older other at0 (List.cons.inj heq).2

end Rows

/-- A write of the batch counts one more failure, or marks the row. -/
theorem Agrees.write {delivery : PendingDelivery} {d : DeliveryRow} {history : List Record} {write : Write}
    (h : Agrees delivery.key d history) (hpending : d.status = .pending) (hattempts : d.attempts = delivery.attempts)
    (hwrite : ∀ error attempts next, write = .markFailed error attempts next → attempts = delivery.attempts + 1) :
    Agrees delivery.key (write.set d) (write.record delivery.key :: history) := by
  have hnot : .markedDelivered delivery.key ∉ since delivery.key.1 history := by
    intro hmem
    rw [h.delivered.mpr hmem] at hpending
    cases hpending
  cases write with
  | markDelivered now =>
      constructor
      · rw [failures, Write.record, since_cons rfl, List.count_cons_of_ne (by simp)]
        exact h.attempts
      · rw [Write.record, since_cons rfl]
        exact ⟨fun _ => List.mem_cons_self, fun _ => rfl⟩
  | markFailed error attempts next =>
      constructor
      · rw [failures, Write.record, since_cons rfl, List.count_cons_self, Nat.cast_succ,
          ← failures, ← h.attempts, hattempts]
        exact hwrite error attempts next rfl
      · rw [Write.record, since_cons rfl, List.mem_cons]
        refine ⟨fun hdelivered => ?_, fun hmem => absurd (hmem.resolve_left (by simp)) hnot⟩
        rw [show (Write.set (.markFailed error attempts next) d).status = d.status from rfl, hpending] at hdelivered
        cases hdelivered

theorem Counted.step (h : Counted s) (hsound : Sound s) (hstep : Step limit s a s') : Counted s' := by
  have hwrites : ∀ flight ∈ s'.phase.flights, ∀ error attempts next,
      flight.stage = .writing (.markFailed error attempts next) → attempts = flight.delivery.attempts + 1 := by
    intro flight hflight error attempts next hstage
    rcases hstep.flight_cases hflight with hold | hsending | ⟨now, hdone⟩ | ⟨error', now, _, hfailed⟩
    · exact h.writes flight hold error attempts next hstage
    · rw [hsending] at hstage
      cases hstage
    · rw [hdone] at hstage
      cases hstage
    · rw [hfailed] at hstage
      cases hstage
      rfl
  cases hstep with
  | committed hfresh hevents hrows => exact h.committing hwrites hfresh hrows rfl
  | pruned =>
      refine h.same hwrites (fun key d hrow => ?_) rfl
      rw [row?_prune] at hrow
      split_ifs at hrow
      exact hrow
  | notCommitted | notified | pruneFailed | shutdown | restarted | stopped | checked | slept | woken | loaded =>
      exact h.same hwrites (fun _ _ hrow => hrow) rfl
  | writeFailed => exact h.same hwrites (fun _ _ hrow => hrow) rfl
  | drained => exact h.silent hwrites (fun _ => ⟨rfl, by simp, by simp⟩) (by simp) rfl rfl
  | measured => exact h.silent hwrites (fun _ => ⟨rfl, by simp, by simp⟩) (by simp) rfl rfl
  | unconfigured => exact h.silent hwrites (fun _ => ⟨rfl, by simp, by simp⟩) (by simp) rfl rfl
  | answered => exact h.silent hwrites (fun _ => ⟨rfl, by simp, by simp⟩) (by simp) rfl rfl
  | sent hphase => exact h.sending hwrites hsound hphase rfl rfl
  | @wrote delivery write queue flights hphase hmem =>
      have hin : delivery ∈ s.phase.inHand := by
        rw [hphase]
        exact List.mem_append_right _ (List.mem_map_of_mem hmem)
      obtain ⟨d, hrow, hpending, hattempts⟩ := hsound.live delivery hin
      have hcount : ∀ error attempts next, write = .markFailed error attempts next →
          attempts = delivery.attempts + 1 := by
        rintro error attempts next rfl
        exact h.writes _ (by rw [hphase]; exact hmem) error attempts next rfl
      refine ⟨hwrites, fun key d' hrow' => ?_, ?_⟩
      · rw [row?_apply] at hrow'
        split_ifs at hrow' with hkey
        · subst hkey
          rw [hrow, Option.map_some, Option.some.injEq] at hrow'
          subst hrow'
          exact (h.rows _ d hrow).write hpending hattempts hcount
        · apply (h.rows key d' hrow').cons
          cases write with
          | markDelivered now =>
              exact ⟨rfl, by simpa [Write.record] using fun heq => hkey heq.symm, by simp [Write.record]⟩
          | markFailed error attempts next =>
              exact ⟨rfl, by simp [Write.record], by simpa [Write.record] using fun heq => hkey heq.symm⟩
      · exact sent_cons (by cases write <;> simp [Write.record]) h.sent

theorem Run.counted {webhooks : List WebhookConfig} {actions : List Action} (h : Run limit webhooks actions s) :
    Sound s ∧ Counted s := by
  refine h.invariant (fun s => Sound s ∧ Counted s) ?_ ⟨.of_inHand_nil rfl, ?_⟩
  · rintro s a s' ⟨hsound, hcounted⟩ - hstep
    exact ⟨hsound.step (step_cases hstep), hcounted.step hsound (step_cases hstep)⟩
  · refine ⟨fun flight hflight => ?_, fun key d hrow => ?_, fun newer older delivery now heq => ?_⟩
    · cases hflight
    · cases hrow
    · exact absurd heq.symm (by simp [System.init])

/-- No later step inserted the row's event again. -/
def SameRow (key : String × String) (s s' : System) : Prop :=
  ∃ new, s'.history = new ++ s.history ∧ ∀ record ∈ new, record.commits key.1 = false

/-- A row's status only goes from pending to delivered, its attempts are the failures recorded for it, and
no request is sent for it once it is marked delivered. -/
theorem rows_move_forward {webhooks : List WebhookConfig} {actions : List Action}
    (h : Run limit webhooks actions s) :
    (∀ key d, s.store.row? key = some d → d.attempts = failures key s.history ∧
      (d.status = .delivered ↔ .markedDelivered key ∈ since key.1 s.history)) ∧
    (∀ later s' key d d', Path (step limit) (fun _ _ => True) s later s' → SameRow key s s' →
      s.store.row? key = some d → s'.store.row? key = some d' → d.status = .delivered → d'.status = .delivered) ∧
    (∀ newer older delivery now, s.history = newer ++ .sent delivery now :: older →
      .markedDelivered delivery.key ∉ since delivery.eventId older) := by
  refine ⟨fun key d hrow => ?_, ?_, h.counted.2.sent⟩
  · have hagrees := h.counted.2.rows key d hrow
    exact ⟨hagrees.attempts, hagrees.delivered⟩
  · rintro later s' key d d' hlater ⟨new, hhistory, hnew⟩ hrow hrow' hdelivered
    have hlast : Run limit webhooks (actions ++ later) s' := h.append hlater
    rw [(hlast.counted.2.rows key d' hrow').delivered, hhistory, since_append hnew]
    exact List.mem_append_right _ ((h.counted.2.rows key d hrow).delivered.mp hdelivered)

/-- A delivery fails once and then succeeds. -/
def secondAttempt : List Action :=
  [.ingest .none (.bare "e" (.ofNanos 0)) [] [⟨"w", []⟩], .check (.ofNanos 0), .load true,
    .start (.ofNanos 0), .answer ("e", "w") (.response 500 "Internal Server Error") (.ofNanos 0),
    .write ("e", "w") true, .drain (.ofNanos 0), .measure true, .sleep (.ofNanos 0), .wake .elapsed,
    .check (.ofNanos (2 * 10 ^ 9)), .load true, .start (.ofNanos (2 * 10 ^ 9)),
    .answer ("e", "w") (.response 200 "OK") (.ofNanos (2 * 10 ^ 9)), .write ("e", "w") true]

theorem rows_move_forward_secondAttempt :
    ∃ s d, Run batchLimit [plainWebhook "w"] secondAttempt s ∧ s.store.row? ("e", "w") = some d ∧
      d.status = .delivered ∧ d.attempts = 1 := by
  obtain ⟨s, hrun, hrow, hfailures, hmarked⟩ : ∃ s, Run batchLimit [plainWebhook "w"] secondAttempt s ∧
      (s.store.row? ("e", "w")).isSome = true ∧ failures ("e", "w") s.history = 1 ∧
      .markedDelivered ("e", "w") ∈ since "e" s.history := Path.exists_of_exec _ (by decide +kernel)
  obtain ⟨d, hrow⟩ := Option.isSome_iff_exists.mp hrow
  obtain ⟨hattempts, hstatus⟩ := (rows_move_forward hrun).1 _ d hrow
  exact ⟨s, d, hrun, hrow, hstatus.mpr hmarked, by rw [hattempts, hfailures, Nat.cast_one]⟩

end Delivery

end PtchanGateway
