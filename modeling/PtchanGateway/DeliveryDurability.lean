import PtchanGateway.DeliverySteps

/-! No committed delivery is lost. Along every run, restarts included, a delivery that was committed has
its row until the row is pruned, a row is pruned only when it is delivered, and it becomes delivered only
after a success answer to a request that carried it. -/

namespace PtchanGateway

open TextRfc3339 JsonValue Config Store RunSystem

namespace Delivery

/-- A request for the delivery was sent and answered with a success status. -/
def Acknowledged (history : List Record) (key : String × String) : Prop :=
  (∃ delivery now, Record.sent delivery now ∈ history ∧ delivery.key = key) ∧
    ∃ outcome, Record.answered key outcome ∈ history ∧ outcome.isSuccess = true

theorem Acknowledged.mono {history history' : List Record} {key : String × String}
    (h : Acknowledged history key) (hsubset : history ⊆ history') : Acknowledged history' key := by
  obtain ⟨⟨delivery, now, hsent, hkey⟩, outcome, hanswered, hsuccess⟩ := h
  exact ⟨⟨delivery, now, hsubset hsent, hkey⟩, outcome, hsubset hanswered, hsuccess⟩

/-- Every committed delivery has its row or was acknowledged. -/
structure Kept (s : System) : Prop where
  sending : ∀ flight ∈ s.phase.flights, flight.stage = .sending → ∃ now, .sent flight.delivery now ∈ s.history
  writing : ∀ flight ∈ s.phase.flights, ∀ now, flight.stage = .writing (.markDelivered now) →
    Acknowledged s.history flight.key
  delivered : ∀ key d, s.store.row? key = some d → d.status = .delivered → Acknowledged s.history key
  committed : ∀ eventId webhooks, .committed eventId webhooks ∈ s.history → ∀ webhook ∈ webhooks,
    (∃ d, s.store.row? (eventId, webhook) = some d) ∨ Acknowledged s.history (eventId, webhook)

variable {limit : Nat} {s s' : System} {a : Action}

/-- A step that leaves the rows alone, commits nothing and starts nothing. -/
theorem Kept.of_same_rows (h : Kept s) (new : List Record) (hhistory : s'.history = new ++ s.history)
    (hnew : ∀ eventId webhooks, .committed eventId webhooks ∉ new)
    (hrows : ∀ key, s'.store.row? key = s.store.row? key) (hflights : s'.phase.flights ⊆ s.phase.flights) :
    Kept s' := by
  have hsubset : s.history ⊆ s'.history := hhistory ▸ List.subset_append_right new s.history
  constructor
  · intro flight hflight hstage
    obtain ⟨now, hsent⟩ := h.sending flight (hflights hflight) hstage
    exact ⟨now, hsubset hsent⟩
  · intro flight hflight now hstage
    exact (h.writing flight (hflights hflight) now hstage).mono hsubset
  · intro key d hrow hdelivered
    rw [hrows] at hrow
    exact (h.delivered key d hrow hdelivered).mono hsubset
  · intro eventId webhooks hcommitted webhook hwebhook
    rw [hhistory] at hcommitted
    rw [hrows]
    have hold := (List.mem_append.mp hcommitted).resolve_left (hnew eventId webhooks)
    exact (h.committed eventId webhooks hold webhook hwebhook).imp_right fun hack => hack.mono hsubset

theorem deliverOne_eq_markDelivered {delivery : PendingDelivery} {outcome : Outcome} {now now' : Reading}
    (h : deliverOne delivery outcome now = .markDelivered now') : outcome.isSuccess = true := by
  unfold deliverOne deliver at h
  cases outcome with
  | failure error => cases h
  | response status reason =>
      by_contra hfailed
      simp only [hfailed, if_false] at h
      cases h

theorem Kept.committing (h : Kept s) {event : WebhookEvent} {deliveries : List EventDelivery} {store : Store}
    (hfresh : event.eventId ∉ s.store.events.map EventRow.id)
    (hrows : store.deliveries =
      s.store.deliveries ++ deliveries.map (newDelivery event.eventId event.observedAt.toRfc3339)) :
    Kept { s with
      store := store
      notifying := event.eventId :: s.notifying
      history := .committed event.eventId (deliveries.map EventDelivery.webhook) :: s.history } := by
  constructor
  · intro flight hflight hstage
    obtain ⟨now, hsent⟩ := h.sending flight hflight hstage
    exact ⟨now, List.mem_cons_of_mem _ hsent⟩
  · intro flight hflight now hstage
    exact (h.writing flight hflight now hstage).mono (List.subset_cons_self _ _)
  · intro key d hrow hdelivered
    rw [row?_of_inserted hfresh hrows] at hrow
    split_ifs at hrow with hkey
    · obtain ⟨delivery, _, rfl⟩ := Option.map_eq_some_iff.mp hrow
      cases hdelivered
    · exact (h.delivered key d hrow hdelivered).mono (List.subset_cons_self _ _)
  · intro eventId webhooks hcommitted webhook hwebhook
    rcases List.mem_cons.mp hcommitted with hnew | hold
    · obtain ⟨rfl, rfl⟩ := Record.committed.inj hnew
      obtain ⟨delivery, hdelivery, rfl⟩ := List.mem_map.mp hwebhook
      have hmem : newDelivery event.eventId event.observedAt.toRfc3339 delivery ∈ store.deliveries := by
        rw [hrows]
        exact List.mem_append_right _ (List.mem_map_of_mem hdelivery)
      exact Or.inl ⟨_, row?_eq_some_iff.mpr ⟨hmem, rfl⟩⟩
    · rcases h.committed eventId webhooks hold webhook hwebhook with ⟨d, hrow⟩ | hack
      · exact Or.inl ⟨d, row?_of_committed hfresh hrows hrow⟩
      · exact Or.inr (hack.mono (List.subset_cons_self _ _))

theorem Kept.pruning (h : Kept s) (cutoff : Instant) :
    Kept { s with store := (s.store.pruneDeliveredEvents cutoff).2 } := by
  refine ⟨h.sending, h.writing, ?_, ?_⟩
  · intro key d hrow hdelivered
    rw [row?_prune] at hrow
    split_ifs at hrow
    exact h.delivered key d hrow hdelivered
  · intro eventId webhooks hcommitted webhook hwebhook
    rcases h.committed eventId webhooks hcommitted webhook hwebhook with ⟨d, hrow⟩ | hack
    · by_cases hpending : d.status = .pending
      · exact Or.inl ⟨d, row?_prune_of_pending cutoff hrow hpending⟩
      · refine Or.inr (h.delivered _ d hrow ?_)
        cases hstatus : d.status with
        | pending => exact absurd hstatus hpending
        | delivered => rfl
    · exact Or.inr hack

/-- A delivery is started. -/
theorem Kept.starting (h : Kept s) {queue : List PendingDelivery} {flights : List Flight} {flight : Flight}
    {record : Record} {clock : Nat} (hflights : s.phase.flights = flights)
    (hnew : ∀ eventId webhooks, Record.committed eventId webhooks ≠ record)
    (hsending : flight.stage = .sending → ∃ now, record = .sent flight.delivery now)
    (hwriting : ∀ now, flight.stage ≠ .writing (.markDelivered now)) :
    Kept { s with
      phase := .delivering queue (flights ++ [flight]), clock := clock, history := record :: s.history } := by
  have hsubset : s.history ⊆ record :: s.history := List.subset_cons_self _ _
  subst hflights
  constructor
  · intro other hother hstage
    rcases List.mem_append.mp hother with hold | hlast
    · obtain ⟨now, hsent⟩ := h.sending other hold hstage
      exact ⟨now, hsubset hsent⟩
    · rw [List.mem_singleton] at hlast
      subst hlast
      obtain ⟨now, rfl⟩ := hsending hstage
      exact ⟨now, List.mem_cons_self⟩
  · intro other hother now hstage
    rcases List.mem_append.mp hother with hold | hlast
    · exact (h.writing other hold now hstage).mono hsubset
    · rw [List.mem_singleton] at hlast
      subst hlast
      exact absurd hstage (hwriting now)
  · exact fun key d hrow hdelivered => (h.delivered key d hrow hdelivered).mono hsubset
  · intro eventId webhooks hcommitted webhook hwebhook
    have hold := (List.mem_cons.mp hcommitted).resolve_left (hnew eventId webhooks)
    exact (h.committed eventId webhooks hold webhook hwebhook).imp_right fun hack => hack.mono hsubset

theorem Kept.answering (h : Kept s) {delivery : PendingDelivery} {outcome : Outcome} {now : Reading}
    {queue : List PendingDelivery} {flights : List Flight} (hphase : s.phase = .delivering queue flights)
    (hmem : ⟨delivery, .sending⟩ ∈ flights) :
    Kept { s with
      phase := .delivering queue (flights.map fun flight =>
        if flight.key = delivery.key then
          { flight with stage := .writing (deliverOne flight.delivery outcome now) }
        else flight)
      clock := now.ns
      history := .answered delivery.key outcome :: s.history } := by
  have hsubset : s.history ⊆ .answered delivery.key outcome :: s.history := List.subset_cons_self _ _
  have hflights : s.phase.flights = flights := by rw [hphase]; rfl
  subst hflights
  constructor
  · intro flight hflight hstage
    obtain ⟨old, hold, rfl⟩ := List.mem_map.mp hflight
    split_ifs at hstage ⊢ with hkey
    · obtain ⟨at0, hsent⟩ := h.sending old hold hstage
      exact ⟨at0, hsubset hsent⟩
  · intro flight hflight at0 hstage
    obtain ⟨old, hold, rfl⟩ := List.mem_map.mp hflight
    split_ifs at hstage ⊢ with hkey
    · obtain ⟨sentAt, hsent⟩ := h.sending _ hmem rfl
      refine ⟨⟨delivery, sentAt, hsubset hsent, hkey.symm⟩, outcome, ?_, ?_⟩
      · rw [← hkey]
        exact List.mem_cons_self
      · exact deliverOne_eq_markDelivered (Stage.writing.inj hstage)
    · exact (h.writing old hold at0 hstage).mono hsubset
  · exact fun key d hrow hdelivered => (h.delivered key d hrow hdelivered).mono hsubset
  · intro eventId webhooks hcommitted webhook hwebhook
    have hold := (List.mem_cons.mp hcommitted).resolve_left (by simp)
    exact (h.committed eventId webhooks hold webhook hwebhook).imp_right fun hack => hack.mono hsubset

theorem Kept.wrote (h : Kept s) {delivery : PendingDelivery} {write : Write} {queue : List PendingDelivery}
    {flights : List Flight} (hphase : s.phase = .delivering queue flights)
    (hmem : ⟨delivery, .writing write⟩ ∈ flights) :
    Kept { s with
      store := write.apply delivery.key s.store
      phase := .delivering queue (flights.filter fun flight => flight.key != delivery.key)
      history := write.record delivery.key :: s.history } := by
  have hsubset : s.history ⊆ write.record delivery.key :: s.history := List.subset_cons_self _ _
  have hflights : s.phase.flights = flights := by rw [hphase]; rfl
  subst hflights
  constructor
  · intro flight hflight hstage
    obtain ⟨now, hsent⟩ := h.sending flight (List.mem_of_mem_filter hflight) hstage
    exact ⟨now, hsubset hsent⟩
  · intro flight hflight now hstage
    exact (h.writing flight (List.mem_of_mem_filter hflight) now hstage).mono hsubset
  · intro key d hrow hdelivered
    rw [row?_apply] at hrow
    split_ifs at hrow with hkey
    · subst hkey
      obtain ⟨old, hold, rfl⟩ := Option.map_eq_some_iff.mp hrow
      cases write with
      | markDelivered now => exact (h.writing _ hmem now rfl).mono hsubset
      | markFailed error attempts next => exact (h.delivered _ old hold hdelivered).mono hsubset
    · exact (h.delivered key d hrow hdelivered).mono hsubset
  · intro eventId webhooks hcommitted webhook hwebhook
    have hold := (List.mem_cons.mp hcommitted).resolve_left (by cases write <;> simp [Write.record])
    rcases h.committed eventId webhooks hold webhook hwebhook with ⟨d, hrow⟩ | hack
    · left
      rw [row?_apply, hrow]
      split_ifs
      · exact ⟨_, rfl⟩
      · exact ⟨_, rfl⟩
    · exact Or.inr (hack.mono hsubset)

theorem Kept.step (h : Kept s) (hstep : Step limit s a s') : Kept s' := by
  cases hstep with
  | committed hfresh hevents hrows => exact h.committing hfresh hrows
  | pruned => exact h.pruning _
  | notCommitted | notified | pruneFailed | shutdown =>
      exact h.of_same_rows [] rfl (by simp) (fun _ => rfl) (List.Subset.refl _)
  | restarted | stopped | checked | slept | woken | loaded =>
      exact h.of_same_rows [] rfl (by simp) (fun _ => rfl) (List.nil_subset _)
  | drained => exact h.of_same_rows [.passed] rfl (by simp) (fun _ => rfl) (List.nil_subset _)
  | measured => exact h.of_same_rows [.measured] rfl (by simp) (fun _ => rfl) (List.nil_subset _)
  | sent hphase =>
      exact h.starting (by rw [hphase]; rfl) (by simp) (fun _ => ⟨_, rfl⟩) (by simp)
  | unconfigured hphase =>
      exact h.starting (by rw [hphase]; rfl) (by simp) (fun hstage => by cases hstage) (by simp [markFailed])
  | answered hphase hmem => exact h.answering hphase hmem
  | wrote hphase hmem => exact h.wrote hphase hmem
  | writeFailed hphase hmem =>
      refine h.of_same_rows [] rfl (by simp) (fun _ => rfl) ?_
      rw [hphase]
      exact fun _ hflight => List.mem_of_mem_filter hflight

/-- A run of the whole system from a new store. -/
abbrev Run (limit : Nat) (webhooks : List WebhookConfig) (actions : List Action) (s : System) : Prop :=
  Path (step limit) (fun _ _ => True) (System.init Store.empty webhooks) actions s

theorem Run.kept {webhooks : List WebhookConfig} {actions : List Action} (h : Run limit webhooks actions s) :
    Kept s := by
  refine h.invariant Kept (fun _ _ _ hkept _ hstep => hkept.step (step_cases hstep)) ?_
  constructor
  · intro flight hflight
    cases hflight
  · intro flight hflight
    cases hflight
  · intro key d hrow
    cases hrow
  · intro eventId webhooks hcommitted
    cases hcommitted

/-- An event is committed, delivered at the first attempt and pruned. -/
def oneDelivery : List Action :=
  [.ingest .none (.bare "e" (.ofNanos 0)) [] [⟨"w", []⟩], .check (.ofNanos 0), .load true,
    .start (.ofNanos 0), .answer ("e", "w") (.response 204 "No Content") (.ofNanos 1),
    .write ("e", "w") true, .prune (.ofNanos 2) true]

/-- No committed delivery is ever lost. -/
theorem no_committed_delivery_is_lost {webhooks : List WebhookConfig} {actions : List Action}
    (h : Run batchLimit webhooks actions s) {eventId : String} {targets : List String}
    (hcommitted : .committed eventId targets ∈ s.history) {webhook : String} (hwebhook : webhook ∈ targets) :
    (∃ d, s.store.row? (eventId, webhook) = some d ∧ d.status = .pending ∧ s.store.hasEvent eventId = true) ∨
      Acknowledged s.history (eventId, webhook) := by
  rcases h.kept.committed eventId targets hcommitted webhook hwebhook with ⟨d, hrow⟩ | hack
  · cases hstatus : d.status with
    | pending => exact Or.inl ⟨d, hrow, hstatus, hasEvent_of_row? hrow⟩
    | delivered => exact Or.inr (h.kept.delivered _ d hrow hstatus)
  · exact Or.inr hack

theorem no_committed_delivery_is_lost_pruned :
    ∃ s, Run batchLimit [plainWebhook "w"] oneDelivery s ∧ s.store.row? ("e", "w") = none ∧
      Acknowledged s.history ("e", "w") := by
  obtain ⟨s, hrun, hcommitted, hnone⟩ : ∃ s, Run batchLimit [plainWebhook "w"] oneDelivery s ∧
      .committed "e" ["w"] ∈ s.history ∧ s.store.row? ("e", "w") = none :=
    Path.exists_of_exec _ (by decide +kernel)
  refine ⟨s, hrun, hnone, (no_committed_delivery_is_lost hrun hcommitted (List.mem_singleton.mpr rfl)).resolve_left ?_⟩
  rintro ⟨d, hrow, _⟩
  rw [hnone] at hrow
  cases hrow

end Delivery

end PtchanGateway
