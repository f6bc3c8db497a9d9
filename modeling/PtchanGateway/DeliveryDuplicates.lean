import PtchanGateway.DeliveryDurability

/-! How often a webhook acknowledges one delivery. A row is sent until an acknowledgement of it is recorded,
so a receiver sees a delivery again only after one was lost: the store call that records it failed, or the
process restarted before it. -/

namespace PtchanGateway

open TextRfc3339 JsonValue Config Store RunSystem

namespace Delivery

section Counts

variable (key : String × String)

/-- A success answer to a request for the row. -/
def Record.acknowledges : Record → Bool
  | .answered other outcome => other == key && outcome.isSuccess
  | _ => false

/-- The commit of an event with a delivery for the webhook. -/
def Record.creates : Record → Bool
  | .committed eventId webhooks => eventId == key.1 && webhooks.contains key.2
  | _ => false

/-- An action that may lose an acknowledgement of the row. -/
def Action.loses : Action → Bool
  | .write other succeeds => other == key && !succeeds
  | .restart _ => true
  | _ => false

def acknowledgements (history : List Record) : Nat := history.countP (Record.acknowledges key)

def creations (history : List Record) : Nat := history.countP (Record.creates key)

def losses (actions : List Action) : Nat := actions.countP (Action.loses key)

/-- An acknowledgement of the row is about to be recorded. -/
def Recording (s : System) : Prop :=
  ∃ flight ∈ s.phase.flights, flight.key = key ∧ ∃ now, flight.stage = .writing (.markDelivered now)

/-- Every acknowledgement is paid for by a creation of the row or by a loss, and a row that is still to be
delivered has one of them left. -/
structure Balanced (lost : Nat) (s : System) : Prop where
  paid : acknowledgements key s.history ≤ creations key s.history + lost
  left : ∀ d, s.store.row? key = some d → d.status = .pending → ¬Recording key s →
    acknowledgements key s.history < creations key s.history + lost

end Counts

variable {limit : Nat} {s s' : System} {a : Action} {key : String × String} {lost : Nat}

theorem Balanced.mono (h : Balanced key lost s) {more : Nat} (hle : lost ≤ more) : Balanced key more s := by
  constructor
  · exact Nat.le_trans h.paid (Nat.add_le_add_left hle _)
  · intro d hrow hpending hidle
    exact Nat.lt_of_lt_of_le (h.left d hrow hpending hidle) (Nat.add_le_add_left hle _)

/-- A loss leaves one more to spend. -/
theorem Balanced.lose (h : Balanced key lost s) (hhistory : s'.history = s.history) : Balanced key (lost + 1) s' := by
  have hpaid : acknowledgements key s'.history < creations key s'.history + (lost + 1) := by
    rw [hhistory]
    exact Nat.lt_succ_of_le h.paid
  exact ⟨Nat.le_of_lt hpaid, fun _ _ _ _ => hpaid⟩

/-- A step that brings the row back neither from delivery nor from its recording. -/
theorem Balanced.frame (h : Balanced key lost s) (new : List Record) (hhistory : s'.history = new ++ s.history)
    (hnew : ∀ record ∈ new, record.acknowledges key = false)
    (hrow : ∀ d, s'.store.row? key = some d → d.status = .pending → ¬Recording key s' →
      (∃ d', s.store.row? key = some d' ∧ d'.status = .pending) ∧ ¬Recording key s) : Balanced key lost s' := by
  have hacks : acknowledgements key s'.history = acknowledgements key s.history := by
    have hnone : new.countP (Record.acknowledges key) = 0 := by
      rw [List.countP_eq_zero]
      intro record hrecord
      rw [hnew record hrecord]
      exact Bool.false_ne_true
    rw [acknowledgements, hhistory, List.countP_append, hnone, Nat.zero_add]
    rfl
  have hcreations : creations key s.history ≤ creations key s'.history := by
    rw [creations, creations, hhistory, List.countP_append]
    exact Nat.le_add_left _ _
  constructor
  · rw [hacks]
    exact Nat.le_trans h.paid (Nat.add_le_add_right hcreations _)
  · intro d hd hpending hidle
    obtain ⟨⟨d', hd', hpending'⟩, hidle'⟩ := hrow d hd hpending hidle
    rw [hacks]
    exact Nat.lt_of_lt_of_le (h.left d' hd' hpending' hidle') (Nat.add_le_add_right hcreations _)

/-- The commit of the row's event pays for one more acknowledgement. -/
theorem Balanced.committing (h : Balanced key lost s) {event : WebhookEvent} {deliveries : List EventDelivery}
    {store : Store} (hfresh : event.eventId ∉ s.store.events.map EventRow.id)
    (hrows : store.deliveries =
      s.store.deliveries ++ deliveries.map (newDelivery event.eventId event.observedAt.toRfc3339)) :
    Balanced key lost { s with
      store := store
      notifying := event.eventId :: s.notifying
      history := .committed event.eventId (deliveries.map EventDelivery.webhook) :: s.history } := by
  let record : Record := .committed event.eventId (deliveries.map EventDelivery.webhook)
  have hacks : acknowledgements key (record :: s.history) = acknowledgements key s.history :=
    List.countP_cons_of_neg Bool.false_ne_true
  by_cases hcreates : record.creates key = true
  · have hcreations : creations key (record :: s.history) = creations key s.history + 1 :=
      List.countP_cons_of_pos hcreates
    have hpaid : acknowledgements key (record :: s.history) < creations key (record :: s.history) + lost := by
      rw [hacks, hcreations]
      have hold := h.paid
      omega
    exact ⟨Nat.le_of_lt hpaid, fun _ _ _ _ => hpaid⟩
  · refine h.frame [record] rfl (by simp [record, Record.acknowledges]) ?_
    intro d hrow hpending hidle
    dsimp only at hrow
    rw [row?_of_inserted hfresh hrows] at hrow
    split_ifs at hrow with hkey
    · obtain ⟨delivery, hdelivery, -⟩ := Option.map_eq_some_iff.mp hrow
      refine absurd ?_ hcreates
      have hwebhook := List.find?_some hdelivery
      have hmem := List.mem_map_of_mem (f := EventDelivery.webhook) (List.mem_of_find?_eq_some hdelivery)
      simp only [beq_iff_eq] at hwebhook
      simp [record, Record.creates, hkey, ← hwebhook, hmem]
    · exact ⟨⟨d, hrow, hpending⟩, hidle⟩

/-- A delivery is under way once. -/
theorem Sound.flight_unique (h : Sound s) {flight other : Flight} (hflight : flight ∈ s.phase.flights)
    (hother : other ∈ s.phase.flights) (hkey : other.key = flight.key) : other = flight := by
  have hnodup : (s.phase.flights.map Flight.key).Nodup := by
    have hkeys := h.nodup
    cases hphase : s.phase with
    | delivering queue flights =>
        rw [hphase, Phase.inHand, List.map_append, List.map_map] at hkeys
        exact hkeys.of_append_right
    | _ => exact List.nodup_nil
  exact List.inj_on_of_nodup_map hnodup hother hflight hkey

theorem not_recording (h : Sound s) {flight : Flight} (hflight : flight ∈ s.phase.flights)
    (hstage : ∀ now, flight.stage ≠ .writing (.markDelivered now)) : ¬Recording flight.key s := by
  rintro ⟨other, hother, hkey, now, hrecording⟩
  rw [h.flight_unique hflight hother hkey] at hrecording
  exact hstage now hrecording

/-- The answer to a request that the webhook has taken is recorded next. -/
theorem deliverOne_of_isSuccess (delivery : PendingDelivery) {outcome : Outcome} (h : outcome.isSuccess = true)
    (now : Reading) : deliverOne delivery outcome now = .markDelivered now := by
  cases outcome with
  | response status reason => rw [deliverOne, deliver, if_pos h]
  | failure error => cases h

theorem Balanced.answering (h : Balanced key lost s) (hsound : Sound s) {delivery : PendingDelivery}
    {outcome : Outcome} {now : Reading} {queue : List PendingDelivery} {flights : List Flight}
    (hphase : s.phase = .delivering queue flights) (hmem : ⟨delivery, .sending⟩ ∈ flights) :
    Balanced key lost { s with
      phase := .delivering queue (flights.map fun flight =>
        if flight.key = delivery.key then
          { flight with stage := .writing (deliverOne flight.delivery outcome now) }
        else flight)
      clock := now.ns
      history := .answered delivery.key outcome :: s.history } := by
  have hflight : (⟨delivery, .sending⟩ : Flight) ∈ s.phase.flights := by
    rw [hphase]
    exact hmem
  have hsending : ¬Recording delivery.key s := not_recording hsound hflight (by simp)
  by_cases hacknowledges : (Record.answered delivery.key outcome).acknowledges key = true
  · rw [Record.acknowledges, Bool.and_eq_true, beq_iff_eq] at hacknowledges
    obtain ⟨rfl, hsuccess⟩ := hacknowledges
    have hin : delivery ∈ s.phase.inHand := by
      rw [hphase]
      exact List.mem_append_right _ (List.mem_map_of_mem hmem)
    obtain ⟨d, hrow, hpending, -⟩ := hsound.live delivery hin
    have hleft := h.left d hrow hpending hsending
    have hacks : acknowledgements delivery.key (.answered delivery.key outcome :: s.history) =
        acknowledgements delivery.key s.history + 1 :=
      List.countP_cons_of_pos (by simp [Record.acknowledges, hsuccess])
    have hcreations : creations delivery.key (.answered delivery.key outcome :: s.history) =
        creations delivery.key s.history := List.countP_cons_of_neg Bool.false_ne_true
    constructor
    · rw [hacks, hcreations]
      exact hleft
    · intro _ _ _ hidle
      refine absurd ⟨⟨delivery, .writing (.markDelivered now)⟩, ?_, rfl, now, rfl⟩ hidle
      refine List.mem_map.mpr ⟨⟨delivery, .sending⟩, hmem, ?_⟩
      have hsame : Flight.key ⟨delivery, .sending⟩ = delivery.key := rfl
      rw [if_pos hsame, deliverOne_of_isSuccess delivery hsuccess now]
  · rw [Bool.not_eq_true] at hacknowledges
    refine h.frame [.answered delivery.key outcome] rfl (by simpa using hacknowledges) ?_
    intro d hrow hpending hidle
    refine ⟨⟨d, hrow, hpending⟩, ?_⟩
    by_cases hkey : key = delivery.key
    · rw [hkey]
      exact hsending
    · rintro ⟨flight, hold, rfl, recorded, hrecorded⟩
      rw [hphase] at hold
      refine hidle ⟨flight, ?_, rfl, recorded, hrecorded⟩
      exact List.mem_map.mpr ⟨flight, hold, if_neg hkey⟩

/-- Recording one delivery leaves the recording of another alone. -/
theorem recording_of_finish {queue : List PendingDelivery} {flights : List Flight} {other : String × String}
    (hphase : s.phase = .delivering queue flights)
    (hphase' : s'.phase = .delivering queue (flights.filter fun flight => flight.key != other)) (hkey : key ≠ other)
    (h : Recording key s) : Recording key s' := by
  obtain ⟨flight, hflight, rfl, hstage⟩ := h
  rw [hphase] at hflight
  refine ⟨flight, ?_, rfl, hstage⟩
  rw [hphase']
  exact List.mem_filter.mpr ⟨hflight, bne_iff_ne.mpr hkey⟩

theorem Balanced.wrote (h : Balanced key lost s) (hsound : Sound s) {delivery : PendingDelivery} {write : Write}
    {queue : List PendingDelivery} {flights : List Flight} (hphase : s.phase = .delivering queue flights)
    (hmem : ⟨delivery, .writing write⟩ ∈ flights) :
    Balanced key lost { s with
      store := write.apply delivery.key s.store
      phase := .delivering queue (flights.filter fun flight => flight.key != delivery.key)
      history := write.record delivery.key :: s.history } := by
  refine h.frame [write.record delivery.key] rfl (by cases write <;> simp [Write.record, Record.acknowledges]) ?_
  intro d hrow hpending hidle
  dsimp only at hrow
  rw [row?_apply] at hrow
  split_ifs at hrow with hkey
  · subst hkey
    obtain ⟨old, hold, rfl⟩ := Option.map_eq_some_iff.mp hrow
    cases write with
    | markDelivered now => cases hpending
    | markFailed error attempts next =>
        refine ⟨⟨old, hold, hpending⟩, ?_⟩
        have hflight : (⟨delivery, .writing (.markFailed error attempts next)⟩ : Flight) ∈ s.phase.flights := by
          rw [hphase]
          exact hmem
        exact not_recording hsound hflight (by simp)
  · exact ⟨⟨d, hrow, hpending⟩, fun hrecording => hidle (recording_of_finish hphase rfl hkey hrecording)⟩

/-- A step that leaves the rows and the flights alone. -/
theorem Balanced.quiet (h : Balanced key lost s) (new : List Record) (hhistory : s'.history = new ++ s.history)
    (hnew : ∀ record ∈ new, record.acknowledges key = false) (hstore : s'.store = s.store)
    (hflights : s.phase.flights ⊆ s'.phase.flights) : Balanced key lost s' := by
  refine h.frame new hhistory hnew fun d hrow hpending hidle => ?_
  rw [hstore] at hrow
  refine ⟨⟨d, hrow, hpending⟩, ?_⟩
  rintro ⟨flight, hflight, hrest⟩
  exact hidle ⟨flight, hflights hflight, hrest⟩

/-- Every step keeps the balance, and those that may lose an acknowledgement add to it. -/
theorem Balanced.step (h : Balanced key lost s) (hsound : Sound s) (hstep : Step limit s a s') :
    Balanced key (lost + (a.loses key).toNat) s' := by
  cases hstep with
  | committed hfresh hevents hrows => exact h.committing hfresh hrows
  | pruned =>
      refine h.frame [] rfl (by simp) fun d hrow hpending hidle => ?_
      dsimp only at hrow
      rw [row?_prune] at hrow
      split_ifs at hrow
      exact ⟨⟨d, hrow, hpending⟩, hidle⟩
  | notCommitted | notified | pruneFailed | shutdown =>
      exact h.quiet [] rfl (by simp) rfl (List.Subset.refl _)
  | restarted => exact h.lose rfl
  | stopped hphase | checked hphase | loaded hphase | slept hphase | woken hphase =>
      exact h.quiet [] rfl (by simp) rfl (by rw [hphase]; exact List.nil_subset _)
  | drained hphase =>
      exact h.quiet [.passed] rfl (by simp [Record.acknowledges]) rfl (by rw [hphase]; exact List.nil_subset _)
  | measured hphase =>
      exact h.quiet [.measured] rfl (by simp [Record.acknowledges]) rfl (by rw [hphase]; exact List.nil_subset _)
  | sent hphase =>
      refine h.quiet [.sent _ _] rfl (by simp [Record.acknowledges]) rfl ?_
      rw [hphase]
      exact List.subset_append_left _ _
  | unconfigured hphase =>
      refine h.quiet [.unconfigured _] rfl (by simp [Record.acknowledges]) rfl ?_
      rw [hphase]
      exact List.subset_append_left _ _
  | answered hphase hmem => exact h.answering hsound hphase hmem
  | @wrote delivery write queue flights hphase hmem =>
      have hloses : (Action.loses key (.write delivery.key true)).toNat = 0 := by simp [Action.loses]
      rw [hloses]
      exact h.wrote hsound hphase hmem
  | @writeFailed delivery write queue flights hphase hmem =>
      by_cases hkey : delivery.key = key
      · have hloses : (Action.loses key (.write delivery.key false)).toNat = 1 := by simp [Action.loses, hkey]
        rw [hloses]
        exact h.lose rfl
      · refine (h.mono (Nat.le_add_right _ _)).frame [] rfl (by simp) fun d hrow hpending hidle => ?_
        exact ⟨⟨d, hrow, hpending⟩, fun hrecording => hidle (recording_of_finish hphase rfl (Ne.symm hkey) hrecording)⟩

theorem Run.balanced {webhooks : List WebhookConfig} {actions : List Action} (h : Run limit webhooks actions s)
    (key : String × String) : Balanced key (losses key actions) s := by
  have hinvariant : Sound s ∧ Balanced key (losses key actions) s := by
    refine Path.invariant_along (fun actions s => Sound s ∧ Balanced key (losses key actions) s) h ?_ ?_
    · refine ⟨.of_inHand_nil rfl, Nat.le_refl _, fun d hrow => ?_⟩
      cases hrow
    · rintro before t a t' - ⟨hsound, hbalanced⟩ - hstep
      refine ⟨hsound.step (step_cases hstep), ?_⟩
      have hlosses : losses key (before ++ [a]) = losses key before + (a.loses key).toNat := by
        rw [losses, List.countP_append, List.countP_singleton]
        cases a.loses key <;> rfl
      rw [hlosses]
      exact hbalanced.step hsound (step_cases hstep)
  exact hinvariant.2

/-- In every run a webhook acknowledges a delivery at most once for each time its event was committed and each
acknowledgement that a failed store call or a restart may have lost, and a delivery that is marked delivered was
acknowledged. -/
theorem duplicates_have_causes {webhooks : List WebhookConfig} {actions : List Action}
    (h : Run limit webhooks actions s) (key : String × String) :
    acknowledgements key s.history ≤ creations key s.history + losses key actions ∧
      (∀ d, s.store.row? key = some d → d.status = .pending → ¬Recording key s →
        acknowledgements key s.history < creations key s.history + losses key actions) ∧
      ∀ d, s.store.row? key = some d → d.status = .delivered → 0 < acknowledgements key s.history := by
  obtain ⟨hpaid, hleft⟩ := h.balanced key
  refine ⟨hpaid, hleft, ?_⟩
  intro d hrow hdelivered
  obtain ⟨-, outcome, hanswered, hsuccess⟩ := h.kept.delivered key d hrow hdelivered
  rw [acknowledgements, List.countP_pos_iff]
  exact ⟨_, hanswered, by simp [Record.acknowledges, hsuccess]⟩

/-- The store call after an acknowledgement fails, and the delivery is made again. -/
def acknowledgedTwice : List Action :=
  [.ingest .none (.bare "e" (.ofNanos 0)) [] [⟨"w", []⟩], .check (.ofNanos 0), .load true,
    .start (.ofNanos 0), .answer ("e", "w") (.response 200 "OK") (.ofNanos 0), .write ("e", "w") false,
    .drain (.ofNanos 0), .measure true, .sleep (.ofNanos 0), .wake .elapsed, .check (.ofNanos 0), .load true,
    .start (.ofNanos 0), .answer ("e", "w") (.response 200 "OK") (.ofNanos 0), .write ("e", "w") true]

theorem duplicates_have_causes_twice :
    ∃ s, Run batchLimit [plainWebhook "w"] acknowledgedTwice s ∧ acknowledgements ("e", "w") s.history = 2 ∧
      losses ("e", "w") acknowledgedTwice = 1 ∧ 2 ≤ creations ("e", "w") s.history + 1 := by
  obtain ⟨s, hrun, hacks⟩ : ∃ s, Run batchLimit [plainWebhook "w"] acknowledgedTwice s ∧
      acknowledgements ("e", "w") s.history = 2 := Path.exists_of_exec _ (by decide +kernel)
  have hlosses : losses ("e", "w") acknowledgedTwice = 1 := by decide
  have hpaid := (duplicates_have_causes hrun ("e", "w")).1
  rw [hacks, hlosses] at hpaid
  exact ⟨s, hrun, hacks, hlosses, hpaid⟩

end Delivery

end PtchanGateway
