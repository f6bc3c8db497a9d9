import Mathlib.Algebra.Order.BigOperators.Group.List
import PtchanGateway.DeliveryFairness

/-! What one webhook's backlog does to another webhook's delivery. A pass sends exactly the configured
deliveries of its batch, and the batch is the first fifty due rows of all webhooks together. So a due row
is independent of another webhook's pending rows only when it is never sent: its webhook is not
configured, or fifty due rows of the remaining webhooks already come before it. -/

namespace PtchanGateway

open TextRfc3339 JsonValue Config Store RunSystem QueueOrder

namespace Delivery

/-- The delivery is loaded by `pending_deliveries` and has an endpoint. -/
def Attempts (webhooks : List WebhookConfig) (now : Instant) (key : String × String) (store : Store) : Prop :=
  (endpoint? webhooks key.2).isSome = true ∧
    ∃ batch, store.pendingDeliveries batchLimit now = .ok batch ∧ key ∈ batch.map PendingDelivery.key

/-- The batch of a pass, as far as it is started, with what was sent of it. -/
structure PassState (batch : List PendingDelivery) (s₀ s : System) (pass : List Record) : Prop where
  webhooks : s.webhooks = s₀.webhooks
  history : s.history = pass ++ s₀.history
  sent : .passed ∈ pass ∨ ∃ started queue flights, s.phase = .delivering queue flights ∧
    batch = started ++ queue ∧ ∀ delivery, (∃ now, .sent delivery now ∈ pass) ↔
      delivery ∈ started ∧ (endpoint? s₀.webhooks delivery.webhook).isSome = true

variable {s s' : System} {a : Action}

theorem PassState.silent {batch : List PendingDelivery} {s₀ : System} {pass : List Record}
    (h : PassState batch s₀ s pass) (new : List Record) (hwebhooks : s'.webhooks = s.webhooks)
    (hhistory : s'.history = new ++ s.history) (hsent : ∀ delivery now, .sent delivery now ∉ new)
    (hphase : ∀ queue flights, s.phase = .delivering queue flights →
      .passed ∈ new ∨ ∃ flights', s'.phase = .delivering queue flights') :
    PassState batch s₀ s' (new ++ pass) := by
  refine ⟨hwebhooks.trans h.webhooks, by rw [hhistory, h.history, List.append_assoc], ?_⟩
  rcases h.sent with hpassed | ⟨started, queue, flights, hdelivering, hbatch, hiff⟩
  · exact Or.inl (List.mem_append_right _ hpassed)
  · rcases hphase queue flights hdelivering with hpassed | ⟨flights', hphase'⟩
    · exact Or.inl (List.mem_append_left _ hpassed)
    · refine Or.inr ⟨started, queue, flights', hphase', hbatch, fun delivery => ?_⟩
      rw [← hiff delivery]
      simp only [List.mem_append, hsent, false_or]

theorem PassState.started {batch : List PendingDelivery} {s₀ : System} {pass : List Record} {delivery : PendingDelivery}
    {queue : List PendingDelivery} {flights : List Flight} {record : Record} {stage : Stage}
    (h : PassState batch s₀ s pass) (hphase : s.phase = .delivering (delivery :: queue) flights)
    (hphase' : s'.phase = .delivering queue (flights ++ [⟨delivery, stage⟩])) (hwebhooks : s'.webhooks = s.webhooks)
    (hhistory : s'.history = record :: s.history)
    (hsent : ∀ other now, record = .sent other now → other = delivery)
    (hendpoint : (∃ now, record = .sent delivery now) ↔ (endpoint? s.webhooks delivery.webhook).isSome = true) :
    PassState batch s₀ s' (record :: pass) := by
  refine ⟨hwebhooks.trans h.webhooks, by rw [hhistory, h.history, List.cons_append], ?_⟩
  rcases h.sent with hpassed | ⟨started, queue', flights', hdelivering, hbatch, hiff⟩
  · exact Or.inl (List.mem_cons_of_mem _ hpassed)
  · rw [hphase, Phase.delivering.injEq] at hdelivering
    obtain ⟨rfl, rfl⟩ := hdelivering
    refine Or.inr ⟨started ++ [delivery], queue, _, hphase', by rw [hbatch, List.append_assoc]; rfl, fun other => ?_⟩
    rw [h.webhooks] at hendpoint
    simp only [List.mem_cons, exists_or, hiff other, List.mem_append, List.not_mem_nil, or_false]
    constructor
    · rintro (⟨now, hnow⟩ | ⟨hstarted, hsome⟩)
      · obtain rfl := hsent other now hnow.symm
        exact ⟨Or.inr rfl, hendpoint.mp ⟨now, hnow.symm⟩⟩
      · exact ⟨Or.inl hstarted, hsome⟩
    · rintro ⟨hstarted | rfl, hsome⟩
      · exact Or.inr ⟨hstarted, hsome⟩
      · obtain ⟨now, hnow⟩ := hendpoint.mpr hsome
        exact Or.inl ⟨now, hnow.symm⟩

theorem PassState.step {batch : List PendingDelivery} {s₀ : System} {pass : List Record}
    (h : PassState batch s₀ s pass) (hrunning : Running s a) (hstep : Step batchLimit s a s') :
    ∃ pass', PassState batch s₀ s' pass' := by
  have hwebhooks := hstep.webhooks_eq hrunning
  cases hstep with
  | committed => exact ⟨_, h.silent [_] hwebhooks rfl (by simp) fun _ flights heq => Or.inr ⟨flights, heq⟩⟩
  | notCommitted | notified | pruned | pruneFailed | shutdown =>
      exact ⟨_, h.silent [] hwebhooks rfl (by simp) fun _ flights heq => Or.inr ⟨flights, heq⟩⟩
  | restarted => exact hrunning.elim
  | stopped hphase | checked hphase | loaded hphase | slept hphase | woken hphase =>
      refine ⟨_, h.silent [] hwebhooks rfl (by simp) fun _ _ heq => ?_⟩
      rw [hphase] at heq
      cases heq
  | measured hphase =>
      refine ⟨_, h.silent [_] hwebhooks rfl (by simp) fun _ _ heq => ?_⟩
      rw [hphase] at heq
      cases heq
  | sent hphase hendpoint =>
      refine ⟨_, h.started hphase rfl hwebhooks rfl (fun other now heq => ?_) ?_⟩
      · exact (Record.sent.inj heq).1.symm
      · exact ⟨fun _ => hendpoint, fun _ => ⟨_, rfl⟩⟩
  | unconfigured hphase hendpoint =>
      refine ⟨_, h.started hphase rfl hwebhooks rfl (fun other now heq => ?_) ?_⟩
      · cases heq
      · rw [hendpoint]
        simp
  | answered hphase =>
      refine ⟨_, h.silent [_] hwebhooks rfl (by simp) fun _ _ heq => Or.inr ?_⟩
      rw [hphase, Phase.delivering.injEq] at heq
      exact ⟨_, by rw [heq.1]⟩
  | @wrote delivery write queue flights hphase =>
      refine ⟨_, h.silent [_] hwebhooks rfl (by cases write <;> simp [Write.record]) fun _ _ heq => Or.inr ?_⟩
      rw [hphase, Phase.delivering.injEq] at heq
      exact ⟨_, by rw [heq.1]⟩
  | writeFailed hphase =>
      refine ⟨_, h.silent [] hwebhooks rfl (by simp) fun _ _ heq => Or.inr ?_⟩
      rw [hphase, Phase.delivering.injEq] at heq
      exact ⟨_, by rw [heq.1]⟩
  | drained => exact ⟨_, h.silent [.passed] hwebhooks rfl (by simp) fun _ _ _ => Or.inl List.mem_cons_self⟩

/-- A pass sends the configured deliveries of its batch, and no others. -/
theorem sent_in_pass_iff {now : Reading} (hphase : s.phase = .loading now) {actions : List Action}
    (h : Path (step batchLimit) Running s (.load true :: actions) s') (hdone : s'.phase = .delivering [] [])
    {pass : List Record} (hpass : s'.history = pass ++ s.history) (hone : .passed ∉ pass) (key : String × String) :
    (∃ delivery at0, .sent delivery at0 ∈ pass ∧ delivery.key = key) ↔
      Attempts s.webhooks now.instant key s.store := by
  have hbatch := pendingDeliveries_eq (show batchLimit < 2 ^ 63 by decide) now.instant s.store
  generalize hrows : (s.store.loaded batchLimit now.instant).map s.store.handOut = batch at hbatch
  have hend : ∃ pass', PassState batch s s' pass' := by
    cases h with
    | cons _ hload hrest =>
        refine hrest.invariant (fun t => ∃ pass', PassState batch s t pass') ?_ ⟨[], ?_⟩
        · rintro t a t' ⟨pass', hstate⟩ hrunning hstep
          exact hstate.step hrunning (step_cases hstep)
        · simp only [step, hphase, Option.some.injEq] at hload
          subst hload
          refine ⟨rfl, rfl, Or.inr ⟨[], batch, [], ?_, rfl, by simp⟩⟩
          rw [loadBatch_true, hrows]
  obtain ⟨pass', hstate⟩ := hend
  obtain rfl : pass' = pass := List.append_cancel_right (hstate.history.symm.trans hpass)
  obtain ⟨started, queue, flights, hdelivering, hsplit, hiff⟩ := hstate.sent.resolve_left hone
  rw [hdone, Phase.delivering.injEq] at hdelivering
  obtain ⟨rfl, rfl⟩ := hdelivering
  rw [List.append_nil] at hsplit
  subst hsplit
  constructor
  · rintro ⟨delivery, at0, hsent, rfl⟩
    obtain ⟨hmem, hendpoint⟩ := (hiff delivery).mp ⟨at0, hsent⟩
    exact ⟨hendpoint, batch, hbatch, List.mem_map_of_mem hmem⟩
  · rintro ⟨hendpoint, batch', hbatch', hkey⟩
    obtain rfl : batch = batch' := Except.ok.inj (hbatch.symm.trans hbatch')
    obtain ⟨delivery, hmem, rfl⟩ := List.mem_map.mp hkey
    obtain ⟨at0, hsent⟩ := (hiff delivery).mpr ⟨hmem, hendpoint⟩
    exact ⟨delivery, at0, hsent, rfl⟩

/-- A pending row of the webhook. -/
def inBacklog (webhook : String) (d : DeliveryRow) : Bool := d.status == .pending && d.webhook == webhook

/-- Pending deliveries of the webhook were added or removed; the events of those added came with them. -/
structure BacklogChanged (webhook : String) (store store' : Store) : Prop where
  events : store.events <+: store'.events
  others : store'.deliveries.filter (fun d => !inBacklog webhook d) =
    store.deliveries.filter fun d => !inBacklog webhook d

/-- The due rows of the remaining webhooks. -/
def othersDue (webhook : String) (now : Instant) (store : Store) : List DeliveryRow :=
  store.deliveries.filter fun d => isDue now d && !inBacklog webhook d

theorem othersDue_eq (webhook : String) (now : Instant) (store : Store) :
    othersDue webhook now store = (store.deliveries.filter (isDue now)).filter fun d => !inBacklog webhook d := by
  rw [List.filter_filter]
  unfold othersDue
  congr 1
  funext d
  exact Bool.and_comm _ _

theorem othersDue_of_changed {webhook : String} {store store' : Store} (h : BacklogChanged webhook store store')
    (now : Instant) : othersDue webhook now store' = othersDue webhook now store := by
  have hswap : ∀ rows : List DeliveryRow, rows.filter (fun d => isDue now d && !inBacklog webhook d) =
      (rows.filter fun d => !inBacklog webhook d).filter (isDue now) := fun rows => (List.filter_filter).symm
  rw [othersDue, othersDue, hswap, hswap, h.others]

section Row

variable {webhooks : List WebhookConfig} {now : Instant} {store : Store} {webhook : String} {r : DeliveryRow}

theorem not_inBacklog (hother : r.webhook ≠ webhook) : (!inBacklog webhook r) = true := by
  simp [inBacklog, hother]

/-- The row stays when another webhook's backlog changes. -/
theorem mem_of_changed {store' : Store} (h : BacklogChanged webhook store store') (hother : r.webhook ≠ webhook)
    (hr : r ∈ store.deliveries) : r ∈ store'.deliveries := by
  have hmem : r ∈ store.deliveries.filter fun d => !inBacklog webhook d :=
    List.mem_filter.mpr ⟨hr, not_inBacklog hother⟩
  rw [← h.others] at hmem
  exact List.mem_of_mem_filter hmem

theorem attempts_iff (hr : r ∈ store.deliveries) (hdue : isDue now r = true) :
    Attempts webhooks now r.key store ↔ (endpoint? webhooks r.webhook).isSome = true ∧
      position queueLe r (store.deliveries.filter (isDue now)) < batchLimit := by
  have hloaded := pendingDeliveries_eq (show batchLimit < 2 ^ 63 by decide) now store
  rw [← mem_loaded_iff hr hdue]
  refine and_congr_right fun _ => ⟨?_, fun hmem => ?_⟩
  · rintro ⟨batch, hbatch, hkey⟩
    obtain rfl := Except.ok.inj (hloaded.symm.trans hbatch)
    rw [List.map_map] at hkey
    obtain ⟨d, hd, heq⟩ := List.mem_map.mp hkey
    rwa [← eq_of_key (List.mem_of_mem_filter (mem_of_mem_firstOf hd)) hr heq]
  · refine ⟨_, hloaded, ?_⟩
    rw [List.map_map]
    exact List.mem_map_of_mem hmem

/-- The store without the webhook's backlog. -/
def withoutBacklog (webhook : String) (store : Store) : Store where
  events := store.events
  deliveries := store.deliveries.filter fun d => !inBacklog webhook d
  eventKey := store.eventKey
  deliveryKey := store.deliveryKey.sublist (List.filter_sublist.map _)
  foreignKey := fun d hd => store.foreignKey d (List.mem_of_mem_filter hd)

theorem withoutBacklog_changed (webhook : String) (store : Store) :
    BacklogChanged webhook store (withoutBacklog webhook store) where
  events := List.prefix_rfl
  others := by
    rw [withoutBacklog, List.filter_filter]
    simp only [Bool.and_self]

/-- An event id that the store does not hold. -/
def freshId (store : Store) : String :=
  String.ofList (List.replicate ((store.events.map fun e => e.id.length).sum + 1) 'x')

theorem freshId_not_mem (store : Store) : freshId store ∉ store.events.map EventRow.id := by
  intro hmem
  obtain ⟨e, he, hid⟩ := List.mem_map.mp hmem
  have hle : e.id.length ≤ (store.events.map fun e => e.id.length).sum :=
    List.le_sum_of_mem (List.mem_map.mpr ⟨e, he, rfl⟩)
  rw [hid, freshId, String.length_ofList, List.length_replicate] at hle
  omega

/-- Ingesting events for the webhook alone grows its backlog. -/
theorem exists_backlog (webhook : String) (due : Instant) (store : Store) (count : Nat) :
    ∃ (store' : Store) (rows : List DeliveryRow), store.events <+: store'.events ∧
      store'.deliveries = store.deliveries ++ rows ∧ rows.length = count ∧
      ∀ d ∈ rows, inBacklog webhook d = true ∧ d.nextAttemptAt = due.toRfc3339 := by
  induction count with
  | zero => exact ⟨store, [], List.prefix_rfl, (List.append_nil _).symm, rfl, by simp⟩
  | succ count ih =>
      obtain ⟨grown, rows, hevents, hrows, hlength, hall⟩ := ih
      have hdistinct : (([⟨webhook, []⟩] : List EventDelivery).map EventDelivery.webhook).Nodup :=
        List.nodup_singleton _
      have hcreated : (grown.createEvent .none (.bare (freshId grown) due) [] [⟨webhook, []⟩]).1 = .ok true :=
        (createEvent_eq_true_iff [] hdistinct).2 ⟨freshId_not_mem grown, rfl, rfl, fun _ _ => rfl, rfl⟩
      rcases createEvent_cases .none (.bare (freshId grown) due) [] [⟨webhook, []⟩] grown with
        ⟨err, heq⟩ | ⟨_, heq⟩ | ⟨_, next, heq, hevents', hrows'⟩
      · rw [heq] at hcreated
        cases hcreated
      · rw [heq] at hcreated
        cases hcreated
      · refine ⟨next, rows ++ [newDelivery (freshId grown) due.toRfc3339 ⟨webhook, []⟩], ?_, ?_, ?_, ?_⟩
        · rw [hevents']
          exact hevents.trans (List.prefix_append _ _)
        · rw [hrows', hrows, List.append_assoc]
          rfl
        · rw [List.length_append, hlength, List.length_singleton]
        · intro d hd
          rcases List.mem_append.mp hd with hold | hnew
          · exact hall d hold
          · rw [List.mem_singleton.mp hnew]
            exact ⟨by simp [inBacklog, newDelivery], rfl⟩

/-- A backlog of earlier rows keeps the row out of the batch. -/
theorem exists_changed_not_attempts (webhooks : List WebhookConfig) (webhook : String)
    (hr : r ∈ store.deliveries) (hdue : isDue now r = true) {earlier : Instant}
    (hearlier : earlier.toRfc3339 < r.nextAttemptAt) :
    ∃ store', BacklogChanged webhook store store' ∧
      (r ∈ store'.deliveries → ¬Attempts webhooks now r.key store') := by
  obtain ⟨store', rows, hevents, hrows, hlength, hall⟩ := exists_backlog webhook earlier store batchLimit
  refine ⟨store', ⟨hevents, ?_⟩, fun hr' => ?_⟩
  · have hnone : rows.filter (fun d => !inBacklog webhook d) = [] := by
      rw [List.filter_eq_nil_iff]
      intro d hd
      simp [(hall d hd).1]
    rw [hrows, List.filter_append, hnone, List.append_nil]
  · have hduerows : rows.filter (isDue now) = rows := by
      rw [List.filter_eq_self]
      intro d hd
      obtain ⟨hbacklog, htime⟩ := hall d hd
      simp only [inBacklog, Bool.and_eq_true, beq_iff_eq] at hbacklog
      simp only [isDue, Bool.and_eq_true, beq_iff_eq, decide_eq_true_eq] at hdue ⊢
      rw [htime]
      exact ⟨hbacklog.1, (le_of_lt hearlier).trans hdue.2⟩
    have hbefore : rows.countP (fun d => ¬queueLe r d) = rows.length := by
      rw [List.countP_eq_length]
      intro d hd
      refine decide_eq_true (not_queueLe_of_lt ?_)
      rw [(hall d hd).2]
      exact hearlier
    have hposition := countP_le_position_append (r := queueLe) (List.mem_filter.mpr ⟨hr, hdue⟩) rows
    rw [hbefore, hlength] at hposition
    rw [attempts_iff hr' hdue, hrows, List.filter_append, hduerows]
    exact fun hattempts => absurd hattempts.2 (Nat.not_lt.mpr hposition)

/-- A due delivery does not depend on another webhook's backlog exactly when it has no endpoint or fifty due
rows of the remaining webhooks come before it. -/
theorem backlog_isolated_iff (hr : r ∈ store.deliveries) (hdue : isDue now r = true) (hother : r.webhook ≠ webhook)
    {earlier : Instant} (hearlier : earlier.toRfc3339 < r.nextAttemptAt) :
    (∀ store', BacklogChanged webhook store store' →
      (Attempts webhooks now r.key store ↔ Attempts webhooks now r.key store')) ↔
      endpoint? webhooks r.webhook = none ∨ 50 ≤ position queueLe r (othersDue webhook now store) := by
  constructor
  · intro hsame
    by_contra hneither
    rw [not_or, Nat.not_le] at hneither
    obtain ⟨hendpoint, hplace⟩ := hneither
    have hsome : (endpoint? webhooks r.webhook).isSome = true := Option.isSome_iff_ne_none.mpr hendpoint
    have hless := withoutBacklog_changed webhook store
    have hattempts : Attempts webhooks now r.key (withoutBacklog webhook store) := by
      rw [attempts_iff (mem_of_changed hless hother hr) hdue]
      refine ⟨hsome, ?_⟩
      rw [withoutBacklog, List.filter_filter, ← othersDue]
      exact hplace
    obtain ⟨store', hchanged, hnot⟩ := exists_changed_not_attempts webhooks webhook hr hdue hearlier
    exact hnot (mem_of_changed hchanged hother hr) ((hsame store' hchanged).mp ((hsame _ hless).mpr hattempts))
  · intro hcase store' hchanged
    have hnever : ∀ store', BacklogChanged webhook store store' → ¬Attempts webhooks now r.key store' := by
      intro store' hchanged
      rw [attempts_iff (mem_of_changed hchanged hother hr) hdue]
      rintro ⟨hsome, hplace⟩
      rcases hcase with hnone | hfull
      · rw [hnone] at hsome
        cases hsome
      · have hle := position_filter_le (r := queueLe) (fun d => !inBacklog webhook d) (not_inBacklog hother)
          (store'.deliveries.filter (isDue now))
        rw [← othersDue_eq, othersDue_of_changed hchanged] at hle
        exact absurd hfull (Nat.not_le.mpr (lt_of_le_of_lt hle hplace))
    have hself : BacklogChanged webhook store store := ⟨List.prefix_rfl, rfl⟩
    exact iff_of_false (hnever store hself) (hnever store' hchanged)

end Row

/-- A store with one due delivery for the webhook `fast`. -/
def fastOnly : Store :=
  (Store.empty.createEvent .none (.bare "event" (.ofNanos (10 ^ 9))) [] [⟨"fast", []⟩]).2

def fastRow : DeliveryRow := newDelivery "event" (Instant.toRfc3339 (.ofNanos (10 ^ 9))) ⟨"fast", []⟩

theorem backlog_isolated_iff_fastRow :
    (∀ store', BacklogChanged "slow" fastOnly store' →
      (Attempts [] (.ofNanos (10 ^ 9)) fastRow.key fastOnly ↔ Attempts [] (.ofNanos (10 ^ 9)) fastRow.key store')) ∧
    ¬∀ store', BacklogChanged "slow" fastOnly store' →
      (Attempts [plainWebhook "fast"] (.ofNanos (10 ^ 9)) fastRow.key fastOnly ↔
        Attempts [plainWebhook "fast"] (.ofNanos (10 ^ 9)) fastRow.key store') := by
  have hr : fastRow ∈ fastOnly.deliveries := by decide +kernel
  have hdue : isDue (.ofNanos (10 ^ 9)) fastRow = true := by decide +kernel
  have hother : fastRow.webhook ≠ "slow" := by decide
  have hearlier : Instant.toRfc3339 (.ofNanos 0) < fastRow.nextAttemptAt := by decide +kernel
  refine ⟨(backlog_isolated_iff hr hdue hother hearlier).mpr (Or.inl rfl), fun hall => ?_⟩
  rcases (backlog_isolated_iff hr hdue hother hearlier).mp hall with hnone | hfull
  · exact absurd hnone (by decide +kernel)
  · exact absurd hfull (by decide +kernel)

/-- Fifty earlier deliveries of a slow webhook keep the delivery of another out of the pass. -/
theorem backlog_not_isolated :
    ¬∀ (webhooks : List WebhookConfig) (store store' : Store) (now : Instant) (webhook : String) (r : DeliveryRow),
      r ∈ store.deliveries → isDue now r = true → r.webhook ≠ webhook → BacklogChanged webhook store store' →
      (Attempts webhooks now r.key store ↔ Attempts webhooks now r.key store') := by
  intro hall
  have hr : fastRow ∈ fastOnly.deliveries := by decide +kernel
  have hdue : isDue (.ofNanos (10 ^ 9)) fastRow = true := by decide +kernel
  have hearlier : Instant.toRfc3339 (.ofNanos 0) < fastRow.nextAttemptAt := by decide +kernel
  have hattempts : Attempts [plainWebhook "fast"] (.ofNanos (10 ^ 9)) fastRow.key fastOnly := by
    rw [attempts_iff hr hdue]
    decide +kernel
  obtain ⟨store', hchanged, hnot⟩ := exists_changed_not_attempts [plainWebhook "fast"] "slow" hr hdue hearlier
  have hiff := hall [plainWebhook "fast"] fastOnly store' _ "slow" fastRow hr hdue (by decide) hchanged
  exact hnot (mem_of_changed hchanged (by decide) hr) (hiff.mp hattempts)

end Delivery

end PtchanGateway
