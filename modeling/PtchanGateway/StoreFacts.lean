import PtchanGateway.Store

/-! What each store call does, stated once. The deliveries table is read as a map from keys to rows
(`row?`): a call inserts the rows of a new event, replaces one row, or removes the rows of a fully
delivered event, and leaves every other row as it was. -/

namespace PtchanGateway

open TextRfc3339 JsonValue QueueOrder

namespace Store

/-- The delivery row of an event and a webhook. -/
def row? (s : Store) (key : String × String) : Option DeliveryRow := s.deliveries.find? fun d => d.key == key

/-- The event has a row in `events`. -/
def hasEvent (s : Store) (eventId : String) : Bool := eventId ∈ s.events.map EventRow.id

theorem row?_eq_some_iff {s : Store} {key : String × String} {d : DeliveryRow} :
    s.row? key = some d ↔ d ∈ s.deliveries ∧ d.key = key := by
  constructor
  · intro h
    exact ⟨List.mem_of_find?_eq_some h, by simpa using List.find?_some h⟩
  · rintro ⟨hd, hkey⟩
    cases hfind : s.row? key with
    | none =>
        have := List.find?_eq_none.mp hfind d hd
        simp [hkey] at this
    | some d' =>
        have hd' := List.mem_of_find?_eq_some hfind
        have hkey' : d'.key = key := by simpa using List.find?_some hfind
        rw [eq_of_key hd' hd (hkey'.trans hkey.symm)]

theorem row?_eq_none_iff {s : Store} {key : String × String} :
    s.row? key = none ↔ ∀ d ∈ s.deliveries, d.key ≠ key := by
  simp [row?, List.find?_eq_none]

theorem hasEvent_of_row? {s : Store} {key : String × String} {d : DeliveryRow} (h : s.row? key = some d) :
    s.hasEvent key.1 = true := by
  obtain ⟨hd, hkey⟩ := row?_eq_some_iff.mp h
  rw [hasEvent, decide_eq_true_eq, ← hkey]
  exact s.foreignKey d hd

theorem insertOrIgnoreEvent_of_mem (row : EventRow) {s : Store} (h : row.id ∈ s.events.map EventRow.id) :
    insertOrIgnoreEvent row s = (0, s) := by
  rw [insertOrIgnoreEvent, dif_pos h]

theorem insertOrIgnoreEvent_of_not_mem (row : EventRow) {s : Store} (h : row.id ∉ s.events.map EventRow.id) :
    (insertOrIgnoreEvent row s).1 = 1 ∧ (insertOrIgnoreEvent row s).2.events = s.events ++ [row] ∧
      (insertOrIgnoreEvent row s).2.deliveries = s.deliveries := by
  rw [insertOrIgnoreEvent, dif_neg h]
  exact ⟨rfl, rfl, rfl⟩

theorem insertDelivery_eq_some {row : DeliveryRow} {s tx : Store} (h : insertDelivery row s = some tx) :
    tx.events = s.events ∧ tx.deliveries = s.deliveries ++ [row] := by
  rw [insertDelivery] at h
  split_ifs at h with hkeys
  rw [Option.some.injEq] at h
  subst h
  exact ⟨rfl, rfl⟩

theorem insertDeliveries_ok {faults : TxFaults} {eventId createdAt : String} {ds : List EventDelivery}
    {tx tx' : Store} (h : insertDeliveries faults eventId createdAt ds tx = .ok tx') :
    tx'.events = tx.events ∧ tx'.deliveries = tx.deliveries ++ ds.map (newDelivery eventId createdAt) ∧
      ∀ d ∈ ds, faults.insertDelivery d.webhook = false := by
  induction ds generalizing tx with
  | nil =>
      simp only [insertDeliveries, Except.ok.injEq] at h
      subst h
      simp
  | cons delivery ds ih =>
      rw [insertDeliveries] at h
      split_ifs at h with hfault
      cases hinsert : insertDelivery (newDelivery eventId createdAt delivery) tx with
      | none => simp [hinsert] at h
      | some tx1 =>
          simp only [hinsert] at h
          obtain ⟨hevents, hdeliveries⟩ := insertDelivery_eq_some hinsert
          obtain ⟨hevents', hdeliveries', hfaults⟩ := ih h
          refine ⟨hevents'.trans hevents, ?_, List.forall_mem_cons.2 ⟨Bool.not_eq_true _ ▸ hfault, hfaults⟩⟩
          rw [hdeliveries', hdeliveries, List.map_cons, List.append_assoc]
          rfl

/-- Without a refused statement, deliveries of distinct webhooks all go in. -/
theorem insertDeliveries_total {faults : TxFaults} {eventId createdAt : String} {ds : List EventDelivery}
    {tx : Store} (hfaults : ∀ d ∈ ds, faults.insertDelivery d.webhook = false)
    (hnodup : (ds.map EventDelivery.webhook).Nodup) (hevent : eventId ∈ tx.events.map EventRow.id)
    (hfresh : ∀ d ∈ ds, (eventId, d.webhook) ∉ tx.deliveries.map DeliveryRow.key) :
    ∃ tx', insertDeliveries faults eventId createdAt ds tx = .ok tx' := by
  induction ds generalizing tx with
  | nil => exact ⟨tx, rfl⟩
  | cons delivery ds ih =>
      rw [List.map_cons, List.nodup_cons] at hnodup
      have hkeys : (newDelivery eventId createdAt delivery).key ∉ tx.deliveries.map DeliveryRow.key ∧
          (newDelivery eventId createdAt delivery).eventId ∈ tx.events.map EventRow.id :=
        ⟨hfresh delivery (by simp), hevent⟩
      obtain ⟨tx1, hinsert⟩ : ∃ tx1, insertDelivery (newDelivery eventId createdAt delivery) tx = some tx1 := by
        rw [insertDelivery, dif_pos hkeys]
        exact ⟨_, rfl⟩
      obtain ⟨hevents, hdeliveries⟩ := insertDelivery_eq_some hinsert
      obtain ⟨tx', htx'⟩ := @ih tx1 (fun d hd => hfaults d (by simp [hd])) hnodup.2
        (by rw [hevents]; exact hevent) (by
          intro d hd hmem
          rw [hdeliveries, List.map_append, List.mem_append] at hmem
          rcases hmem with hold | hnew
          · exact hfresh d (by simp [hd]) hold
          · have hwebhook : d.webhook = delivery.webhook := by
              simpa [newDelivery, DeliveryRow.key] using hnew
            exact hnodup.1 (hwebhook ▸ List.mem_map_of_mem hd))
      refine ⟨tx', ?_⟩
      rw [insertDeliveries, hfaults delivery (by simp)]
      simp only [Bool.false_eq_true, if_false, hinsert, htx']

/-- The database refuses none of the statements for the webhooks. -/
structure TxFaults.Spare (faults : TxFaults) (webhooks : List String) : Prop where
  start : faults.start = false
  insertEvent : faults.insertEvent = false
  insertDelivery : ∀ webhook ∈ webhooks, faults.insertDelivery webhook = false
  commit : faults.commit = false

/-- The three ways `create_event` can end. -/
theorem createEvent_cases (faults : TxFaults) (event : WebhookEvent) (payload : Bytes)
    (ds : List EventDelivery) (s : Store) :
    (∃ err, s.createEvent faults event payload ds = (.error err, s)) ∨
    (event.eventId ∈ s.events.map EventRow.id ∧ s.createEvent faults event payload ds = (.ok false, s)) ∨
    (event.eventId ∉ s.events.map EventRow.id ∧ ∃ s', s.createEvent faults event payload ds = (.ok true, s') ∧
      s'.events = s.events ++ [newEvent event payload] ∧ s'.deliveries =
        s.deliveries ++ ds.map (newDelivery event.eventId event.observedAt.toRfc3339)) := by
  unfold createEvent createEventTx
  by_cases hstart : faults.start = true
  · exact Or.inl ⟨_, by rw [if_pos hstart]⟩
  by_cases hinsert : faults.insertEvent = true
  · exact Or.inl ⟨_, by rw [if_neg hstart, if_pos hinsert]⟩
  rw [if_neg hstart, if_neg hinsert]
  by_cases hmem : event.eventId ∈ s.events.map EventRow.id
  · rw [insertOrIgnoreEvent_of_mem (newEvent event payload) hmem]
    by_cases hcommit : faults.commit = true
    · exact Or.inl ⟨"commit event transaction", by simp [hcommit]⟩
    · exact Or.inr (Or.inl ⟨hmem, by simp [hcommit]⟩)
  · obtain ⟨hone, hevents, hdeliveries⟩ :=
      insertOrIgnoreEvent_of_not_mem (newEvent event payload) hmem
    generalize insertOrIgnoreEvent (newEvent event payload) s = inserted at *
    obtain ⟨count, tx⟩ := inserted
    simp only at hone hevents hdeliveries
    subst hone
    cases hds : insertDeliveries faults event.eventId event.observedAt.toRfc3339 ds tx with
    | error err => exact Or.inl ⟨err, by simp [hds]⟩
    | ok tx' =>
        obtain ⟨hevents', hdeliveries', -⟩ := insertDeliveries_ok hds
        by_cases hcommit : faults.commit = true
        · exact Or.inl ⟨"commit event transaction", by simp [hds, hcommit]⟩
        · refine Or.inr (Or.inr ⟨hmem, tx', by simp [hds, hcommit], ?_, ?_⟩)
          · rw [hevents', hevents]
          · rw [hdeliveries', hdeliveries]

/-- The rows after `create_event` are old ones, or those of the event. -/
theorem mem_events_createEvent {faults : TxFaults} {event : WebhookEvent} {payload : Bytes} {ds : List EventDelivery}
    {s : Store} {e : EventRow} (h : e ∈ (s.createEvent faults event payload ds).2.events) :
    e ∈ s.events ∨ e = newEvent event payload := by
  rcases createEvent_cases faults event payload ds s with ⟨err, heq⟩ | ⟨-, heq⟩ | ⟨-, s', heq, hevents, -⟩
  · rw [heq] at h
    exact .inl h
  · rw [heq] at h
    exact .inl h
  · rw [heq, hevents, List.mem_append, List.mem_singleton] at h
    exact h

theorem mem_deliveries_createEvent {faults : TxFaults} {event : WebhookEvent} {payload : Bytes}
    {ds : List EventDelivery} {s : Store} {d : DeliveryRow}
    (h : d ∈ (s.createEvent faults event payload ds).2.deliveries) :
    d ∈ s.deliveries ∨ ∃ delivery ∈ ds, newDelivery event.eventId event.observedAt.toRfc3339 delivery = d := by
  rcases createEvent_cases faults event payload ds s with ⟨err, heq⟩ | ⟨-, heq⟩ | ⟨-, s', heq, -, hdeliveries⟩
  · rw [heq] at h
    exact .inl h
  · rw [heq] at h
    exact .inl h
  · rw [heq, hdeliveries, List.mem_append, List.mem_map] at h
    exact h

/-- An event for distinct webhooks is inserted exactly when it is new and the database refuses nothing. -/
theorem createEvent_eq_true_iff {faults : TxFaults} {event : WebhookEvent} {s : Store} (payload : Bytes)
    {ds : List EventDelivery} (hnodup : (ds.map EventDelivery.webhook).Nodup) :
    (s.createEvent faults event payload ds).1 = .ok true ↔
      event.eventId ∉ s.events.map EventRow.id ∧ faults.Spare (ds.map EventDelivery.webhook) := by
  by_cases hmem : event.eventId ∈ s.events.map EventRow.id
  · rcases createEvent_cases faults event payload ds s with ⟨err, heq⟩ | ⟨_, heq⟩ | ⟨hnew, _⟩
    · simp [heq, hmem]
    · simp [heq, hmem]
    · exact absurd hmem hnew
  obtain ⟨hone, hevents, hdeliveries⟩ := insertOrIgnoreEvent_of_not_mem (newEvent event payload) hmem
  unfold createEvent createEventTx
  generalize insertOrIgnoreEvent (newEvent event payload) s = inserted at *
  obtain ⟨count, tx⟩ := inserted
  simp only at hone hevents hdeliveries
  subst hone
  refine ⟨fun h => ⟨hmem, ?_⟩, ?_⟩
  · by_cases hstart : faults.start = true
    · simp [hstart] at h
    by_cases hinsert : faults.insertEvent = true
    · simp [hstart, hinsert] at h
    cases hds : insertDeliveries faults event.eventId event.observedAt.toRfc3339 ds tx with
    | error err => simp [hstart, hinsert, hds] at h
    | ok tx' =>
        obtain ⟨-, -, hfaults⟩ := insertDeliveries_ok hds
        have hcommit : ¬faults.commit = true := by
          intro hcommit
          simp [hstart, hinsert, hds, hcommit] at h
        refine ⟨by simpa using hstart, by simpa using hinsert, ?_, by simpa using hcommit⟩
        intro webhook hwebhook
        obtain ⟨d, hd, rfl⟩ := List.mem_map.mp hwebhook
        exact hfaults d hd
  · rintro ⟨-, hstart, hinsert, hfaults, hcommit⟩
    obtain ⟨tx', htx'⟩ : ∃ tx', insertDeliveries faults event.eventId event.observedAt.toRfc3339 ds tx = .ok tx' := by
      refine insertDeliveries_total (fun d hd => hfaults _ (List.mem_map_of_mem hd)) hnodup ?_ ?_
      · rw [hevents, List.map_append]
        exact List.mem_append_right _ List.mem_cons_self
      · rw [hdeliveries]
        intro d _ hkeys
        obtain ⟨row, hrow, hkey⟩ := List.mem_map.mp hkeys
        have hid : row.eventId = event.eventId := congrArg Prod.fst hkey
        exact hmem (hid ▸ s.foreignKey row hrow)
    simp [hstart, hinsert, hcommit, htx']

/-- A new event and its rows are there afterwards, and every other row is as before. -/
theorem row?_of_inserted {s s' : Store} {eventId createdAt : String} {ds : List EventDelivery}
    (hfresh : eventId ∉ s.events.map EventRow.id)
    (hdeliveries : s'.deliveries = s.deliveries ++ ds.map (newDelivery eventId createdAt))
    (key : String × String) :
    s'.row? key = if key.1 = eventId then
      (ds.find? fun d => d.webhook == key.2).map (newDelivery eventId createdAt) else s.row? key := by
  have hold : key.1 = eventId → s.row? key = none := by
    intro hkey
    rw [row?_eq_none_iff]
    rintro d hd rfl
    exact hfresh (hkey ▸ s.foreignKey d hd)
  unfold row?
  rw [hdeliveries, List.find?_append]
  split_ifs with hkey
  · have hnone := hold hkey
    unfold row? at hnone
    rw [hnone, Option.none_or, List.find?_map]
    congr 2
    funext d
    obtain ⟨e, w⟩ := key
    simp only at hkey
    subst hkey
    simp [newDelivery, DeliveryRow.key, Function.comp_apply]
  · have hnew : (ds.map (newDelivery eventId createdAt)).find? (fun d => d.key == key) = none := by
      rw [List.find?_eq_none]
      intro d hd
      obtain ⟨d0, _, rfl⟩ := List.mem_map.mp hd
      simp only [newDelivery, DeliveryRow.key, beq_iff_eq]
      rintro rfl
      exact hkey rfl
    rw [hnew, Option.or_none]

section Update

variable {eventId webhook : String} {set : DeliveryRow → DeliveryRow} {hset : ∀ d, (set d).key = d.key}

theorem row?_update (s : Store) (key : String × String) :
    (s.update eventId webhook set hset).row? key =
      if key = (eventId, webhook) then (s.row? key).map set else s.row? key := by
  have hkey : ∀ d : DeliveryRow, (if d.key = (eventId, webhook) then set d else d).key = d.key := by
    intro d
    split_ifs
    · exact hset d
    · rfl
  have hfind : (s.update eventId webhook set hset).row? key =
      (s.row? key).map fun d => if d.key = (eventId, webhook) then set d else d := by
    unfold row? update
    rw [List.find?_map]
    congr 2
    funext d
    simp only [Function.comp_apply, hkey]
  rw [hfind]
  cases hrow : s.row? key with
  | none => simp
  | some d =>
      have hd := (row?_eq_some_iff.mp hrow).2
      simp only [Option.map_some, hd]
      split_ifs <;> rfl

end Update

/-- The event with this id is deleted by the pruning query. -/
def prunes (cutoff : Instant) (s : Store) (eventId : String) : Bool :=
  s.events.any fun e => e.id == eventId && s.prunable cutoff e

theorem row?_prune (cutoff : Instant) (s : Store) (key : String × String) :
    (s.pruneDeliveredEvents cutoff).2.row? key = if s.prunes cutoff key.1 then none else s.row? key := by
  have hmem : ∀ d, d ∈ (s.pruneDeliveredEvents cutoff).2.deliveries ↔
      d ∈ s.deliveries ∧ s.prunes cutoff d.eventId = false := by
    intro d
    simp only [pruneDeliveredEvents, List.mem_filter, prunes, Bool.not_eq_true']
  split_ifs with hprune
  · rw [row?_eq_none_iff]
    rintro d hd rfl
    have := ((hmem d).mp hd).2
    rw [show d.key.1 = d.eventId from rfl, this] at hprune
    cases hprune
  · cases hrow : s.row? key with
    | none =>
        rw [row?_eq_none_iff] at hrow ⊢
        exact fun d hd => hrow d ((hmem d).mp hd).1
    | some d =>
        obtain ⟨hd, rfl⟩ := row?_eq_some_iff.mp hrow
        exact row?_eq_some_iff.mpr ⟨(hmem d).mpr ⟨hd, Bool.not_eq_true _ ▸ hprune⟩, rfl⟩

/-- Only fully delivered events are pruned. -/
theorem delivered_of_prunes {cutoff : Instant} {s : Store} {key : String × String} {d : DeliveryRow}
    (hprune : s.prunes cutoff key.1 = true) (hrow : s.row? key = some d) : d.status = .delivered := by
  obtain ⟨hd, rfl⟩ := row?_eq_some_iff.mp hrow
  simp only [prunes, List.any_eq_true, Bool.and_eq_true, beq_iff_eq, prunable, Bool.not_eq_true',
    List.any_eq_false, bne_iff_ne] at hprune
  obtain ⟨e, _, hid, _, hall⟩ := hprune
  by_contra hnot
  exact hall d hd ⟨hid.symm, hnot⟩

/-! ### Queries -/

instance : Std.Total queueLe where
  total left right := by
    unfold queueLe
    rcases lt_trichotomy left.nextAttemptAt right.nextAttemptAt with h | h | h
    · exact Or.inl (Or.inl h)
    · exact (le_total left.eventId right.eventId).imp (fun hid => Or.inr ⟨h, hid⟩)
        (fun hid => Or.inr ⟨h.symm, hid⟩)
    · exact Or.inr (Or.inl h)

instance : IsTrans DeliveryRow queueLe where
  trans left middle right := by
    rintro (h | ⟨h, hid⟩) (h' | ⟨h', hid'⟩)
    · exact Or.inl (h.trans h')
    · exact Or.inl (h' ▸ h)
    · exact Or.inl (h ▸ h')
    · exact Or.inr ⟨h.trans h', hid.trans hid'⟩

/-- The event row of a delivery. -/
theorem find_event {s : Store} {d : DeliveryRow} (hd : d ∈ s.deliveries) :
    ∃ e, s.events.find? (fun e => e.id == d.eventId) = some e := by
  obtain ⟨e, he, hid⟩ := List.mem_map.mp (s.foreignKey d hd)
  rw [← Option.isSome_iff_exists, List.find?_isSome]
  exact ⟨e, he, by simpa using hid⟩

/-- The join loses no delivery, since each has its event. -/
theorem joined_map_fst (s : Store) : s.joined.map Prod.fst = s.deliveries := by
  have hall : ∀ ds : List DeliveryRow, (∀ d ∈ ds, d ∈ s.deliveries) →
      (ds.filterMap fun d => (s.events.find? fun e => e.id == d.eventId).map fun e => (d, e)).map Prod.fst =
        ds := by
    intro ds
    induction ds with
    | nil => intro _; rfl
    | cons d ds ih =>
        intro hds
        obtain ⟨e, he⟩ := find_event (hds d (by simp))
        rw [List.filterMap_cons, he]
        simp only [Option.map_some, List.map_cons]
        rw [ih fun d' hd' => hds d' (by simp [hd'])]
  exact hall s.deliveries fun _ hd => hd

/-- The rows `pending_deliveries` selects. -/
def loaded (limit : Nat) (now : Instant) (s : Store) : List DeliveryRow :=
  firstOf queueLe limit (s.deliveries.filter (isDue now))

/-- The event payload that stands in for a delivery without its own. -/
def eventPayload (s : Store) (d : DeliveryRow) : Bytes :=
  ((s.events.find? fun e => e.id == d.eventId).map EventRow.payload).getD []

/-- What the loop is handed for a row. -/
def handOut (s : Store) (d : DeliveryRow) : PendingDelivery :=
  ⟨d.eventId, d.webhook, d.payload.getD (s.eventPayload d), d.attempts⟩

theorem find_of_mem_joined {s : Store} {row : DeliveryRow × EventRow} (h : row ∈ s.joined) :
    row.1 ∈ s.deliveries ∧ s.events.find? (fun e => e.id == row.1.eventId) = some row.2 := by
  obtain ⟨d, hd, hmap⟩ := List.mem_filterMap.mp h
  obtain ⟨e, he, rfl⟩ := Option.map_eq_some_iff.mp hmap
  exact ⟨hd, he⟩

/-- The query hands out the selected rows. -/
theorem pendingDeliveries_eq {limit : Nat} (hlimit : limit < 2 ^ 63) (now : Instant) (s : Store) :
    s.pendingDeliveries limit now = .ok ((s.loaded limit now).map s.handOut) := by
  have hrows : (firstOf (fun left right : DeliveryRow × EventRow => queueLe left.1 right.1) limit
      (s.joined.filter fun row => isDue now row.1)).map Prod.fst = s.loaded limit now := by
    rw [loaded, firstOf, firstOf, List.map_take,
      List.map_insertionSort _ queueLe Prod.fst _ (fun _ _ _ _ => Iff.rfl), ← joined_map_fst s,
      List.filter_map]
    rfl
  rw [pendingDeliveries, if_pos hlimit, ← hrows, List.map_map]
  dsimp only
  rw [Except.ok.injEq]
  apply List.map_congr_left
  intro row hrow
  obtain ⟨-, hevent⟩ := find_of_mem_joined (List.mem_of_mem_filter (mem_of_mem_firstOf hrow))
  obtain ⟨d, e⟩ := row
  simp only [Function.comp_apply, handOut, eventPayload, hevent, Option.map_some, Option.getD_some]

theorem mem_loaded {limit : Nat} {now : Instant} {s : Store} {d : DeliveryRow} (h : d ∈ s.loaded limit now) :
    s.row? d.key = some d ∧ d.status = .pending ∧ d.nextAttemptAt ≤ now.toRfc3339 := by
  obtain ⟨hd, hdue⟩ := List.mem_filter.mp (mem_of_mem_firstOf h)
  simp only [isDue, Bool.and_eq_true, beq_iff_eq, decide_eq_true_eq] at hdue
  exact ⟨row?_eq_some_iff.mpr ⟨hd, rfl⟩, hdue.1, hdue.2⟩

/-- A due row is selected when fewer than `limit` due rows come before it. -/
theorem mem_loaded_iff {limit : Nat} {now : Instant} {s : Store} {d : DeliveryRow} (hd : d ∈ s.deliveries)
    (hdue : isDue now d = true) :
    d ∈ s.loaded limit now ↔ position queueLe d (s.deliveries.filter (isDue now)) < limit :=
  mem_firstOf_iff ((s.deliveryKey.of_map _).filter _) (List.mem_filter.mpr ⟨hd, hdue⟩)

theorem loaded_keys_nodup (limit : Nat) (now : Instant) (s : Store) :
    ((s.loaded limit now).map DeliveryRow.key).Nodup := by
  have hrows : (s.loaded limit now).Nodup := firstOf_nodup ((s.deliveryKey.of_map _).filter _)
  apply hrows.map_on
  intro d hd d' hd' hkey
  have h := (mem_loaded hd).1
  rw [hkey, (mem_loaded hd').1, Option.some.injEq] at h
  exact h.symm

end Store

end PtchanGateway
