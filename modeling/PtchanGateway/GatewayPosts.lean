import PtchanGateway.GatewaySteps
import PtchanGateway.SocketTraffic

/-!
Posts from the socket to the webhooks, over every run of the process, restarts and dropped ingestions included.
No post is lost: once its ingestion has called the store it was refused for a listed reason, or each webhook
that admits its board has it queued or has acknowledged it. None is made up: what is sent was received on the
socket, and is what the receiving webhook may see of it under the configuration of its ingestion.
-/

namespace PtchanGateway

open TextRfc3339 TextRust JsonValue Config Session Upstream RunSystem Store

namespace Delivery

variable {limit : Nat} {s s' : System} {a : Action}

/-- The delivery is pending, and whatever is under way for it was sent within the given records. -/
structure Owed (key : String × String) (payload : Option Bytes) (new : List Record) (s : System) : Prop where
  row : ∃ d, s.store.row? key = some d ∧ d.status = .pending ∧ d.payload = payload
  sending : ∀ flight ∈ s.phase.flights, flight.key = key → flight.stage = .sending →
    ∃ now, .sent flight.delivery now ∈ new
  writing : ∀ flight ∈ s.phase.flights, flight.key = key → ∀ now, flight.stage ≠ .writing (.markDelivered now)

variable {key : String × String} {payload : Option Bytes} {new : List Record}

theorem Owed.of_same_flights (h : Owed key payload new s) (latest : List Record)
    (hrow : ∀ d, s.store.row? key = some d → d.status = .pending → s'.store.row? key = some d)
    (hflights : s'.phase.flights ⊆ s.phase.flights) : Owed key payload (latest ++ new) s' := by
  obtain ⟨d, hd, hpending, hpayload⟩ := h.row
  refine ⟨⟨d, hrow d hd hpending, hpending, hpayload⟩, ?_, ?_⟩
  · intro flight hflight hkey hstage
    obtain ⟨now, hsent⟩ := h.sending flight (hflights hflight) hkey hstage
    exact ⟨now, List.mem_append_right _ hsent⟩
  · exact fun flight hflight => h.writing flight (hflights hflight)

theorem Owed.starting (h : Owed key payload new s) {queue : List PendingDelivery} {flight : Flight} {record : Record}
    {clock : Nat} (hsending : flight.stage = .sending → ∃ now, record = .sent flight.delivery now)
    (hwriting : ∀ now, flight.stage ≠ .writing (.markDelivered now)) :
    Owed key payload (record :: new) { s with
      phase := .delivering queue (s.phase.flights ++ [flight]), clock := clock, history := record :: s.history } := by
  refine ⟨h.row, ?_, ?_⟩
  · intro other hother hkey hstage
    rcases List.mem_append.mp hother with hold | hlast
    · obtain ⟨now, hsent⟩ := h.sending other hold hkey hstage
      exact ⟨now, List.mem_cons_of_mem _ hsent⟩
    · rw [List.mem_singleton] at hlast
      subst hlast
      obtain ⟨now, rfl⟩ := hsending hstage
      exact ⟨now, List.mem_cons_self⟩
  · intro other hother hkey now
    rcases List.mem_append.mp hother with hold | hlast
    · exact h.writing other hold hkey now
    · rw [List.mem_singleton] at hlast
      subst hlast
      exact hwriting now

/-- A delivery that is owed is so after the step, unless the step brings its acknowledgement. -/
theorem Owed.step (h : Owed key payload new s) (hstep : Step limit s a s') :
    ∃ latest, s'.history = latest ++ s.history ∧
      (Acknowledged (latest ++ new) key ∨ Owed key payload (latest ++ new) s') := by
  cases hstep with
  | committed hfresh _ hrows =>
      refine ⟨[_], rfl, .inr (h.of_same_flights [_] ?_ (List.Subset.refl _))⟩
      exact fun d hd _ => row?_of_committed hfresh hrows hd
  | pruned =>
      refine ⟨[], rfl, .inr (h.of_same_flights [] ?_ (List.Subset.refl _))⟩
      exact fun d hd hpending => row?_prune_of_pending _ hd hpending
  | notCommitted | notified | pruneFailed | shutdown =>
      exact ⟨[], rfl, .inr (h.of_same_flights [] (fun _ hd _ => hd) (List.Subset.refl _))⟩
  | restarted | stopped | checked | slept | woken | loaded =>
      exact ⟨[], rfl, .inr (h.of_same_flights [] (fun _ hd _ => hd) (List.nil_subset _))⟩
  | drained | measured => exact ⟨[_], rfl, .inr (h.of_same_flights [_] (fun _ hd _ => hd) (List.nil_subset _))⟩
  | @sent now delivery queue flights hphase hendpoint =>
      have hflights : s.phase.flights = flights := by rw [hphase]; rfl
      subst hflights
      exact ⟨[_], rfl, .inr (h.starting (fun _ => ⟨now, rfl⟩) (by simp))⟩
  | @unconfigured now delivery queue flights hphase hendpoint =>
      have hflights : s.phase.flights = flights := by rw [hphase]; rfl
      subst hflights
      exact ⟨[_], rfl, .inr (h.starting (fun hstage => by cases hstage) (by simp [markFailed]))⟩
  | @answered delivery outcome now queue flights hphase hmem =>
      have hflights : s.phase.flights = flights := by rw [hphase]; rfl
      subst hflights
      refine ⟨[_], rfl, ?_⟩
      by_cases hack : delivery.key = key ∧ outcome.isSuccess = true
      · obtain ⟨rfl, hsuccess⟩ := hack
        obtain ⟨sentAt, hsent⟩ := h.sending _ hmem rfl rfl
        exact .inl ⟨⟨delivery, sentAt, List.mem_cons_of_mem _ hsent, rfl⟩, outcome, List.mem_cons_self, hsuccess⟩
      · refine .inr ⟨h.row, ?_, ?_⟩
        · intro flight hflight hkey hstage
          obtain ⟨old, hold, rfl⟩ := List.mem_map.mp hflight
          split_ifs at hstage hkey ⊢
          obtain ⟨sentAt, hsent⟩ := h.sending old hold hkey hstage
          exact ⟨sentAt, List.mem_cons_of_mem _ hsent⟩
        · intro flight hflight hkey at0 hstage
          obtain ⟨old, hold, rfl⟩ := List.mem_map.mp hflight
          split_ifs at hstage hkey with hsame
          · exact hack ⟨hsame.symm.trans hkey, deliverOne_eq_markDelivered (Stage.writing.inj hstage)⟩
          · exact h.writing old hold hkey at0 hstage
  | @wrote delivery write queue flights hphase hmem =>
      have hflights : s.phase.flights = flights := by rw [hphase]; rfl
      subst hflights
      have hsubset : (s.phase.flights.filter fun flight => flight.key != delivery.key) ⊆ s.phase.flights :=
        fun _ hflight => List.mem_of_mem_filter hflight
      obtain ⟨d, hd, hpending, hpayload⟩ := h.row
      refine ⟨[_], rfl, .inr ⟨?_, ?_, ?_⟩⟩
      · dsimp only
        rw [row?_apply, hd]
        split_ifs with hkey
        · subst hkey
          cases write with
          | markDelivered now => exact absurd rfl (h.writing _ hmem rfl now)
          | markFailed error attempts next => exact ⟨_, rfl, hpending, hpayload⟩
        · exact ⟨d, rfl, hpending, hpayload⟩
      · intro flight hflight hkey hstage
        obtain ⟨now, hsent⟩ := h.sending flight (hsubset hflight) hkey hstage
        exact ⟨now, List.mem_cons_of_mem _ hsent⟩
      · exact fun flight hflight => h.writing flight (hsubset hflight)
  | writeFailed hphase hmem =>
      refine ⟨[], rfl, .inr (h.of_same_flights [] (fun _ hd _ => hd) ?_)⟩
      rw [hphase]
      exact fun _ hflight => List.mem_of_mem_filter hflight

/-- Along a run, too. -/
theorem Owed.run {actions : List Action} (h : Owed key payload [] s)
    (hpath : Path (Delivery.step limit) (fun _ _ => True) s actions s') :
    ∃ new, s'.history = new ++ s.history ∧ (Acknowledged new key ∨ Owed key payload new s') := by
  refine hpath.invariant
    (fun t => ∃ new, t.history = new ++ s.history ∧ (Acknowledged new key ∨ Owed key payload new t)) ?_
    ⟨[], rfl, .inr h⟩
  rintro t a t' ⟨new, hnew, hstate⟩ - hstep
  rcases hstate with hack | howed
  · obtain ⟨latest, hlatest⟩ := (step_cases hstep).history_grows
    refine ⟨latest ++ new, by rw [hlatest, hnew, List.append_assoc], .inl ?_⟩
    exact hack.mono (List.subset_append_right _ _)
  · obtain ⟨latest, hlatest, hnext⟩ := howed.step (step_cases hstep)
    exact ⟨latest ++ new, by rw [hlatest, hnew, List.append_assoc], hnext⟩

/-! ### Where payloads come from -/

/-- Whatever the loop holds for a delivery has the given origin. -/
structure Traced (origin : String × String → Bytes → Prop) (s : System) : Prop where
  rows : ∀ key d, s.store.row? key = some d → ∃ payload, d.payload = some payload ∧ origin key payload
  hand : ∀ p ∈ s.phase.inHand, origin p.key p.payload
  sent : ∀ delivery now, .sent delivery now ∈ s.history → origin delivery.key delivery.payload

variable {origin origin' : String × String → Bytes → Prop}

theorem Traced.mono (h : Traced origin s) (himp : ∀ key payload, origin key payload → origin' key payload) :
    Traced origin' s := by
  refine ⟨fun key d hd => ?_, fun p hp => himp _ _ (h.hand p hp), fun p now hsent => himp _ _ (h.sent p now hsent)⟩
  obtain ⟨payload, hpayload, horigin⟩ := h.rows key d hd
  exact ⟨payload, hpayload, himp _ _ horigin⟩

/-- Only an ingestion inserts rows, and no step changes a payload. -/
theorem Step.payload_eq (h : Step limit s a s')
    (haction : ∀ faults event payload deliveries, a ≠ .ingest faults event payload deliveries) {d : DeliveryRow}
    (hd : s'.store.row? key = some d) : ∃ old, s.store.row? key = some old ∧ d.payload = old.payload := by
  cases h with
  | committed => exact absurd rfl (haction _ _ _ _)
  | pruned =>
      dsimp only at hd
      rw [row?_prune] at hd
      split_ifs at hd
      exact ⟨d, hd, rfl⟩
  | @wrote delivery write =>
      dsimp only at hd
      rw [row?_apply] at hd
      split_ifs at hd
      · obtain ⟨old, hold, rfl⟩ := Option.map_eq_some_iff.mp hd
        exact ⟨old, hold, by cases write <;> rfl⟩
      · exact ⟨d, hd, rfl⟩
  | _ => exact ⟨d, hd, rfl⟩

/-- What is in hand was so before the step, or the step loads it from its row. -/
theorem Step.inHand_cases (h : Step limit s a s') {p : PendingDelivery} (hp : p ∈ s'.phase.inHand) :
    p ∈ s.phase.inHand ∨ ∃ d, s.store.row? p.key = some d ∧ p.payload = d.payload.getD (s.store.eventPayload d) := by
  cases h with
  | committed | notCommitted | notified | pruned | pruneFailed | shutdown => exact .inl hp
  | restarted | stopped | checked | drained | measured | slept | woken => cases hp
  | @loaded now succeeds hphase =>
      have hin : p ∈ loadBatch limit now succeeds s.store := by
        rw [Phase.inHand, List.map_nil, List.append_nil] at hp
        exact hp
      rcases loadBatch_eq limit now succeeds s.store with hnil | hbatch
      · rw [hnil] at hin
        cases hin
      · rw [hbatch] at hin
        obtain ⟨d, hd, rfl⟩ := List.mem_map.mp hin
        exact .inr ⟨d, (mem_loaded hd).1, rfl⟩
  | @sent now delivery queue flights hphase =>
      rw [hphase]
      exact .inl ((inHand_start delivery queue flights _).mem_iff.mp hp)
  | @unconfigured now delivery queue flights hphase =>
      rw [hphase]
      exact .inl ((inHand_start delivery queue flights _).mem_iff.mp hp)
  | @answered delivery outcome now queue flights hphase =>
      dsimp only at hp
      rw [Phase.inHand, map_delivery_of_answered flights delivery.key fun delivery =>
        deliverOne delivery outcome now] at hp
      rw [hphase]
      exact .inl hp
  | wrote hphase =>
      rw [hphase]
      exact .inl (inHand_finish.subset hp)
  | writeFailed hphase =>
      rw [hphase]
      exact .inl (inHand_finish.subset hp)

/-- What is sent is in hand. -/
theorem Step.sent_cases (h : Step limit s a s') {delivery : PendingDelivery} {now : Reading}
    (hsent : .sent delivery now ∈ s'.history) : .sent delivery now ∈ s.history ∨ delivery ∈ s.phase.inHand := by
  cases h with
  | @sent now' head queue flights hphase =>
      rcases List.mem_cons.mp hsent with hnew | hold
      · cases hnew
        rw [hphase]
        exact .inr List.mem_cons_self
      · exact .inl hold
  | wrote =>
      rcases List.mem_cons.mp hsent with hnew | hold
      · rename_i write _ _ _ _
        cases write <;> cases hnew
      · exact .inl hold
  | notCommitted | notified | pruned | pruneFailed | shutdown | restarted | stopped | checked | loaded | writeFailed |
      slept | woken => exact .inl hsent
  | committed | unconfigured | answered | drained | measured =>
      rcases List.mem_cons.mp hsent with hnew | hold
      · cases hnew
      · exact .inl hold

/-- A step keeps the origins if the rows it leaves have them. -/
theorem Traced.of_rows (h : Traced origin s) (hstep : Step limit s a s')
    (hrows : ∀ key d, s'.store.row? key = some d → ∃ payload, d.payload = some payload ∧ origin key payload) :
    Traced origin s' := by
  refine ⟨hrows, ?_, ?_⟩
  · intro p hp
    rcases hstep.inHand_cases hp with hold | ⟨d, hd, heq⟩
    · exact h.hand p hold
    · obtain ⟨payload, hpayload, horigin⟩ := h.rows p.key d hd
      rw [heq, hpayload]
      exact horigin
  · intro delivery now hsent
    rcases hstep.sent_cases hsent with hold | hin
    · exact h.sent delivery now hold
    · exact h.hand delivery hin

theorem Traced.step (h : Traced origin s) (hstep : Step limit s a s')
    (haction : ∀ faults event payload deliveries, a ≠ .ingest faults event payload deliveries) : Traced origin s' := by
  apply h.of_rows hstep
  intro key d hd
  obtain ⟨old, hold, heq⟩ := hstep.payload_eq haction hd
  rw [heq]
  exact h.rows key old hold

end Delivery

namespace Gateway

/-- The row that an ingestion queues for one webhook. -/
def queued {Jar Url : Type} (setup : Socket.Setup Jar Url) (mac : Bytes → Bytes → Bytes) (config : LoadedConfig)
    (observedAt : Instant) (decoded : DecodedPost) : WebhookConfig → DeliveryRow :=
  queuedRow setup.serde mac (announcedEvent config.ptchan.baseUrl observedAt (.new config.postings) decoded.post)
    decoded.posterIdentity config.fingerprintSecret

section Ingest

variable {Jar Url : Type} {setup : Socket.Setup Jar Url} {mac : Bytes → Bytes → Bytes} {limit : Nat}

/-- The ingestion of the delivery system stores what `new_post` stores. -/
theorem ingest_cases {faults : TxFaults} {built : BuiltEvent} {deliveries : List EventDelivery}
    {d d' : Delivery.System}
    (h : Delivery.step limit d (.ingest faults built.event built.payload deliveries) = some d') :
    let ingestion := storeEvent faults d.store built deliveries
    d'.store = ingestion.store ∧ d'.phase = d.phase ∧ (d'.history = d.history ∧ ingestion.created ≠ some (.ok true) ∨
      d'.history = .committed built.event.eventId (deliveries.map EventDelivery.webhook) :: d.history ∧
        ingestion.created = some (.ok true)) := by
  intro ingestion
  simp only [Delivery.step] at h
  simp only [ingestion, storeEvent]
  split at h
  next store heq =>
    cases h
    rw [heq]
    exact ⟨rfl, rfl, .inr ⟨rfl, rfl⟩⟩
  next answer store hother heq =>
    cases h
    rw [heq]
    cases answer with
    | error err => exact ⟨rfl, rfl, .inl ⟨rfl, by simp⟩⟩
    | ok created =>
        cases created with
        | true => exact absurd rfl hother
        | false => exact ⟨rfl, rfl, .inl ⟨rfl, by simp⟩⟩

/-- What one call of the store made of a post. -/
def Outcome (setup : Socket.Setup Jar Url) (mac : Bytes → Bytes → Bytes) (observedAt : Instant) (faults : TxFaults)
    (arguments : List Json) (s s' : System Jar) : Prop :=
  (s'.delivery.store = s.delivery.store ∧ s'.delivery.history = s.delivery.history ∧
      Refused setup.serde s.config.webhooks s.delivery.store faults arguments) ∨
    Stored setup.serde mac s.config.ptchan.baseUrl observedAt s.config.toConfig s.delivery.store arguments
      s'.delivery.store ∧ ∃ eventId webhooks, s'.delivery.history = .committed eventId webhooks :: s.delivery.history

/-- The store after one call, when the post could be prepared and when not. -/
theorem newPost_prepared (setup : Socket.Setup Jar Url) (mac : Bytes → Bytes → Bytes) (config : LoadedConfig)
    (arguments : List Json) (observedAt : Instant) (faults : TxFaults) (store : Store) :
    newPost setup.serde mac config.ptchan.baseUrl arguments observedAt faults store config.webhooks
        (.new config.postings) config.fingerprintSecret =
      match prepare setup mac config arguments observedAt with
      | none => ⟨none, store, false⟩
      | some (built, deliveries) => storeEvent faults store built deliveries :=
  newPost_eq setup.serde mac config.ptchan.baseUrl arguments observedAt faults store config.webhooks _ _

theorem createEvent_outcome {s s' : System Jar} {observedAt : Instant} {faults : TxFaults}
    (h : step setup mac limit s (.createEvent observedAt faults) = some s') :
    ∃ arguments, s.ingesting? = some arguments ∧ s'.delivery.phase = s.delivery.phase ∧
      Outcome setup mac observedAt faults arguments s s' := by
  cases step_cases h with
  | @unprepared _ _ arguments harguments _ hprepare =>
      have hnone := newPost_prepared setup mac s.config arguments observedAt faults s.delivery.store
      rw [hprepare] at hnone
      refine ⟨arguments, harguments, rfl, .inl ⟨rfl, rfl, ?_⟩⟩
      rcases newPost_cases setup.serde mac s.config.ptchan.baseUrl observedAt s.config.resolution arguments with
        ⟨-, hrefused⟩ | ⟨hcreated, -⟩
      · exact hrefused
      · rw [hnone] at hcreated
        cases hcreated
  | @created _ _ arguments built deliveries delivery harguments _ hprepare hdelivery =>
      have hstored := newPost_prepared setup mac s.config arguments observedAt faults s.delivery.store
      rw [hprepare] at hstored
      obtain ⟨hstore, hphase, hhistory⟩ := ingest_cases hdelivery
      refine ⟨arguments, harguments, hphase, ?_⟩
      rcases newPost_cases setup.serde mac s.config.ptchan.baseUrl observedAt s.config.resolution arguments with
        ⟨hidle, hrefused⟩ | ⟨hcreated, -, hgrown, -⟩
      · rw [hstored] at hidle
        refine .inl ⟨hstore.trans hidle.store, ?_, hrefused⟩
        rcases hhistory with ⟨hsame, -⟩ | ⟨-, hcreated⟩
        · exact hsame
        · exact absurd hcreated hidle.created
      · rw [hstored] at hcreated hgrown
        refine .inr ⟨hstore ▸ hgrown, built.event.eventId, deliveries.map EventDelivery.webhook, ?_⟩
        rcases hhistory with ⟨-, hrefused⟩ | ⟨hcommitted, -⟩
        · exact absurd hcreated hrefused
        · exact hcommitted

/-! ### No post is lost -/

/-- The batch of the delivery loop is sound in every state of the process. -/
theorem Run.sound {config : LoadedConfig} {cookie : SessionCookie Jar} {store : Store} {actions : List (Action Jar)}
    {s : System Jar} (h : Run setup mac limit (.init config cookie store) actions s) : Delivery.Sound s.delivery := by
  obtain ⟨steps, hpath⟩ := h.delivery
  exact hpath.invariant Delivery.Sound (fun _ _ _ hsound _ hstep => hsound.step (Delivery.step_cases hstep))
    (.of_inHand_nil rfl)

/-- The rows of a stored post are new and pending, and nothing is under way for them. -/
theorem owed_of_stored {g g' : System Jar} {observedAt : Instant} {decoded : DecodedPost} {webhook : WebhookConfig}
    (hsound : Delivery.Sound g.delivery) (hphase : g'.delivery.phase = g.delivery.phase)
    (hwebhook : webhook ∈ g.config.webhooks) (hboard : webhook.boardAllowed decoded.post.board = true)
    (hdeliveries : g'.delivery.store.deliveries = g.delivery.store.deliveries ++
      (g.config.webhooks.filter fun webhook => webhook.boardAllowed decoded.post.board).map
        (queued setup mac g.config observedAt decoded)) :
    let row := queued setup mac g.config observedAt decoded webhook
    Delivery.Owed row.key row.payload [] g'.delivery := by
  intro row
  have hnew : row ∈ (g.config.webhooks.filter fun webhook => webhook.boardAllowed decoded.post.board).map
      (queued setup mac g.config observedAt decoded) :=
    List.mem_map_of_mem (List.mem_filter.mpr ⟨hwebhook, hboard⟩)
  have hrow : g'.delivery.store.row? row.key = some row := by
    rw [row?_eq_some_iff, hdeliveries]
    exact ⟨List.mem_append_right _ hnew, rfl⟩
  have habsent : g.delivery.store.row? row.key = none := by
    have hnodup := g'.delivery.store.deliveryKey
    rw [hdeliveries, List.map_append, List.nodup_append] at hnodup
    rw [row?_eq_none_iff]
    intro d hd hkey
    exact hnodup.2.2 _ (List.mem_map_of_mem hd) _ (List.mem_map_of_mem hnew) hkey
  have hidle : ∀ flight ∈ g'.delivery.phase.flights, flight.key ≠ row.key := by
    intro flight hflight hkey
    rw [hphase] at hflight
    have hin : flight.delivery ∈ g.delivery.phase.inHand := by
      cases hdelivering : g.delivery.phase with
      | delivering queue flights =>
          rw [hdelivering] at hflight
          exact List.mem_append_right _ (List.mem_map_of_mem hflight)
      | _ =>
          rw [hdelivering] at hflight
          cases hflight
    obtain ⟨d, hd, -⟩ := hsound.live flight.delivery hin
    have hkey' : flight.delivery.key = row.key := hkey
    rw [hkey', habsent] at hd
    cases hd
  exact ⟨⟨row, hrow, rfl, rfl⟩, fun flight hflight hkey => absurd hkey (hidle flight hflight),
    fun flight hflight hkey => absurd hkey (hidle flight hflight)⟩

/-- Once the ingestion of a received post has called the store, the post was refused for a listed reason, or
each webhook that admits its board has acknowledged it since or has it queued with the same payload. -/
theorem no_accepted_post_is_lost {config : LoadedConfig} {cookie : SessionCookie Jar}
    {before after : List (Action Jar)} {g g' s : System Jar} {observedAt : Instant} {faults : TxFaults}
    (hbefore : Run setup mac Delivery.batchLimit (.init config cookie .empty) before g)
    (hcall : step setup mac Delivery.batchLimit g (.createEvent observedAt faults) = some g')
    (hafter : Run setup mac Delivery.batchLimit g' after s) :
    ∃ arguments, g.ingesting? = some arguments ∧
      (Refused setup.serde g.config.webhooks g.delivery.store faults arguments ∨
        ∃ value rest decoded, arguments = value :: rest ∧ DecodedPost.tryFrom setup.serde value = .ok decoded ∧
          ∀ webhook ∈ g.config.webhooks, webhook.boardAllowed decoded.post.board = true →
            let row := queued setup mac g.config observedAt decoded webhook
            ∃ new, s.delivery.history = new ++ g'.delivery.history ∧
              (Delivery.Acknowledged new row.key ∨ ∃ d, s.delivery.store.row? row.key = some d ∧
                d.status = .pending ∧ d.payload = row.payload)) := by
  obtain ⟨arguments, harguments, hphase, houtcome⟩ := createEvent_outcome hcall
  refine ⟨arguments, harguments, ?_⟩
  rcases houtcome with ⟨-, -, hrefused⟩ | ⟨⟨value, rest, decoded, hvalue, hdecoded, -, hdeliveries⟩, -⟩
  · exact .inl hrefused
  · refine .inr ⟨value, rest, decoded, hvalue, hdecoded, fun webhook hwebhook hboard => ?_⟩
    intro row
    have howed := owed_of_stored hbefore.sound hphase hwebhook hboard hdeliveries
    obtain ⟨steps, hpath⟩ := hafter.delivery
    obtain ⟨new, hnew, hack | hpending⟩ := howed.run hpath
    · exact ⟨new, hnew, .inl hack⟩
    · exact ⟨new, hnew, .inr hpending.row⟩

end Ingest

/-! ### No delivery is made up -/

/-- The ingestion under way is not touched. -/
def waits {Jar : Type} : Action Jar → Bool
  | .supervise _ | .createEvent _ _ | .posted | .restart _ _ => false
  | .tick _ | .refresh _ | .deliver _ | .cleanup _ | .shutdown => true

section Provenance

variable {Jar Url : Type} (setup : Socket.Setup Jar Url) (mac : Bytes → Bytes → Bytes) (limit : Nat)

/-- The last thing the supervisor did was to receive a `newPost` event with these arguments. -/
def Received (actions : List (Action Jar)) (arguments : List Json) : Prop :=
  ∃ earlier text since, actions = earlier ++ .supervise (.next (some (.ok (.text text)))) :: since ∧
    (∀ action ∈ since, waits action = true) ∧
    Socket.decode setup.serde text = .ok (.socketEvent "newPost" arguments)

/-- A received post, as one webhook may see it under the configuration of its ingestion. -/
def Sourced (init : System Jar) (actions : List (Action Jar)) (key : String × String) (payload : Bytes) : Prop :=
  ∃ before g observedAt faults after value rest decoded webhook,
    actions = before ++ .createEvent observedAt faults :: after ∧ Run setup mac limit init before g ∧
    Received setup before (value :: rest) ∧ DecodedPost.tryFrom setup.serde value = .ok decoded ∧
    webhook ∈ g.config.webhooks ∧ webhook.boardAllowed decoded.post.board = true ∧
    key = (queued setup mac g.config observedAt decoded webhook).key ∧
    some payload = (queued setup mac g.config observedAt decoded webhook).payload

variable {setup mac limit} {init : System Jar} {actions : List (Action Jar)} {key : String × String} {payload : Bytes}

theorem Sourced.snoc (h : Sourced setup mac limit init actions key payload) (action : Action Jar) :
    Sourced setup mac limit init (actions ++ [action]) key payload := by
  obtain ⟨before, g, observedAt, faults, after, value, rest, decoded, webhook, rfl, hrest⟩ := h
  refine ⟨before, g, observedAt, faults, after ++ [action], value, rest, decoded, webhook, ?_, hrest⟩
  rw [List.append_assoc, List.cons_append]

/-- An ingestion that waits for its transaction was just received. -/
def Pending (setup : Socket.Setup Jar Url) (actions : List (Action Jar)) (s : System Jar) : Prop :=
  ∀ arguments, s.ingesting? = some arguments → s.stage = .storing → Received setup actions arguments

theorem Pending.snoc {s s' : System Jar} {action : Action Jar} (h : Pending setup actions s)
    (hwaits : waits action = true) (hpoint : s'.socket.supervisor = s.socket.supervisor) (hstage : s'.stage = s.stage) :
    Pending setup (actions ++ [action]) s' := by
  intro arguments harguments hstoring
  have hsame : s'.ingesting? = s.ingesting? := by rw [System.ingesting?, hpoint, System.ingesting?]
  obtain ⟨earlier, text, since, rfl, hsince, hdecode⟩ :=
    h arguments (hsame ▸ harguments) (hstage ▸ hstoring)
  refine ⟨earlier, text, since ++ [action], by rw [List.append_assoc, List.cons_append], ?_, hdecode⟩
  intro other hother
  rcases List.mem_append.mp hother with hold | hlast
  · exact hsince other hold
  · rw [List.mem_singleton.mp hlast]
    exact hwaits

theorem ingesting?_eq_some {s : System Jar} {arguments : List Json} (h : s.ingesting? = some arguments) :
    ∃ refreshAt connection, s.socket.supervisor.point = .running refreshAt (.ingesting connection arguments) := by
  rw [System.ingesting?] at h
  split at h
  next refreshAt connection payload hpoint =>
    cases h
    exact ⟨refreshAt, connection, hpoint⟩
  next => cases h

theorem Pending.step {s s' : System Jar} {action : Action Jar} (h : Pending setup actions s)
    (hstep : Step setup mac limit s action s') : Pending setup (actions ++ [action]) s' := by
  cases hstep with
  | ticked hsocket =>
      cases hsocket
      exact h.snoc rfl rfl rfl
  | refreshed hsocket =>
      rw [Socket.step] at hsocket
      split_ifs at hsocket
      obtain ⟨effect, -, rfl⟩ := Option.map_eq_some_iff.mp hsocket
      exact h.snoc rfl rfl rfl
  | supervised hevent hsocket =>
      intro arguments harguments _
      obtain ⟨refreshAt, connection, hpoint⟩ := ingesting?_eq_some harguments
      obtain ⟨text, rfl, hdecode⟩ := Socket.received_of_ingesting hsocket hpoint
      exact ⟨actions, text, [], rfl, List.forall_mem_nil _, hdecode⟩
  | unprepared => exact fun arguments _ hstoring => by cases hstoring
  | created => exact fun arguments _ hstoring => by cases hstoring
  | posted _ hsocket =>
      intro arguments harguments _
      obtain ⟨refreshAt, connection, hpoint⟩ := ingesting?_eq_some harguments
      obtain ⟨text, hevent, -⟩ := Socket.received_of_ingesting hsocket hpoint
      cases hevent
  | delivered => exact h.snoc rfl rfl rfl
  | cleaned => exact h.snoc rfl rfl rfl
  | pruned => exact h.snoc rfl rfl rfl
  | shutdown hsocket =>
      cases hsocket
      exact h.snoc rfl rfl rfl
  | restarted =>
      intro arguments harguments _
      cases harguments

/-- The rows after an ingestion are those before and the rows of the post that was received. -/
theorem sourced_of_created {s s' : System Jar} {observedAt : Instant} {faults : TxFaults}
    (hrun : Run setup mac limit init actions s) (hpending : Pending setup actions s)
    (htraced : Delivery.Traced (Sourced setup mac limit init actions) s.delivery)
    (h : step setup mac limit s (.createEvent observedAt faults) = some s') {d : DeliveryRow}
    (hd : s'.delivery.store.row? key = some d) :
    ∃ payload, d.payload = some payload ∧
      Sourced setup mac limit init (actions ++ [.createEvent observedAt faults]) key payload := by
  have hold : ∀ old, s.delivery.store.row? key = some old → ∃ payload, old.payload = some payload ∧
      Sourced setup mac limit init (actions ++ [.createEvent observedAt faults]) key payload := by
    intro old hrow
    obtain ⟨payload, hpayload, hsourced⟩ := htraced.rows key old hrow
    exact ⟨payload, hpayload, hsourced.snoc _⟩
  have hstoring : s.stage = .storing := by
    cases step_cases h with
    | unprepared _ hstage => exact hstage
    | created _ hstage => exact hstage
  obtain ⟨arguments, harguments, -, houtcome⟩ := createEvent_outcome h
  rcases houtcome with ⟨hstore, -, -⟩ | ⟨⟨value, rest, decoded, rfl, hdecoded, -, hdeliveries⟩, -⟩
  · rw [hstore] at hd
    exact hold d hd
  · obtain ⟨hmem, hkey⟩ := row?_eq_some_iff.mp hd
    rw [hdeliveries, List.mem_append] at hmem
    rcases hmem with hbefore | hnew
    · exact hold d (row?_eq_some_iff.mpr ⟨hbefore, hkey⟩)
    · obtain ⟨webhook, hwebhook, rfl⟩ := List.mem_map.mp hnew
      obtain ⟨hwebhook, hboard⟩ := List.mem_filter.mp hwebhook
      exact ⟨_, rfl, actions, s, observedAt, faults, [], value, rest, decoded, webhook, rfl, hrun,
        hpending _ harguments hstoring, hdecoded, hwebhook, hboard, hkey.symm, rfl⟩

theorem traced_step {s s' : System Jar} {action : Action Jar} (hrun : Run setup mac limit init actions s)
    (hpending : Pending setup actions s)
    (htraced : Delivery.Traced (Sourced setup mac limit init actions) s.delivery)
    (h : step setup mac limit s action = some s') :
    Delivery.Traced (Sourced setup mac limit init (actions ++ [action])) s'.delivery := by
  have hmono := htraced.mono fun _ _ hsourced => Sourced.snoc hsourced action
  cases step_cases h with
  | ticked | refreshed | supervised | unprepared | cleaned => exact hmono
  | created _ _ _ hdelivery =>
      exact hmono.of_rows (Delivery.step_cases hdelivery) fun key d => sourced_of_created hrun hpending htraced h
  | posted _ _ hdelivery =>
      rcases hdelivery with rfl | ⟨eventId, hdelivery⟩
      · exact hmono
      · exact hmono.step (Delivery.step_cases hdelivery) (by simp)
  | delivered hloop hdelivery =>
      apply hmono.step (Delivery.step_cases hdelivery)
      rintro faults event payload deliveries rfl
      cases hloop
  | pruned _ hdelivery => exact hmono.step (Delivery.step_cases hdelivery) (by simp)
  | shutdown _ hdelivery => exact hmono.step (Delivery.step_cases hdelivery) (by simp)
  | restarted hdelivery => exact hmono.step (Delivery.step_cases hdelivery) (by simp)

/-- Whatever is sent has its source in the run. -/
theorem sourced_of_sent {config : LoadedConfig} {cookie : SessionCookie Jar} {s : System Jar}
    (h : Run setup mac limit (.init config cookie .empty) actions s) {delivery : PendingDelivery}
    {now : Reading} (hsent : .sent delivery now ∈ s.delivery.history) :
    Sourced setup mac limit (.init config cookie .empty) actions delivery.key delivery.payload := by
  have hinitial : Pending setup [] (System.init config cookie empty) ∧
      Delivery.Traced (Sourced setup mac limit (.init config cookie empty) []) (.init empty config.webhooks) := by
    refine ⟨?_, ?_, ?_, ?_⟩
    · intro arguments harguments
      cases harguments
    · intro key d hd
      cases hd
    · intro p hp
      cases hp
    · intro delivery now hsent
      cases hsent
  have hinvariant := h.invariant_along
    (fun actions s => Pending setup actions s ∧
      Delivery.Traced (Sourced setup mac limit (.init config cookie .empty) actions) s.delivery)
    hinitial
    (fun _ _ _ _ hrun hinv _ hstep => ⟨hinv.1.step (step_cases hstep), traced_step hrun hinv.1 hinv.2 hstep⟩)
  exact hinvariant.2.sent delivery now hsent

/-- Whatever is sent to a webhook was received on the socket as a post of a board that the webhook admitted when
the post was ingested, and it is the encoding of that post that the webhook may see. -/
theorem sent_deliveries_were_received {config : LoadedConfig} {cookie : SessionCookie Jar} {s : System Jar}
    (h : Run setup mac limit (.init config cookie .empty) actions s) {delivery : PendingDelivery}
    {now : Reading} (hsent : .sent delivery now ∈ s.delivery.history) :
    ∃ before g observedAt faults after value rest decoded webhook,
      actions = before ++ .createEvent observedAt faults :: after ∧
      Run setup mac limit (.init config cookie .empty) before g ∧ Received setup before (value :: rest) ∧
      DecodedPost.tryFrom setup.serde value = .ok decoded ∧ webhook ∈ g.config.webhooks ∧
      webhook.boardAllowed decoded.post.board = true ∧
      delivery.key = (queued setup mac g.config observedAt decoded webhook).key ∧
      some delivery.payload = (queued setup mac g.config observedAt decoded webhook).payload := by
  exact sourced_of_sent h hsent

end Provenance

namespace Sample

/-- The sample configuration, as it was resolved. -/
def config : LoadedConfig := ⟨PtchanGateway.Sample.config, fun _ _ => .ok "secret", PtchanGateway.Sample.parsers,
  PtchanGateway.Sample.file, rfl⟩

/-- An action of the socket system. -/
def lift : Socket.Action → Action Int
  | .tick elapsed => .tick elapsed
  | .shutdown => .shutdown
  | .supervise event => .supervise event
  | .refresh event => .refresh event

def postText : String :=
  "42[\"newPost\",\x7b\"board\":\"i\",\"date\":\"2026-07-19T12:00:00Z\",\"postId\":101\x7d]"

/-- A post is received on an open connection. -/
def received : List (Action Int) :=
  (Socket.Sample.refreshed ++ Socket.Sample.attempted (.ok ())).map lift ++
    [.supervise .proceed, .supervise (.next (some (.ok (.text postText))))]

def now : Reading := .ofNanos (63951681601 * 10 ^ 9)

/-- The loop wakes and sends what is queued. -/
def loop : List Delivery.Action := [.check now, .load true, .start now]

/-- The request of a delivery is answered with success, and the row is marked. -/
def acknowledgement (key : String × String) : List Delivery.Action :=
  [.answer key (.response 200 "200 OK") now, .write key true]

def sends : Delivery.Record → Bool
  | .sent delivery _ => delivery.webhook == "alerts"
  | _ => false

abbrev SampleRun : System Int → List (Action Int) → System Int → Prop :=
  Run Socket.Sample.setup PtchanGateway.Sample.mac Delivery.batchLimit

def webhook : WebhookConfig := ⟨"alerts", "http://alerts.test/", ["i"], true, "secret"⟩

/-- The arguments are a post the webhook admits. -/
def admissible : List Json → Bool
  | value :: _ =>
      value.isObject && match DecodedPost.tryFrom Socket.Sample.setup.serde value with
        | .ok decoded => decoded.post.board == "i"
        | .error _ => false
  | [] => false

/-- A stored event is sent by the next pass of the loop. -/
theorem sends_of_ingest (built : BuiltEvent) (delivery : EventDelivery)
    (hobserved : built.event.observedAt = PtchanGateway.Sample.observedAt) (hwebhook : delivery.webhook = "alerts") :
    ∃ d, Delivery.step Delivery.batchLimit (.init .empty config.webhooks)
        (.ingest .none built.event built.payload [delivery]) = some d ∧
      ∃ d', Path (Delivery.step Delivery.batchLimit) (fun _ a => ofLoop a = true) d loop d' ∧
        d'.history.any sends = true ∧ ∃ pending, d'.phase = .delivering [] [⟨pending, .sending⟩] := by
  obtain ⟨webhook, payload⟩ := delivery
  dsimp only at hwebhook
  subst hwebhook
  have hcreated : (Store.empty.createEvent .none built.event built.payload [⟨"alerts", payload⟩]).1 = .ok true :=
    (createEvent_eq_true_iff built.payload (by simp)).mpr ⟨List.not_mem_nil, rfl, rfl, fun _ _ => rfl, rfl⟩
  rcases createEvent_cases .none built.event built.payload [⟨"alerts", payload⟩] .empty with
    ⟨err, heq⟩ | ⟨_, heq⟩ | ⟨hfresh, store, heq, -, hrows⟩
  · rw [heq] at hcreated
    cases hcreated
  · rw [heq] at hcreated
    cases hcreated
  let row := newDelivery built.event.eventId built.event.observedAt.toRfc3339 ⟨"alerts", payload⟩
  have hdue : isDue PtchanGateway.Sample.observedAt row = true := by simp [isDue, row, newDelivery, hobserved]
  have hloaded : store.loaded 50 PtchanGateway.Sample.observedAt = [row] := by
    have hdeliveries : store.deliveries = [row] := hrows
    rw [loaded, hdeliveries, List.filter_singleton, hdue]
    rfl
  have hbatch : Delivery.loadBatch Delivery.batchLimit now true store = [store.handOut row] := by
    rw [Delivery.loadBatch, if_pos rfl, pendingDeliveries_eq (by decide)]
    exact congrArg (List.map _) hloaded
  let d : Delivery.System := { Delivery.System.init .empty config.webhooks with
    store := store
    notifying := [built.event.eventId]
    history := [.committed built.event.eventId ["alerts"]] }
  have hingest : Delivery.step Delivery.batchLimit (.init .empty config.webhooks)
      (.ingest .none built.event built.payload [⟨"alerts", payload⟩]) = some d := by
    simp only [Delivery.step, Delivery.System.init, heq]
    rfl
  have hload : Delivery.step Delivery.batchLimit { d with phase := .loading now, clock := now.ns } (.load true) =
      some { d with phase := .delivering [store.handOut row] [], clock := now.ns } := by
    rw [← hbatch]
    rfl
  exact ⟨d, hingest, _, .cons rfl rfl (.cons rfl hload (.cons rfl rfl (.nil _))), rfl, _, rfl⟩

/-- A request under way can be answered with success. -/
theorem acknowledged_of_sending {d : Delivery.System} {pending : PendingDelivery}
    (h : d.phase = .delivering [] [⟨pending, .sending⟩]) :
    ∃ d', Path (Delivery.step Delivery.batchLimit) (fun _ a => ofLoop a = true) d (acknowledgement pending.key) d' ∧
      .answered pending.key (.response 200 "200 OK") ∈ d'.history := by
  let written : Delivery.Write := .markDelivered now
  let answered : Delivery.System := { d with
    phase := .delivering [] [⟨pending, .writing written⟩]
    clock := now.ns
    history := .answered pending.key (.response 200 "200 OK") :: d.history }
  have hanswer : Delivery.step Delivery.batchLimit d (.answer pending.key (.response 200 "200 OK") now) =
      some answered := by
    simp only [Delivery.step, h, Delivery.Flight.key, List.find?_cons, beq_self_eq_true, List.map_cons, List.map_nil,
      if_true]
    rfl
  have hwrite : Delivery.step Delivery.batchLimit answered (.write pending.key true) = some { answered with
      store := written.apply pending.key d.store
      phase := .delivering [] []
      history := .markedDelivered pending.key :: answered.history } := by
    simp only [Delivery.step, answered, Delivery.Flight.key, List.find?_cons, beq_self_eq_true, List.filter_cons,
      List.filter_nil, bne_self_eq_false, if_true]
    rfl
  exact ⟨_, .cons rfl hanswer (.cons rfl hwrite (.nil _)), List.mem_cons_of_mem _ List.mem_cons_self⟩

/-- An admissible post is prepared for the webhook, and a new store does not refuse it. -/
theorem prepared {value : Json} {rest : List Json} (h : admissible (value :: rest) = true) :
    ¬Refused Socket.Sample.setup.serde config.webhooks .empty .none (value :: rest) ∧
    ∃ built delivery, prepare Socket.Sample.setup PtchanGateway.Sample.mac config (value :: rest)
        PtchanGateway.Sample.observedAt = some (built, [delivery]) ∧
      built.event.observedAt = PtchanGateway.Sample.observedAt ∧ delivery.webhook = "alerts" := by
  rw [admissible, Bool.and_eq_true] at h
  obtain ⟨hobject, hpost⟩ := h
  split at hpost
  next decoded hdecoded =>
    have hadmitted : admitted config.webhooks decoded.post.board = [webhook] := by
      rw [beq_iff_eq.mp hpost]
      rfl
    have hprepare := preparePost_of_decoded Socket.Sample.setup.serde PtchanGateway.Sample.mac config.ptchan.baseUrl
      PtchanGateway.Sample.observedAt (.new config.postings) rest config.resolution.fingerprintSecret hobject hdecoded
      (by rw [hadmitted]; rfl)
    dsimp only at hprepare
    rw [hadmitted, List.map_singleton] at hprepare
    refine ⟨?_, _, _, hprepare, rfl, rfl⟩
    rw [refused_iff_of_decoded hobject hdecoded, hadmitted]
    rintro (hempty | hreason)
    · cases hempty
    · exact hreason ⟨List.not_mem_nil, rfl, rfl, fun _ _ => rfl, rfl⟩
  next => cases hpost

/-- The post is received and stored, and then sent. -/
theorem stored : ∃ g g', SampleRun (.init config Socket.Sample.cookie .empty) received g ∧
    step Socket.Sample.setup PtchanGateway.Sample.mac Delivery.batchLimit g
      (.createEvent PtchanGateway.Sample.observedAt .none) = some g' ∧ g.config = config ∧
    (∀ arguments, g.ingesting? = some arguments →
      ¬Refused Socket.Sample.setup.serde g.config.webhooks g.delivery.store .none arguments) ∧
    ∃ d', Path (Delivery.step Delivery.batchLimit) (fun _ a => ofLoop a = true) g'.delivery loop d' ∧
      d'.history.any sends = true ∧ ∃ pending, d'.phase = .delivering [] [⟨pending, .sending⟩] := by
  obtain ⟨g, hsocket, hstage, hadmissible⟩ : ∃ g, Path
      (step Socket.Sample.setup PtchanGateway.Sample.mac Delivery.batchLimit) (fun _ a => ofSocket a = true)
      (.init config Socket.Sample.cookie .empty) received g ∧
      g.stage = .storing ∧ g.ingesting?.any admissible = true := Path.exists_of_exec _ (by decide +kernel)
  have hconfig : g.config = config := (Run.of_socket hsocket).1
  have hdelivery : g.delivery = .init .empty config.webhooks := (Run.of_socket hsocket).2
  obtain ⟨arguments, harguments, hpost⟩ := (Option.any_eq_true _ _).mp hadmissible
  match arguments with
  | [] => cases hpost
  | value :: rest =>
      obtain ⟨haccepted, built, delivery, hprepare, hobserved, hwebhook⟩ := prepared hpost
      obtain ⟨d, hd, d', hloop, hsends⟩ := sends_of_ingest built delivery hobserved hwebhook
      refine ⟨g, { g with
          delivery := d
          stage := .stored (committed? g.delivery.store .none built [delivery]) },
        hsocket.mono fun _ _ _ => trivial, ?_, hconfig, ?_, d', hloop, hsends⟩
      · rw [← hdelivery] at hd
        rw [step, harguments, hstage]
        simp only [hconfig, hprepare, hd, Option.map_some]
      · intro arguments hgiven
        cases harguments.symm.trans hgiven
        rw [hconfig, hdelivery]
        exact haccepted

/-- The post is stored, sent and acknowledged. -/
theorem no_accepted_post_is_lost_stored :
    ∃ g g' key s, SampleRun (.init config Socket.Sample.cookie .empty) received g ∧
      step Socket.Sample.setup PtchanGateway.Sample.mac Delivery.batchLimit g
        (.createEvent PtchanGateway.Sample.observedAt .none) = some g' ∧
      SampleRun g' ((loop ++ acknowledgement key).map .deliver) s ∧
      .answered key (.response 200 "200 OK") ∈ s.delivery.history ∧
      ∃ value rest decoded, g.ingesting? = some (value :: rest) ∧
        DecodedPost.tryFrom Socket.Sample.setup.serde value = .ok decoded ∧
        let row := queued Socket.Sample.setup PtchanGateway.Sample.mac g.config PtchanGateway.Sample.observedAt
          decoded webhook
        ∃ new, s.delivery.history = new ++ g'.delivery.history ∧
          (Delivery.Acknowledged new row.key ∨ ∃ d, s.delivery.store.row? row.key = some d ∧
            d.status = .pending ∧ d.payload = row.payload) := by
  obtain ⟨g, g', hrun, hcall, hconfig, haccepted, d', hloop, -, pending, hphase⟩ := stored
  obtain ⟨d'', hacknowledged, hanswered⟩ := acknowledged_of_sending hphase
  have hafter : SampleRun g' _ { g' with delivery := d'' } := Run.deliver (hloop.append hacknowledged) rfl
  obtain ⟨arguments, harguments, hsettled⟩ := no_accepted_post_is_lost hrun hcall hafter
  obtain ⟨value, rest, decoded, rfl, hdecoded, hwebhooks⟩ := hsettled.resolve_left (haccepted _ harguments)
  have hsole : g.config.webhooks = [webhook] := by
    rw [hconfig]
    rfl
  have hboard : webhook.boardAllowed decoded.post.board = true := by
    by_contra hnot
    refine haccepted _ harguments (.unadmitted hdecoded fun other hother => ?_)
    rw [hsole, List.mem_singleton] at hother
    rwa [hother, ← Bool.not_eq_true]
  refine ⟨g, g', pending.key, _, hrun, hcall, hafter, hanswered, value, rest, decoded, harguments, hdecoded, ?_⟩
  exact hwebhooks webhook (hsole ▸ List.mem_cons_self) hboard

theorem sent_deliveries_were_received_announced :
    ∃ actions s delivery now, SampleRun (.init config Socket.Sample.cookie .empty) actions s ∧
      .sent delivery now ∈ s.delivery.history ∧ delivery.webhook = "alerts" ∧
      ∃ before value rest decoded, Received Socket.Sample.setup before (value :: rest) ∧
        DecodedPost.tryFrom Socket.Sample.setup.serde value = .ok decoded := by
  obtain ⟨g, g', hrun, hcall, -, -, d', hloop, hsends, -⟩ := stored
  obtain ⟨record, hrecord, hsent⟩ := List.any_eq_true.mp hsends
  cases record with
  | sent delivery now =>
      have hall := (hrun.append (.single trivial hcall)).append (Run.deliver hloop rfl)
      obtain ⟨before, _, _, _, _, value, rest, decoded, _, -, -, hreceived, hdecoded, -⟩ :=
        sent_deliveries_were_received hall hrecord
      exact ⟨_, _, delivery, now, hall, hrecord, beq_iff_eq.mp hsent, before, value, rest, decoded, hreceived, hdecoded⟩
  | _ => cases hsent

end Sample

end Gateway

end PtchanGateway
