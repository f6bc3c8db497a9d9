import PtchanGateway.Gateway

/-! What a step of the process can do, said once, and what it is for each of the parts: the delivery loop takes one
of its own steps or none, and an ingestion is refused for a reason or stored. -/

namespace PtchanGateway

open TextRfc3339 TextRust JsonValue Config Session RunSystem

namespace Gateway

section Steps

variable {Jar Url : Type} {setup : Socket.Setup Jar Url} {mac : Bytes → Bytes → Bytes} {limit : Nat}
  {s s' : System Jar} {a : Action Jar}

/-- The steps of the process, with what each needs and leaves. -/
inductive Step (setup : Socket.Setup Jar Url) (mac : Bytes → Bytes → Bytes) (limit : Nat) (s : System Jar) :
    Action Jar → System Jar → Prop where
  | ticked {elapsed : Nat} {socket : Socket.System Jar}
      (hsocket : Socket.step (setupOf setup s.config) s.socket (.tick elapsed) = some socket) :
      Step setup mac limit s (.tick elapsed) { s with socket := socket }
  | refreshed {event : Session.Event} {socket : Socket.System Jar}
      (hsocket : Socket.step (setupOf setup s.config) s.socket (.refresh event) = some socket) :
      Step setup mac limit s (.refresh event) { s with socket := socket }
  | supervised {event : Socket.Event} {socket : Socket.System Jar} (hevent : ofIngestion event = false)
      (hsocket : Socket.step (setupOf setup s.config) s.socket (.supervise event) = some socket) :
      Step setup mac limit s (.supervise event) { s with socket := socket, stage := .storing }
  | unprepared {observedAt : Instant} {faults : Store.TxFaults} {arguments : List Json}
      (harguments : s.ingesting? = some arguments) (hstage : s.stage = .storing)
      (hprepare : prepare setup mac s.config arguments observedAt = none) :
      Step setup mac limit s (.createEvent observedAt faults) { s with stage := .stored none }
  | created {observedAt : Instant} {faults : Store.TxFaults} {arguments : List Json} {built : BuiltEvent}
      {deliveries : List EventDelivery} {delivery : Delivery.System} (harguments : s.ingesting? = some arguments)
      (hstage : s.stage = .storing)
      (hprepare : prepare setup mac s.config arguments observedAt = some (built, deliveries))
      (hdelivery : Delivery.step limit s.delivery (.ingest faults built.event built.payload deliveries) =
        some delivery) :
      Step setup mac limit s (.createEvent observedAt faults) { s with
        delivery := delivery
        stage := .stored (committed? s.delivery.store faults built deliveries) }
  | posted {committed : Option String} {socket : Socket.System Jar} {delivery : Delivery.System}
      (hstage : s.stage = .stored committed)
      (hsocket : Socket.step (setupOf setup s.config) s.socket (.supervise .ingested) = some socket)
      (hdelivery : delivery = s.delivery ∨
        ∃ eventId, Delivery.step limit s.delivery (.notify eventId) = some delivery) :
      Step setup mac limit s .posted { s with socket := socket, delivery := delivery, stage := .storing }
  | delivered {action : Delivery.Action} {delivery : Delivery.System} (hloop : ofLoop action = true)
      (hdelivery : Delivery.step limit s.delivery action = some delivery) :
      Step setup mac limit s (.deliver action) { s with delivery := delivery }
  | cleaned {event : CleanupEvent} {cleanup : CleanupPoint}
      (hcleanup : cleanupStep limit s event = some { s with cleanup := cleanup }) :
      Step setup mac limit s (.cleanup event) { s with cleanup := cleanup }
  | pruned {now cutoff : Instant} {succeeds : Bool} {delivery : Delivery.System} {cleanup : CleanupPoint}
      (hcleanup : cleanupStep limit s (.prune now succeeds) =
        some { s with delivery := delivery, cleanup := cleanup })
      (hdelivery : Delivery.step limit s.delivery (.prune cutoff succeeds) = some delivery) :
      Step setup mac limit s (.cleanup (.prune now succeeds)) { s with delivery := delivery, cleanup := cleanup }
  | shutdown {socket : Socket.System Jar} {delivery : Delivery.System}
      (hsocket : Socket.step (setupOf setup s.config) s.socket .shutdown = some socket)
      (hdelivery : Delivery.step limit s.delivery .shutdown = some delivery) :
      Step setup mac limit s .shutdown { s with socket := socket, delivery := delivery }
  | restarted {config : LoadedConfig} {cookie : SessionCookie Jar} {delivery : Delivery.System}
      (hdelivery : Delivery.step limit s.delivery (.restart config.webhooks) = some delivery) :
      Step setup mac limit s (.restart config cookie)
        { System.init config cookie s.delivery.store with delivery := delivery }

theorem cleanupStep_cases {event : CleanupEvent} (h : cleanupStep limit s event = some s') :
    Step setup mac limit s (.cleanup event) s' := by
  cases event with
  | proceed =>
      have hcleanup := h
      rw [cleanupStep] at h
      split at h
      · cases h
        exact .cleaned hcleanup
      · cases h
  | prune now succeeds =>
      have hcleanup := h
      rw [cleanupStep] at h
      split at h
      · dsimp only at h
        split at h
        · cases h
          exact .cleaned hcleanup
        · cases h
          exact .cleaned hcleanup
        · cases h
          exact .cleaned hcleanup
        · obtain ⟨delivery, hdelivery, heq⟩ := Option.map_eq_some_iff.mp h
          subst heq
          exact .pruned hcleanup hdelivery
      · cases h
  | elapsed =>
      have hcleanup := h
      rw [cleanupStep] at h
      split at h
      · split_ifs at h
        cases h
        exact .cleaned hcleanup
      · cases h
  | shutdownChanged =>
      have hcleanup := h
      rw [cleanupStep] at h
      split at h
      · split_ifs at h
        cases h
        exact .cleaned hcleanup
      · cases h

/-- The step function takes no other steps. -/
theorem step_cases (h : step setup mac limit s a = some s') : Step setup mac limit s a s' := by
  cases a with
  | tick elapsed =>
      rw [step] at h
      obtain ⟨socket, hsocket, heq⟩ := Option.map_eq_some_iff.mp h
      subst heq
      exact .ticked hsocket
  | refresh event =>
      rw [step] at h
      obtain ⟨socket, hsocket, heq⟩ := Option.map_eq_some_iff.mp h
      subst heq
      exact .refreshed hsocket
  | supervise event =>
      rw [step] at h
      split_ifs at h with hevent
      obtain ⟨socket, hsocket, heq⟩ := Option.map_eq_some_iff.mp h
      subst heq
      exact .supervised (Bool.eq_false_iff.mpr hevent) hsocket
  | createEvent observedAt faults =>
      rw [step] at h
      split at h
      next arguments harguments hstage =>
        split at h
        next hprepare =>
          cases h
          exact .unprepared harguments hstage hprepare
        next built deliveries hprepare =>
          obtain ⟨delivery, hdelivery, heq⟩ := Option.map_eq_some_iff.mp h
          subst heq
          exact .created harguments hstage hprepare hdelivery
      next => cases h
  | posted =>
      rw [step] at h
      split at h
      next => cases h
      next committed hstage =>
        obtain ⟨socket, hsocket, h⟩ := Option.bind_eq_some_iff.mp h
        obtain ⟨delivery, hdelivery, heq⟩ := Option.bind_eq_some_iff.mp h
        cases heq
        apply Step.posted hstage hsocket
        cases committed with
        | none => exact .inl (Option.some.inj hdelivery).symm
        | some eventId => exact .inr ⟨eventId, hdelivery⟩
  | deliver action =>
      rw [step] at h
      split_ifs at h with hloop
      obtain ⟨delivery, hdelivery, heq⟩ := Option.map_eq_some_iff.mp h
      subst heq
      exact .delivered hloop hdelivery
  | cleanup event =>
      rw [step] at h
      exact cleanupStep_cases h
  | shutdown =>
      rw [step] at h
      obtain ⟨socket, hsocket, h⟩ := Option.bind_eq_some_iff.mp h
      obtain ⟨delivery, hdelivery, heq⟩ := Option.bind_eq_some_iff.mp h
      cases heq
      exact .shutdown hsocket hdelivery
  | restart config cookie =>
      rw [step] at h
      obtain ⟨delivery, hdelivery, heq⟩ := Option.map_eq_some_iff.mp h
      subst heq
      exact .restarted hdelivery

/-- The delivery loop stands still or takes one of its steps. -/
theorem Step.delivery_cases (h : Step setup mac limit s a s') :
    s'.delivery = s.delivery ∨ ∃ action, Delivery.step limit s.delivery action = some s'.delivery := by
  cases h with
  | ticked | refreshed | supervised | unprepared | cleaned => exact .inl rfl
  | created _ _ _ hdelivery => exact .inr ⟨_, hdelivery⟩
  | posted _ _ hdelivery =>
      rcases hdelivery with hsame | ⟨eventId, hdelivery⟩
      · exact .inl hsame
      · exact .inr ⟨_, hdelivery⟩
  | delivered _ hdelivery => exact .inr ⟨_, hdelivery⟩
  | pruned _ hdelivery => exact .inr ⟨_, hdelivery⟩
  | shutdown _ hdelivery => exact .inr ⟨_, hdelivery⟩
  | restarted hdelivery => exact .inr ⟨_, hdelivery⟩

end Steps

section Runs

variable {Jar Url : Type} {setup : Socket.Setup Jar Url} {mac : Bytes → Bytes → Bytes} {limit : Nat}

/-- A run of the process. -/
abbrev Run (setup : Socket.Setup Jar Url) (mac : Bytes → Bytes → Bytes) (limit : Nat) (s : System Jar)
    (actions : List (Action Jar)) (s' : System Jar) : Prop :=
  Path (step setup mac limit) (fun _ _ => True) s actions s'

/-- A run of the process is one of the delivery system. -/
theorem Run.delivery {s s' : System Jar} {actions : List (Action Jar)} (h : Run setup mac limit s actions s') :
    ∃ steps, Path (Delivery.step limit) (fun _ _ => True) s.delivery steps s'.delivery := by
  have hsimulated : ∃ steps delivery,
      Path (Delivery.step limit) (fun _ _ => True) s.delivery steps delivery ∧ delivery = s'.delivery := by
    refine h.simulate (fun t delivery => delivery = t.delivery) ?_ rfl
    intro t a t' delivery hrel _ hstep
    subst hrel
    rcases (step_cases hstep).delivery_cases with hsame | ⟨action, hdelivery⟩
    · exact ⟨[], t.delivery, .nil _, hsame.symm⟩
    · exact ⟨[action], t'.delivery, .single trivial hdelivery, rfl⟩
  obtain ⟨steps, delivery, hpath, hend⟩ := hsimulated
  exact ⟨steps, hend ▸ hpath⟩

/-- The steps of the socket's two tasks. -/
def ofSocket : Action Jar → Bool
  | .tick _ | .refresh _ | .supervise _ => true
  | .createEvent _ _ | .posted | .deliver _ | .cleanup _ | .shutdown | .restart _ _ => false

/-- The two tasks of the socket leave the rest alone. -/
theorem Run.of_socket {s s' : System Jar} {actions : List (Action Jar)}
    (h : Path (step setup mac limit) (fun _ a => ofSocket a = true) s actions s') :
    s'.config = s.config ∧ s'.delivery = s.delivery := by
  refine h.invariant (fun t => t.config = s.config ∧ t.delivery = s.delivery) ?_ ⟨rfl, rfl⟩
  intro t a t' hsame hsocket hstep
  cases step_cases hstep with
  | ticked | refreshed | supervised => exact hsame
  | _ => cases hsocket

/-- A run of the delivery loop is one of the process. -/
theorem Run.deliver {s : System Jar} {steps : List Delivery.Action} {d d' : Delivery.System}
    (h : Path (Delivery.step limit) (fun _ a => ofLoop a = true) d steps d') (hdelivery : s.delivery = d) :
    Run setup mac limit s (steps.map .deliver) { s with delivery := d' } := by
  induction h generalizing s with
  | nil =>
      subst hdelivery
      exact .nil s
  | @cons d d₁ _ a as hloop hstep _ ih =>
      refine .cons trivial ?_ (ih (s := { s with delivery := d₁ }) rfl)
      rw [step, if_pos hloop, hdelivery, hstep]
      rfl

end Runs

end Gateway

end PtchanGateway
