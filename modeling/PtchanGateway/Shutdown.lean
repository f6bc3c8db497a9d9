import Mathlib.Algebra.Order.BigOperators.Group.List
import PtchanGateway.GatewayPosts

/-! What the process still does once the shutdown is sent. Each task has a measure of what is left to it. A
step of the delivery loop, the refresher or the cleanup task lowers its measure, so no order of steps makes
them run on. The supervisor can always be brought nearer to its return, and asks for at most one more
connection. -/

namespace PtchanGateway

open TextRfc3339 TextRust JsonValue Config Session RunSystem

namespace Delivery

def Flight.stepsLeft (flight : Flight) : Nat :=
  match flight.stage with
  | .sending => 2
  | .writing _ => 1

theorem Flight.one_le_stepsLeft (flight : Flight) : 1 ≤ flight.stepsLeft := by
  rw [stepsLeft]
  cases flight.stage with
  | sending => exact Nat.le_succ 1
  | writing => exact le_rfl

theorem Flight.stepsLeft_le_two (flight : Flight) : flight.stepsLeft ≤ 2 := by
  rw [stepsLeft]
  cases flight.stage with
  | sending => exact le_rfl
  | writing => exact Nat.le_succ 1

/-- The steps left to the loop once the shutdown is sent. -/
def Phase.stepsLeft (limit : Nat) : Phase → Nat
  | .stopped => 0
  | .top => 1
  | .waiting _ _ => 2
  | .measured _ => 3
  | .measuring _ => 4
  | .delivering queue flights => 5 + 3 * queue.length + (flights.map Flight.stepsLeft).sum
  | .loading _ => 6 + 3 * limit

/-- The deliveries the loop still begins once the shutdown is sent. -/
def Phase.startsLeft (limit : Nat) : Phase → Nat
  | .loading _ => limit
  | phase => phase.queue.length

def isStart : Action → Bool
  | .start _ => true
  | _ => false

section Steps

variable {limit : Nat} {s s' : System} {a : Action}

theorem loadBatch_length_le (limit : Nat) (now : Reading) (succeeds : Bool) (store : Store) :
    (loadBatch limit now succeeds store).length ≤ limit := by
  rcases loadBatch_eq limit now succeeds store with hnil | hbatch
  · rw [hnil]
    exact Nat.zero_le limit
  · rw [hbatch, List.length_map, Store.loaded, QueueOrder.firstOf, List.length_take]
    exact min_le_left _ _

/-- A pass works on no more than it loads. -/
theorem Step.inHand_length_le (h : Step limit s a s') (hfits : s.phase.inHand.length ≤ limit) :
    s'.phase.inHand.length ≤ limit := by
  cases h with
  | loaded =>
      rw [Phase.inHand, List.map_nil, List.append_nil]
      exact loadBatch_length_le limit _ _ _
  | sent hphase | unconfigured hphase =>
      rw [hphase] at hfits
      exact (inHand_start _ _ _ _).length_eq.trans_le hfits
  | answered hphase =>
      rw [hphase] at hfits
      simp only [Phase.inHand, List.length_append, List.length_map] at hfits ⊢
      exact hfits
  | wrote hphase | writeFailed hphase =>
      rw [hphase] at hfits
      simp only [Phase.inHand, List.length_append, List.length_map] at hfits ⊢
      exact (Nat.add_le_add_left (List.length_filter_le _ _) _).trans hfits
  | restarted | stopped | checked | drained | measured | slept | woken => exact Nat.zero_le limit
  | committed | notCommitted | notified | pruned | pruneFailed | shutdown => exact hfits

theorem Phase.startsLeft_le {phase : Phase} (hfits : phase.inHand.length ≤ limit) :
    phase.startsLeft limit ≤ limit := by
  cases phase with
  | delivering queue flights =>
      rw [Phase.inHand, List.length_append] at hfits
      exact (Nat.le_add_right _ _).trans hfits
  | loading => exact le_rfl
  | _ => exact Nat.zero_le limit

theorem Phase.stepsLeft_le {phase : Phase} (hfits : phase.inHand.length ≤ limit) :
    phase.stepsLeft limit ≤ 6 + 3 * limit := by
  cases phase with
  | delivering queue flights =>
      have hflights : (flights.map Flight.stepsLeft).sum ≤ (flights.map Flight.stepsLeft).length • 2 := by
        apply List.sum_le_card_nsmul
        intro steps hsteps
        obtain ⟨flight, _, rfl⟩ := List.mem_map.mp hsteps
        exact flight.stepsLeft_le_two
      rw [List.length_map, Nat.nsmul_eq_mul] at hflights
      rw [Phase.inHand, List.length_append, List.length_map] at hfits
      rw [Phase.stepsLeft]
      omega
  | loading => exact le_rfl
  | _ => exact Nat.le_add_right_of_le (by rw [Phase.stepsLeft]; omega)

/-- The rest of the process leaves the loop where it stands. -/
theorem Step.phase_eq (h : Step limit s a s') (hloop : Gateway.ofLoop a = false)
    (hrestart : ∀ webhooks, a ≠ .restart webhooks) : s'.phase = s.phase := by
  cases h with
  | restarted => exact absurd rfl (hrestart _)
  | committed | notCommitted | notified | pruned | pruneFailed | shutdown => rfl
  | _ => cases hloop

theorem Step.shutdown_eq (h : Step limit s a s') (hshutdown : a ≠ .shutdown)
    (hrestart : ∀ webhooks, a ≠ .restart webhooks) : s'.shutdown = s.shutdown := by
  cases h with
  | shutdown => exact absurd rfl hshutdown
  | restarted => exact absurd rfl (hrestart _)
  | _ => rfl

theorem sum_stepsLeft_filter_lt {flights : List Flight} {flight : Flight} {keep : Flight → Bool}
    (hmem : flight ∈ flights) (hout : keep flight = false) :
    ((flights.filter keep).map Flight.stepsLeft).sum < (flights.map Flight.stepsLeft).sum := by
  have hpos := flight.one_le_stepsLeft
  induction flights with
  | nil => cases hmem
  | cons head rest ih =>
      have hrest : ((rest.filter keep).map Flight.stepsLeft).sum ≤ (rest.map Flight.stepsLeft).sum :=
        (List.filter_sublist.map _).sum_le_sum fun _ _ => Nat.zero_le _
      rw [List.map_cons, List.sum_cons]
      rcases List.mem_cons.mp hmem with heq | hlater
      · rw [List.filter_cons_of_neg (by rw [← heq, hout]; exact Bool.false_ne_true), ← heq]
        omega
      · have hlt := ih hlater
        by_cases hkeep : keep head = true
        · rw [List.filter_cons_of_pos hkeep, List.map_cons, List.sum_cons]
          omega
        · rw [List.filter_cons_of_neg hkeep]
          omega

theorem sum_stepsLeft_answered_lt {flights : List Flight} {delivery : PendingDelivery}
    (write : PendingDelivery → Write) (hmem : ⟨delivery, .sending⟩ ∈ flights) :
    ((flights.map fun flight =>
      if flight.key = delivery.key then { flight with stage := .writing (write flight.delivery) }
      else flight).map Flight.stepsLeft).sum < (flights.map Flight.stepsLeft).sum := by
  rw [List.map_map]
  apply List.sum_lt_sum
  · intro flight _
    rw [Function.comp_apply]
    split_ifs
    · exact flight.one_le_stepsLeft
    · exact le_rfl
  · refine ⟨_, hmem, ?_⟩
    have hkey : Flight.key ⟨delivery, .sending⟩ = delivery.key := rfl
    rw [Function.comp_apply, if_pos hkey]
    exact Nat.lt_succ_self 1

/-- Every step of the loop takes it nearer to its end. -/
theorem stepsLeft_of_step (h : step limit s a = some s') (hshutdown : s.shutdown = true)
    (hloop : Gateway.ofLoop a = true) :
    s'.phase.stepsLeft limit < s.phase.stepsLeft limit := by
  cases step_cases h with
  | committed | notCommitted | notified | pruned | pruneFailed | shutdown | restarted => cases hloop
  | stopped hphase =>
      rw [hphase]
      exact Nat.zero_lt_one
  | checked hphase =>
      rw [step, hphase, hshutdown] at h
      cases h
  | @loaded now succeeds hphase =>
      have hlength := loadBatch_length_le limit now succeeds s.store
      simp only [hphase, Phase.stepsLeft, List.map_nil, List.sum_nil]
      omega
  | sent hphase | unconfigured hphase =>
      simp only [hphase, Phase.stepsLeft, List.length_cons, List.map_append, List.map_cons, List.map_nil,
        List.sum_append, List.sum_singleton, Flight.stepsLeft]
      omega
  | answered hphase hmem =>
      rw [hphase]
      exact Nat.add_lt_add_left (sum_stepsLeft_answered_lt (deliverOne · _ _) hmem) _
  | wrote hphase hmem | writeFailed hphase hmem =>
      rw [hphase]
      apply Nat.add_lt_add_left
      exact sum_stepsLeft_filter_lt hmem (by rw [Flight.key, bne_self_eq_false])
  | drained hphase | measured hphase | slept hphase | woken hphase =>
      rw [hphase]
      exact Nat.lt_of_sub_pos Nat.zero_lt_one

/-- A delivery is begun only if the pass has loaded it. -/
theorem startsLeft_of_step (h : step limit s a = some s') (hshutdown : s.shutdown = true)
    (hloop : Gateway.ofLoop a = true) :
    (isStart a).toNat + s'.phase.startsLeft limit ≤ s.phase.startsLeft limit := by
  cases step_cases h with
  | committed | notCommitted | notified | pruned | pruneFailed | shutdown | restarted => cases hloop
  | checked hphase =>
      rw [step, hphase, hshutdown] at h
      cases h
  | @loaded now succeeds hphase =>
      rw [hphase]
      exact (Nat.zero_add _).trans_le (loadBatch_length_le limit now succeeds s.store)
  | sent hphase | unconfigured hphase =>
      rw [hphase]
      exact (Nat.add_comm _ _).le
  | answered hphase | wrote hphase | writeFailed hphase =>
      rw [hphase]
      exact (Nat.zero_add _).le
  | stopped | drained | measured | slept | woken => exact Nat.zero_le _

end Steps

end Delivery

/-! ### The session refresher -/

namespace Session

/-- The steps left to the refresher once the shutdown is sent. -/
def Point.stepsLeft : Point → Nat
  | .stopped => 0
  | .top | .unbuilt => 1
  | .starting | .sleeping _ => 2
  | .refreshed _ => 3
  | .reading _ => 4
  | .sending _ => 5
  | .requesting => 6

theorem Point.stepsLeft_le (point : Point) : point.stepsLeft ≤ 6 := by
  cases point with
  | requesting => exact le_rfl
  | _ => exact Nat.le_of_sub_eq_zero rfl

section Task

variable {Jar : Type} {library : CookieLibrary Jar} {serde : Serde} {statusText : Nat → String} {baseUrl : String}
  {clock : Nat} {cookie : SessionCookie Jar} {task : Task Jar}

/-- Every step of the refresher takes it nearer to its end. -/
theorem Task.stepsLeft_of_step {event : Event} {effect : Effect Jar}
    (h : task.step library serde statusText baseUrl true clock cookie event = some effect) :
    effect.task.point.stepsLeft < task.point.stepsLeft := by
  cases event with
  | build outcome =>
      simp only [Task.step] at h
      split at h
      next hpoint =>
        cases h
        rw [hpoint]
        exact Nat.one_lt_two
      next hpoint =>
        cases h
        rw [hpoint]
        exact Nat.one_lt_two
      next => cases h
  | proceed =>
      rw [Task.step] at h
      split at h
      next hpoint =>
        cases h
        rw [hpoint]
        exact Nat.zero_lt_one
      next hpoint =>
        cases h
        rw [hpoint]
        exact Nat.zero_lt_one
      next => cases h
  | answer outcome =>
      rw [Task.step] at h
      split at h
      next hpoint =>
        rw [hpoint]
        split at h
        · cases h
          exact Nat.lt_of_sub_pos Nat.two_pos
        · cases h
          exact Nat.lt_succ_self 4
      next => cases h
  | request now | body outcome now | publish now =>
      rw [Task.step] at h
      split at h
      next hpoint =>
        cases h
        rw [hpoint]
        exact Nat.lt_succ_self _
      next => cases h
  | elapsed | shutdownChanged =>
      rw [Task.step] at h
      split at h
      next hpoint =>
        split_ifs at h
        cases h
        rw [hpoint]
        exact Nat.one_lt_two
      next => cases h

end Task

end Session

/-! ### The supervisor -/

namespace Socket

/-- How far an attempt is from the shutdown's branch of the surrounding `select!`, and that from the return. -/
def RunPoint.distance : RunPoint → Nat
  | .checking _ | .silenced _ => 3
  | .joining _ => 4
  | .requesting | .connecting | .receiving _ _ | .sending _ _ _ _ | .ingesting _ _ | .closing _ _ => 2

/-- How far the supervisor is from its return once the shutdown is sent. -/
def Point.distance : Point → Nat
  | .returned => 0
  | .leaving => 1
  | .top => 2
  | .running _ point => point.distance
  | .authWait _ | .backoff _ => 3
  | .unhealthy | .ended _ => 4
  | .checkingAuth => 5

/-- The connections the supervisor still asks for once the shutdown is sent. -/
def Point.requestsLeft : Point → Nat
  | .checkingAuth | .running _ .requesting => 1
  | _ => 0

def isRequest : Event → Bool
  | .request _ => true
  | _ => false

theorem Point.requestsLeft_le (point : Point) : point.requestsLeft ≤ 1 := by
  cases point with
  | checkingAuth => exact le_rfl
  | running _ point =>
      cases point with
      | requesting => exact le_rfl
      | _ => exact Nat.zero_le 1
  | _ => exact Nat.zero_le 1

theorem Point.requestsLeft_of_connection {refreshAt : Nat} {point : RunPoint} {connection : Connection}
    (h : point.connection? = some connection) : (Point.running refreshAt point).requestsLeft = 0 := by
  cases point with
  | requesting => cases h
  | _ => rfl

section Steps

variable {Jar Url : Type} {setup : Setup Jar Url} {shared : Shared Jar} {task : Task}

theorem requestsLeft_handleMessage {refreshAt now : Nat} (serde : Serde) (connection : Connection)
    (message : Message) : (Point.running refreshAt (handleMessage serde now connection message)).requestsLeft = 0 := by
  cases message with
  | text text =>
      obtain ⟨_, hafter, _⟩ := connection?_handleText serde now connection text
      exact Point.requestsLeft_of_connection hafter
  | _ => rfl

/-- An attempt asks for its connection once, at its start. -/
theorem RunPoint.requestsLeft_of_step {refreshAt : Nat} {point : RunPoint} {event : Event} {result : RunStep}
    (h : point.step setup shared event = some result) :
    (task.enter refreshAt result).task.point.requestsLeft = 0 := by
  unfold RunPoint.step at h
  split at h
  case h_7 =>
    cases h
    exact requestsLeft_handleMessage _ _ _
  case h_11 connection _ _ result =>
    cases h
    rcases finishText_cases connection result with ⟨liveness, hafter⟩ | hafter
    · rw [hafter]
      rfl
    · rw [hafter]
      rfl
  case h_15 => cases h
  all_goals first
    | cases h
      rfl
    | split at h
      · cases h
        rfl
      · cases h <;> rfl

theorem Task.requestsLeft_of_step {event : Event} {effect : Effect}
    (h : task.step setup shared event = some effect) (hshutdown : shared.shutdown = true) :
    (isRequest event).toNat + effect.task.point.requestsLeft ≤ task.point.requestsLeft := by
  cases hrequest : isRequest event with
  | true =>
      cases event with
      | request now =>
          cases hpoint : task.point with
          | running refreshAt point =>
              simp only [Task.step, hpoint] at h
              obtain ⟨result, hresult, heq⟩ := Option.map_eq_some_iff.mp h
              subst heq
              rw [RunPoint.requestsLeft_of_step hresult]
              cases point with
              | requesting => exact le_rfl
              | _ => cases hresult
          | _ => simp [Task.step, hpoint] at h
      | _ => cases hrequest
  | false =>
      rw [Bool.toNat_false, Nat.zero_add]
      cases Task.step_cases h with
      | checks hpoint =>
          cases event with
          | proceed => simp [Task.step, hpoint, hshutdown] at h
          | _ => simp [Task.step, hpoint] at h
      | starts hpoint =>
          rw [hpoint]
          exact le_rfl
      | runs hpoint hresult =>
          rw [RunPoint.requestsLeft_of_step hresult]
          exact Nat.zero_le _
      | _ => exact Nat.zero_le _

end Steps

section System

variable {Jar Url : Type} {setup : Setup Jar Url} {s s' : System Jar}

theorem step_supervise {event : Event} (h : step setup s (.supervise event) = some s') :
    ∃ effect, s.supervisor.step setup s.shared event = some effect ∧
      s' = { s with
        supervisor := effect.task
        status := (effect.upstreamJoined.map s.status.setUpstreamJoined).getD s.status } := by
  rw [step] at h
  split_ifs at h
  obtain ⟨effect, heffect, heq⟩ := Option.map_eq_some_iff.mp h
  exact ⟨effect, heffect, heq.symm⟩

theorem step_refresh {event : Session.Event} (h : step setup s (.refresh event) = some s') :
    ∃ effect, s.refresher.step setup.cookies setup.serde setup.statusText setup.baseUrl s.shutdown s.clock s.cookie
        event = some effect ∧
      s' = { s with
        refresher := effect.task
        cookie := effect.cookie
        status := (effect.authHealthy.map s.status.setAuthHealthy).getD s.status } := by
  rw [step] at h
  split_ifs at h
  obtain ⟨effect, heffect, heq⟩ := Option.map_eq_some_iff.mp h
  exact ⟨effect, heffect, heq.symm⟩

/-- Only the shutdown itself touches its flag. -/
theorem shutdown_eq_of_step {a : Action} (h : step setup s a = some s') (hshutdown : a ≠ .shutdown) :
    s'.shutdown = s.shutdown := by
  cases a with
  | tick =>
      cases h
      rfl
  | shutdown => exact absurd rfl hshutdown
  | supervise =>
      obtain ⟨effect, _, rfl⟩ := step_supervise h
      rfl
  | refresh =>
      obtain ⟨effect, _, rfl⟩ := step_refresh h
      rfl

end System

end Socket

/-! ### The process -/

namespace Gateway

/-- The steps left to the cleanup task once the shutdown is sent. -/
def CleanupPoint.stepsLeft : CleanupPoint → Nat
  | .stopped => 0
  | .top => 1
  | .sleeping _ => 2
  | .pruning => 3

theorem CleanupPoint.stepsLeft_le (point : CleanupPoint) : point.stepsLeft ≤ 3 := by
  cases point with
  | pruning => exact le_rfl
  | _ => exact Nat.le_of_sub_eq_zero rfl

section Actions

variable {Jar : Type}

def isRestart : Action Jar → Bool
  | .restart _ _ => true
  | _ => false

/-- The delivery loop's own steps. -/
def isDelivery : Action Jar → Bool
  | .deliver _ => true
  | _ => false

/-- The delivery loop begins a delivery. -/
def startsDelivery : Action Jar → Bool
  | .deliver action => Delivery.isStart action
  | _ => false

def isRefresh : Action Jar → Bool
  | .refresh _ => true
  | _ => false

/-- The supervisor asks for a connection. -/
def connects : Action Jar → Bool
  | .supervise event => Socket.isRequest event
  | _ => false

def isCleanup : Action Jar → Bool
  | .cleanup _ => true
  | _ => false

end Actions

/-- The tasks have the same word of the shutdown, and a pass has no more in hand than it loaded. -/
structure Coordinated {Jar : Type} (limit : Nat) (s : System Jar) : Prop where
  shutdown : s.delivery.shutdown = s.socket.shutdown
  inHand : s.delivery.phase.inHand.length ≤ limit

/-- The shutdown has been sent. -/
structure ShuttingDown {Jar : Type} (limit : Nat) (s : System Jar) : Prop extends Coordinated limit s where
  sent : s.socket.shutdown = true

theorem ShuttingDown.delivery {Jar : Type} {limit : Nat} {s : System Jar} (h : ShuttingDown limit s) :
    s.delivery.shutdown = true := h.shutdown.trans h.sent

section Steps

variable {Jar Url : Type} {setup : Socket.Setup Jar Url} {mac : Bytes → Bytes → Bytes} {limit : Nat}
  {s s' : System Jar} {a : Action Jar}

/-- The delivery loop takes a step of its own, or stands where it stood. -/
theorem Step.phase_cases (h : Step setup mac limit s a s') (hrestart : isRestart a = false) :
    (∃ action, a = .deliver action ∧ ofLoop action = true ∧
        Delivery.step limit s.delivery action = some s'.delivery) ∨
      isDelivery a = false ∧ s'.delivery.phase = s.delivery.phase := by
  cases h with
  | delivered hloop hdelivery => exact .inl ⟨_, rfl, hloop, hdelivery⟩
  | ticked | refreshed | supervised | unprepared | cleaned => exact .inr ⟨rfl, rfl⟩
  | created _ _ _ hdelivery => exact .inr ⟨rfl, (Delivery.step_cases hdelivery).phase_eq rfl nofun⟩
  | posted _ _ hdelivery =>
      rcases hdelivery with hsame | ⟨eventId, hdelivery⟩
      · exact .inr ⟨rfl, by rw [hsame]⟩
      · exact .inr ⟨rfl, (Delivery.step_cases hdelivery).phase_eq rfl nofun⟩
  | pruned _ hdelivery => exact .inr ⟨rfl, (Delivery.step_cases hdelivery).phase_eq rfl nofun⟩
  | shutdown _ hdelivery => exact .inr ⟨rfl, (Delivery.step_cases hdelivery).phase_eq rfl nofun⟩
  | restarted => cases hrestart

/-- The two tasks of the socket take a step, or stand where they stood. -/
theorem Step.socket_cases (h : Step setup mac limit s a s') (hrestart : isRestart a = false) :
    s'.socket = s.socket ∨ ∃ action, Socket.step (setupOf setup s.config) s.socket action = some s'.socket := by
  cases h with
  | ticked hsocket | refreshed hsocket => exact .inr ⟨_, hsocket⟩
  | supervised _ hsocket => exact .inr ⟨_, hsocket⟩
  | posted _ hsocket => exact .inr ⟨_, hsocket⟩
  | shutdown hsocket => exact .inr ⟨_, hsocket⟩
  | unprepared | created | delivered | cleaned | pruned => exact .inl rfl
  | restarted => cases hrestart

theorem Step.supervisor_cases (h : Step setup mac limit s a s') (hrestart : isRestart a = false) :
    (∃ event effect, connects a = Socket.isRequest event ∧
        s.socket.supervisor.step (setupOf setup s.config) s.socket.shared event = some effect ∧
        s'.socket.supervisor = effect.task) ∨
      connects a = false ∧ s'.socket.supervisor = s.socket.supervisor := by
  cases h with
  | supervised _ hsocket | posted _ hsocket =>
      obtain ⟨effect, heffect, rfl⟩ := Socket.step_supervise hsocket
      exact .inl ⟨_, effect, rfl, heffect, rfl⟩
  | refreshed hsocket =>
      obtain ⟨effect, _, rfl⟩ := Socket.step_refresh hsocket
      exact .inr ⟨rfl, rfl⟩
  | ticked hsocket | shutdown hsocket =>
      cases hsocket
      exact .inr ⟨rfl, rfl⟩
  | unprepared | created | delivered | cleaned | pruned => exact .inr ⟨rfl, rfl⟩
  | restarted => cases hrestart

theorem Step.refresher_cases (h : Step setup mac limit s a s') (hrestart : isRestart a = false) :
    (∃ event effect, isRefresh a = true ∧
        s.socket.refresher.step setup.cookies setup.serde setup.statusText s.config.ptchan.baseUrl s.socket.shutdown
          s.socket.clock s.socket.cookie event = some effect ∧
        s'.socket.refresher = effect.task) ∨
      isRefresh a = false ∧ s'.socket.refresher = s.socket.refresher := by
  cases h with
  | refreshed hsocket =>
      obtain ⟨effect, heffect, rfl⟩ := Socket.step_refresh hsocket
      exact .inl ⟨_, effect, rfl, heffect, rfl⟩
  | supervised _ hsocket | posted _ hsocket =>
      obtain ⟨effect, _, rfl⟩ := Socket.step_supervise hsocket
      exact .inr ⟨rfl, rfl⟩
  | ticked hsocket | shutdown hsocket =>
      cases hsocket
      exact .inr ⟨rfl, rfl⟩
  | unprepared | created | delivered | cleaned | pruned => exact .inr ⟨rfl, rfl⟩
  | restarted => cases hrestart

/-- Every step of the cleanup task takes it nearer to its end. -/
theorem stepsLeft_of_cleanupStep {event : CleanupEvent} (h : cleanupStep limit s event = some s')
    (hshutdown : s.socket.shutdown = true) : s'.cleanup.stepsLeft < s.cleanup.stepsLeft := by
  cases event with
  | proceed =>
      rw [cleanupStep, hshutdown] at h
      split at h
      next hcleanup =>
        cases h
        rw [hcleanup]
        exact Nat.zero_lt_one
      next => cases h
  | prune now succeeds =>
      rw [cleanupStep] at h
      split at h
      next hcleanup =>
        rw [hcleanup]
        dsimp only at h
        split at h
        · cases h
          exact Nat.succ_pos 2
        · cases h
          exact Nat.lt_succ_self 2
        · cases h
          exact Nat.lt_succ_self 2
        · obtain ⟨delivery, -, rfl⟩ := Option.map_eq_some_iff.mp h
          exact Nat.lt_succ_self 2
      next => cases h
  | elapsed | shutdownChanged =>
      rw [cleanupStep] at h
      split at h
      next hcleanup =>
        split_ifs at h
        cases h
        rw [hcleanup]
        exact Nat.one_lt_two
      next => cases h

theorem Step.cleanup_cases (h : Step setup mac limit s a s') (hrestart : isRestart a = false) :
    (∃ event, isCleanup a = true ∧ cleanupStep limit s event = some s') ∨
      isCleanup a = false ∧ s'.cleanup = s.cleanup := by
  cases h with
  | cleaned hcleanup => exact .inl ⟨_, rfl, hcleanup⟩
  | pruned hcleanup => exact .inl ⟨_, rfl, hcleanup⟩
  | restarted => cases hrestart
  | _ => exact .inr ⟨rfl, rfl⟩

theorem Coordinated.step (h : Coordinated limit s) (hstep : Step setup mac limit s a s') : Coordinated limit s' := by
  have hinHand : s'.delivery.phase.inHand.length ≤ limit := by
    rcases hstep.delivery_cases with hsame | ⟨action, hdelivery⟩
    · rw [hsame]
      exact h.inHand
    · exact (Delivery.step_cases hdelivery).inHand_length_le h.inHand
  refine ⟨?_, hinHand⟩
  cases hstep with
  | ticked hsocket | refreshed hsocket =>
      rw [Socket.shutdown_eq_of_step hsocket nofun]
      exact h.shutdown
  | supervised _ hsocket =>
      rw [Socket.shutdown_eq_of_step hsocket nofun]
      exact h.shutdown
  | unprepared | cleaned => exact h.shutdown
  | created _ _ _ hdelivery =>
      rw [(Delivery.step_cases hdelivery).shutdown_eq nofun nofun]
      exact h.shutdown
  | pruned _ hdelivery =>
      rw [(Delivery.step_cases hdelivery).shutdown_eq nofun nofun]
      exact h.shutdown
  | posted _ hsocket hdelivery =>
      rw [Socket.shutdown_eq_of_step hsocket nofun]
      rcases hdelivery with hsame | ⟨eventId, hdelivery⟩
      · rw [hsame]
        exact h.shutdown
      · rw [(Delivery.step_cases hdelivery).shutdown_eq nofun nofun]
        exact h.shutdown
  | delivered hloop hdelivery =>
      rw [(Delivery.step_cases hdelivery).shutdown_eq]
      · exact h.shutdown
      · rintro rfl
        cases hloop
      · rintro _ rfl
        cases hloop
  | shutdown hsocket hdelivery =>
      cases hsocket
      cases hdelivery
      rfl
  | restarted hdelivery =>
      cases hdelivery
      rfl

theorem Step.shutdown_kept (h : Step setup mac limit s a s') (hrestart : isRestart a = false)
    (hshutdown : s.socket.shutdown = true) : s'.socket.shutdown = true := by
  rcases h.socket_cases hrestart with hsame | ⟨action, hsocket⟩
  · rw [hsame]
    exact hshutdown
  · by_cases haction : action = .shutdown
    · subst haction
      rw [← Option.some.inj hsocket]
    · rw [Socket.shutdown_eq_of_step hsocket haction]
      exact hshutdown

theorem ShuttingDown.step (h : ShuttingDown limit s) (hrestart : isRestart a = false)
    (hstep : Step setup mac limit s a s') : ShuttingDown limit s' :=
  ⟨h.toCoordinated.step hstep, hstep.shutdown_kept hrestart h.sent⟩

theorem ShuttingDown.delivery_paid (h : ShuttingDown limit s) (hrestart : isRestart a = false)
    (hstep : Step setup mac limit s a s') :
    (isDelivery a).toNat + s'.delivery.phase.stepsLeft limit ≤ s.delivery.phase.stepsLeft limit := by
  rcases hstep.phase_cases hrestart with ⟨action, rfl, hloop, hdelivery⟩ | ⟨hother, hsame⟩
  · have hlower := Delivery.stepsLeft_of_step hdelivery h.delivery hloop
    rw [isDelivery, Bool.toNat_true]
    omega
  · rw [hother, hsame, Bool.toNat_false, Nat.zero_add]

theorem ShuttingDown.starts_paid (h : ShuttingDown limit s) (hrestart : isRestart a = false)
    (hstep : Step setup mac limit s a s') :
    (startsDelivery a).toNat + s'.delivery.phase.startsLeft limit ≤ s.delivery.phase.startsLeft limit := by
  rcases hstep.phase_cases hrestart with ⟨action, rfl, hloop, hdelivery⟩ | ⟨hother, hsame⟩
  · exact Delivery.startsLeft_of_step hdelivery h.delivery hloop
  · have hnone : startsDelivery a = false := by
      cases a with
      | deliver => cases hother
      | _ => rfl
    rw [hnone, hsame, Bool.toNat_false, Nat.zero_add]

theorem ShuttingDown.refresh_paid (h : ShuttingDown limit s) (hrestart : isRestart a = false)
    (hstep : Step setup mac limit s a s') :
    (isRefresh a).toNat + s'.socket.refresher.point.stepsLeft ≤ s.socket.refresher.point.stepsLeft := by
  rcases hstep.refresher_cases hrestart with ⟨event, effect, hown, heffect, hafter⟩ | ⟨hother, hsame⟩
  · rw [h.sent] at heffect
    have hlower := Session.Task.stepsLeft_of_step heffect
    rw [hown, hafter, Bool.toNat_true]
    omega
  · rw [hother, hsame, Bool.toNat_false, Nat.zero_add]

theorem ShuttingDown.connects_paid (h : ShuttingDown limit s) (hrestart : isRestart a = false)
    (hstep : Step setup mac limit s a s') :
    (connects a).toNat + s'.socket.supervisor.point.requestsLeft ≤ s.socket.supervisor.point.requestsLeft := by
  rcases hstep.supervisor_cases hrestart with ⟨event, effect, hown, heffect, hafter⟩ | ⟨hother, hsame⟩
  · rw [hown, hafter]
    exact Socket.Task.requestsLeft_of_step heffect h.sent
  · rw [hother, hsame, Bool.toNat_false, Nat.zero_add]

theorem ShuttingDown.cleanup_paid (h : ShuttingDown limit s) (hrestart : isRestart a = false)
    (hstep : Step setup mac limit s a s') :
    (isCleanup a).toNat + s'.cleanup.stepsLeft ≤ s.cleanup.stepsLeft := by
  rcases hstep.cleanup_cases hrestart with ⟨event, hown, hcleanup⟩ | ⟨hother, hsame⟩
  · have hlower := stepsLeft_of_cleanupStep hcleanup h.sent
    rw [hown, Bool.toNat_true]
    omega
  · rw [hother, hsame, Bool.toNat_false, Nat.zero_add]

/-- The steps that some run takes to the end. -/
def System.distance (limit : Nat) (s : System Jar) : Nat :=
  s.delivery.phase.stepsLeft limit + s.cleanup.stepsLeft +
    if s.socket.status.upstreamRequired then s.socket.supervisor.point.distance + s.socket.refresher.point.stepsLeft
    else 0

end Steps

/-! ### Runs -/

section Runs

variable {Jar Url : Type} {setup : Socket.Setup Jar Url} {mac : Bytes → Bytes → Bytes} {limit : Nat}
  {config : LoadedConfig} {cookie : SessionCookie Jar} {store : Store} {actions later : List (Action Jar)}
  {s s' : System Jar}

theorem coordinated_of_run (h : Run setup mac limit (.init config cookie store) actions s) : Coordinated limit s :=
  h.invariant (Coordinated limit) (fun _ _ _ hbefore _ hstep => hbefore.step (step_cases hstep))
    ⟨rfl, Nat.zero_le limit⟩

/-- Once the shutdown is sent, whatever the network, the store and the timers do, and in whatever order the tasks
take their steps: the delivery loop takes at most so many more steps and begins no more deliveries than a pass
loads, the refresher takes at most six more steps and the cleanup task three, and the supervisor asks for at most
one more connection. -/
theorem shutdown_bounds_the_work_left (h : Run setup mac limit (.init config cookie store) actions s)
    (hsent : s.socket.shutdown = true)
    (hlater : Path (step setup mac limit) (fun _ a => isRestart a = false) s later s') :
    later.countP isDelivery ≤ 6 + 3 * limit ∧ later.countP startsDelivery ≤ limit ∧
      later.countP isRefresh ≤ 6 ∧ later.countP isCleanup ≤ 3 ∧ later.countP connects ≤ 1 := by
  have hshutting : ShuttingDown limit s := ⟨coordinated_of_run h, hsent⟩
  have hbounded : ∀ (kind : Action Jar → Bool) (potential : System Jar → Nat),
      (∀ t a t', ShuttingDown limit t → isRestart a = false → Step setup mac limit t a t' →
        (kind a).toNat + potential t' ≤ potential t) →
      later.countP kind ≤ potential s := by
    intro kind potential hpaid
    have hcount := hlater.countP_le kind (ShuttingDown limit) potential
      (fun t a t' ht hrestart hstep =>
        ⟨ht.step hrestart (step_cases hstep), hpaid t a t' ht hrestart (step_cases hstep)⟩) hshutting
    omega
  refine ⟨?_, ?_, ?_, ?_, ?_⟩
  · exact (hbounded isDelivery (fun t => t.delivery.phase.stepsLeft limit)
      fun t a t' ht => ht.delivery_paid).trans (Delivery.Phase.stepsLeft_le hshutting.inHand)
  · exact (hbounded startsDelivery (fun t => t.delivery.phase.startsLeft limit)
      fun t a t' ht => ht.starts_paid).trans (Delivery.Phase.startsLeft_le hshutting.inHand)
  · exact (hbounded isRefresh (fun t => t.socket.refresher.point.stepsLeft)
      fun t a t' ht => ht.refresh_paid).trans s.socket.refresher.point.stepsLeft_le
  · exact (hbounded isCleanup (fun t => t.cleanup.stepsLeft) fun t a t' ht => ht.cleanup_paid).trans
      s.cleanup.stepsLeft_le
  · exact (hbounded connects (fun t => t.socket.supervisor.point.requestsLeft)
      fun t a t' ht => ht.connects_paid).trans s.socket.supervisor.point.requestsLeft_le

end Runs

namespace Sample

/-- Two deliveries were left by an earlier process. -/
def backlog : Store :=
  ((Store.empty.createEvent .none (.bare "e" (.ofNanos 0)) [] [⟨"alerts", []⟩]).2.createEvent .none
    (.bare "f" (.ofNanos 0)) [] [⟨"alerts", []⟩]).2

/-- The shutdown arrives while a post is being ingested, and one of the deliveries is under way. -/
def interrupted : List (Action Int) := received ++ loop.map .deliver ++ [.shutdown]

/-- The pass is finished, and the tasks take their last steps. -/
def lastSteps : List (Action Int) :=
  [.supervise .shutdownChanged, .deliver (.start now), .refresh .shutdownChanged] ++
    (acknowledgement ("e", "alerts")).map .deliver ++ [.supervise .proceed, .cleanup .proceed, .refresh .proceed] ++
    (acknowledgement ("f", "alerts")).map .deliver ++
    [.deliver (.drain now), .deliver (.measure true), .deliver (.sleep now), .deliver (.wake .shutdown),
      .deliver (.check now)]

/-- The shutdown has been sent during a pass, and the last steps can follow. -/
theorem wound_down : ∃ s s', SampleRun (.init config Socket.Sample.cookie backlog) interrupted s ∧
    s.socket.shutdown = true ∧ s.delivery.phase.flights.length = 1 ∧
    Path (step Socket.Sample.setup PtchanGateway.Sample.mac Delivery.batchLimit) (fun _ a => isRestart a = false) s
      lastSteps s' := by
  obtain ⟨s, hrun, hsent, hflights, hlater⟩ :
      ∃ s, SampleRun (.init config Socket.Sample.cookie backlog) interrupted s ∧ s.socket.shutdown = true ∧
        s.delivery.phase.flights.length = 1 ∧
        (exec (step Socket.Sample.setup PtchanGateway.Sample.mac Delivery.batchLimit)
          (fun _ a => isRestart a = false) s lastSteps).isSome = true := Path.exists_of_exec _ (by decide +kernel)
  obtain ⟨s', hexec⟩ := Option.isSome_iff_exists.mp hlater
  exact ⟨s, s', hrun, hsent, hflights, .of_exec hexec⟩

theorem shutdown_bounds_the_work_left_interrupted :
    lastSteps.countP isDelivery ≤ 156 ∧ lastSteps.countP startsDelivery ≤ 50 ∧ lastSteps.countP connects ≤ 1 := by
  obtain ⟨s, s', hrun, hsent, -, hlater⟩ := wound_down
  obtain ⟨hdelivery, hstarts, -, -, hconnects⟩ := shutdown_bounds_the_work_left hrun hsent hlater
  exact ⟨hdelivery, hstarts, hconnects⟩

end Sample

end Gateway

end PtchanGateway
