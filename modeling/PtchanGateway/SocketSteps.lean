import PtchanGateway.JsonText
import PtchanGateway.Socket

/-! What a step of the two tasks can do, said once. Inside `run_socket_once` the local `joined` says exactly
whether a text received on the connection joins the room, and the result of an attempt follows from how
it ended. -/

namespace PtchanGateway

open TextRfc3339 TextRust JsonValue Config Session

namespace Socket

/-- The packet is a `message` event that contains `joined`. -/
def Packet.joins : Packet → Bool
  | .socketEvent name payload => name == "message" && messageIsJoined payload
  | _ => false

section Messages

variable {serde : Serde} {text : String}

theorem joins_of_decode {packet : Packet} (h : decode serde text = .ok packet) :
    Joins serde text ↔ packet.joins = true := by
  rw [Joins, h]
  constructor
  · intro hjoins
    obtain ⟨payload, heq, hjoined⟩ := hjoins
    rw [Except.ok.injEq] at heq
    simp [heq, Packet.joins, hjoined]
  · intro hjoins
    cases packet with
    | socketEvent name payload =>
        rw [Packet.joins, Bool.and_eq_true, beq_iff_eq] at hjoins
        exact ⟨payload, by rw [hjoins.1], hjoins.2⟩
    | _ => cases hjoins

/-- Whether the text joins, from its packet. -/
theorem joins_iff : Joins serde text ↔ (decode serde text).toOption.any Packet.joins = true := by
  cases hdecode : decode serde text with
  | error err => simp [Joins, hdecode, Except.toOption]
  | ok packet =>
      rw [joins_of_decode hdecode]
      rfl

instance (serde : Serde) (text : String) : Decidable (Joins serde text) := decidable_of_iff _ joins_iff.symm

instance (serde : Serde) (received : List String) : Decidable (JoinedOn serde received) :=
  inferInstanceAs (Decidable (∃ text ∈ received, Joins serde text))

theorem not_joins_of_error {err : Chain} (h : decode serde text = .error err) : ¬Joins serde text := by
  intro hjoins
  obtain ⟨payload, heq, _⟩ := hjoins
  rw [h] at heq
  cases heq

theorem joinedOn_cons {received : List String} :
    JoinedOn serde (text :: received) ↔ Joins serde text ∨ JoinedOn serde received := by
  simp [JoinedOn]

theorem connection?_handleSocketPacket (connection : Connection) (packet : Packet) :
    (handleSocketPacket connection packet).connection? =
      some { connection with joined := packet.joins || connection.joined } := by
  cases packet with
  | socketEvent name payload =>
      rw [handleSocketPacket, handleSocketEvent]
      split_ifs with hmessage hjoined hpost
      · simp [RunPoint.connection?, Packet.joins, hmessage, hjoined]
      · simp [RunPoint.connection?, Packet.joins, hmessage, hjoined]
      · simp [RunPoint.connection?, Packet.joins, hpost]
      · have hother : (name == "message") = false := beq_eq_false_iff_ne.mpr hmessage
        simp [RunPoint.connection?, Packet.joins, hother]
  | _ => rfl

theorem joined_of_handleSocketPacket {connection after : Connection} {packet : Packet}
    (h : handleSocketPacket connection packet = .joining after) : after.joined = true := by
  cases packet with
  | socketEvent name payload =>
      rw [handleSocketPacket, handleSocketEvent] at h
      split_ifs at h
      cases h
      rfl
  | _ => cases h

/-- The loop goes on with the connection, or leaves with it. -/
theorem finishText_cases (connection : Connection) (result : SocketTextResult) :
    (∃ liveness, finishText connection result = .checking { connection with liveness := liveness }) ∨
      finishText connection result = .closing connection .closed := by
  cases result with
  | closed => exact .inr rfl
  | _ => exact .inl ⟨_, rfl⟩

end Messages

/-- The local `joined` is what the received texts say. -/
def Connection.Marked (serde : Serde) (connection : Connection) : Prop :=
  connection.joined = true ↔ JoinedOn serde connection.received

structure RunPoint.Marked (serde : Serde) (point : RunPoint) : Prop where
  connection : ∀ connection, point.connection? = some connection → connection.Marked serde
  joining : ∀ connection, point = .joining connection → connection.joined = true

def RunPoint.Joined (point : RunPoint) : Prop :=
  ∃ connection, point.connection? = some connection ∧ connection.joined = true

section Connections

variable {serde : Serde}

theorem Connection.marked_open (now : Nat) : (Connection.open now).Marked serde := by
  simp [Marked, Connection.open, JoinedOn]

theorem RunPoint.marked_of_connection {point : RunPoint} {connection : Connection}
    (h : point.connection? = some connection) (hmarked : connection.Marked serde)
    (hjoining : ∀ connection, point = .joining connection → connection.joined = true) : point.Marked serde := by
  refine ⟨fun other hother => ?_, hjoining⟩
  rw [h, Option.some.injEq] at hother
  exact hother ▸ hmarked

/-- A text is handled: the connection has received it, and has joined if it had or if the text joins. -/
theorem connection?_handleText (serde : Serde) (now : Nat) (connection : Connection) (text : String) :
    ∃ after, (handleText serde now connection text).connection? = some after ∧
      (after.joined = true ↔ Joins serde text ∨ connection.joined = true) ∧
      after.received = text :: connection.received := by
  rw [handleText]
  cases hdecode : decode serde text with
  | error err => exact ⟨_, rfl, by simp [not_joins_of_error hdecode], rfl⟩
  | ok packet =>
      refine ⟨_, connection?_handleSocketPacket _ packet, ?_, rfl⟩
      rw [joins_of_decode hdecode, Bool.or_eq_true]

theorem joined_of_handleText {now : Nat} {connection after : Connection} {text : String}
    (h : handleText serde now connection text = .joining after) : after.joined = true := by
  rw [handleText] at h
  cases hdecode : decode serde text with
  | error err => simp [hdecode] at h
  | ok packet =>
      rw [hdecode] at h
      exact joined_of_handleSocketPacket h

theorem handleMessage_sound {connection : Connection} (now : Nat) (message : Message)
    (h : connection.Marked serde) :
    (handleMessage serde now connection message).Marked serde ∧
      (connection.joined = true → (handleMessage serde now connection message).Joined) := by
  cases message with
  | text text =>
      obtain ⟨after, hafter, hjoined, hreceived⟩ := connection?_handleText serde now connection text
      have hmarked : after.Marked serde := by
        rw [Connection.Marked, hjoined, hreceived, joinedOn_cons]
        exact or_congr_right h
      exact ⟨RunPoint.marked_of_connection hafter hmarked fun _ => joined_of_handleText,
        fun hbefore => ⟨after, hafter, hjoined.mpr (.inr hbefore)⟩⟩
  | _ => exact ⟨RunPoint.marked_of_connection rfl h nofun, fun hbefore => ⟨_, rfl, hbefore⟩⟩

end Connections

/-- The result of an attempt follows from how it ended. -/
def Ended.Consistent (serde : Serde) (ended : Ended) : Prop :=
  match ended.ending with
  | .left _ => ∃ joined, ended.result = .ok joined ∧ (joined = true ↔ JoinedOn serde ended.received)
  | .refresh => ended.result = .ok true
  | .requestError | .connectError => ended.received = [] ∧ ∃ err, ended.result = .error err
  | .readError | .sendError => ∃ err, ended.result = .error err

/-- What a step of `run_socket_once` keeps. -/
def RunStep.Sound (serde : Serde) (before : RunPoint) : RunStep → Prop
  | .goto after => after.Marked serde ∧ (before.Joined → after.Joined)
  | .store joined after => after.Marked serde ∧ (joined = true → after.Joined)
  | .exit ended => ended.Consistent serde

section Steps

variable {Jar Url : Type} {setup : Setup Jar Url} {shared : Shared Jar}

/-- A step that keeps the connection as it was, but for its liveness. -/
theorem RunStep.sound_goto {serde : Serde} {before after : RunPoint} {connection : Connection}
    {liveness : ReceiveLiveness} (hbefore : before.connection? = some connection)
    (hafter : after.connection? = some { connection with liveness := liveness })
    (hjoining : ∀ connection, after ≠ .joining connection) (h : before.Marked serde) :
    RunStep.Sound serde before (.goto after) := by
  refine ⟨RunPoint.marked_of_connection hafter (h.connection connection hbefore)
    fun other hother => absurd hother (hjoining other), fun hjoined => ?_⟩
  obtain ⟨other, hother, htrue⟩ := hjoined
  rw [hbefore, Option.some.injEq] at hother
  subst hother
  exact ⟨_, hafter, htrue⟩

theorem RunPoint.step_sound {point : RunPoint} {event : Event} {result : RunStep}
    (h : point.step setup shared event = some result) (hmarked : point.Marked setup.serde) :
    result.Sound setup.serde point := by
  unfold RunPoint.step at h
  split at h
  · rename_i now
    split at h
    · cases h
      exact ⟨rfl, _, rfl⟩
    · cases h
      exact ⟨⟨nofun, nofun⟩, nofun⟩
  · cases h
    exact ⟨rfl, _, rfl⟩
  · cases h
    exact ⟨RunPoint.marked_of_connection rfl (Connection.marked_open _) nofun, nofun⟩
  · split_ifs at h
    · cases h
      exact RunStep.sound_goto rfl rfl nofun hmarked
    · cases h
      exact RunStep.sound_goto rfl rfl nofun hmarked
  · cases h
    exact RunStep.sound_goto rfl rfl nofun hmarked
  · cases h
    exact ⟨_, rfl⟩
  · rename_i connection deadline message
    cases h
    obtain ⟨hafter, hkeeps⟩ := handleMessage_sound shared.clock message (hmarked.connection connection rfl)
    refine ⟨hafter, fun hjoined => hkeeps ?_⟩
    obtain ⟨other, hother, htrue⟩ := hjoined
    cases hother
    exact htrue
  · split_ifs at h
    cases h
    exact RunStep.sound_goto rfl rfl nofun hmarked
  · cases h
    exact ⟨RunPoint.marked_of_connection rfl (hmarked.connection _ rfl) nofun, nofun⟩
  · rename_i connection
    cases h
    exact ⟨RunPoint.marked_of_connection rfl (hmarked.connection _ rfl) nofun,
      fun _ => ⟨connection, rfl, hmarked.joining connection rfl⟩⟩
  · rename_i connection message purpose result
    cases h
    rcases finishText_cases connection result with ⟨liveness, hafter⟩ | hafter
    · rw [hafter]
      exact RunStep.sound_goto rfl rfl nofun hmarked
    · rw [hafter]
      exact RunStep.sound_goto rfl rfl nofun hmarked
  · cases h
    exact ⟨_, rfl⟩
  · cases h
    exact RunStep.sound_goto rfl rfl nofun hmarked
  · rename_i connection exit
    cases h
    exact ⟨connection.joined, rfl, hmarked.connection connection rfl⟩
  · cases h

/-- The steps of the supervisor, with what each needs and leaves. -/
inductive Task.Step (setup : Setup Jar Url) (shared : Shared Jar) (task : Task) : Effect → Prop where
  | checks (hpoint : task.point = .top) : Step setup shared task ⟨{ task with point := .checkingAuth }, none⟩
  | leaves (hpoint : task.point = .top) : Step setup shared task ⟨{ task with point := .leaving }, none⟩
  | returns (hpoint : task.point = .leaving) : Step setup shared task ⟨{ task with point := .returned }, some false⟩
  | starts {refreshAt : Nat} (hpoint : task.point = .checkingAuth) :
      Step setup shared task ⟨{ task with point := .running refreshAt .requesting }, none⟩
  | holds (hpoint : task.point = .checkingAuth) : Step setup shared task ⟨{ task with point := .unhealthy }, none⟩
  | waits {wakeAt : Nat} (hpoint : task.point = .unhealthy) :
      Step setup shared task ⟨{ task with point := .authWait wakeAt }, some false⟩
  | wakes {wakeAt : Nat} (hpoint : task.point = .authWait wakeAt) :
      Step setup shared task ⟨{ task with point := .top }, none⟩
  | runs {refreshAt : Nat} {point : RunPoint} {event : Event} {result : RunStep}
      (hpoint : task.point = .running refreshAt point) (hresult : point.step setup shared event = some result) :
      Step setup shared task (task.enter refreshAt result)
  | refreshes {refreshAt : Nat} {point : RunPoint} (hpoint : task.point = .running refreshAt point) :
      Step setup shared task ⟨{ task with point := .ended ⟨.refresh, point.received, .ok true⟩ }, none⟩
  | drops {refreshAt : Nat} {point : RunPoint} (hpoint : task.point = .running refreshAt point) :
      Step setup shared task ⟨{ task with point := .leaving }, none⟩
  | sleeps {ended : Ended} {wakeAt : Nat} (hpoint : task.point = .ended ended) :
      Step setup shared task
        ⟨⟨.backoff wakeAt, delayAfter task.delay ended.result,
          ⟨ended.ending, ended.received, delayAfter task.delay ended.result⟩ :: task.attempts⟩, some false⟩
  | retries {wakeAt : Nat} (hpoint : task.point = .backoff wakeAt) :
      Step setup shared task
        ⟨{ task with point := .top, delay := min (task.delay * 2) reconnectMax }, none⟩

/-- An event for `run_socket_once` moves only that. -/
theorem Task.step_running {task : Task} {event : Event} {effect : Effect}
    (h : (match task.point with
      | .running refreshAt point => (point.step setup shared event).map (task.enter refreshAt)
      | _ => none) = some effect) : Task.Step setup shared task effect := by
  cases hpoint : task.point with
  | running refreshAt point =>
      rw [hpoint] at h
      obtain ⟨result, hresult, heq⟩ := Option.map_eq_some_iff.mp h
      subst heq
      exact .runs hpoint hresult
  | _ =>
      rw [hpoint] at h
      cases h

theorem Task.step_cases {task : Task} {event : Event} {effect : Effect}
    (h : task.step setup shared event = some effect) : Task.Step setup shared task effect := by
  cases event with
  | proceed =>
      rw [Task.step] at h
      split at h
      · rename_i hpoint
        cases h
        split_ifs
        · exact .leaves hpoint
        · exact .checks hpoint
      · rename_i hpoint
        cases h
        exact .returns hpoint
      · rename_i hpoint
        split_ifs at h
        · cases h
          exact .starts hpoint
        · cases h
          exact .holds hpoint
      · rename_i hpoint
        cases h
        exact .waits hpoint
      · rename_i refreshAt point hpoint
        obtain ⟨result, hresult, heq⟩ := Option.map_eq_some_iff.mp h
        subst heq
        exact .runs hpoint hresult
      · rename_i ended hpoint
        cases h
        exact .sleeps hpoint
      · cases h
  | elapsed =>
      rw [Task.step] at h
      split at h
      · rename_i wakeAt hpoint
        split_ifs at h
        cases h
        exact .wakes hpoint
      · rename_i refreshAt point hpoint
        split_ifs at h
        cases h
        exact .refreshes hpoint
      · rename_i wakeAt hpoint
        split_ifs at h
        cases h
        exact .retries hpoint
      · cases h
  | shutdownChanged =>
      rw [Task.step] at h
      split_ifs at h
      split at h
      · rename_i wakeAt hpoint
        cases h
        exact .wakes hpoint
      · rename_i refreshAt point hpoint
        split_ifs at h
        cases h
        exact .drops hpoint
      · rename_i wakeAt hpoint
        cases h
        exact .retries hpoint
      · cases h
  | _ => exact Task.step_running h

/-- What the supervisor has in hand is marked by what was received. -/
structure Task.Marked (serde : Serde) (task : Task) : Prop where
  running : ∀ refreshAt point, task.point = .running refreshAt point → point.Marked serde
  ended : ∀ ended, task.point = .ended ended → ended.Consistent serde

/-- No attempt is under way or waits to be concluded. -/
def Point.idle : Point → Bool
  | .running _ _ | .ended _ => false
  | _ => true

theorem Task.marked_of_idle (serde : Serde) {task : Task} (h : task.point.idle = true) : task.Marked serde := by
  refine ⟨fun refreshAt point hpoint => ?_, fun ended hpoint => ?_⟩
  · rw [hpoint] at h
    cases h
  · rw [hpoint] at h
    cases h

theorem Task.Marked.enter {task : Task} {refreshAt : Nat} {point : RunPoint} {event : Event} {result : RunStep}
    (h : task.Marked setup.serde) (hpoint : task.point = .running refreshAt point)
    (hresult : point.step setup shared event = some result) :
    (task.enter refreshAt result).task.Marked setup.serde := by
  have hsound := RunPoint.step_sound hresult (h.running _ _ hpoint)
  cases result with
  | goto after =>
      refine ⟨fun _ _ heq => ?_, nofun⟩
      cases heq
      exact hsound.1
  | store joined after =>
      refine ⟨fun _ _ heq => ?_, nofun⟩
      cases heq
      exact hsound.1
  | exit ended =>
      refine ⟨nofun, fun _ heq => ?_⟩
      cases heq
      exact hsound

theorem Task.Marked.step {task : Task} {effect : Effect} (h : task.Marked setup.serde)
    (hstep : Task.Step setup shared task effect) : effect.task.Marked setup.serde := by
  cases hstep with
  | starts =>
      refine ⟨fun _ _ heq => ?_, nofun⟩
      cases heq
      exact ⟨nofun, nofun⟩
  | runs hpoint hresult => exact h.enter hpoint hresult
  | refreshes =>
      refine ⟨nofun, fun _ heq => ?_⟩
      cases heq
      exact rfl
  | _ => exact Task.marked_of_idle _ rfl

end Steps

/-! ### The system -/

section System

variable {Jar Url : Type} {setup : Setup Jar Url}

/-- A step of the system: time passes, the shutdown is sent, or one of the tasks takes a step. -/
theorem step_cases {s s' : System Jar} {a : Action} (h : step setup s a = some s') :
    (s'.status = s.status ∧ s'.supervisor = s.supervisor ∧ s'.refresher = s.refresher) ∨
      (∃ effect, Task.Step setup s.shared s.supervisor effect ∧
        s' = { s with
          supervisor := effect.task
          status := (effect.upstreamJoined.map s.status.setUpstreamJoined).getD s.status }) ∨
      ∃ event effect,
        s.refresher.step setup.cookies setup.serde setup.statusText setup.baseUrl s.shutdown s.clock s.cookie event =
          some effect ∧
        s' = { s with
          refresher := effect.task
          cookie := effect.cookie
          status := (effect.authHealthy.map s.status.setAuthHealthy).getD s.status } := by
  cases a with
  | tick elapsed =>
      cases h
      exact .inl ⟨rfl, rfl, rfl⟩
  | shutdown =>
      cases h
      exact .inl ⟨rfl, rfl, rfl⟩
  | supervise event =>
      rw [step] at h
      split_ifs at h
      obtain ⟨effect, heffect, heq⟩ := Option.map_eq_some_iff.mp h
      exact .inr (.inl ⟨effect, Task.step_cases heffect, heq.symm⟩)
  | refresh event =>
      rw [step] at h
      split_ifs at h
      obtain ⟨effect, heffect, heq⟩ := Option.map_eq_some_iff.mp h
      exact .inr (.inr ⟨event, effect, heffect, heq.symm⟩)

end System

namespace Sample

/-- A jar of one cookie, by the second it expires at. -/
def cookies : CookieLibrary Int where
  getRequestValues jar _ now := if now < jar * 10 ^ 9 then [("session", "s")] else []
  expirations jar _ now := if now < jar * 10 ^ 9 then [.atUtc jar] else []
  parse jar _ _ _ := .ok jar

/-- An absolute URL of a host without a port. -/
structure WebUrl where
  scheme : String
  host : String
  path : String
  query : Option String

def urls : UrlLibrary WebUrl where
  parse text := if text = "https://ptchan.test" then .ok ⟨"https", "ptchan.test", "/", none⟩ else .error "invalid"
  scheme := WebUrl.scheme
  hostStr url := some url.host
  port _ := none
  setScheme url scheme := some { url with scheme := scheme }
  setPath url path := { url with path := path }
  setQuery url query := { url with query := query }
  text url := url.scheme ++ "://" ++ url.host ++ url.path ++ (url.query.map ("?" ++ ·)).getD ""
  intoClientRequest _ := .ok ()
  headerValue _ := .ok ()

def setup : Setup Int WebUrl where
  serde := ⟨JsonText.codec, parseRfc3339, fun _ => (".", "invalid value")⟩
  cookies := cookies
  urls := urls
  statusText := toString
  baseUrl := "https://ptchan.test"

/-- The cookie expires in July 2030. -/
def cookie : SessionCookie Int := ⟨1910952000, "https://ptchan.test"⟩

/-- A July day in 2026. -/
def today : Int := 1784548800 * 10 ^ 9

/-- A refresh that succeeds. -/
def refreshed : List Action :=
  [.refresh (.build (.ok ())), .refresh .proceed, .refresh (.request today), .refresh (.answer (.ok ⟨200, []⟩)),
    .refresh (.body (.ok "[]") today), .refresh (.publish today)]

/-- An attempt from the top of the loop up to the connection. -/
def attempted (outcome : Except String Unit) : List Action :=
  [.supervise .proceed, .supervise .proceed, .supervise (.request today), .supervise (.connected outcome)]

def joinText : String := "42[\"message\",\"joined\"]"

/-- The room is joined on an open connection. -/
def joined : List Action :=
  [.supervise .proceed, .supervise (.next (some (.ok (.text joinText)))), .supervise .proceed, .supervise .proceed]

end Sample

end Socket

end PtchanGateway
