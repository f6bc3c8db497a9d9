import PtchanGateway.RunSystem
import PtchanGateway.Session

/-!
The socket supervisor (`socket/mod.rs`, `socket/protocol.rs`) beside the session refresh task, as a step
function. A step of a task goes to its next await or its next access to a flag another task reads, and
the tasks take their steps in any order. What the network, the timers and ingestion answer is part of the
action. The texts received on a connection and the list of past attempts are ghosts, the latest first.
-/

namespace PtchanGateway

open TextRust JsonValue Config Session

namespace Socket

def room : String := "globalmanage-recent-hashed"

def reconnectMin : Nat := 3 * 10 ^ 9

def reconnectMax : Nat := 60 * 10 ^ 9

def engineOpenTimeout : Nat := 30 * 10 ^ 9

def livenessGrace : Nat := 5 * 10 ^ 9

def socketRefreshInterval : Nat := 7200 * 10 ^ 9

structure Heartbeat where
  pingInterval : Nat
  pingTimeout : Nat
  deriving DecidableEq, Repr

inductive Packet where
  | engineOpen (heartbeat : Heartbeat)
  | enginePing
  | engineClose
  | socketConnected
  | socketDisconnected (payloadBytes : Nat)
  | socketEvent (name : String) (payload : List Json)
  | socketError (payloadBytes : Nat)
  | ignored (layer code : String)

/-- `split_at_checked(1)`: the first character, if it is one byte long. -/
def splitCode (text : String) : Option (Char × String) :=
  match text.toList with
  | code :: payload => if code.toNat < 128 then some (code, String.ofList payload) else none
  | [] => none

/-- `Value::as_u64`. -/
def asU64 : Json → Option Nat
  | .num (.int n) => if 0 ≤ n ∧ n < 2 ^ 64 then some n.toNat else none
  | _ => none

/-- In nanoseconds. -/
def durationMillis (object : List (String × Json)) (name : String) : Except Chain Nat :=
  match ((lookup name object).bind asU64).filter fun millis => 0 < millis with
  | some millis => .ok (millis * 10 ^ 6)
  | none => bail ("engine.io open payload did not include a positive " ++ name)

section Decode

variable (serde : Serde)

def decodeEngineOpen (payload : String) : Except Chain Packet :=
  match serde.codec.read (asBytes payload) with
  | .error err => .error ["engine.io open payload was not JSON", err]
  | .ok (.obj object) => do
      let pingInterval ← durationMillis object "pingInterval"
      let pingTimeout ← durationMillis object "pingTimeout"
      .ok (.engineOpen ⟨pingInterval, pingTimeout⟩)
  | .ok _ => bail "engine.io open payload was not an object"

def decodeEvent (payload : String) : Except Chain Packet :=
  match serde.codec.read (asBytes payload) with
  | .error err => .error ["socket event payload was not JSON", err]
  | .ok (.arr []) => bail "socket event did not include a name"
  | .ok (.arr (.str name :: values)) => .ok (.socketEvent name values)
  | .ok (.arr (_ :: _)) => bail "socket event name was not text"
  | .ok value => .error ["socket event payload was not JSON", (serde.fault value).2]

def decodeSocketio (text : String) : Except Chain Packet :=
  match splitCode text with
  | none => bail "socket.io packet was empty or did not start with an ASCII packet code"
  | some (code, payload) =>
      match code with
      | '0' => .ok .socketConnected
      | '1' => .ok (.socketDisconnected (asBytes payload).length)
      | '2' => decodeEvent serde payload
      | '4' => .ok (.socketError (asBytes payload).length)
      | code => .ok (.ignored "socket.io" (String.singleton code))

def decode (text : String) : Except Chain Packet :=
  match splitCode text with
  | none => bail "socket packet was empty or did not start with an ASCII packet code"
  | some (code, payload) =>
      match code with
      | '0' => decodeEngineOpen serde payload
      | '1' => .ok .engineClose
      | '2' => .ok .enginePing
      | '4' => decodeSocketio serde payload
      | code => .ok (.ignored "engine.io" (String.singleton code))

def messageIsJoined (payload : List Json) : Bool := payload.any fun value => value.asStr == some "joined"

/-- The text is a `message` event that contains `joined`. -/
def Joins (text : String) : Prop :=
  ∃ payload, decode serde text = .ok (.socketEvent "message" payload) ∧ messageIsJoined payload = true

/-- One of the texts joins the room. -/
def JoinedOn (received : List String) : Prop := ∃ text ∈ received, Joins serde text

end Decode

/-- What the URL and HTTP libraries do for `socket_request`. -/
structure UrlLibrary (Url : Type) where
  parse : String → Except String Url
  scheme : Url → String
  hostStr : Url → Option String
  port : Url → Option Nat
  setScheme : Url → String → Option Url
  setPath : Url → String → Url
  setQuery : Url → Option String → Url
  text : Url → String
  intoClientRequest : String → Except String Unit
  headerValue : String → Except String Unit

structure SocketRequest where
  url : String
  headers : List (String × String)
  deriving DecidableEq, Repr

def gatewayUserAgent : String := "ptchan-gateway/0.1.0"

section Request

variable {Url : Type} (urls : UrlLibrary Url)

/-- A library's error under the gateway's context. -/
def withContext {α : Type} (message : String) : Except String α → Except Chain α
  | .ok value => .ok value
  | .error err => .error [message, err]

def socketUrl (baseUrl : String) : Except Chain String := do
  let url ← withContext "parse ptchan base url for socket" (urls.parse baseUrl)
  let scheme ← match urls.scheme url with
    | "http" => .ok "ws"
    | "https" => .ok "wss"
    | other => bail ("unsupported ptchan socket scheme " ++ other)
  let url ← orBail "set ptchan socket scheme" (urls.setScheme url scheme)
  .ok (urls.text (urls.setQuery (urls.setPath url "/socket.io/") (some "EIO=4&transport=websocket")))

def socketOrigin (baseUrl : String) : Except Chain String := do
  let url ← withContext "parse ptchan base url for socket origin" (urls.parse baseUrl)
  let host ← orBail "ptchan base url must include a host" (urls.hostStr url)
  match urls.port url with
  | none => .ok (urls.scheme url ++ "://" ++ host)
  | some port => .ok (urls.scheme url ++ "://" ++ host ++ ":" ++ toString port)

def socketRequest {Jar : Type} (library : CookieLibrary Jar) (baseUrl : String) (cookie : SessionCookie Jar)
    (now : Int) : Except Chain SocketRequest := do
  let origin ← socketOrigin urls baseUrl
  let url ← socketUrl urls baseUrl
  withContext "build socket request" (urls.intoClientRequest url)
  withContext "build socket user-agent header" (urls.headerValue gatewayUserAgent)
  withContext "build socket origin header" (urls.headerValue origin)
  withContext "build socket cookie header" (urls.headerValue (cookie.get library now))
  .ok ⟨url, [("user-agent", gatewayUserAgent), ("origin", origin), ("cookie", cookie.get library now)]⟩

end Request

/-! ### One connection -/

structure ReceiveLiveness where
  lastInbound : Nat
  heartbeat : Option Heartbeat
  deriving DecidableEq, Repr

namespace ReceiveLiveness

def new (now : Nat) : ReceiveLiveness := ⟨now, none⟩

def observePacket (liveness : ReceiveLiveness) (now : Nat) : ReceiveLiveness := { liveness with lastInbound := now }

def setHeartbeat (liveness : ReceiveLiveness) (heartbeat : Heartbeat) : ReceiveLiveness :=
  { liveness with heartbeat := some heartbeat }

def allowedSilence (liveness : ReceiveLiveness) : Nat :=
  match liveness.heartbeat with
  | none => engineOpenTimeout
  | some heartbeat => heartbeat.pingInterval * 2 + heartbeat.pingTimeout + livenessGrace

def silence (liveness : ReceiveLiveness) (now : Nat) : Nat := now - liveness.lastInbound

def remaining (liveness : ReceiveLiveness) (now : Nat) : Nat := liveness.allowedSilence - liveness.silence now

end ReceiveLiveness

/-- A websocket message, in either direction. -/
inductive Message where
  | text (text : String)
  | binary (payload : Bytes)
  | ping (payload : Bytes)
  | pong (payload : Bytes)
  | close
  | frame

inductive SocketTextResult where
  | continue
  | engineOpened (heartbeat : Heartbeat)
  | roomJoinEmitted
  | closed

/-- The locals of `run_socket_once` once it is connected, and the texts received since. -/
structure Connection where
  joined : Bool
  liveness : ReceiveLiveness
  received : List String

def Connection.open (now : Nat) : Connection := ⟨false, .new now, []⟩

/-- Why the receive loop ends. -/
inductive LoopExit where
  | closed
  | livenessTimeout
  | authLost
  deriving DecidableEq, Repr

/-- The ways a connection attempt ends. -/
inductive Ending where
  | requestError
  | connectError
  | readError
  | sendError
  | left (exit : LoopExit)
  | refresh
  deriving DecidableEq, Repr

/-- Where `run_socket_once` stands. -/
inductive RunPoint where
  | requesting
  | connecting
  | checking (connection : Connection)
  | receiving (connection : Connection) (deadline : Nat)
  | silenced (connection : Connection)
  | joining (connection : Connection)
  | sending (connection : Connection) (message : Message) (purpose : String) (result : SocketTextResult)
  | ingesting (connection : Connection) (payload : List Json)
  | closing (connection : Connection) (exit : LoopExit)

/-- An attempt that is over, with its result. -/
structure Ended where
  ending : Ending
  received : List String
  result : Except Chain Bool

namespace RunPoint

/-- The connection, once it is open. -/
def connection? : RunPoint → Option Connection
  | .requesting | .connecting => none
  | .checking connection | .receiving connection _ | .silenced connection | .joining connection
  | .sending connection _ _ _ | .ingesting connection _ | .closing connection _ => some connection

def received (point : RunPoint) : List String := (point.connection?.map Connection.received).getD []

/-- The future is at an await. -/
def awaits : RunPoint → Bool
  | .connecting | .receiving _ _ | .sending _ _ _ _ | .ingesting _ _ | .closing _ _ => true
  | .requesting | .checking _ | .silenced _ | .joining _ => false

/-- The surrounding `select!` may drop the future here: at an await, or before it was polled. -/
def droppable : RunPoint → Bool
  | .requesting => true
  | point => point.awaits

end RunPoint

/-- What `handle_socket_event` goes on with. -/
def handleSocketEvent (connection : Connection) (event : String) (payload : List Json) : RunPoint :=
  if event = "message" then
    if messageIsJoined payload then .joining { connection with joined := true } else .checking connection
  else if event = "newPost" then .ingesting connection payload
  else .checking connection

/-- What `handle_socket_packet` goes on with. -/
def handleSocketPacket (connection : Connection) : Packet → RunPoint
  | .engineOpen heartbeat =>
      .sending connection (.text "40") "send socket namespace connect" (.engineOpened heartbeat)
  | .enginePing => .sending connection (.text "3") "send engine.io pong" .continue
  | .engineClose => .closing connection .closed
  | .socketConnected =>
      .sending connection (.text ("42[\"room\",\"" ++ room ++ "\"]")) "send socket room join" .roomJoinEmitted
  | .socketDisconnected _ => .closing connection .closed
  | .socketEvent name payload => handleSocketEvent connection name payload
  | .socketError _ => .checking connection
  | .ignored _ _ => .checking connection

def handleText (serde : Serde) (now : Nat) (connection : Connection) (text : String) : RunPoint :=
  let connection := { connection with received := text :: connection.received }
  match decode serde text with
  | .error _ => .checking connection
  | .ok packet => handleSocketPacket { connection with liveness := connection.liveness.observePacket now } packet

def handleMessage (serde : Serde) (now : Nat) (connection : Connection) : Message → RunPoint
  | .text text => handleText serde now connection text
  | .binary _ => .checking connection
  | .ping payload =>
      .sending { connection with liveness := connection.liveness.observePacket now } (.pong payload)
        "send websocket pong" .continue
  | .close => .closing connection .closed
  | .pong _ | .frame => .checking connection

/-- The text arm once `handle_socket_packet` has returned. -/
def finishText (connection : Connection) : SocketTextResult → RunPoint
  | .continue => .checking connection
  | .engineOpened heartbeat => .checking { connection with liveness := connection.liveness.setHeartbeat heartbeat }
  | .roomJoinEmitted => .checking connection
  | .closed => .closing connection .closed

/-- What lets the supervisor go on. -/
inductive Event where
  | proceed
  | request (now : Int)
  | connected (outcome : Except String Unit)
  | next (message : Option (Except String Message))
  | silence
  | sent (outcome : Except String Unit)
  | ingested
  | closed
  | elapsed
  | shutdownChanged

/-- Where a step of `run_socket_once` leads, and the flag it stores, if any. -/
inductive RunStep where
  | goto (point : RunPoint)
  | store (joined : Bool) (point : RunPoint)
  | exit (ended : Ended)

/-- What a task's step may use of the rest of the process. -/
structure Shared (Jar : Type) where
  authHealthy : Bool
  cookie : SessionCookie Jar
  shutdown : Bool
  clock : Nat

/-- The libraries and settings the two tasks run with. -/
structure Setup (Jar Url : Type) where
  serde : Serde
  cookies : CookieLibrary Jar
  urls : UrlLibrary Url
  statusText : Nat → String
  baseUrl : String

section Steps

variable {Jar Url : Type} (setup : Setup Jar Url)

/-- One step of `run_socket_once`. -/
def RunPoint.step (shared : Shared Jar) : RunPoint → Event → Option RunStep
  | .requesting, .request now =>
      match socketRequest setup.urls setup.cookies setup.baseUrl shared.cookie now with
      | .error err => some (.exit ⟨.requestError, [], .error err⟩)
      | .ok _ => some (.goto .connecting)
  | .connecting, .connected (.error err) => some (.exit ⟨.connectError, [], .error ["connect socket", err]⟩)
  | .connecting, .connected (.ok ()) => some (.goto (.checking (.open shared.clock)))
  | .checking connection, .proceed =>
      if shared.authHealthy then
        some (.goto (.receiving connection (shared.clock + connection.liveness.remaining shared.clock)))
      else some (.goto (.closing connection .authLost))
  | .receiving connection _, .next none => some (.goto (.closing connection .closed))
  | .receiving connection _, .next (some (.error err)) =>
      some (.exit ⟨.readError, connection.received, .error ["read socket message", err]⟩)
  | .receiving connection _, .next (some (.ok message)) =>
      some (.goto (handleMessage setup.serde shared.clock connection message))
  | .receiving connection deadline, .silence =>
      if deadline ≤ shared.clock then some (.goto (.silenced connection)) else none
  | .silenced connection, .proceed => some (.store false (.closing connection .livenessTimeout))
  | .joining connection, .proceed => some (.store true (.checking connection))
  | .sending connection _ _ result, .sent (.ok ()) => some (.goto (finishText connection result))
  | .sending connection _ purpose _, .sent (.error err) =>
      some (.exit ⟨.sendError, connection.received, .error [purpose, err]⟩)
  | .ingesting connection _, .ingested => some (.goto (.checking connection))
  | .closing connection exit, .closed => some (.exit ⟨.left exit, connection.received, .ok connection.joined⟩)
  | _, _ => none

/-- Where `supervise` stands. -/
inductive Point where
  | top
  | leaving
  | checkingAuth
  | unhealthy
  | authWait (wakeAt : Nat)
  | running (refreshAt : Nat) (point : RunPoint)
  | ended (ended : Ended)
  | backoff (wakeAt : Nat)
  | returned

/-- A past attempt and the sleep that followed it. -/
structure Attempt where
  ending : Ending
  received : List String
  sleep : Nat
  deriving DecidableEq, Repr

structure Task where
  point : Point
  delay : Nat
  attempts : List Attempt

def Task.start : Task := ⟨.top, reconnectMin, []⟩

/-- The delay after the result of an attempt. -/
def delayAfter (delay : Nat) : Except Chain Bool → Nat
  | .ok joined => if joined then reconnectMin else delay
  | .error _ => delay

/-- A step of the supervisor: its next state, and the flag it stores, if any. -/
structure Effect where
  task : Task
  upstreamJoined : Option Bool

/-- What a step inside `run_socket_once` makes of the supervisor. -/
def Task.enter (task : Task) (refreshAt : Nat) : RunStep → Effect
  | .goto point => ⟨{ task with point := .running refreshAt point }, none⟩
  | .store joined point => ⟨{ task with point := .running refreshAt point }, some joined⟩
  | .exit ended => ⟨{ task with point := .ended ended }, none⟩

/-- One step of `supervise`. Events the task does not wait for have no result. -/
def Task.step (shared : Shared Jar) (task : Task) : Event → Option Effect
  | .proceed =>
      match task.point with
      | .top => some ⟨{ task with point := if shared.shutdown then .leaving else .checkingAuth }, none⟩
      | .leaving => some ⟨{ task with point := .returned }, some false⟩
      | .checkingAuth =>
          if shared.authHealthy then
            some ⟨{ task with point := .running (shared.clock + socketRefreshInterval) .requesting }, none⟩
          else some ⟨{ task with point := .unhealthy }, none⟩
      | .unhealthy => some ⟨{ task with point := .authWait (shared.clock + reconnectMin) }, some false⟩
      | .running refreshAt point => (point.step setup shared .proceed).map (task.enter refreshAt)
      | .ended ended =>
          let delay := delayAfter task.delay ended.result
          some ⟨⟨.backoff (shared.clock + delay), delay, ⟨ended.ending, ended.received, delay⟩ :: task.attempts⟩,
            some false⟩
      | _ => none
  | .elapsed =>
      match task.point with
      | .authWait wakeAt => if wakeAt ≤ shared.clock then some ⟨{ task with point := .top }, none⟩ else none
      | .running refreshAt point =>
          if point.droppable ∧ refreshAt ≤ shared.clock then
            some ⟨{ task with point := .ended ⟨.refresh, point.received, .ok true⟩ }, none⟩
          else none
      | .backoff wakeAt =>
          if wakeAt ≤ shared.clock then
            some ⟨{ task with point := .top, delay := min (task.delay * 2) reconnectMax }, none⟩
          else none
      | _ => none
  | .shutdownChanged =>
      if shared.shutdown then
        match task.point with
        | .authWait _ => some ⟨{ task with point := .top }, none⟩
        | .running _ point => if point.droppable then some ⟨{ task with point := .leaving }, none⟩ else none
        | .backoff _ => some ⟨{ task with point := .top, delay := min (task.delay * 2) reconnectMax }, none⟩
        | _ => none
      else none
  | event =>
      match task.point with
      | .running refreshAt point => (point.step setup shared event).map (task.enter refreshAt)
      | _ => none

/-! ### The two tasks -/

structure System (Jar : Type) where
  status : Status
  cookie : SessionCookie Jar
  shutdown : Bool
  clock : Nat
  supervisor : Task
  refresher : Session.Task Jar

/-- The state `run` sets the tasks up in. -/
def System.init (upstreamRequired : Bool) (cookie : SessionCookie Jar) : System Jar where
  status := .new upstreamRequired
  cookie := cookie
  shutdown := false
  clock := 0
  supervisor := .start
  refresher := .start

def System.shared (s : System Jar) : Shared Jar := ⟨s.status.authHealthy, s.cookie, s.shutdown, s.clock⟩

inductive Action where
  | tick (elapsed : Nat)
  | shutdown
  | supervise (event : Event)
  | refresh (event : Session.Event)

/-- One step. The tasks exist only if the upstream is required. -/
def step (s : System Jar) : Action → Option (System Jar)
  | .tick elapsed => some { s with clock := s.clock + elapsed }
  | .shutdown => some { s with shutdown := true }
  | .supervise event =>
      if s.status.upstreamRequired then
        (s.supervisor.step setup s.shared event).map fun effect =>
          { s with
            supervisor := effect.task
            status := (effect.upstreamJoined.map s.status.setUpstreamJoined).getD s.status }
      else none
  | .refresh event =>
      if s.status.upstreamRequired then
        (s.refresher.step setup.cookies setup.serde setup.statusText setup.baseUrl s.shutdown s.clock s.cookie
          event).map fun effect =>
          { s with
            refresher := effect.task
            cookie := effect.cookie
            status := (effect.authHealthy.map s.status.setAuthHealthy).getD s.status }
      else none

end Steps

end Socket

end PtchanGateway
