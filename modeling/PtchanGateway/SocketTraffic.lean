import PtchanGateway.SocketSteps

/-!
What the gateway does about the messages of a connection (`run_socket_once`, `handle_socket_packet`). Every
message calls for one deed at most: an answer, an ingestion or the joined flag. In every run the deeds done on
a connection are those its messages call for, in their order and each once; only the last one may be
outstanding, and none is when the loop waits for the next message.
-/

namespace PtchanGateway

open JsonValue Config Session RunSystem

namespace Socket

inductive Deed where
  | sends (message : Message)
  | ingests (payload : List Json)
  | joins

/-- What a packet calls for. -/
def Packet.deeds : Packet → List Deed
  | .engineOpen _ => [.sends (.text "40")]
  | .enginePing => [.sends (.text "3")]
  | .socketConnected => [.sends (.text ("42[\"room\",\"" ++ room ++ "\"]"))]
  | .socketEvent name payload =>
      if name = "message" then if messageIsJoined payload then [.joins] else []
      else if name = "newPost" then [.ingests payload]
      else []
  | .engineClose | .socketDisconnected _ | .socketError _ | .ignored _ _ => []

def Message.deeds (serde : Serde) : Message → List Deed
  | .text content =>
      match decode serde content with
      | .ok packet => packet.deeds
      | .error _ => []
  | .ping payload => [.sends (.pong payload)]
  | .binary _ | .pong _ | .close | .frame => []

/-- What is under way. -/
def RunPoint.due : RunPoint → List Deed
  | .sending _ message _ _ => [.sends message]
  | .ingesting _ payload => [.ingests payload]
  | .joining _ => [.joins]
  | _ => []

theorem due_handleSocketPacket (connection : Connection) (packet : Packet) :
    (handleSocketPacket connection packet).due = packet.deeds := by
  cases packet with
  | socketEvent name payload =>
      rw [handleSocketPacket, handleSocketEvent, Packet.deeds]
      split_ifs <;> rfl
  | _ => rfl

theorem due_handleMessage (serde : Serde) (now : Nat) (connection : Connection) (message : Message) :
    (handleMessage serde now connection message).due = message.deeds serde := by
  cases message with
  | text text =>
      rw [handleMessage, handleText, Message.deeds]
      cases decode serde text with
      | error err => rfl
      | ok packet => exact due_handleSocketPacket _ packet
  | _ => rfl

theorem due_finishText (connection : Connection) (result : SocketTextResult) :
    (finishText connection result).due = [] := by
  rcases finishText_cases connection result with ⟨liveness, hafter⟩ | hafter
  · rw [hafter]
    rfl
  · rw [hafter]
    rfl

theorem length_due (point : RunPoint) : point.due.length ≤ 1 := by
  cases point <;> simp [RunPoint.due]

/-- The messages received on the present connection and what was done about them, in order. -/
structure Traffic where
  received : List Message
  done : List Deed

/-- How an event adds to the traffic. -/
def RunPoint.observe : RunPoint → Event → Traffic → Traffic
  | .connecting, .connected (.ok ()), _ => ⟨[], []⟩
  | .receiving _ _, .next (some (.ok message)), traffic =>
      { traffic with received := traffic.received ++ [message] }
  | .sending _ message _ _, .sent (.ok ()), traffic => { traffic with done := traffic.done ++ [.sends message] }
  | .ingesting _ payload, .ingested, traffic => { traffic with done := traffic.done ++ [.ingests payload] }
  | .joining _, .proceed, traffic => { traffic with done := traffic.done ++ [.joins] }
  | _, _, traffic => traffic

/-- What the messages received call for. -/
def Traffic.called (serde : Serde) (traffic : Traffic) : List Deed := traffic.received.flatMap (Message.deeds serde)

/-- What is done and what is under way is what the messages call for. -/
def RunPoint.Answers (serde : Serde) (point : RunPoint) (traffic : Traffic) : Prop :=
  point.connection?.isSome = true → traffic.done ++ point.due = traffic.called serde

/-- The point a step goes on at, if it does not leave. -/
def RunStep.next? : RunStep → Option RunPoint
  | .goto point | .store _ point => some point
  | .exit _ => none

section Steps

variable {Jar Url : Type} {setup : Setup Jar Url} {shared : Shared Jar}

theorem RunPoint.answers_step {point after : RunPoint} {event : Event} {result : RunStep} {traffic : Traffic}
    (h : point.step setup shared event = some result) (hafter : result.next? = some after)
    (hanswers : point.Answers setup.serde traffic) : after.Answers setup.serde (point.observe event traffic) := by
  unfold RunPoint.step at h
  split at h
  · split at h
    · cases h
      cases hafter
    · cases h
      cases hafter
      exact nofun
  · cases h
    cases hafter
  · cases h
    cases hafter
    exact fun _ => rfl
  · split_ifs at h
    · cases h
      cases hafter
      exact fun _ => hanswers rfl
    · cases h
      cases hafter
      exact fun _ => hanswers rfl
  · cases h
    cases hafter
    exact fun _ => hanswers rfl
  · cases h
    cases hafter
  · rename_i connection deadline message
    cases h
    cases hafter
    intro _
    have hdone : traffic.done ++ [] = traffic.called setup.serde := hanswers rfl
    rw [List.append_nil] at hdone
    simp only [RunPoint.observe, Traffic.called, due_handleMessage, List.flatMap_append, List.flatMap_singleton]
    rw [hdone, Traffic.called]
  · split_ifs at h
    cases h
    cases hafter
    exact fun _ => hanswers rfl
  · cases h
    cases hafter
    exact fun _ => hanswers rfl
  · cases h
    cases hafter
    intro _
    exact (List.append_nil _).trans (hanswers rfl)
  · rename_i connection message purpose result
    cases h
    cases hafter
    intro _
    rw [due_finishText]
    exact (List.append_nil _).trans (hanswers rfl)
  · cases h
    cases hafter
  · cases h
    cases hafter
    intro _
    exact (List.append_nil _).trans (hanswers rfl)
  · cases h
    cases hafter
  · cases h

/-- Traffic is added only on a connection that goes on. -/
theorem RunPoint.observe_cases {point : RunPoint} {event : Event} {result : RunStep} (traffic : Traffic)
    (h : point.step setup shared event = some result) :
    point.observe event traffic = traffic ∨ ∃ after, result.next? = some after ∧ after.connection?.isSome = true := by
  unfold RunPoint.step at h
  split at h
  · exact .inl rfl
  · exact .inl rfl
  · cases h
    exact .inr ⟨_, rfl, rfl⟩
  · split_ifs at h <;> exact .inl rfl
  · exact .inl rfl
  · exact .inl rfl
  · rename_i connection deadline message
    cases h
    refine .inr ⟨_, rfl, ?_⟩
    cases message with
    | text text =>
        obtain ⟨after, hconnection, -⟩ := connection?_handleText setup.serde shared.clock connection text
        rw [handleMessage, hconnection]
        rfl
    | _ => rfl
  · exact .inl rfl
  · exact .inl rfl
  · cases h
    exact .inr ⟨_, rfl, rfl⟩
  · rename_i connection message purpose result
    cases h
    refine .inr ⟨_, rfl, ?_⟩
    rcases finishText_cases connection result with ⟨liveness, hafter⟩ | hafter
    · rw [hafter]
      rfl
    · rw [hafter]
      rfl
  · exact .inl rfl
  · cases h
    exact .inr ⟨_, rfl, rfl⟩
  · exact .inl rfl
  · cases h

/-- Where a step of the supervisor that ends inside `run_socket_once` comes from. -/
theorem Task.running_cases {task : Task} {event : Event} {effect : Effect} {refreshAt : Nat} {after : RunPoint}
    (h : task.step setup shared event = some effect) (hafter : effect.task.point = .running refreshAt after) :
    (task.point = .checkingAuth ∧ after = .requesting) ∨
      ∃ point result, task.point = .running refreshAt point ∧ point.step setup shared event = some result ∧
        result.next? = some after := by
  have henter : ∀ refreshAt' point, task.point = .running refreshAt' point →
      (point.step setup shared event).map (task.enter refreshAt') = some effect →
      ∃ point result, task.point = .running refreshAt point ∧ point.step setup shared event = some result ∧
        result.next? = some after := by
    intro refreshAt' point hpoint hmap
    obtain ⟨result, hresult, heq⟩ := Option.map_eq_some_iff.mp hmap
    subst heq
    cases result with
    | goto next =>
        cases hafter
        exact ⟨point, _, hpoint, hresult, rfl⟩
    | store joined next =>
        cases hafter
        exact ⟨point, _, hpoint, hresult, rfl⟩
    | exit ended => cases hafter
  cases event with
  | proceed =>
      rw [Task.step] at h
      split at h
      · cases h
        dsimp only at hafter
        split_ifs at hafter
      · cases h
        cases hafter
      · rename_i hpoint
        split_ifs at h
        · cases h
          cases hafter
          exact .inl ⟨hpoint, rfl⟩
        · cases h
          cases hafter
      · cases h
        cases hafter
      · rename_i refreshAt' point hpoint
        exact .inr (henter refreshAt' point hpoint h)
      · cases h
        cases hafter
      · cases h
  | elapsed =>
      rw [Task.step] at h
      split at h
      · split_ifs at h
        cases h
        cases hafter
      · split_ifs at h
        cases h
        cases hafter
      · split_ifs at h
        cases h
        cases hafter
      · cases h
  | shutdownChanged =>
      rw [Task.step] at h
      split_ifs at h
      split at h
      · cases h
        cases hafter
      · split_ifs at h
        cases h
        cases hafter
      · cases h
        cases hafter
      · cases h
  | _ =>
      cases hpoint : task.point with
      | running refreshAt' point =>
          simp only [Task.step, hpoint] at h
          exact .inr (hpoint ▸ henter refreshAt' point hpoint h)
      | _ => simp [Task.step, hpoint] at h

end Steps

section Ingestions

variable {Jar Url : Type} {setup : Setup Jar Url} {shared : Shared Jar}

/-- An ingestion is due for a `newPost` event and for nothing else. -/
theorem Message.ingests_of_deeds {serde : Serde} {message : Message} {payload : List Json}
    (h : .ingests payload ∈ message.deeds serde) :
    ∃ content, message = .text content ∧ decode serde content = .ok (.socketEvent "newPost" payload) := by
  cases message with
  | text content =>
      rw [Message.deeds] at h
      split at h
      next packet hdecode =>
        cases packet with
        | socketEvent name values =>
            rw [Packet.deeds] at h
            split_ifs at h with _ _ hname
            · cases List.mem_singleton.mp h
            · cases h
            · cases List.mem_singleton.mp h
              exact ⟨content, rfl, by rw [hdecode, hname]⟩
            · cases h
        | engineOpen | enginePing | socketConnected => cases List.mem_singleton.mp h
        | _ => cases h
      next => cases h
  | ping payload => cases List.mem_singleton.mp h
  | _ => cases h

/-- A step that starts an ingestion has received its text. -/
theorem RunPoint.received_of_ingesting {point : RunPoint} {event : Event} {result : RunStep} {connection : Connection}
    {payload : List Json} (h : point.step setup shared event = some result)
    (hnext : result.next? = some (.ingesting connection payload)) :
    ∃ text, event = .next (some (.ok (.text text))) ∧
      decode setup.serde text = .ok (.socketEvent "newPost" payload) := by
  unfold RunPoint.step at h
  split at h
  · split at h <;> (cases h; cases hnext)
  · cases h
    cases hnext
  · cases h
    cases hnext
  · split_ifs at h <;> (cases h; cases hnext)
  · cases h
    cases hnext
  · cases h
    cases hnext
  · rename_i before deadline message
    cases h
    have hdue : RunPoint.due (.ingesting connection payload) = message.deeds setup.serde := by
      rw [← due_handleMessage setup.serde shared.clock before message, Option.some.inj hnext]
    have hmem : .ingests payload ∈ message.deeds setup.serde := by
      rw [← hdue]
      exact List.mem_singleton.mpr rfl
    obtain ⟨text, rfl, hdecode⟩ := Message.ingests_of_deeds hmem
    exact ⟨text, rfl, hdecode⟩
  · split_ifs at h
    cases h
    cases hnext
  · cases h
    cases hnext
  · cases h
    cases hnext
  · rename_i connection message purpose result
    cases h
    have hdue := due_finishText connection result
    rw [Option.some.inj hnext] at hdue
    cases hdue
  · cases h
    cases hnext
  · cases h
    cases hnext
  · cases h
    cases hnext
  · cases h

theorem received_of_ingesting {s s' : System Jar} {event : Event} {refreshAt : Nat} {connection : Connection}
    {payload : List Json} (h : step setup s (.supervise event) = some s')
    (hpoint : s'.supervisor.point = .running refreshAt (.ingesting connection payload)) :
    ∃ text, event = .next (some (.ok (.text text))) ∧
      decode setup.serde text = .ok (.socketEvent "newPost" payload) := by
  rw [Socket.step] at h
  split_ifs at h
  obtain ⟨effect, heffect, rfl⟩ := Option.map_eq_some_iff.mp h
  rcases Task.running_cases heffect hpoint with ⟨-, hrequesting⟩ | ⟨point, result, -, hresult, hnext⟩
  · cases hrequesting
  · exact RunPoint.received_of_ingesting hresult hnext

end Ingestions

/-! ### Runs -/

def Task.observe (task : Task) (event : Event) (traffic : Traffic) : Traffic :=
  match task.point with
  | .running _ point => point.observe event traffic
  | _ => traffic

/-- All deeds but perhaps the last are done, and on an open connection the last one is under way. -/
structure InOrder (serde : Serde) (task : Task) (traffic : Traffic) : Prop where
  missing : ∃ missing, traffic.done ++ missing = traffic.called serde ∧ missing.length ≤ 1
  answers : ∀ refreshAt point, task.point = .running refreshAt point → point.Answers serde traffic

section Runs

variable {Jar Url : Type} {setup : Setup Jar Url} {shared : Shared Jar}

/-- Events for the supervisor itself add nothing to the traffic. -/
theorem Task.observe_cases {task : Task} {event : Event} {effect : Effect} (traffic : Traffic)
    (h : task.step setup shared event = some effect) :
    task.observe event traffic = traffic ∨ ∃ refreshAt after,
      effect.task.point = .running refreshAt after ∧ after.connection?.isSome = true := by
  have henter : ∀ refreshAt point, task.point = .running refreshAt point →
      (point.step setup shared event).map (task.enter refreshAt) = some effect →
      point.observe event traffic = traffic ∨ ∃ refreshAt after,
        effect.task.point = .running refreshAt after ∧ after.connection?.isSome = true := by
    intro refreshAt point hpoint hmap
    obtain ⟨result, hresult, heq⟩ := Option.map_eq_some_iff.mp hmap
    subst heq
    rcases RunPoint.observe_cases traffic hresult with hsame | ⟨after, hafter, hopen⟩
    · exact .inl hsame
    · refine .inr ⟨refreshAt, after, ?_, hopen⟩
      cases result <;> cases hafter <;> rfl
  cases hpoint : task.point with
  | running refreshAt point =>
      simp only [Task.observe, hpoint]
      cases event with
      | elapsed => exact .inl (by cases point <;> rfl)
      | shutdownChanged => exact .inl (by cases point <;> rfl)
      | _ =>
          simp only [Task.step, hpoint] at h
          exact henter refreshAt point hpoint h
  | _ => exact .inl (by simp only [Task.observe, hpoint])

theorem InOrder.step {task : Task} {event : Event} {effect : Effect} {traffic : Traffic}
    (h : InOrder setup.serde task traffic) (hstep : task.step setup shared event = some effect) :
    InOrder setup.serde effect.task (task.observe event traffic) := by
  have hanswers : ∀ refreshAt after, effect.task.point = .running refreshAt after →
      after.Answers setup.serde (task.observe event traffic) := by
    intro refreshAt after hafter
    rcases Task.running_cases hstep hafter with ⟨-, rfl⟩ | ⟨point, result, hpoint, hresult, hnext⟩
    · exact nofun
    · rw [Task.observe, hpoint]
      exact RunPoint.answers_step hresult hnext (h.answers refreshAt point hpoint)
  refine ⟨?_, hanswers⟩
  rcases Task.observe_cases traffic hstep with hsame | ⟨refreshAt, after, hafter, hopen⟩
  · rw [hsame]
    exact h.missing
  · exact ⟨after.due, hanswers refreshAt after hafter hopen, length_due after⟩

/-- The system beside the traffic of its present connection. -/
def observedStep (setup : Setup Jar Url) (s : System Jar × Traffic) (a : Action) : Option (System Jar × Traffic) :=
  (step setup s.1 a).map fun s' =>
    (s', match a with
      | .supervise event => s.1.supervisor.observe event s.2
      | _ => s.2)

theorem InOrder.observed {s s' : System Jar × Traffic} {a : Action} (h : InOrder setup.serde s.1.supervisor s.2)
    (hstep : observedStep setup s a = some s') : InOrder setup.serde s'.1.supervisor s'.2 := by
  obtain ⟨after, hafter, rfl⟩ := Option.map_eq_some_iff.mp hstep
  cases a with
  | supervise event =>
      rw [Socket.step] at hafter
      split_ifs at hafter
      obtain ⟨effect, heffect, rfl⟩ := Option.map_eq_some_iff.mp hafter
      exact h.step heffect
  | refresh event =>
      rw [Socket.step] at hafter
      split_ifs at hafter
      obtain ⟨effect, heffect, rfl⟩ := Option.map_eq_some_iff.mp hafter
      exact h
  | _ =>
      cases hafter
      exact h

/-- In every run the deeds done on a connection are those its messages call for, in order and each once, but for
the last one at most; and none is outstanding when the loop waits for the next message. -/
theorem messages_are_answered_in_order {upstreamRequired : Bool} {cookie : SessionCookie Jar} {actions : List Action}
    {s : System Jar} {traffic : Traffic}
    (h : Path (observedStep setup) (fun _ _ => True) (.init upstreamRequired cookie, ⟨[], []⟩) actions (s, traffic)) :
    (∃ missing, traffic.done ++ missing = traffic.received.flatMap (Message.deeds setup.serde) ∧ missing.length ≤ 1) ∧
      ∀ refreshAt connection deadline, s.supervisor.point = .running refreshAt (.receiving connection deadline) →
        traffic.done = traffic.received.flatMap (Message.deeds setup.serde) := by
  have hinitial : InOrder setup.serde (System.init upstreamRequired cookie).supervisor ⟨[], []⟩ :=
    ⟨⟨[], rfl, Nat.zero_le 1⟩, nofun⟩
  have horder := h.invariant (fun t => InOrder setup.serde t.1.supervisor t.2)
    (fun _ _ _ horder _ hstep => horder.observed hstep) hinitial
  refine ⟨horder.missing, fun refreshAt connection deadline hpoint => ?_⟩
  exact (List.append_nil _).symm.trans (horder.answers refreshAt _ hpoint rfl)

end Runs

namespace Sample

/-- An engine ping is answered on an open connection. -/
def pinged : List Action :=
  [.supervise .proceed, .supervise (.next (some (.ok (.text "2")))), .supervise (.sent (.ok ())), .supervise .proceed]

def waits : Point → Bool
  | .running _ (.receiving _ _) => true
  | _ => false

theorem messages_are_answered_in_order_pinged :
    ∃ s traffic, Path (observedStep setup) (fun _ _ => True) (.init true cookie, ⟨[], []⟩)
        (refreshed ++ attempted (.ok ()) ++ pinged) (s, traffic) ∧
      waits s.supervisor.point = true ∧ traffic.done.length = 1 ∧
      traffic.done = traffic.received.flatMap (Message.deeds setup.serde) := by
  obtain ⟨⟨s, traffic⟩, hrun, hwaits, hlength⟩ :
      ∃ s, Path (observedStep setup) (fun _ _ => True) (.init true cookie, ⟨[], []⟩)
          (refreshed ++ attempted (.ok ()) ++ pinged) s ∧
        waits s.1.supervisor.point = true ∧ s.2.done.length = 1 := Path.exists_of_exec _ (by decide +kernel)
  have hanswered := (messages_are_answered_in_order hrun).2
  refine ⟨s, traffic, hrun, hwaits, hlength, ?_⟩
  cases hpoint : s.supervisor.point with
  | running refreshAt point =>
      cases point with
      | receiving connection deadline => exact hanswered refreshAt connection deadline hpoint
      | _ =>
          rw [hpoint] at hwaits
          cases hwaits
  | _ =>
      rw [hpoint] at hwaits
      cases hwaits

end Sample

end Socket

end PtchanGateway
