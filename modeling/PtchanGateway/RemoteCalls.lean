import PtchanGateway.Authorization
import PtchanGateway.SdkCalls

/-!
Calls of the Go client to the gateway, end to end. What the caller of `PostReply` or `ReadThread` gets back tells
what happened at the other end: the post that was made and where, the thread as it was served, or the gateway's
error as it was answered.
-/

namespace PtchanGateway

open TextRfc3339 TextRust TextDigits JsonValue JsonGo Config Upstream

namespace Sdk

theorem isAsciiDigit_of_isDigit {c : Char} (h : c.isDigit = true) : isAsciiDigit c = true := by
  rw [Char.isDigit, Bool.and_eq_true, decide_eq_true_eq, decide_eq_true_eq] at h
  rw [isAsciiDigit, Bool.and_eq_true, decide_eq_true_eq, decide_eq_true_eq]
  exact h

/-- A positive number is read back from its digits. -/
theorem parseI64_toString {n : Int64} (h : 0 < n.toInt) : parseI64 (toString n.toInt) = some n := by
  obtain ⟨k, hk⟩ := Int.eq_ofNat_of_zero_le (Int.le_of_lt h)
  have hhigh := n.toInt_lt
  have hdigits : ∀ c ∈ Nat.toDigits 10 k, c.isDigit = true :=
    fun c hc => Nat.isDigit_of_mem_toDigits (by decide) (by decide) hc
  have hvalue : Nat.ofDigitChars 10 (Nat.toDigits 10 k) 0 = k := Nat.ofDigitChars_ten_toDigits
  have hnonempty : (Nat.toDigits 10 k).isEmpty = false := List.isEmpty_eq_false_iff.mpr Nat.toDigits_ne_nil
  have hall : (Nat.toDigits 10 k).all isAsciiDigit = true :=
    List.all_eq_true.mpr fun c hc => isAsciiDigit_of_isDigit (hdigits c hc)
  have hrange : -2 ^ 63 ≤ (k : Int) ∧ (k : Int) < 2 ^ 63 := by omega
  have hsame : Int64.ofInt (k : Int) = n := by rw [← hk, Int64.ofInt_toInt]
  rw [parseI64, hk, toList_toString_natCast]
  split
  rename_i negative digits heq
  split at heq
  · rename_i rest hplus
    exact absurd (hdigits '+' (hplus ▸ List.mem_cons_self)) (by decide)
  · rename_i rest hminus
    exact absurd (hdigits '-' (hminus ▸ List.mem_cons_self)) (by decide)
  · cases heq
    simp only [hvalue, hnonempty, hall, Bool.not_true, Bool.or_false, Bool.false_eq_true, if_false, if_pos hrange,
      hsame]

theorem board_ne_empty {ref : ThreadRef} (h : ref.validate = .ok ()) : ref.board ≠ "" ∧ 0 < ref.threadId.toInt := by
  unfold ThreadRef.validate at h
  split at h
  · cases h
  · rename_i hvalid
    rw [Bool.or_eq_true, not_or, decide_eq_true_eq, Int.not_le] at hvalid
    refine ⟨?_, hvalid.2⟩
    intro hempty
    rw [hempty] at hvalid
    exact hvalid.1 (by decide)

/-- How the framework reads the body of a request: whole, or not, and then it blames the client. -/
structure BodyReader where
  read : Bytes → Except Nat Bytes
  whole : ∀ {body bytes}, read body = .ok bytes → bytes = body
  blames : ∀ {body status}, read body = .error status → isClientError status = true

/-- A gateway at the moment a request arrives; `page` is what the framework writes for a rejection. -/
structure Server (Cell : Type) where
  lib : Libraries Cell
  state : AppState Cell
  now : Instant
  times : Nat × Nat
  bodies : BodyReader
  page : Nat → Bytes

section Servers

variable {Cell : Type} (server : Server Cell)

/-- A request as it arrives, with what is read of its body. -/
def Server.arrived (sent : SentRequest) : Request :=
  { received sent with body := server.bodies.read (sent.body.getD []) }

/-- A request that arrived on its route. -/
def Server.handled (route : Route) (sent : SentRequest) : Handled Cell :=
  handle server.lib server.state ⟨route, server.arrived sent, server.now, server.times⟩

def Server.answer (route : Route) (sent : SentRequest) : HttpAnswer :=
  (server.handled route sent).response.answer server.lib.serde.codec server.page

/-- The transport to the gateway, which brings every answer whole. -/
def Server.exchange (route : Route) (sent : SentRequest) : Except String (Nat × ArrivingBody) :=
  .ok ((server.answer route sent).status, ⟨(server.answer route sent).body, none⟩)

end Servers

/-! ### Replies -/

section Replies

variable {Cell : Type} {lib : Libraries Cell} {state : AppState Cell} {config : Config}

theorem error_of_authenticate {α : Type} {mac : Bytes → Bytes → Bytes} {entries : String → Option α}
    {secret : α → String} {now : Instant} {request : Request} {body : Option Bytes} {response : Response}
    (h : authenticate mac entries secret now request body = .error response) :
    ∃ status refused, response = .error status refused := by
  rcases authenticate_cases mac entries secret now request body with hfailed | ⟨entry, hfound⟩
  · cases hfailed.symm.trans h
    exact ⟨_, _, rfl⟩
  · cases hfound.symm.trans h

end Replies

section Reports

variable {Cell : Type} (server : Server Cell) (config : Config) (connection : Connection)

/-- A retry is advised only where ptchan was not asked or refused. -/
def RefusedBeforehand (handled : Handled Cell) (body : ErrorBody) : Prop :=
  body.retryable = true → ∀ submitted, handled.sent = some submitted →
    ∃ status text, server.lib.client.send submitted = .answered status text ∧ isSuccess status = false

/-- A post that ptchan made of a reply of this client. -/
structure Posted (ref : ThreadRef) (message : String) (sage : Bool) (handled : Handled Cell)
    (posting : PostingConfig) (made : PtchanGateway.ReplyResponse) : Prop where
  configured : posting ∈ config.postings
  named : posting.name = connection.client.credentials.name
  submitted : handled.sent = some (replyRequest config.ptchan.baseUrl posting ref.board ref.threadId ⟨message, sage⟩)
  created : ∃ status text, isSuccess status = true ∧ server.lib.client.createdPost text = .ok (some made.postId) ∧
    server.lib.client.send (replyRequest config.ptchan.baseUrl posting ref.board ref.threadId ⟨message, sage⟩) =
      .answered status (.ok text)
  coordinates : made = ⟨ref.board, ref.threadId, made.postId,
    threadUrl config.ptchan.baseUrl ref.board ref.threadId ++ "#" ++ toString made.postId.toInt,
    ⟨.integration, posting.name⟩⟩

/-- What the caller of `PostReply` gets, and what it says of the other end. -/
inductive Reported (ref : ThreadRef) (message : String) (sage : Bool) (handled : Handled Cell) :
    Except CallError ReplyResponse → Prop
  | tooLarge
      (h : connection.maxResponseBytes.toInt <
        (handled.response.answer server.lib.serde.codec server.page).body.length) :
      Reported ref message sage handled (.error .responseTooLarge)
  | refused {status : Nat} {body : ErrorBody} (h : handled.response = .error status body)
      (hretry : RefusedBeforehand server handled body) :
      Reported ref message sage handled (.error (.gateway (heldError status body)))
  | posted {posting : PostingConfig} {made : PtchanGateway.ReplyResponse}
      (h : Posted server config connection ref message sage handled posting made) (hnumber : 0 < made.postId.toInt) :
      Reported ref message sage handled (.ok (heldReply made))
  | unnumbered {posting : PostingConfig} {made : PtchanGateway.ReplyResponse}
      (h : Posted server config connection ref message sage handled posting made) (hnumber : made.postId.toInt ≤ 0) :
      Reported ref message sage handled (.error (.failed
        "ptchan gateway: invalid reply response: board, thread_id, post_id, and url are required"))

variable {server config connection} {ref : ThreadRef} {message : String} {sage : Bool}

theorem isSuccess_of_isClientError {status : Nat} (h : isClientError status = true) : isSuccess status = false := by
  rw [isClientError, Bool.and_eq_true, decide_eq_true_eq, decide_eq_true_eq] at h
  simp only [isSuccess, Bool.and_eq_false_iff, decide_eq_false_iff_not]
  omega

/-- An error of the gateway has a status that is no success. -/
theorem isSuccess_of_expected {lib : Libraries Cell} {call : Call} {status : Nat} {body : ErrorBody}
    (h : Expected lib call (.error status body))
    (hbody : ∀ status, call.request.body = .error status → isClientError status = true) :
    isSuccess status = false := by
  cases h with
  | documented hmem =>
      cases hroute : call.route with
      | thread =>
          rw [hroute] at hmem
          revert status
          decide
      | reply =>
          rw [hroute] at hmem
          revert status
          decide
  | unread _ hunread => exact isSuccess_of_isClientError (hbody status hunread)
  | upstream _ _ hclient _ => exact isSuccess_of_isClientError hclient

/-- An error of the gateway that is read whole reaches the caller as it was answered. -/
theorem decodeResponse_of_refused {α : Type} (hlib : PtchanGateway.Documented server.lib) (fault : Bytes → String)
    (decode : Json → Option α) (zero : α) {route : Route} {sent : SentRequest} {status : Nat} {body : ErrorBody}
    (hresponse : (server.handled route sent).response = .error status body) :
    decodeResponse fault decode zero (server.answer route sent).status (server.answer route sent).body =
      .error (.gateway (heldError status body)) := by
  have hanswers := answers_handle hlib server.state ⟨route, server.arrived sent, server.now, server.times⟩
  have hregular := hanswers.regular
  have hexpected := hanswers.expected
  change (server.handled route sent).response.Regular at hregular
  change Expected server.lib _ (server.handled route sent).response at hexpected
  rw [hresponse] at hregular hexpected
  have hanswer : server.answer route sent = ⟨status, server.lib.serde.codec.write body.envelope⟩ := by
    rw [Server.answer, hresponse]
    rfl
  rw [hanswer]
  apply decodeResponse_error hlib.serde
  · exact isSuccess_of_expected hexpected fun _ => server.bodies.blames
  · exact hregular

end Reports

end Sdk

namespace Sample

/-- A framework that takes bodies of up to two mebibytes. -/
def boundedBodies : Sdk.BodyReader where
  read body := if body.length ≤ 2 ^ 21 then .ok body else .error 413
  whole {body bytes} h := by
    by_cases hshort : body.length ≤ 2 ^ 21
    · rw [if_pos hshort] at h
      cases h
      rfl
    · rw [if_neg hshort] at h
      cases h
  blames {body status} h := by
    by_cases hshort : body.length ≤ 2 ^ 21
    · rw [if_pos hshort] at h
      cases h
    · rw [if_neg hshort] at h
      cases h
      rfl

def bridgeServer : Sdk.Server Nat := ⟨libraries, bridgeState, observedAt, (0, 0), boundedBodies, fun _ => []⟩

def bridgeConnection : Sdk.Connection where
  client := sdkClient
  maxResponseBytes := 2 ^ 20
  positive := by decide
  exchange := bridgeServer.exchange .reply
  fault := fun _ => "invalid value"

end Sample

namespace Sdk

/-! ### Threads -/

section Threads

variable {Cell : Type} {lib : Libraries Cell} {state : AppState Cell}

theorem error_of_check {integration board : String} {threadId : Int64} {query : Option (Option UInt64)}
    {response : Response} (h : PreparedRead.check integration board threadId query = .error response) :
    ∃ status refused, response = .error status refused := by
  unfold PreparedRead.check at h
  split at h
  · cases h
    exact ⟨_, _, rfl⟩
  · split at h
    · cases h
      exact ⟨_, _, rfl⟩
    · split at h
      · cases h
        exact ⟨_, _, rfl⟩
      · cases h

theorem error_of_new {times : Nat × Nat} {board text : String} {query : Option (Option UInt64)}
    {integration : IntegrationConfig} {response : Response}
    (h : (PreparedRead.new lib state times board text query integration).result = .error response) :
    ∃ status refused, response = .error status refused := by
  simp only [PreparedRead.new] at h
  split at h
  · cases h
    exact ⟨_, _, rfl⟩
  · split at h
    · cases h
      exact ⟨_, _, rfl⟩
    · split at h
      · cases h
        exact ⟨_, _, rfl⟩
      · exact error_of_check h

theorem limit_of_check {integration board : String} {threadId : Int64} {asked : Option UInt64} {read : PreparedRead}
    (h : PreparedRead.check integration board threadId (some asked) = .ok read) :
    read.limit = (asked.map UInt64.toNat).getD defaultThreadLimit := by
  unfold PreparedRead.check at h
  split at h
  · cases h
  · split at h
    · cases h
    · cases h
      rfl

/-- A thread that was fetched for an answer. -/
structure Fetched (lib : Libraries Cell) (state : AppState Cell) (baseUrl board : String) (threadId : Int64)
    (asked : Option UInt64) (handled : Handled Cell) (original : PtchanGateway.Thread) : Prop where
  answered : handled.response = .thread (state.origins.annotateThread original)
  submitted : handled.sent = some (threadRequest baseUrl board threadId)
  fetched : (ThreadReader.fetchThread ⟨baseUrl⟩ lib.serde lib.client board threadId
    ((asked.map UInt64.toNat).getD defaultThreadLimit)).2 = .ok (some original)

/-- A request to a captured path is refused, or the thread is fetched with the limit of its query. -/
theorem integrationThread_cases (lib : Libraries Cell) (state : AppState Cell) (now : Instant) (times : Nat × Nat)
    {request : Request} {board text : String} {asked : Option UInt64}
    (hpath : lib.extract.path request.uri = .ok (board, text))
    (hlimit : lib.extract.limit request.uri = some asked) :
    let handled := integrationThread lib state now times request
    (∃ status refused, handled.response = .error status refused) ∨
      ∃ original, Fetched lib state state.threadReader.baseUrl board ((parseI64 text).getD 0) asked
        handled original := by
  intro handled
  simp only [handled, integrationThread, hpath, hlimit]
  split
  · rename_i response hrefused
    exact .inl (error_of_authenticate hrefused)
  · rename_i integration hverified
    cases hprepared : (PreparedRead.new lib state times board text (some asked) integration).result with
    | error response => exact .inl (error_of_new hprepared)
    | ok read =>
        obtain ⟨-, -, -, -, hchecked⟩ := PreparedRead.new_eq_ok lib hprepared
        obtain ⟨hboard, hpositive, hreadBoard, hreadId⟩ := PreparedRead.check_eq_ok hchecked
        have hsent : (PreparedRead.fetch lib state read).1 = some (threadRequest state.threadReader.baseUrl board
            ((parseI64 text).getD 0)) := by
          rw [PreparedRead.sent_fetch lib (hreadBoard ▸ hboard) (hreadId ▸ hpositive), hreadBoard, hreadId]
        have hread := limit_of_check hchecked
        dsimp only
        cases hfound : (state.threadReader.fetchThread lib.serde lib.client read.board read.threadId read.limit).2 with
        | error err => exact .inl ⟨502, _, by simp only [PreparedRead.fetch, hfound]; rfl⟩
        | ok found =>
            cases found with
            | none => exact .inl ⟨404, _, by simp only [PreparedRead.fetch, hfound]; rfl⟩
            | some original =>
                refine .inr ⟨original, by simp only [PreparedRead.fetch, hfound], hsent, ?_⟩
                rw [← hreadBoard, ← hreadId, ← hread]
                exact hfound

/-- What the client demands of a thread that was served for its request. -/
def Taken (ref : ThreadRef) (found : PtchanGateway.Thread) : Prop :=
  (∀ post ∈ found.posts, CompletePost post ∧ ⟨post.board, post.threadId⟩ = ref) ∧
    found.posts.Pairwise fun earlier later => InOrder earlier.date later.date

/-- A thread as the client holds it. -/
def heldThread (found : PtchanGateway.Thread) : Thread :=
  ⟨found.board, found.id, some (found.posts.map heldPost), found.truncated⟩

theorem heldThread_of_decodeThread {found : PtchanGateway.Thread} {held : Thread}
    (hregular : ∀ post ∈ found.posts, post.date.Regular) (h : decodeThread (sorted found.toJson) = some held) :
    held = heldThread found := by
  rw [decodeThread_toJson] at h
  obtain ⟨posts, hposts, rfl⟩ := Option.map_eq_some_iff.1 h
  obtain ⟨-, rfl⟩ := (decodePosts_eq_some hregular).1 hposts
  rfl

end Threads

section Reads

variable {Cell : Type} (server : Server Cell) (config : Config) (connection : Connection)

/-- The limit that a query gives. -/
def askedLimit (limit : Int64) : Option UInt64 :=
  if 0 < limit.toInt then some (UInt64.ofNat limit.toInt.toNat) else none

/-- What the caller of `ReadThread` gets, and what it says of the other end. -/
inductive Read (ref : ThreadRef) (limit : Int64) (handled : Handled Cell) : Except CallError Thread → Prop
  | tooLarge
      (h : connection.maxResponseBytes.toInt <
        (handled.response.answer server.lib.serde.codec server.page).body.length) :
      Read ref limit handled (.error .responseTooLarge)
  | refused {status : Nat} {body : ErrorBody} (h : handled.response = .error status body) :
      Read ref limit handled (.error (.gateway (heldError status body)))
  | taken {original : PtchanGateway.Thread}
      (h : Fetched server.lib server.state config.ptchan.baseUrl ref.board ref.threadId
        (askedLimit limit) handled original)
      (htaken : Taken ref (server.state.origins.annotateThread original)) :
      Read ref limit handled (.ok (heldThread (server.state.origins.annotateThread original)))
  | untaken {original : PtchanGateway.Thread} {message : String}
      (h : Fetched server.lib server.state config.ptchan.baseUrl ref.board ref.threadId
        (askedLimit limit) handled original)
      (huntaken : ¬Taken ref (server.state.origins.annotateThread original)) :
      Read ref limit handled (.error (.failed message))

/-- The request of `ReadThread`. -/
def Client.readSent (mac : Bytes → Bytes → Bytes) (client : Client) (ref : ThreadRef) (limit : Int64) : SentRequest :=
  client.do mac "GET" (readPath ref limit) none

variable {server config connection} {ref : ThreadRef} {limit : Int64}

/-- What `ReadThread` returns is the thread as it was served, post by post, or the gateway's error as it was answered.
A thread that is too long is lost, and one that is not as promised is refused. -/
theorem threads_are_read (hlib : PtchanGateway.Documented server.lib)
    (hserves : Serves server.lib config server.state) (hexchange : connection.exchange = server.exchange .thread)
    (hbounded : connection.maxResponseBytes.toInt < 2 ^ 63 - 1)
    (href : ref.validate = .ok ())
    (hpath : server.lib.extract.path (server.arrived (connection.client.readSent server.lib.mac ref limit)).uri =
      .ok (ref.board, toString ref.threadId.toInt))
    (hlimit : server.lib.extract.limit (server.arrived (connection.client.readSent server.lib.mac ref limit)).uri =
      some (askedLimit limit)) :
    Read server config connection ref limit
      (server.handled .thread (connection.client.readSent server.lib.mac ref limit))
      (connection.readThread server.lib.mac ref limit) := by
  let sent := connection.client.readSent server.lib.mac ref limit
  obtain ⟨hboard, hpositive⟩ := board_ne_empty href
  have hid : (parseI64 (toString ref.threadId.toInt)).getD 0 = ref.threadId := by
    rw [parseI64_toString hpositive, Option.getD_some]
  have hcall : connection.client.readThread server.lib.mac ref limit = .ok sent := by
    rw [Client.readThread, href]
    rfl
  have hregular := (answers_handle hlib server.state ⟨.thread, server.arrived sent, server.now, server.times⟩).regular
  change (server.handled .thread sent).response.Regular at hregular
  have hcases := integrationThread_cases server.lib server.state server.now server.times hpath hlimit
  rw [hid, hserves.built.threadReader] at hcases
  rw [Connection.readThread, hcall, hexchange]
  dsimp only
  rw [Server.exchange, receive_whole _ _ _ _ _ connection.positive hbounded]
  by_cases hlong : connection.maxResponseBytes.toInt < (server.answer .thread sent).body.length
  · rw [if_pos hlong]
    exact .tooLarge hlong
  · rw [if_neg hlong]
    rcases hcases with ⟨status, body, hresponse⟩ | ⟨original, hfetched⟩
    · change (server.handled .thread sent).response = .error status body at hresponse
      rw [decodeResponse_of_refused hlib _ _ _ hresponse]
      exact .refused hresponse
    · let found := server.state.origins.annotateThread original
      have hresponse : (server.handled .thread sent).response = .thread found := hfetched.answered
      have hanswer : server.answer .thread sent = ⟨200, server.lib.serde.codec.write found.toJson⟩ := by
        rw [Server.answer, hresponse]
        rfl
      rw [hresponse] at hregular
      rw [hanswer, decodeResponse_success hlib.serde _ _ _ (thread_safe found) (by decide)]
      have htakes : (∃ held, decodeThread (sorted found.toJson) = some held ∧ validateThread held ref = .ok ()) ↔
          Taken ref found := by
        obtain ⟨value, hread⟩ := threadFromValue_of_fetch _ _ _ _ hfetched.fetched
        obtain ⟨hplace, hnumber, -⟩ := madeFrom_of_thread hread
        have hfront : found.board ≠ "" ∧ 0 < found.id.toInt ∧ (⟨found.board, found.id⟩ : ThreadRef) = ref := by
          change original.board ≠ "" ∧ 0 < original.id.toInt ∧ (⟨original.board, original.id⟩ : ThreadRef) = ref
          rw [hplace, hnumber]
          exact ⟨hboard, hpositive, rfl⟩
        exact (takesThread_iff hregular).trans (and_iff_right hfront)
      cases hdecode : decodeThread (sorted found.toJson) with
      | none =>
          refine .untaken hfetched fun htaken => ?_
          obtain ⟨held, hheld, -⟩ := htakes.mpr htaken
          cases hdecode.symm.trans hheld
      | some held =>
          have hheld := heldThread_of_decodeThread hregular hdecode
          dsimp only
          cases hvalid : validateThread held ref with
          | error err =>
              refine .untaken hfetched fun htaken => ?_
              obtain ⟨other, hother, hok⟩ := htakes.mpr htaken
              cases hdecode.symm.trans hother
              cases hvalid.symm.trans hok
          | ok _ =>
              dsimp only
              rw [hheld]
              exact .taken hfetched (htakes.mp ⟨held, hdecode, hvalid⟩)

end Reads

end Sdk

namespace Sample

def threadText : String := "\x7b\"board\":\"i\",\"date\":\"2026-07-19T12:00:00Z\",\"postId\":42,\"replies\":[]\x7d"

/-- The gateway over a ptchan that has the thread. -/
def readerServer : Sdk.Server Nat where
  lib := { libraries with client := { client with send := fun _ => .answered 200 (.ok threadText) } }
  state := readerState
  now := observedAt
  times := (0, 0)
  bodies := boundedBodies
  page := fun _ => []

def readerConnection : Sdk.Connection :=
  { bridgeConnection with exchange := readerServer.exchange .thread }

theorem threads_are_read_taken :
    (readerConnection.readThread replyMac ⟨"i", 42⟩ 0).toOption.map (fun thread => thread.threadRef) =
        some ⟨"i", 42⟩ ∧
      Sdk.Read readerServer readerConfig readerConnection ⟨"i", 42⟩ 0
        (readerServer.handled .thread (sdkClient.readSent replyMac ⟨"i", 42⟩ 0))
        (readerConnection.readThread replyMac ⟨"i", 42⟩ 0) := by
  have htaken : (readerConnection.readThread replyMac ⟨"i", 42⟩ 0).toOption.map (fun thread => thread.threadRef) =
      some ⟨"i", 42⟩ := by decide +kernel
  have hdocumented : Documented readerServer.lib := by
    refine ⟨documented, fun sent status body h => ?_⟩
    cases h
    decide
  have hserves : Serves readerServer.lib readerConfig readerServer.state := .spawned rfl
  exact ⟨htaken, Sdk.threads_are_read hdocumented hserves rfl (by decide) (by decide) rfl rfl⟩

end Sample

end PtchanGateway
