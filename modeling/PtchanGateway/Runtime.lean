import PtchanGateway.Ingest
import PtchanGateway.Ptchan
import PtchanGateway.RateLimit

/-!
The signed HTTP routes (`runtime/auth.rs`, `runtime/threads.rs`, `runtime/replies.rs`). Handling a request
gives its response, the limiters after it, the checks of buckets it made and the request to ptchan it sent,
if any. The framework's extractors are parameters: the two path captures, the limit in the query, the reply
in a body; so are the MAC, the buckets and the HTTP client.
-/

namespace PtchanGateway

open TextRfc3339 TextRust JsonValue Config Upstream

structure Uri where
  path : String
  pathAndQuery : Option String
  deriving DecidableEq, Repr

/-- What is signed of the target. -/
def Uri.target (uri : Uri) : String := uri.pathAndQuery.getD uri.path

/-- A request; reading its body may be refused with a status. -/
structure Request where
  method : String
  uri : Uri
  headers : List (String × Bytes)
  body : Except Nat Bytes

/-- The extractors of the framework. -/
structure Extractors where
  path : Uri → Except Nat (String × String)
  limit : Uri → Option (Option UInt64)
  replyRequest : Bytes → Option ReplyRequest

inductive Response where
  | rejection (status : Nat)
  | error (status : Nat) (body : ErrorBody)
  | thread (thread : Thread)
  | reply (response : ReplyResponse)
  deriving DecidableEq, Repr

def apiError (status : Nat) (code : ErrorCode) (message : String) : Response :=
  .error status ⟨code, message, code.retryable, none⟩

def gatewayRateLimitedError : Response := apiError 429 .rateLimited "gateway rate limit exceeded"

def postingStatusForUpstream (status : Nat) : Nat := if isClientError status then status else 502

def authError : Response := apiError 401 .unauthorized "request authentication failed"

/-- The text of a header value of visible ASCII. -/
def headerText (value : Bytes) : Option String :=
  if value.all fun byte => (32 ≤ byte && byte < 127) || byte == 9 then
    some (String.ofList (value.map Char.ofUInt8))
  else none

def header (headers : List (String × Bytes)) (name : String) : Option String :=
  (headers.find? fun entry => entry.1 == name).bind fun entry => headerText entry.2

def requestMaxSkewSeconds : Nat := 5 * 60

/-- The bytes a request signature covers. -/
def signedBytes (timestamp method target : String) (body : Option Bytes) : Bytes :=
  asBytes timestamp ++ [46] ++ asBytes method ++ [46] ++ asBytes target ++
    match body with
    | some body => 46 :: body
    | none => []

section Auth

variable (mac : Bytes → Bytes → Bytes)

def verifyRequestSignature (secret timestamp method : String) (uri : Uri) (body : Option Bytes)
    (signature : String) : Except Chain Unit := do
  let provided ← orBail "x-ptchan-signature must use hmac-sha256"
    (stripStart "hmac-sha256=".toList signature.toList)
  let provided ← orBail "x-ptchan-signature is not hex" (hexDecode provided)
  ensure (provided == mac (asBytes secret) (signedBytes timestamp method uri.target body))
    "x-ptchan-signature mismatch"

/-- The skew is counted in whole seconds. -/
def verifyRequestHeaders (now : Instant) (secret : String) (request : Request) (body : Option Bytes) :
    Except Chain Unit := do
  let timestamp ← orBail "missing x-ptchan-timestamp" (header request.headers "x-ptchan-timestamp")
  let parsedTimestamp ← orBail "x-ptchan-timestamp must be RFC3339" (parseRfc3339 timestamp)
  let skew := (now.moment.signedDurationSince parsedTimestamp).natAbs / 10 ^ 9
  ensure (skew ≤ requestMaxSkewSeconds) "x-ptchan-timestamp is outside allowed skew"
  let signature ← orBail "missing x-ptchan-signature" (header request.headers "x-ptchan-signature")
  verifyRequestSignature mac secret timestamp request.method request.uri body signature

/-- The entry a request names, if its secret verifies the request. -/
def authenticate {α : Type} (entries : String → Option α) (secret : α → String) (now : Instant) (request : Request)
    (body : Option Bytes) : Except Response α :=
  match (header request.headers "x-ptchan-integration").bind entries with
  | none => .error authError
  | some entry =>
      match verifyRequestHeaders mac now (secret entry) request body with
      | .error _ => .error authError
      | .ok () => .ok entry

end Auth

structure AppState (Cell : Type) where
  threadReader : ThreadReader
  postWriter : PostWriter
  integrations : String → Option IntegrationConfig
  postings : String → Option PostingConfig
  origins : OriginMatcher
  rateLimiters : RateLimiters Cell

/-- The libraries a route uses. -/
structure Libraries (Cell : Type) where
  serde : Serde
  mac : Bytes → Bytes → Bytes
  governor : Governor Cell
  extract : Extractors
  client : Client

variable {Cell : Type} (lib : Libraries Cell)

/-- The state `spawn_http` serves. -/
def AppState.new (config : Config) : Except Chain (AppState Cell) := do
  let rateLimiters ← RateLimiters.new lib.governor config.integrations config.runtime.rateLimit
  .ok {
    threadReader := ⟨config.ptchan.baseUrl⟩
    postWriter := ⟨config.ptchan.baseUrl⟩
    integrations := collectBy IntegrationConfig.name config.integrations
    postings := collectBy PostingConfig.name config.postings
    origins := .new config.postings
    rateLimiters := rateLimiters }

/-- What the extraction of a request gave, with the limiters after it and the checks it made. -/
structure Guarded (Cell α : Type) where
  result : Except Response α
  limiters : RateLimiters Cell
  checks : List Check

/-- A handled request. -/
structure Handled (Cell : Type) where
  response : Response
  limiters : RateLimiters Cell
  checks : List Check
  sent : Option UpstreamRequest

def AppState.refuse {α : Type} (state : AppState Cell) (response : Response) : Guarded Cell α :=
  ⟨.error response, state.rateLimiters, []⟩

def verifiedReading (state : AppState Cell) (now : Instant) (request : Request) :
    Except Response IntegrationConfig :=
  authenticate lib.mac state.integrations IntegrationConfig.secret now request none

structure PreparedRead where
  integration : String
  board : String
  threadId : Int64
  limit : Nat

/-- The checks on the captures and the query that follow the limiters. -/
def PreparedRead.check (integration board : String) (threadId : Int64) (query : Option (Option UInt64)) :
    Except Response PreparedRead :=
  if !validBoardName board then .error (apiError 400 .invalidBoard "board is invalid")
  else if threadId.toInt ≤ 0 then .error (apiError 400 .invalidThreadId "thread_id must be positive")
  else
    match query with
    | none => .error (apiError 400 .invalidQuery "query parameters are invalid")
    | some limit => .ok ⟨integration, board, threadId, (limit.map UInt64.toNat).getD defaultThreadLimit⟩

def PreparedRead.new (state : AppState Cell) (times : Nat × Nat) (board threadId : String)
    (query : Option (Option UInt64)) (integration : IntegrationConfig) : Guarded Cell PreparedRead :=
  let threadId := (parseI64 threadId).getD 0
  if !integration.reading then
    state.refuse (apiError 403 .capabilityNotEnabled "integration does not have the reading capability")
  else if !integration.boardAllowed board then
    state.refuse (apiError 403 .boardNotAllowed "integration is not allowed to read this board")
  else
    let checked := state.rateLimiters.check lib.governor integration.name .reading times
    match checked.result with
    | .error _ => ⟨.error gatewayRateLimitedError, checked.limiters, checked.checks⟩
    | .ok () => ⟨PreparedRead.check integration.name board threadId query, checked.limiters, checked.checks⟩

def PreparedRead.fetch (state : AppState Cell) (read : PreparedRead) : Option UpstreamRequest × Response :=
  let (sent, result) := state.threadReader.fetchThread lib.serde lib.client read.board read.threadId read.limit
  (sent, match result with
    | .ok (some thread) => .thread (state.origins.annotateThread thread)
    | .ok none => apiError 404 .threadNotFound "thread was not found"
    | .error _ => apiError 502 .upstreamUnavailable "ptchan thread reading failed")

def integrationThread (state : AppState Cell) (now : Instant) (times : Nat × Nat) (request : Request) :
    Handled Cell :=
  match lib.extract.path request.uri with
  | .error status => ⟨.rejection status, state.rateLimiters, [], none⟩
  | .ok (board, threadId) =>
      match verifiedReading lib state now request with
      | .error response => ⟨response, state.rateLimiters, [], none⟩
      | .ok integration =>
          let prepared := PreparedRead.new lib state times board threadId (lib.extract.limit request.uri) integration
          match prepared.result with
          | .error response => ⟨response, prepared.limiters, prepared.checks, none⟩
          | .ok read =>
              let (sent, response) := PreparedRead.fetch lib state read
              ⟨response, prepared.limiters, prepared.checks, sent⟩

structure SignedReply where
  posting : PostingConfig
  body : ReplyRequest

def authenticatePosting (state : AppState Cell) (now : Instant) (request : Request) (body : Bytes) :
    Except Response PostingConfig :=
  authenticate lib.mac state.postings PostingConfig.secret now request (some body)

/-- The response to a body that could not be read. -/
def bodyRejection (status : Nat) : Response :=
  if status = 413 then apiError status .payloadTooLarge "request body exceeds the gateway body limit"
  else apiError status .invalidJson "request body could not be read"

def SignedReply.fromRequest (state : AppState Cell) (now : Instant) (times : Nat × Nat) (request : Request) :
    Guarded Cell SignedReply :=
  match lib.extract.path request.uri with
  | .error status => state.refuse (.rejection status)
  | .ok (board, _) =>
      match request.body with
      | .error status => state.refuse (bodyRejection status)
      | .ok body =>
          match authenticatePosting lib state now request body with
          | .error response => state.refuse response
          | .ok posting =>
              if !posting.boardAllowed board then
                state.refuse (apiError 403 .boardNotAllowed "integration is not allowed to post on this board")
              else
                let checked := state.rateLimiters.check lib.governor posting.name .posting times
                match checked.result with
                | .error _ => ⟨.error gatewayRateLimitedError, checked.limiters, checked.checks⟩
                | .ok () =>
                    match lib.extract.replyRequest body with
                    | none => ⟨.error (apiError 400 .invalidJson "request body must be valid JSON"),
                        checked.limiters, checked.checks⟩
                    | some reply => ⟨.ok ⟨posting, reply⟩, checked.limiters, checked.checks⟩

/-- The response to a submitted reply. -/
def replyOutcome : Except ReplyError ReplyResponse → Response
  | .ok response => .reply response
  | .error (.upstream err) =>
      .error (postingStatusForUpstream err.status)
        ⟨err.code, err.publicMessage, err.code.retryable, some err.status⟩
  | .error (.stateUnknown _ accepted) =>
      .error 502 ⟨.replyStateUnknown,
        if accepted then "ptchan may have accepted the reply; check the thread before retrying"
        else "ptchan reply result is unknown; check the thread before retrying", false, none⟩

def integrationReply (state : AppState Cell) (now : Instant) (times : Nat × Nat) (request : Request) :
    Handled Cell :=
  match lib.extract.path request.uri with
  | .error status => ⟨.rejection status, state.rateLimiters, [], none⟩
  | .ok (board, threadId) =>
      let signed := SignedReply.fromRequest lib state now times request
      match signed.result with
      | .error response => ⟨response, signed.limiters, signed.checks, none⟩
      | .ok reply =>
          let threadId := (parseI64 threadId).getD 0
          match validateReply board threadId reply.body.message with
          | .error err => ⟨apiError 400 err.code err.message, signed.limiters, signed.checks, none⟩
          | .ok () =>
              let (sent, result) := state.postWriter.reply lib.client reply.posting board threadId reply.body
              ⟨replyOutcome result, signed.limiters, signed.checks, some sent⟩

inductive Route where
  | thread
  | reply
  deriving DecidableEq, Repr

/-- One request on one of the routes, with the clock readings it meets. -/
structure Call where
  route : Route
  request : Request
  now : Instant
  times : Nat × Nat

def handle (state : AppState Cell) (call : Call) : Handled Cell :=
  match call.route with
  | .thread => integrationThread lib state call.now call.times call.request
  | .reply => integrationReply lib state call.now call.times call.request

/-- Requests share the limiters and nothing else. -/
def AppState.serve (state : AppState Cell) (call : Call) : AppState Cell :=
  { state with rateLimiters := (handle lib state call).limiters }

end PtchanGateway
