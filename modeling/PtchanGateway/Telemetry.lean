import PtchanGateway.Mediation
import Mathlib.Algebra.Order.BigOperators.Group.Finset
import Mathlib.Data.Fintype.BigOperators
import Mathlib.Data.Fintype.Pi
import Mathlib.Order.Interval.Finset.Nat

/-! The request metrics of the signed routes (`runtime/telemetry.rs`). Every exit of a route records what it
answered under the integration, the board and the result; before a request is authenticated, the integration is
the one its header names, if it is configured, and the board is the one its path names, if it is well formed. A
family keeps one series for each tuple of labels it has met. -/

namespace PtchanGateway

open TextRfc3339 TextRust JsonValue Config Upstream

structure RequestLabels where
  integration : String
  board : String
  result : String
  deriving DecidableEq, Repr

structure RateLimitedLabels where
  integration : String
  board : String
  capability : String
  scope : String
  deriving DecidableEq, Repr

/-- The families the routes record in, each with its updates in order; elapsed times are in nanoseconds. -/
structure Metrics where
  readingRequests : List RequestLabels
  readingRequestSeconds : List (RequestLabels × Nat)
  postingRequests : List RequestLabels
  postingRequestSeconds : List (RequestLabels × Nat)
  gatewayRateLimitedRequests : List RateLimitedLabels
  deriving DecidableEq, Repr

def metricBoard (board : String) : String := if validBoardName board then board else "invalid"

namespace Metrics

def init : Metrics := ⟨[], [], [], [], []⟩

def recordReadingRequest (metrics : Metrics) (integration board result : String) (elapsed : Nat) : Metrics :=
  let labels : RequestLabels := ⟨integration, metricBoard board, result⟩
  { metrics with
    readingRequests := metrics.readingRequests ++ [labels]
    readingRequestSeconds := metrics.readingRequestSeconds ++ [(labels, elapsed)] }

def recordPostingRequest (metrics : Metrics) (integration board result : String) (elapsed : Nat) : Metrics :=
  let labels : RequestLabels := ⟨integration, metricBoard board, result⟩
  { metrics with
    postingRequests := metrics.postingRequests ++ [labels]
    postingRequestSeconds := metrics.postingRequestSeconds ++ [(labels, elapsed)] }

def recordGatewayRateLimitedRequest (metrics : Metrics) (integration board capability scope : String) : Metrics :=
  { metrics with
    gatewayRateLimitedRequests :=
      metrics.gatewayRateLimitedRequests ++ [⟨integration, metricBoard board, capability, scope⟩] }

end Metrics

/-- What a route records; a request is counted and timed under the same labels. -/
inductive Record where
  | readingRequest (integration board result : String)
  | postingRequest (integration board result : String)
  | gatewayRateLimited (integration board capability : String) (rejection : RateLimitRejection)
  deriving DecidableEq, Repr

def Metrics.record (elapsed : Nat) (metrics : Metrics) : Record → Metrics
  | .readingRequest integration board result => metrics.recordReadingRequest integration board result elapsed
  | .postingRequest integration board result => metrics.recordPostingRequest integration board result elapsed
  | .gatewayRateLimited integration board capability rejection =>
      metrics.recordGatewayRateLimitedRequest integration board capability rejection.asStr

/-! ### What the routes record -/

variable {Cell : Type} (lib : Libraries Cell)

def requestedIntegrationLabel (state : AppState Cell) (headers : List (String × Bytes)) : String :=
  match header headers "x-ptchan-integration" with
  | none => "unknown"
  | some name => if (state.integrations name).isSome || (state.postings name).isSome then name else "unknown"

def readError (integration board : String) (code : ErrorCode) : List Record :=
  [.readingRequest integration board code.asStr]

/-- The records of `PreparedRead.check`. -/
def PreparedRead.checkRecords (integration board : String) (threadId : Int64) (query : Option (Option UInt64)) :
    List Record :=
  if !validBoardName board then readError integration board .invalidBoard
  else if threadId.toInt ≤ 0 then readError integration board .invalidThreadId
  else
    match query with
    | none => readError integration board .invalidQuery
    | some _ => []

/-- The records of `PreparedRead.new`. -/
def PreparedRead.newRecords (state : AppState Cell) (times : Nat × Nat) (board threadId : String)
    (query : Option (Option UInt64)) (integration : IntegrationConfig) : List Record :=
  let threadId := (parseI64 threadId).getD 0
  if !integration.reading then readError integration.name board .capabilityNotEnabled
  else if !integration.boardAllowed board then readError integration.name board .boardNotAllowed
  else
    match (state.rateLimiters.check lib.governor integration.name .reading times).result with
    | .error rejection =>
        [.readingRequest integration.name board ErrorCode.rateLimited.asStr,
          .gatewayRateLimited integration.name board "reading" rejection]
    | .ok () => PreparedRead.checkRecords integration.name board threadId query

/-- The records of `PreparedRead.fetch`. -/
def PreparedRead.fetchRecords (state : AppState Cell) (read : PreparedRead) : List Record :=
  match (state.threadReader.fetchThread lib.serde lib.client read.board read.threadId read.limit).2 with
  | .ok (some _) => [.readingRequest read.integration read.board "success"]
  | .ok none => readError read.integration read.board .threadNotFound
  | .error _ => readError read.integration read.board .upstreamUnavailable

def threadRecords (state : AppState Cell) (now : Instant) (times : Nat × Nat) (request : Request) : List Record :=
  match lib.extract.path request.uri with
  | .error _ => []
  | .ok (board, threadId) =>
      match verifiedReading lib state now request with
      | .error _ =>
          [.readingRequest (requestedIntegrationLabel state request.headers) board "unauthorized"]
      | .ok integration =>
          let query := lib.extract.limit request.uri
          let prepared := PreparedRead.new lib state times board threadId query integration
          PreparedRead.newRecords lib state times board threadId query integration ++
            match prepared.result with
            | .error _ => []
            | .ok read => PreparedRead.fetchRecords lib state read

/-- The records of `SignedReply.fromRequest`. -/
def SignedReply.records (state : AppState Cell) (now : Instant) (times : Nat × Nat) (request : Request) :
    List Record :=
  match lib.extract.path request.uri with
  | .error _ => []
  | .ok (board, _) =>
      match request.body with
      | .error _ => []
      | .ok body =>
          match authenticatePosting lib state now request body with
          | .error _ =>
              [.postingRequest (requestedIntegrationLabel state request.headers) board "unauthorized"]
          | .ok posting =>
              if !posting.boardAllowed board then
                [.postingRequest posting.name board ErrorCode.boardNotAllowed.asStr]
              else
                match (state.rateLimiters.check lib.governor posting.name .posting times).result with
                | .error rejection =>
                    [.postingRequest posting.name board ErrorCode.rateLimited.asStr,
                      .gatewayRateLimited posting.name board "posting" rejection]
                | .ok () =>
                    match lib.extract.replyRequest body with
                    | none => [.postingRequest posting.name board "invalid_json"]
                    | some _ => []

/-- The result a submitted reply is recorded under. -/
def replyResult : Except ReplyError ReplyResponse → String
  | .ok _ => "success"
  | .error (.upstream err) => err.code.asStr
  | .error (.stateUnknown _ _) => "reply_state_unknown"

def replyRecords (state : AppState Cell) (now : Instant) (times : Nat × Nat) (request : Request) : List Record :=
  match lib.extract.path request.uri with
  | .error _ => []
  | .ok (board, threadId) =>
      SignedReply.records lib state now times request ++
        match (SignedReply.fromRequest lib state now times request).result with
        | .error _ => []
        | .ok reply =>
            let threadId := (parseI64 threadId).getD 0
            match validateReply board threadId reply.body.message with
            | .error err => [.postingRequest reply.posting.name board err.code.asStr]
            | .ok () =>
                let result := (state.postWriter.reply lib.client reply.posting board threadId reply.body).2
                [.postingRequest reply.posting.name board (replyResult result)]

def records (state : AppState Cell) (call : Call) : List Record :=
  match call.route with
  | .thread => threadRecords lib state call.now call.times call.request
  | .reply => replyRecords lib state call.now call.times call.request

/-- The metrics after a run of requests, each with the time it took. -/
def metricsAfter (state : AppState Cell) (metrics : Metrics) : List (Call × Nat) → Metrics
  | [] => metrics
  | (call, elapsed) :: calls =>
      metricsAfter (state.serve lib call) ((records lib state call).foldl (Metrics.record elapsed) metrics) calls

/-- The families of one route's requests. -/
def Route.request : Route → String → String → String → Record
  | .thread => .readingRequest
  | .reply => .postingRequest

def Record.isRequest : Record → Bool
  | .gatewayRateLimited .. => false
  | _ => true

/-- The result an answer is recorded under. -/
def Response.result : Response → Option String
  | .rejection _ => none
  | .error _ body => some body.code.asStr
  | .thread _ => some "success"
  | .reply _ => some "success"

/-- One request recorded under the result of its answer. -/
def RecordedOnce (route : Route) (integration board : String) (response : Response) (records : List Record) : Prop :=
  ∃ result, response.result = some result ∧
    records.filter Record.isRequest = [route.request integration board result]

theorem recordedOnce_apiError (route : Route) (integration board : String) (status : Nat) (code : ErrorCode)
    (message : String) :
    RecordedOnce route integration board (apiError status code message)
      [route.request integration board code.asStr] := by
  refine ⟨code.asStr, rfl, ?_⟩
  cases route <;> rfl

theorem PreparedRead.checkRecords_cases (integration board : String) (threadId : Int64)
    (query : Option (Option UInt64)) :
    (∃ response, PreparedRead.check integration board threadId query = .error response ∧
      RecordedOnce .thread integration board response (checkRecords integration board threadId query)) ∨
    ∃ read, PreparedRead.check integration board threadId query = .ok read ∧
      read.integration = integration ∧ read.board = board ∧ checkRecords integration board threadId query = [] := by
  unfold PreparedRead.check checkRecords
  split
  · exact .inl ⟨_, rfl, recordedOnce_apiError .thread integration board _ _ _⟩
  · split
    · exact .inl ⟨_, rfl, recordedOnce_apiError .thread integration board _ _ _⟩
    · cases query with
      | none => exact .inl ⟨_, rfl, recordedOnce_apiError .thread integration board _ _ _⟩
      | some limit => exact .inr ⟨_, rfl, rfl, rfl, rfl⟩

theorem PreparedRead.newRecords_cases (state : AppState Cell) (times : Nat × Nat) (board threadId : String)
    (query : Option (Option UInt64)) (integration : IntegrationConfig) :
    (∃ response, (PreparedRead.new lib state times board threadId query integration).result = .error response ∧
      RecordedOnce .thread integration.name board response
        (newRecords lib state times board threadId query integration)) ∨
    ∃ read, (PreparedRead.new lib state times board threadId query integration).result = .ok read ∧
      read.integration = integration.name ∧ read.board = board ∧
        newRecords lib state times board threadId query integration = [] := by
  unfold PreparedRead.new newRecords
  simp only
  split
  · exact .inl ⟨_, rfl, recordedOnce_apiError .thread integration.name board _ _ _⟩
  · split
    · exact .inl ⟨_, rfl, recordedOnce_apiError .thread integration.name board _ _ _⟩
    · cases (state.rateLimiters.check lib.governor integration.name .reading times).result with
      | error rejection => exact .inl ⟨_, rfl, ErrorCode.rateLimited.asStr, rfl, rfl⟩
      | ok accepted => exact PreparedRead.checkRecords_cases integration.name board _ query

theorem PreparedRead.recordedOnce_fetch (state : AppState Cell) (read : PreparedRead) :
    RecordedOnce .thread read.integration read.board (PreparedRead.fetch lib state read).2
      (fetchRecords lib state read) := by
  simp only [PreparedRead.fetch, fetchRecords]
  rcases (state.threadReader.fetchThread lib.serde lib.client read.board read.threadId read.limit).2 with
    err | (_ | thread)
  · exact recordedOnce_apiError .thread read.integration read.board _ _ _
  · exact recordedOnce_apiError .thread read.integration read.board _ _ _
  · exact ⟨"success", rfl, rfl⟩

theorem recordedOnce_thread {state : AppState Cell} {now : Instant} {times : Nat × Nat} {request : Request}
    {board text : String} (hpath : lib.extract.path request.uri = .ok (board, text)) :
    ∃ integration, RecordedOnce .thread integration board (integrationThread lib state now times request).response
      (threadRecords lib state now times request) := by
  rcases authenticate_cases lib.mac state.integrations IntegrationConfig.secret now request none with
    hfailed | ⟨integration, hverified⟩
  · have hverified : verifiedReading lib state now request = .error authError := hfailed
    simp only [integrationThread, threadRecords, hpath, hverified]
    exact ⟨_, recordedOnce_apiError .thread _ board _ .unauthorized _⟩
  · have hverified : verifiedReading lib state now request = .ok integration := hverified
    simp only [integrationThread, threadRecords, hpath, hverified]
    rcases PreparedRead.newRecords_cases lib state times board text (lib.extract.limit request.uri) integration with
      ⟨response, hresult, honce⟩ | ⟨read, hresult, hname, hboard, hnone⟩
    · simp only [hresult, List.append_nil]
      exact ⟨integration.name, honce⟩
    · simp only [hresult, hnone, List.nil_append]
      rw [← hboard]
      exact ⟨read.integration, PreparedRead.recordedOnce_fetch lib state read⟩

theorem SignedReply.records_cases (state : AppState Cell) (now : Instant) (times : Nat × Nat) {request : Request}
    {board text : String} (hpath : lib.extract.path request.uri = .ok (board, text)) {body : Bytes}
    (hbody : request.body = .ok body) :
    (∃ integration response, (SignedReply.fromRequest lib state now times request).result = .error response ∧
      RecordedOnce .reply integration board response (SignedReply.records lib state now times request)) ∨
    ∃ reply, (SignedReply.fromRequest lib state now times request).result = .ok reply ∧
      SignedReply.records lib state now times request = [] := by
  simp only [SignedReply.fromRequest, SignedReply.records, hpath, hbody]
  rcases authenticate_cases lib.mac state.postings PostingConfig.secret now request (some body) with
    hfailed | ⟨posting, hverified⟩
  · have hverified : authenticatePosting lib state now request body = .error authError := hfailed
    simp only [hverified, AppState.refuse]
    exact .inl ⟨_, _, rfl, recordedOnce_apiError .reply _ board _ .unauthorized _⟩
  · have hverified : authenticatePosting lib state now request body = .ok posting := hverified
    simp only [hverified, AppState.refuse]
    split
    · exact .inl ⟨posting.name, _, rfl, recordedOnce_apiError .reply posting.name board _ _ _⟩
    · cases (state.rateLimiters.check lib.governor posting.name .posting times).result with
      | error rejection => exact .inl ⟨posting.name, _, rfl, ErrorCode.rateLimited.asStr, rfl, rfl⟩
      | ok accepted =>
          cases lib.extract.replyRequest body with
          | none => exact .inl ⟨posting.name, _, rfl, recordedOnce_apiError .reply posting.name board _ .invalidJson _⟩
          | some reply => exact .inr ⟨_, rfl, rfl⟩

theorem result_replyOutcome (result : Except ReplyError ReplyResponse) :
    (replyOutcome result).result = some (replyResult result) := by
  rcases result with (_ | _) | _ <;> rfl

theorem recordedOnce_reply {state : AppState Cell} {now : Instant} {times : Nat × Nat} {request : Request}
    {board text : String} (hpath : lib.extract.path request.uri = .ok (board, text)) {body : Bytes}
    (hbody : request.body = .ok body) :
    ∃ integration, RecordedOnce .reply integration board (integrationReply lib state now times request).response
      (replyRecords lib state now times request) := by
  rcases SignedReply.records_cases lib state now times hpath hbody with
    ⟨integration, response, hresult, honce⟩ | ⟨reply, hresult, hnone⟩
  · simp only [integrationReply, replyRecords, hpath, hresult, List.append_nil]
    exact ⟨integration, honce⟩
  · simp only [integrationReply, replyRecords, hpath, hresult, hnone, List.nil_append]
    cases validateReply board ((parseI64 text).getD 0) reply.body.message with
    | error err => exact ⟨_, recordedOnce_apiError .reply _ board _ err.code _⟩
    | ok valid => exact ⟨reply.posting.name, _, result_replyOutcome _, rfl⟩

/-- A request is recorded once, under the result it is answered with, unless its path or its body was not read. -/
theorem requests_are_recorded_once (state : AppState Cell) (call : Call) :
    (records lib state call = [] ∧ ((∃ status, lib.extract.path call.request.uri = .error status) ∨
      call.route = .reply ∧ ∃ status, call.request.body = .error status)) ∨
    ∃ integration board text, lib.extract.path call.request.uri = .ok (board, text) ∧
      RecordedOnce call.route integration board (handle lib state call).response (records lib state call) := by
  obtain ⟨route, request, now, times⟩ := call
  cases hpath : lib.extract.path request.uri with
  | error status =>
      refine .inl ⟨?_, .inl ⟨status, rfl⟩⟩
      cases route <;> simp only [records, threadRecords, replyRecords, hpath]
  | ok captures =>
      obtain ⟨board, text⟩ := captures
      cases route with
      | thread =>
          obtain ⟨integration, honce⟩ := recordedOnce_thread lib hpath
          exact .inr ⟨integration, board, text, rfl, honce⟩
      | reply =>
          cases hbody : request.body with
          | error status =>
              refine .inl ⟨?_, .inr ⟨rfl, status, rfl⟩⟩
              simp only [records, replyRecords, SignedReply.records, SignedReply.fromRequest, hpath, hbody,
                AppState.refuse, List.append_nil]
          | ok body =>
              obtain ⟨integration, honce⟩ := recordedOnce_reply lib hpath hbody
              exact .inr ⟨integration, board, text, rfl, honce⟩

/-! ### Words over an alphabet -/

/-- The texts of `n` characters of an alphabet. -/
def wordsOfLength (alphabet : Finset Char) (n : Nat) : Finset String :=
  (Fintype.piFinset fun _ : Fin n => alphabet).image fun word => String.ofList (List.ofFn word)

theorem mem_wordsOfLength {alphabet : Finset Char} {text : String} (h : ∀ c ∈ text.toList, c ∈ alphabet) :
    text ∈ wordsOfLength alphabet text.length := by
  rw [wordsOfLength, Finset.mem_image]
  refine ⟨fun i => text.toList.get (i.cast String.length_toList.symm), ?_, ?_⟩
  · rw [Fintype.mem_piFinset]
    intro i
    exact h _ (List.get_mem _ _)
  · apply String.toList_injective
    rw [String.toList_ofList]
    apply List.ext_get
    · simp [String.length_toList]
    · intro i hi hlength
      simp

theorem card_wordsOfLength_le {alphabet : Finset Char} {size : Nat} (h : alphabet.card ≤ size) (n : Nat) :
    (wordsOfLength alphabet n).card ≤ size ^ n :=
  calc (wordsOfLength alphabet n).card
      ≤ (Fintype.piFinset fun _ : Fin n => alphabet).card := Finset.card_image_le
    _ = alphabet.card ^ n := Fintype.card_piFinset_const alphabet n
    _ ≤ size ^ n := Nat.pow_le_pow_left h n

/-- The texts of one to `n` characters of an alphabet, not to be computed. -/
@[irreducible]
def wordsUpTo (alphabet : Finset Char) (n : Nat) : Finset String :=
  (Finset.Icc 1 n).biUnion (wordsOfLength alphabet)

theorem mem_wordsUpTo {alphabet : Finset Char} {n : Nat} {text : String} (hnonempty : 1 ≤ text.length)
    (hlength : text.length ≤ n) (h : ∀ c ∈ text.toList, c ∈ alphabet) : text ∈ wordsUpTo alphabet n := by
  rw [wordsUpTo, Finset.mem_biUnion]
  exact ⟨text.length, Finset.mem_Icc.2 ⟨hnonempty, hlength⟩, mem_wordsOfLength h⟩

theorem card_wordsUpTo_le {alphabet : Finset Char} {size : Nat} (h : alphabet.card ≤ size) (n : Nat) :
    (wordsUpTo alphabet n).card ≤ ∑ k ∈ Finset.Icc 1 n, size ^ k := by
  rw [wordsUpTo]
  calc ((Finset.Icc 1 n).biUnion (wordsOfLength alphabet)).card
      ≤ ∑ k ∈ Finset.Icc 1 n, (wordsOfLength alphabet k).card := Finset.card_biUnion_le
    _ ≤ ∑ k ∈ Finset.Icc 1 n, size ^ k := Finset.sum_le_sum fun k _ => card_wordsOfLength_le h k

/-- The characters of board names. -/
def boardAlphabet : List Char :=
  ((List.range 10).map fun i => Char.ofNat (48 + i)) ++ ((List.range 26).map fun i => Char.ofNat (65 + i)) ++
    ((List.range 26).map fun i => Char.ofNat (97 + i)) ++ ['_']

theorem mem_range_map {c : Char} {low count : Nat} (h : low ≤ c.toNat) (hlt : c.toNat < low + count) :
    c ∈ (List.range count).map fun i => Char.ofNat (low + i) := by
  rw [List.mem_map]
  refine ⟨c.toNat - low, List.mem_range.2 (by omega), ?_⟩
  rw [Nat.add_sub_cancel' h, Char.ofNat_toNat]

theorem mem_boardAlphabet {c : Char} (h : isAsciiAlphanumeric c = true ∨ c = '_') : c ∈ boardAlphabet := by
  simp only [isAsciiAlphanumeric, isAsciiDigit, isAsciiUppercase, isAsciiLowercase, Bool.or_eq_true,
    Bool.and_eq_true, decide_eq_true_eq] at h
  simp only [boardAlphabet, List.mem_append, List.mem_singleton]
  rcases h with ((hdigit | hupper) | hlower) | hunderscore
  · exact .inl (.inl (.inl (mem_range_map hdigit.1 (Nat.lt_succ_of_le hdigit.2))))
  · exact .inl (.inl (.inr (mem_range_map hupper.1 (Nat.lt_succ_of_le hupper.2))))
  · exact .inl (.inr (mem_range_map hlower.1 (Nat.lt_succ_of_le hlower.2)))
  · exact .inr hunderscore

/-- The names a board may have. -/
def boardNames : Finset String := wordsUpTo boardAlphabet.toFinset 32

theorem mem_boardNames {board : String} (h : validBoardName board = true) : board ∈ boardNames := by
  obtain ⟨hnonempty, hlength⟩ := length_of_validBoardName h
  apply mem_wordsUpTo hnonempty hlength
  intro c hc
  rw [List.mem_toFinset]
  exact mem_boardAlphabet (chars_of_validBoardName h c hc)

theorem card_boardNames_le : boardNames.card ≤ ∑ n ∈ Finset.Icc 1 32, 63 ^ n := by
  have hcard : boardAlphabet.toFinset.card ≤ 63 := boardAlphabet.toFinset_card_le
  exact card_wordsUpTo_le hcard 32

theorem validBoardName_metricBoard (board : String) : validBoardName (metricBoard board) = true := by
  rw [metricBoard]
  split
  · rename_i hvalid
    exact hvalid
  · rfl

/-- No entry's secret verifies the request. -/
def FailsAuthentication (state : AppState Cell) (call : Call) : Prop :=
  match call.route with
  | .thread => verifiedReading lib state call.now call.request = .error authError
  | .reply => ∀ body, call.request.body = .ok body →
      authenticatePosting lib state call.now call.request body = .error authError

theorem records_of_failed {state : AppState Cell} {call : Call} (h : FailsAuthentication lib state call) :
    records lib state call = [] ∨
      ∃ board text, lib.extract.path call.request.uri = .ok (board, text) ∧
        records lib state call =
          [call.route.request (requestedIntegrationLabel state call.request.headers) board "unauthorized"] := by
  obtain ⟨route, request, now, times⟩ := call
  cases hpath : lib.extract.path request.uri with
  | error status => cases route <;> exact .inl (by simp only [records, threadRecords, replyRecords, hpath])
  | ok captures =>
      obtain ⟨board, text⟩ := captures
      cases route with
      | thread =>
          have hfailed : verifiedReading lib state now request = .error authError := h
          refine .inr ⟨board, text, rfl, ?_⟩
          simp only [records, threadRecords, hpath, hfailed, Route.request]
      | reply =>
          cases hbody : request.body with
          | error status =>
              refine .inl ?_
              simp only [records, replyRecords, SignedReply.records, SignedReply.fromRequest, hpath, hbody,
                AppState.refuse, List.append_nil]
          | ok body =>
              have hfailed : authenticatePosting lib state now request body = .error authError := h body hbody
              refine .inr ⟨board, text, rfl, ?_⟩
              simp only [records, replyRecords, SignedReply.records, SignedReply.fromRequest, hpath, hbody, hfailed,
                AppState.refuse, List.append_nil, Route.request]

section Runs

variable {config : Config} {state : AppState Cell}

/-- The integrations a request may be recorded under. -/
def integrationLabels (config : Config) : List String :=
  "unknown" :: config.integrations.map IntegrationConfig.name

theorem requestedIntegrationLabel_mem (hbuilt : Built config state) (hresolved : Resolution config)
    (headers : List (String × Bytes)) :
    requestedIntegrationLabel state headers ∈ integrationLabels config := by
  rw [requestedIntegrationLabel]
  split
  · exact List.mem_cons_self
  · rename_i name _
    split
    · rename_i hconfigured
      apply List.mem_cons_of_mem
      rw [Bool.or_eq_true, Option.isSome_iff_exists, Option.isSome_iff_exists, hbuilt.integrations,
        hbuilt.postings] at hconfigured
      rcases hconfigured with ⟨integration, hfound⟩ | ⟨posting, hfound⟩
      · obtain ⟨hmem, hname⟩ := collectBy_eq_some hfound
        exact hname ▸ List.mem_map_of_mem hmem
      · obtain ⟨hposting, hname⟩ := collectBy_eq_some hfound
        obtain ⟨integration, hmem, hof⟩ := hresolved.postings posting hposting
        rw [← hname, hof.name]
        exact List.mem_map_of_mem hmem
    · exact List.mem_cons_self

/-- The labels of the counters and of the histograms of both routes. -/
def Metrics.requestFamilies (metrics : Metrics) : List (List RequestLabels) :=
  [metrics.readingRequests, metrics.readingRequestSeconds.map Prod.fst, metrics.postingRequests,
    metrics.postingRequestSeconds.map Prod.fst]

/-- All labels of the request families are of a kind. -/
def Metrics.Within (allowed : RequestLabels → Prop) (metrics : Metrics) : Prop :=
  ∀ family ∈ metrics.requestFamilies, ∀ labels ∈ family, allowed labels

/-- What a run of refused requests may have recorded. -/
structure RefusedLabels (config : Config) (calls : List (Call × Nat)) (labels : RequestLabels) : Prop where
  integration : labels.integration ∈ integrationLabels config
  board : ∃ call ∈ calls, ∃ board text, lib.extract.path call.1.request.uri = .ok (board, text) ∧
    labels.board = metricBoard board
  result : labels.result = "unauthorized"

theorem within_record {allowed : RequestLabels → Prop} {metrics : Metrics} (h : metrics.Within allowed)
    (route : Route) {integration board result : String} (hnew : allowed ⟨integration, metricBoard board, result⟩)
    (elapsed : Nat) : (metrics.record elapsed (route.request integration board result)).Within allowed := by
  simp only [Metrics.Within, Metrics.requestFamilies, List.forall_mem_cons] at h ⊢
  obtain ⟨hreading, hreadingSeconds, hposting, hpostingSeconds, hnone⟩ := h
  have happend : ∀ {family : List RequestLabels}, (∀ labels ∈ family, allowed labels) →
      ∀ labels ∈ family ++ [⟨integration, metricBoard board, result⟩], allowed labels := by
    intro family hfamily labels hmem
    rcases List.mem_append.1 hmem with hold | hlast
    · exact hfamily labels hold
    · rw [List.mem_singleton.1 hlast]
      exact hnew
  cases route with
  | thread =>
      refine ⟨happend hreading, ?_, hposting, hpostingSeconds, hnone⟩
      simp only [Route.request, Metrics.record, Metrics.recordReadingRequest, List.map_append, List.map_cons,
        List.map_nil]
      exact happend hreadingSeconds
  | reply =>
      refine ⟨hreading, hreadingSeconds, happend hposting, ?_, hnone⟩
      simp only [Route.request, Metrics.record, Metrics.recordPostingRequest, List.map_append, List.map_cons,
        List.map_nil]
      exact happend hpostingSeconds

/-- A run of refused requests records only what is allowed of each of them. -/
theorem within_metricsAfter {allowed : RequestLabels → Prop} {metrics : Metrics} (h : metrics.Within allowed)
    {calls : List (Call × Nat)} (hfails : ∀ call ∈ calls, FailsAuthentication lib state call.1)
    (hallowed : ∀ call ∈ calls, ∀ board text, lib.extract.path call.1.request.uri = .ok (board, text) →
      allowed ⟨requestedIntegrationLabel state call.1.request.headers, metricBoard board, "unauthorized"⟩) :
    (metricsAfter lib state metrics calls).Within allowed := by
  induction calls generalizing state metrics with
  | nil => exact h
  | cons first rest ih =>
      obtain ⟨call, elapsed⟩ := first
      rw [metricsAfter]
      -- A request changes the limiters only, so that those after it fail and are labelled as before.
      apply ih
      · rcases records_of_failed lib (hfails (call, elapsed) List.mem_cons_self) with hnone | ⟨board, text, hpath, hone⟩
        · rw [hnone]
          exact h
        · rw [hone]
          exact within_record h call.route (hallowed (call, elapsed) List.mem_cons_self board text hpath) elapsed
      · intro other hmem
        exact hfails other (List.mem_cons_of_mem _ hmem)
      · intro other hmem
        exact hallowed other (List.mem_cons_of_mem _ hmem)

/-- The number of series of a family. -/
def series (family : List RequestLabels) : Nat := family.toFinset.card

theorem series_le {calls : List (Call × Nat)} {family : List RequestLabels}
    (h : ∀ labels ∈ family, RefusedLabels lib config calls labels) :
    series family ≤ (config.integrations.length + 1) * ∑ n ∈ Finset.Icc 1 32, 63 ^ n := by
  have hnames : (integrationLabels config).toFinset.card ≤ config.integrations.length + 1 := by
    simpa [integrationLabels] using List.toFinset_card_le (integrationLabels config)
  have hsubset : family.toFinset ⊆
      ((integrationLabels config).toFinset ×ˢ boardNames).image fun pair => ⟨pair.1, pair.2, "unauthorized"⟩ := by
    intro labels hmem
    obtain ⟨hintegration, ⟨call, -, board, text, -, hboard⟩, hresult⟩ := h labels (List.mem_toFinset.1 hmem)
    rw [Finset.mem_image]
    refine ⟨(labels.integration, labels.board), Finset.mem_product.2 ⟨List.mem_toFinset.2 hintegration, ?_⟩, ?_⟩
    · rw [hboard]
      exact mem_boardNames (validBoardName_metricBoard board)
    · rw [← hresult]
  calc series family
      ≤ ((integrationLabels config).toFinset ×ˢ boardNames).card :=
        (Finset.card_le_card hsubset).trans Finset.card_image_le
    _ = (integrationLabels config).toFinset.card * boardNames.card := Finset.card_product _ boardNames
    _ ≤ (config.integrations.length + 1) * ∑ n ∈ Finset.Icc 1 32, 63 ^ n :=
        Nat.mul_le_mul hnames card_boardNames_le

/-- Requests that fail authentication are recorded under a configured integration or none and under the board they
ask for if its name is well formed, so that they make boundedly many series however many they are. -/
theorem refused_requests_make_bounded_series {getSecret : String → String → Except Chain String} {parsers : Parsers}
    {file : FileConfig} (hresolve : resolve getSecret parsers file = .ok config) (hserves : Serves lib config state)
    (calls : List (Call × Nat)) (hfails : ∀ call ∈ calls, FailsAuthentication lib state call.1) :
    ∀ family ∈ (metricsAfter lib state .init calls).requestFamilies,
      (∀ labels ∈ family, RefusedLabels lib config calls labels) ∧
        series family ≤ (config.integrations.length + 1) * ∑ n ∈ Finset.Icc 1 32, 63 ^ n := by
  have hwithin : (metricsAfter lib state .init calls).Within (RefusedLabels lib config calls) := by
    have hinit : Metrics.init.Within (RefusedLabels lib config calls) := by
      simp [Metrics.Within, Metrics.requestFamilies, Metrics.init]
    apply within_metricsAfter lib hinit hfails
    intro call hmem board text hpath
    exact {
      integration := requestedIntegrationLabel_mem hserves.built (resolution_of_resolve hresolve) _
      board := ⟨call, hmem, board, text, hpath, rfl⟩
      result := rfl }
  intro family hfamily
  exact ⟨hwithin family hfamily, series_le lib (hwithin family hfamily)⟩

/-- The boards a configuration names, and the one that stands for malformed names. -/
def configuredBoards (config : Config) : List String :=
  "invalid" :: config.integrations.flatMap IntegrationConfig.allowedBoards ++
    config.postings.flatMap PostingConfig.allowedBoards ++ config.webhooks.flatMap WebhookConfig.allowedBoards

end Runs

namespace Sample

/-- The captures of `/integration/v1/threads/{board}/{thread_id}`. -/
def threadPath (uri : Uri) : Except Nat (String × String) :=
  match uri.path.toList.splitOn '/' with
  | [_, _, _, _, board, threadId] => .ok (String.ofList board, String.ofList threadId)
  | _ => .error 404

def routedLibraries : Libraries Nat := { libraries with extract := { extract with path := threadPath } }

def unsignedRead (path : String) : Call where
  route := .thread
  request := ⟨"GET", ⟨path, some path⟩, [], .ok []⟩
  now := observedAt
  times := (0, 0)

/-- Two boards no integration has, and one that is malformed. -/
def probes : List (Call × Nat) :=
  [(unsignedRead "/integration/v1/threads/zz/1", 5), (unsignedRead "/integration/v1/threads/qq/1", 5),
    (unsignedRead "/integration/v1/threads/q-q/1", 5)]

theorem probes_fail : ∀ call ∈ probes, FailsAuthentication routedLibraries bridgeState call.1 := by
  intro call hmem
  simp only [probes, List.mem_cons, List.not_mem_nil, or_false] at hmem
  rcases hmem with rfl | rfl | rfl <;> rfl

theorem readingRequests_probes :
    (metricsAfter routedLibraries bridgeState .init probes).readingRequests =
      [⟨"unknown", "zz", "unauthorized"⟩, ⟨"unknown", "qq", "unauthorized"⟩,
        ⟨"unknown", "invalid", "unauthorized"⟩] := by
  decide +kernel

/-- Requests without a signature are recorded under boards the configuration does not name. -/
theorem requester_chooses_board :
    resolve (fun _ _ => .ok "secret") parsers bridgeFile = .ok bridgeConfig ∧
      Serves routedLibraries bridgeConfig bridgeState ∧ configuredBoards bridgeConfig = ["invalid", "i", "i"] ∧
      ¬∀ calls, (∀ call ∈ calls, FailsAuthentication routedLibraries bridgeState call.1) →
        ∀ family ∈ (metricsAfter routedLibraries bridgeState .init calls).requestFamilies, ∀ labels ∈ family,
          labels.board ∈ configuredBoards bridgeConfig := by
  refine ⟨rfl, .spawned rfl, rfl, ?_⟩
  intro h
  have hboard := h probes probes_fail _ List.mem_cons_self ⟨"unknown", "zz", "unauthorized"⟩
    (readingRequests_probes ▸ List.mem_cons_self)
  revert hboard
  decide

theorem refused_requests_make_bounded_series_probes :
    resolve (fun _ _ => .ok "secret") parsers bridgeFile = .ok bridgeConfig ∧
      Serves routedLibraries bridgeConfig bridgeState ∧
      (∀ call ∈ probes, FailsAuthentication routedLibraries bridgeState call.1) ∧
      ∀ family ∈ (metricsAfter routedLibraries bridgeState .init probes).requestFamilies,
        (∀ labels ∈ family, RefusedLabels routedLibraries bridgeConfig probes labels) ∧
          series family ≤ (bridgeConfig.integrations.length + 1) * ∑ n ∈ Finset.Icc 1 32, 63 ^ n := by
  have hresolve : resolve (fun _ _ => .ok "secret") parsers bridgeFile = .ok bridgeConfig := rfl
  have hserves : Serves routedLibraries bridgeConfig bridgeState := .spawned rfl
  exact ⟨hresolve, hserves, probes_fail,
    refused_requests_make_bounded_series routedLibraries hresolve hserves probes probes_fail⟩

end Sample

end PtchanGateway
