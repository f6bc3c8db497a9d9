import PtchanGateway.ContractSchemas
import PtchanGateway.GatewayPosts
import PtchanGateway.Mediation
import PtchanGateway.SdkThreads
import PtchanGateway.ThreadSelection

/-! What the gateway sends out against the published contract: the answers of the two routes with their bodies and
statuses (`runtime/responses.rs` and the documentation of the routes), and the payloads of the webhooks. -/

namespace PtchanGateway

open TextRfc3339 TextRust JsonValue JsonSchema Config Upstream

/-- The body passes the schema published for it. The framework's rejections have none. -/
def Response.valid : Response → Bool
  | .rejection _ => true
  | .error _ body => errorDocument.valid contractFormats body.envelope
  | .thread found => threadDocument.valid contractFormats found.toJson
  | .reply made => replyResponseDocument.valid contractFormats made.toJson

/-- Every date in the body is of the years 0 to 9999. -/
def Response.InEra : Response → Prop
  | .thread found => ∀ post ∈ found.posts, post.date.InEra
  | _ => True

/-- What the schemas ask of a body that its types do not give. -/
def Response.Regular : Response → Prop
  | .error _ body => ∀ status, body.upstreamStatus = some status → status < 2 ^ 16
  | .thread found => ∀ post ∈ found.posts, post.date.Regular
  | _ => True

/-- The statuses that the documentation of a route lists beside 200. -/
def documentedErrors : Route → List Nat
  | .thread => [400, 401, 403, 404, 429, 502]
  | .reply => [400, 401, 403, 404, 413, 429, 502]

section Answers

variable {Cell : Type} (lib : Libraries Cell)

/-- Where an answer comes from: success, an error that is documented, the framework, which refuses a path or a body,
or ptchan, whose refusal of a reply is passed on. -/
inductive Expected (call : Call) : Response → Prop where
  | served (hroute : call.route = .thread) (found : Thread) : Expected call (.thread found)
  | posted (hroute : call.route = .reply) (made : ReplyResponse) : Expected call (.reply made)
  | documented {status : Nat} (h : status ∈ documentedErrors call.route) (body : ErrorBody) :
      Expected call (.error status body)
  | unmatched {status : Nat} (h : lib.extract.path call.request.uri = .error status) :
      Expected call (.rejection status)
  | unread {status : Nat} (hroute : call.route = .reply) (h : call.request.body = .error status) (body : ErrorBody) :
      Expected call (.error status body)
  | upstream {status : Nat} {sent : UpstreamRequest} {text : Except String String} {body : ErrorBody}
      (hroute : call.route = .reply) (hsent : lib.client.send sent = .answered status text)
      (hclient : isClientError status = true) (hstatus : body.upstreamStatus = some status) :
      Expected call (.error status body)

/-- Statuses of the client have sixteen bits. -/
structure Documented : Prop where
  serde : Sdk.Documented lib.serde
  statuses : ∀ sent status body, lib.client.send sent = .answered status body → status < 2 ^ 16

/-- What every answer is. -/
structure Answers (call : Call) (response : Response) : Prop where
  regular : response.Regular
  expected : Expected lib call response

variable {lib} {state : AppState Cell} {call : Call}

theorem answers_apiError {status : Nat} {code : ErrorCode} {message : String}
    (h : status ∈ documentedErrors call.route) : Answers lib call (apiError status code message) :=
  ⟨nofun, .documented h _⟩

theorem answers_authError : Answers lib call authError := by
  apply answers_apiError
  cases call.route with
  | _ => decide

theorem answers_authenticate {α : Type} {entries : String → Option α} {secret : α → String} {body : Option Bytes}
    {response : Response}
    (h : authenticate lib.mac entries secret call.now call.request body = .error response) :
    Answers lib call response := by
  rcases authenticate_cases lib.mac entries secret call.now call.request body with hfailed | ⟨entry, hfound⟩
  · cases hfailed.symm.trans h
    exact answers_authError
  · cases hfound.symm.trans h

/-- The dates of a thread are those that the library has read. -/
theorem regular_of_fetchThread (hserde : Sdk.Documented lib.serde) {baseUrl board : String} {threadId : Int64}
    {limit : Nat} {found : Thread}
    (h : (ThreadReader.fetchThread ⟨baseUrl⟩ lib.serde lib.client board threadId limit).2 = .ok (some found)) :
    ∀ post ∈ found.posts, post.date.Regular := by
  obtain ⟨value, hread⟩ := threadFromValue_of_fetch _ _ _ _ h
  obtain ⟨-, -, hmade⟩ := Sdk.madeFrom_of_thread hread
  intro post hpost
  obtain ⟨entry, -, hentry⟩ := exists_of_forall₂ hmade hpost
  exact Sdk.regular_of_madeFrom hserde hentry

section Threads

variable (hroute : call.route = .thread)

include hroute

theorem answers_thread_apiError {status : Nat} {code : ErrorCode} {message : String}
    (h : status ∈ documentedErrors .thread) : Answers lib call (apiError status code message) := by
  apply answers_apiError
  rwa [hroute]

theorem answers_check {integration board : String} {threadId : Int64} {query : Option (Option UInt64)}
    {response : Response} (h : PreparedRead.check integration board threadId query = .error response) :
    Answers lib call response := by
  unfold PreparedRead.check at h
  split at h
  · cases h
    exact answers_thread_apiError hroute (by decide)
  · split at h
    · cases h
      exact answers_thread_apiError hroute (by decide)
    · split at h
      · cases h
        exact answers_thread_apiError hroute (by decide)
      · cases h

theorem answers_prepared {times : Nat × Nat} {board threadId : String} {query : Option (Option UInt64)}
    {integration : IntegrationConfig} {response : Response}
    (h : (PreparedRead.new lib state times board threadId query integration).result = .error response) :
    Answers lib call response := by
  simp only [PreparedRead.new] at h
  split at h
  · cases h
    exact answers_thread_apiError hroute (by decide)
  · split at h
    · cases h
      exact answers_thread_apiError hroute (by decide)
    · split at h
      · cases h
        exact answers_thread_apiError hroute (by decide)
      · exact answers_check hroute h

theorem answers_fetch (hserde : Sdk.Documented lib.serde) (read : PreparedRead) :
    Answers lib call (PreparedRead.fetch lib state read).2 := by
  simp only [PreparedRead.fetch]
  split
  · rename_i found hfound
    refine ⟨?_, .served hroute _⟩
    intro post hpost
    obtain ⟨original, horiginal, rfl⟩ := List.mem_map.1 hpost
    exact regular_of_fetchThread hserde hfound original horiginal
  · exact answers_thread_apiError hroute (by decide)
  · exact answers_thread_apiError hroute (by decide)

theorem answers_thread (hserde : Sdk.Documented lib.serde) :
    Answers lib call (integrationThread lib state call.now call.times call.request).response := by
  unfold integrationThread
  split
  · rename_i status hpath
    exact ⟨trivial, .unmatched hpath⟩
  · split
    · rename_i response hrefused
      exact answers_authenticate hrefused
    · simp only
      split
      · rename_i response hrefused
        exact answers_prepared hroute hrefused
      · exact answers_fetch hroute hserde _

end Threads

/-- A refusal of ptchan has the status ptchan answered with, which is no success. -/
theorem answered_of_upstream {baseUrl : String} {posting : PostingConfig} {board : String} {threadId : Int64}
    {answer : Answer} {err : UpstreamReplyError}
    (h : replyAnswer lib.client baseUrl posting board threadId answer = .error (.upstream err)) :
    ∃ body, answer = .answered err.status body ∧ isSuccess err.status = false := by
  unfold replyAnswer at h
  split at h
  · cases h
  · rename_i status fault
    split at h
    · cases h
    · rename_i hrejected
      cases h
      exact ⟨.error fault, rfl, Bool.not_eq_true _ ▸ hrejected⟩
  · rename_i status body
    split at h
    · rename_i hrejected
      cases h
      exact ⟨.ok body, rfl, Bool.not_eq_true' _ ▸ hrejected⟩
    · split at h
      · cases h
      · cases h
      · cases h

section Replies

variable (hroute : call.route = .reply)

include hroute

theorem expected_of_reply {status : Nat} {body : ErrorBody} (h : status ∈ documentedErrors .reply) :
    Expected lib call (.error status body) := by
  apply Expected.documented
  rwa [hroute]

theorem answers_reply_apiError {status : Nat} {code : ErrorCode} {message : String}
    (h : status ∈ documentedErrors .reply) : Answers lib call (apiError status code message) :=
  ⟨nofun, expected_of_reply hroute h⟩

theorem answers_bodyRejection {status : Nat} (h : call.request.body = .error status) :
    Answers lib call (bodyRejection status) := by
  unfold bodyRejection
  split
  · exact ⟨nofun, .unread hroute h _⟩
  · exact ⟨nofun, .unread hroute h _⟩

theorem answers_signed {response : Response}
    (h : (SignedReply.fromRequest lib state call.now call.times call.request).result = .error response) :
    Answers lib call response := by
  simp only [SignedReply.fromRequest] at h
  split at h
  · rename_i status hpath
    cases h
    exact ⟨trivial, .unmatched hpath⟩
  · split at h
    · rename_i status hbody
      cases h
      exact answers_bodyRejection hroute hbody
    · split at h
      · rename_i refused hrefused
        cases h
        exact answers_authenticate hrefused
      · split at h
        · cases h
          exact answers_reply_apiError hroute (by decide)
        · split at h
          · cases h
            exact answers_reply_apiError hroute (by decide)
          · split at h
            · cases h
              exact answers_reply_apiError hroute (by decide)
            · cases h

theorem answers_submitted (hlib : Documented lib) (writer : PostWriter) (posting : PostingConfig) (board : String)
    (threadId : Int64) (request : ReplyRequest) :
    Answers lib call (replyOutcome (writer.reply lib.client posting board threadId request).2) := by
  cases hresult : (writer.reply lib.client posting board threadId request).2 with
  | ok made => exact ⟨trivial, .posted hroute made⟩
  | error fault =>
      cases fault with
      | stateUnknown source accepted =>
          exact ⟨nofun, expected_of_reply hroute (by decide)⟩
      | upstream err =>
          obtain ⟨body, hanswer, -⟩ := answered_of_upstream hresult
          refine ⟨?_, ?_⟩
          · rintro _ ⟨⟩
            exact hlib.statuses _ _ _ hanswer
          · rw [replyOutcome]
            unfold postingStatusForUpstream
            split
            · rename_i hclient
              exact .upstream hroute hanswer hclient rfl
            · exact expected_of_reply hroute (by decide)

theorem answers_reply (hlib : Documented lib) :
    Answers lib call (integrationReply lib state call.now call.times call.request).response := by
  unfold integrationReply
  split
  · rename_i status hpath
    exact ⟨trivial, .unmatched hpath⟩
  · simp only
    split
    · rename_i response hrefused
      exact answers_signed hroute hrefused
    · split
      · exact answers_reply_apiError hroute (by decide)
      · exact answers_submitted hroute hlib ..

end Replies

theorem answers_handle (hlib : Documented lib) (state : AppState Cell) (call : Call) :
    Answers lib call (handle lib state call).response := by
  cases hroute : call.route with
  | thread =>
      rw [handle, hroute]
      exact answers_thread hroute hlib.serde
  | reply =>
      rw [handle, hroute]
      exact answers_reply hroute hlib

namespace Sample

/-- The reply of the sample is made. -/
def made : ReplyResponse where
  board := "i"
  threadId := 42
  postId := 43
  url := "https://ptchan.test/i/thread/42.html#43"
  origin := ⟨.integration, "bridge"⟩

end Sample

end Answers

/-! ### Payloads -/

namespace Gateway

variable {Jar Url : Type} {setup : Socket.Setup Jar Url} {mac : Bytes → Bytes → Bytes} {limit : Nat}
  {actions : List (Action Jar)}

namespace Sample

end Sample

end Gateway

end PtchanGateway
