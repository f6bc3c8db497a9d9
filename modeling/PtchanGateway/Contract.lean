import PtchanGateway.TextRfc3339
import PtchanGateway.JsonValue

/-! The integration-facing contract (`contract.rs`): webhook events, posts, threads, replies and errors,
with the JSON that serialization gives them. Absent optional members are left out, and empty lists of
references too. -/

namespace PtchanGateway

open TextRfc3339 JsonValue

inductive SchemaVersion where
  | v1
  deriving DecidableEq, Repr

inductive EventKind where
  | threadCreated
  | postCreated
  deriving DecidableEq, Repr

def EventKind.asStr : EventKind → String
  | .threadCreated => "thread.created"
  | .postCreated => "post.created"

inductive OriginKind where
  | integration
  deriving DecidableEq, Repr

/-- Gateway-known producer of a post. -/
structure PostOrigin where
  kind : OriginKind
  name : String
  deriving DecidableEq, Repr

/-- Complete coordinates of a quoted post. -/
structure PostRef where
  board : String
  threadId : Int64
  id : Int64
  deriving DecidableEq, Repr

/-- Moderation-safe public post. -/
structure Post where
  board : String
  threadId : Int64
  id : Int64
  url : String
  date : Moment
  subject : Option String
  message : Option String
  name : Option String
  tripcode : Option String
  capcode : Option String
  donor : Option Bool
  country : Option String
  posterFingerprint : Option String
  origin : Option PostOrigin
  attachmentCount : UInt64
  references : List PostRef
  referencedBy : List PostRef
  deriving DecidableEq, Repr

/-- Event delivered to one configured webhook. -/
structure WebhookEvent where
  schemaVersion : SchemaVersion
  eventId : String
  kind : EventKind
  source : String
  observedAt : Instant
  post : Post
  deriving DecidableEq

/-- An event whose post holds nothing but its place. -/
def WebhookEvent.bare (eventId : String) (observedAt : Instant) : WebhookEvent where
  schemaVersion := .v1
  eventId := eventId
  kind := .postCreated
  source := "ptchan"
  observedAt := observedAt
  post := {
    board := "b"
    threadId := 1
    id := 2
    url := "https://ptchan.org/b/thread/1.html#2"
    date := observedAt.moment
    subject := none
    message := none
    name := none
    tripcode := none
    capcode := none
    donor := none
    country := none
    posterFingerprint := none
    origin := none
    attachmentCount := 0
    references := []
    referencedBy := [] }

/-- Thread returned by the reading endpoint. -/
structure Thread where
  board : String
  id : Int64
  posts : List Post
  truncated : Bool
  deriving DecidableEq, Repr

/-- Signed request body for a reply. -/
structure ReplyRequest where
  message : String
  sage : Bool
  deriving DecidableEq, Repr

/-- Coordinates of an accepted reply. -/
structure ReplyResponse where
  board : String
  threadId : Int64
  postId : Int64
  url : String
  origin : PostOrigin
  deriving DecidableEq, Repr

/-- A member that is left out when absent. -/
def optionalMember {α : Type} (name : String) (encode : α → Json) : Option α → List (String × Json)
  | none => []
  | some value => [(name, encode value)]

/-- A list member that is left out when empty. -/
def listMember {α : Type} (name : String) (encode : α → Json) : List α → List (String × Json)
  | [] => []
  | values => [(name, .arr (values.map encode))]

/-- A moment as serialized: RFC 3339 with the zone written `Z`. -/
def momentJson (m : Moment) : Json := .str (String.ofList (m.text ['Z']))

def intJson (n : Int64) : Json := .num (.int n.toInt)

def PostRef.toJson (r : PostRef) : Json :=
  .obj [("board", .str r.board), ("thread_id", intJson r.threadId), ("post_id", intJson r.id)]

def OriginKind.toJson : OriginKind → Json
  | .integration => .str "integration"

def PostOrigin.toJson (o : PostOrigin) : Json := .obj [("kind", o.kind.toJson), ("name", .str o.name)]

def Post.toJson (p : Post) : Json :=
  .obj ([("board", .str p.board), ("thread_id", intJson p.threadId), ("post_id", intJson p.id),
      ("url", .str p.url), ("date", momentJson p.date)] ++
    optionalMember "subject" .str p.subject ++ optionalMember "message" .str p.message ++
    optionalMember "name" .str p.name ++ optionalMember "tripcode" .str p.tripcode ++
    optionalMember "capcode" .str p.capcode ++ optionalMember "donor" .bool p.donor ++
    optionalMember "country" .str p.country ++
    optionalMember "poster_fingerprint" .str p.posterFingerprint ++
    optionalMember "origin" PostOrigin.toJson p.origin ++
    [("attachment_count", .num (.int p.attachmentCount.toNat))] ++
    listMember "references" PostRef.toJson p.references ++
    listMember "referenced_by" PostRef.toJson p.referencedBy)

def SchemaVersion.toJson : SchemaVersion → Json
  | .v1 => .str "1"

def WebhookEvent.toJson (e : WebhookEvent) : Json :=
  .obj [("schema_version", e.schemaVersion.toJson), ("event_id", .str e.eventId),
    ("kind", .str e.kind.asStr), ("source", .str e.source), ("observed_at", momentJson e.observedAt.moment),
    ("post", e.post.toJson)]

def Thread.toJson (t : Thread) : Json :=
  .obj [("board", .str t.board), ("thread_id", intJson t.id), ("posts", .arr (t.posts.map Post.toJson)),
    ("truncated", .bool t.truncated)]

inductive ErrorCode where
  | unauthorized
  | capabilityNotEnabled
  | invalidJson
  | invalidQuery
  | invalidBoard
  | invalidThreadId
  | missingMessage
  | messageTooLong
  | invalidMessage
  | boardNotAllowed
  | rateLimited
  | threadNotFound
  | upstreamUnavailable
  | captchaRequired
  | blockBypassRequired
  | threadLocked
  | threadReplyLimit
  | boardLocked
  | rejected
  | replyStateUnknown
  | payloadTooLarge
  deriving DecidableEq, Repr

namespace ErrorCode

def asStr : ErrorCode → String
  | .unauthorized => "unauthorized"
  | .capabilityNotEnabled => "capability_not_enabled"
  | .invalidJson => "invalid_json"
  | .invalidQuery => "invalid_query"
  | .invalidBoard => "invalid_board"
  | .invalidThreadId => "invalid_thread_id"
  | .missingMessage => "missing_message"
  | .messageTooLong => "message_too_long"
  | .invalidMessage => "invalid_message"
  | .boardNotAllowed => "board_not_allowed"
  | .rateLimited => "rate_limited"
  | .threadNotFound => "thread_not_found"
  | .upstreamUnavailable => "upstream_unavailable"
  | .captchaRequired => "captcha_required"
  | .blockBypassRequired => "block_bypass_required"
  | .threadLocked => "thread_locked"
  | .threadReplyLimit => "thread_reply_limit"
  | .boardLocked => "board_locked"
  | .rejected => "rejected"
  | .replyStateUnknown => "reply_state_unknown"
  | .payloadTooLarge => "payload_too_large"

def retryable : ErrorCode → Bool
  | .rateLimited | .upstreamUnavailable => true
  | _ => false

end ErrorCode

structure ErrorBody where
  code : ErrorCode
  message : String
  retryable : Bool
  upstreamStatus : Option Nat
  deriving DecidableEq, Repr

end PtchanGateway
