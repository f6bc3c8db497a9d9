import PtchanGateway.Contract
import PtchanGateway.JsonGo

/-!
The Go client (`clients/go`): how it signs and addresses its requests, how it decodes threads and webhook
events, and what it demands of them. Strings are UTF-8; the text of a failed decoding is the library's and
a parameter, like the MAC. A time is a moment, since only the instant is used.
-/

namespace PtchanGateway.Sdk

open TextRfc3339 TextRust TextGo JsonValue JsonGo

section Signatures

variable (mac : Bytes → Bytes → Bytes)

def signature (secret timestamp method path : String) (body : Option Bytes) : String :=
  "hmac-sha256=" ++ hexEncode (mac (asBytes secret) (asBytes timestamp ++ [46] ++ asBytes method ++ [46] ++
    asBytes path ++ match body with
      | some body => 46 :: body
      | none => []))

def webhookSignature (secret timestamp : String) (body : Bytes) : String :=
  "hmac-sha256=" ++ hexEncode (mac (asBytes secret) (asBytes timestamp ++ [46] ++ body))

end Signatures

/-- `strings.CutPrefix`: the rest, or the whole without the beginning. -/
def cutStart (start text : List Char) : List Char × Bool :=
  match stripStart start text with
  | some rest => (rest, true)
  | none => (text, false)

def validSignature (got want : String) : Bool :=
  let (gotHex, ok) := cutStart "hmac-sha256=".toList got.toList
  if !ok then false
  else
    match hexDecode gotHex with
    | none => false
    | some gotBytes =>
        let (wantHex, _) := cutStart "hmac-sha256=".toList want.toList
        match hexDecode wantHex with
        | none => false
        | some wantBytes => gotBytes == wantBytes

structure Credentials where
  name : String
  secret : String
  deriving DecidableEq, Repr

def Credentials.validate (c : Credentials) : Except String Unit :=
  if (trim c.name).isEmpty then .error "ptchan gateway: integration name is required"
  else if (trim c.secret).isEmpty then .error "ptchan gateway: integration secret is required"
  else .ok ()

/-- A thread by board and the number of its first post. -/
structure ThreadRef where
  board : String
  threadId : Int64
  deriving DecidableEq, Repr

def ThreadRef.validate (r : ThreadRef) : Except String Unit :=
  if (trim r.board).isEmpty || r.threadId.toInt ≤ 0 then .error "board and positive thread_id are required"
  else .ok ()

def ThreadRef.path (r : ThreadRef) : String :=
  "/integration/v1/threads/" ++ pathEscape r.board ++ "/" ++ toString r.threadId.toInt

/-- A client at the moment its clock shows. -/
structure Client where
  credentials : Credentials
  now : Moment

/-- A request on its way to the gateway. -/
structure SentRequest where
  method : String
  target : String
  headers : List (String × String)
  body : Option Bytes
  deriving DecidableEq, Repr

section Requests

variable (mac : Bytes → Bytes → Bytes) (client : Client)

/-- The request that `do` sends. -/
def Client.do (method path : String) (body : Option Bytes) : SentRequest :=
  let timestamp := formatRfc3339 client.now
  {
    method := method
    target := path
    headers := (if body.isSome then [("content-type", "application/json")] else []) ++
      [("x-ptchan-integration", client.credentials.name), ("x-ptchan-timestamp", timestamp),
        ("x-ptchan-signature", signature mac client.credentials.secret timestamp method path body)]
    body := body }

def readPath (ref : ThreadRef) (limit : Int64) : String :=
  if 0 < limit.toInt then ref.path ++ "?limit=" ++ toString limit.toInt else ref.path

def Client.readThread (ref : ThreadRef) (limit : Int64) : Except String SentRequest :=
  match ref.validate with
  | .error err => .error ("ptchan gateway: read thread: " ++ err)
  | .ok () => .ok (client.do mac "GET" (readPath ref limit) none)

/-- The body of a reply. -/
def replyBody (message : String) (sage : Bool) : Bytes :=
  asBytes (String.ofList ("\x7b\"message\":".toList ++ marshalString message ++ ",\"sage\":".toList ++
    marshalBool sage ++ ['\x7d']))

def Client.postReply (ref : ThreadRef) (message : String) (sage : Bool) : Except String SentRequest :=
  match ref.validate with
  | .error err => .error ("ptchan gateway: post reply: " ++ err)
  | .ok () => .ok (client.do mac "POST" (ref.path ++ "/replies") (some (replyBody message sage)))

end Requests

structure PostOrigin where
  kind : String
  name : String
  deriving DecidableEq, Repr

structure Post where
  board : String
  threadId : Int64
  postId : Int64
  url : String
  date : Moment
  subject : String
  message : String
  name : String
  tripcode : String
  capcode : String
  donor : Option Bool
  country : String
  posterFingerprint : String
  origin : Option PostOrigin
  attachmentCount : Int64
  references : List PostRef
  referencedBy : List PostRef
  deriving DecidableEq, Repr

def Post.threadRef (p : Post) : ThreadRef := ⟨p.board, p.threadId⟩

/-- The slice of posts may be nil. -/
structure Thread where
  board : String
  threadId : Int64
  posts : Option (List Post)
  truncated : Bool
  deriving DecidableEq, Repr

def Thread.threadRef (t : Thread) : ThreadRef := ⟨t.board, t.threadId⟩

structure WebhookEvent where
  schemaVersion : String
  eventId : String
  kind : String
  source : String
  observedAt : Moment
  post : Post
  deriving DecidableEq, Repr

def requireFields (members : List (String × Json)) (names : List String) : Bool :=
  names.all fun name => (mapMember name members).any fun value => !isNull value

def decodeOrigin : Json → Option PostOrigin :=
  decodeStruct ⟨"", ""⟩ fun members => do
    some {
      kind := ← valueField Json.asStr "" (fieldValues "kind" members)
      name := ← valueField Json.asStr "" (fieldValues "name" members) }

def decodePostRef : Json → Option PostRef :=
  decodeStruct ⟨"", 0, 0⟩ fun members => do
    some {
      board := ← valueField Json.asStr "" (fieldValues "board" members)
      threadId := ← valueField decodeInt64 0 (fieldValues "thread_id" members)
      id := ← valueField decodeInt64 0 (fieldValues "post_id" members) }

/-- A slice of references; a nil one holds none. -/
def decodePostRefs (values : List Json) : Option (List PostRef) :=
  (pointerField (decodeSlice decodePostRef) none values).map fun refs => refs.getD []

def decodePost : Json → Option Post
  | .obj members =>
      if requireFields members ["board", "thread_id", "post_id", "url", "date", "attachment_count"] then do
        some {
          board := ← valueField Json.asStr "" (fieldValues "board" members)
          threadId := ← valueField decodeInt64 0 (fieldValues "thread_id" members)
          postId := ← valueField decodeInt64 0 (fieldValues "post_id" members)
          url := ← valueField Json.asStr "" (fieldValues "url" members)
          date := ← valueField decodeTime zeroTime (fieldValues "date" members)
          subject := ← valueField Json.asStr "" (fieldValues "subject" members)
          message := ← valueField Json.asStr "" (fieldValues "message" members)
          name := ← valueField Json.asStr "" (fieldValues "name" members)
          tripcode := ← valueField Json.asStr "" (fieldValues "tripcode" members)
          capcode := ← valueField Json.asStr "" (fieldValues "capcode" members)
          donor := ← pointerField decodeBool none (fieldValues "donor" members)
          country := ← valueField Json.asStr "" (fieldValues "country" members)
          posterFingerprint := ← valueField Json.asStr "" (fieldValues "poster_fingerprint" members)
          origin := ← pointerField decodeOrigin none (fieldValues "origin" members)
          attachmentCount := ← valueField decodeInt64 0 (fieldValues "attachment_count" members)
          references := ← decodePostRefs (fieldValues "references" members)
          referencedBy := ← decodePostRefs (fieldValues "referenced_by" members) }
      else none
  | _ => none

/-- The post no field of which has been set. -/
def Post.zero : Post where
  board := ""
  threadId := 0
  postId := 0
  url := ""
  date := zeroTime
  subject := ""
  message := ""
  name := ""
  tripcode := ""
  capcode := ""
  donor := none
  country := ""
  posterFingerprint := ""
  origin := none
  attachmentCount := 0
  references := []
  referencedBy := []

def decodeThread : Json → Option Thread
  | .obj members =>
      if requireFields members ["board", "thread_id", "posts", "truncated"] then do
        some {
          board := ← valueField Json.asStr "" (fieldValues "board" members)
          threadId := ← valueField decodeInt64 0 (fieldValues "thread_id" members)
          posts := ← pointerField (decodeSlice decodePost) none (fieldValues "posts" members)
          truncated := ← valueField decodeBool false (fieldValues "truncated" members) }
      else none
  | _ => none

def decodeEvent : Json → Option WebhookEvent
  | .obj members =>
      if requireFields members ["schema_version", "event_id", "kind", "source", "observed_at", "post"] then do
        some {
          schemaVersion := ← valueField Json.asStr "" (fieldValues "schema_version" members)
          eventId := ← valueField Json.asStr "" (fieldValues "event_id" members)
          kind := ← valueField Json.asStr "" (fieldValues "kind" members)
          source := ← valueField Json.asStr "" (fieldValues "source" members)
          observedAt := ← valueField decodeTime zeroTime (fieldValues "observed_at" members)
          post := ← valueField decodePost .zero (fieldValues "post" members) }
      else none
  | _ => none

def validateOrigin (origin : PostOrigin) : Except String Unit :=
  if origin.kind ≠ "integration" ∨ origin.name = "" then
    .error "kind must be \"integration\" and name is required"
  else .ok ()

def validatePostRef (ref : PostRef) : Except String Unit :=
  if ref.board = "" ∨ ref.threadId.toInt ≤ 0 ∨ ref.id.toInt ≤ 0 then
    .error "post references require board, thread_id, and post_id"
  else .ok ()

/-- The checks of a post: its place, its origin and then the posts it quotes and is quoted by. -/
def validatePost (post : Post) : Except String Unit :=
  if post.board = "" ∨ post.threadId.toInt ≤ 0 ∨ post.postId.toInt ≤ 0 ∨ post.url = "" ∨ post.date = zeroTime ∨
      post.attachmentCount.toInt < 0 then
    .error "board, thread_id, post_id, url, date, and non-negative attachment_count are required"
  else
    match post.origin.elim (.ok ()) validateOrigin with
    | .error err => .error ("origin: " ++ err)
    | .ok () => (post.references ++ post.referencedBy).forM validatePostRef

/-- `time.Time.Before` -/
def before (earlier later : Moment) : Prop :=
  earlier.secs < later.secs ∨ earlier.secs = later.secs ∧ earlier.frac < later.frac

instance (earlier later : Moment) : Decidable (before earlier later) :=
  inferInstanceAs (Decidable (_ ∨ _))

/-- The posts from number `index` on, after the one with the given date. -/
def validatePosts (requested : ThreadRef) : Nat → Option Moment → List Post → Except String Unit
  | _, _, [] => .ok ()
  | index, previous, post :: posts =>
      match validatePost post with
      | .error err => .error ("posts[" ++ toString index ++ "]: " ++ err)
      | .ok () =>
          if post.threadRef ≠ requested then
            .error ("posts[" ++ toString index ++ "]: coordinates do not match requested thread")
          else if previous.any fun date => before post.date date then .error "posts are not chronological"
          else validatePosts requested (index + 1) (some post.date) posts

def validateThread (thread : Thread) (requested : ThreadRef) : Except String Unit :=
  match thread.posts with
  | none => .error "coordinates and posts are required and must match the requested thread"
  | some posts =>
      if thread.board = "" ∨ thread.threadId.toInt ≤ 0 ∨ thread.threadRef ≠ requested then
        .error "coordinates and posts are required and must match the requested thread"
      else validatePosts requested 0 none posts

/-! ### Webhooks -/

section Webhooks

variable (fault : Bytes → String)

/-- A text as JSON; none if it is not one. -/
def unmarshal (body : Bytes) : Option Json := (JsonText.codec.read body).toOption

def decodeWebhookEvent (body : Bytes) : Except String WebhookEvent :=
  match (unmarshal body).bind decodeEvent with
  | none => .error ("ptchan gateway webhook: decode event: " ++ fault body)
  | some event =>
      if event.eventId = "" ∨ event.kind = "" ∨ event.source = "" ∨ event.observedAt = zeroTime then
        .error "ptchan gateway webhook: event_id, kind, source, and observed_at are required"
      else if event.schemaVersion ≠ "1" then
        .error ("ptchan gateway webhook: unsupported schema_version \"" ++ event.schemaVersion ++ "\"")
      else
        match validatePost event.post with
        | .error err => .error ("ptchan gateway webhook: invalid post: " ++ err)
        | .ok () => .ok event

/-- The skew is in nanoseconds. Go saturates a difference of times at 292 years, which matters only for a skew of
that length and is left out here. -/
structure WebhookVerificationOptions where
  maxBodyBytes : Nat
  maxClockSkew : Nat
  now : Moment

def verifyWebhookBody (mac : Bytes → Bytes → Bytes) (options : WebhookVerificationOptions)
    (secret eventId timestamp gotSignature : String) (body : Bytes) : Except String WebhookEvent :=
  if (trim secret).isEmpty then .error "ptchan gateway webhook authentication failed: secret is empty"
  else if options.maxBodyBytes < body.length then .error "ptchan gateway webhook body exceeds configured limit"
  else if eventId = "" ∨ timestamp = "" ∨ gotSignature = "" then
    .error "ptchan gateway webhook authentication failed: missing signature headers"
  else
    match parseTime timestamp.toList with
    | none => .error "ptchan gateway webhook authentication failed: invalid timestamp"
    | some observed =>
        if options.maxClockSkew < (options.now.signedDurationSince observed).natAbs then
          .error "ptchan gateway webhook authentication failed: timestamp is outside allowed skew"
        else if !validSignature gotSignature (webhookSignature mac secret timestamp body) then
          .error "ptchan gateway webhook authentication failed: invalid signature"
        else
          match decodeWebhookEvent fault body with
          | .error err => .error err
          | .ok event =>
              if event.eventId ≠ eventId then .error "ptchan gateway webhook: event ID header does not match body"
              else .ok event

end Webhooks

end PtchanGateway.Sdk
