import PtchanGateway.Event

/-!
The clients of ptchan's public API (`reading.rs`, `posting.rs`): what they ask, how they read a thread and
how they judge the answer to a reply. The HTTP client and the decoding of a created post are parameters.
-/

namespace PtchanGateway

open TextRfc3339 TextRust JsonValue Config Upstream

/-- A request to ptchan; `form` is the body of a post. -/
structure UpstreamRequest where
  method : String
  url : String
  headers : List (String × String)
  form : Option (List (String × String))
  deriving DecidableEq, Repr

/-- What comes of a request: a failure to send it, or a status and a body that may not be readable. -/
inductive Answer where
  | failed (err : String)
  | answered (status : Nat) (body : Except String String)

/-- The HTTP client and the libraries around it. -/
structure Client where
  send : UpstreamRequest → Answer
  statusText : Nat → String
  createdPost : String → Except String (Option Int64)

def isSuccess (status : Nat) : Bool := 200 ≤ status && status < 300

def isClientError (status : Nat) : Bool := 400 ≤ status && status < 500

def defaultThreadLimit : Nat := 50

def maxThreadLimit : Nat := 200

/-- A member that is inserted in its place when the map has none of its name. -/
def ensureMember (name : String) (value : Json) (members : List (String × Json)) : List (String × Json) :=
  if (lookup name members).isSome then members
  else members.orderedInsert (fun left right => left.1 ≤ right.1) (name, value)

def ensureBoard (board : String) : List (String × Json) → List (String × Json) := ensureMember "board" (.str board)

def ensureThread (threadId : Int64) : List (String × Json) → List (String × Json) :=
  ensureMember "thread" (intJson threadId)

/-- The replies, which are those elements that are objects. -/
def replyPosts (serde : Serde) (baseUrl board : String) (threadId : Int64) : List Json → Except Chain (List Post)
  | [] => .ok []
  | .obj reply :: replies => do
      let post ← contractPostFromValue serde baseUrl (.obj (ensureThread threadId (ensureBoard board reply)))
      let posts ← replyPosts serde baseUrl board threadId replies
      .ok (post :: posts)
  | _ :: replies => replyPosts serde baseUrl board threadId replies

def threadFromValue (serde : Serde) (baseUrl board : String) (threadId : Int64) (value : Json) (limit : Nat) :
    Except Chain Thread :=
  match value with
  | .obj root => do
      let replies := match lookup "replies" root with
        | some (.arr values) => values
        | _ => []
      let root := root.filter fun member => member.1 ≠ "replies"
      let opening ← contractPostFromValue serde baseUrl (.obj (ensureBoard board root))
      let posts ← replyPosts serde baseUrl board threadId replies
      let posts := (opening :: posts).insertionSort fun left right => left.id.toInt ≤ right.id.toInt
      .ok ⟨board, threadId, posts.drop (posts.length - limit), limit < posts.length⟩
  | _ => bail "thread json must be an object"

def threadJsonUrl (baseUrl board : String) (threadId : Int64) : String :=
  trimEndMatches '/' baseUrl ++ "/" ++ board ++ "/thread/" ++ toString threadId.toInt ++ ".json"

def threadRequest (baseUrl board : String) (threadId : Int64) : UpstreamRequest :=
  ⟨"GET", threadJsonUrl baseUrl board threadId, [("accept", "application/json")], none⟩

/-- The thread in an answer; none if ptchan does not have it. -/
def threadAnswer (serde : Serde) (client : Client) (baseUrl board : String) (threadId : Int64) (limit : Nat) :
    Answer → Except Chain (Option Thread)
  | .failed err => .error ["fetch ptchan thread", err]
  | .answered status body =>
      if status = 404 then .ok none
      else if status ≠ 200 then bail ("ptchan thread status " ++ client.statusText status)
      else
        match body with
        | .error err => .error ["read ptchan thread json", err]
        | .ok text =>
            match serde.codec.read (asBytes text) with
            | .error err => .error ["decode ptchan thread json", err]
            | .ok value => (threadFromValue serde baseUrl board threadId value limit).map some

structure ThreadReader where
  baseUrl : String
  deriving DecidableEq

/-- The request `fetch_thread` sends, if any, and its result. -/
def ThreadReader.fetchThread (reader : ThreadReader) (serde : Serde) (client : Client) (board : String)
    (threadId : Int64) (limit : Nat) : Option UpstreamRequest × Except Chain (Option Thread) :=
  if !validBoardName board then (none, bail "invalid board")
  else if threadId.toInt ≤ 0 then (none, bail "thread_id must be positive")
  else
    let request := threadRequest reader.baseUrl board threadId
    let limit := min (max limit 1) maxThreadLimit
    (some request, threadAnswer serde client reader.baseUrl board threadId limit (client.send request))

def maxReplyMessageBytes : Nat := 8000

inductive ReplyValidationError where
  | invalidBoard
  | invalidThreadId
  | missingMessage
  | messageTooLong
  | invalidMessage
  deriving DecidableEq, Repr

namespace ReplyValidationError

def code : ReplyValidationError → ErrorCode
  | .invalidBoard => .invalidBoard
  | .invalidThreadId => .invalidThreadId
  | .missingMessage => .missingMessage
  | .messageTooLong => .messageTooLong
  | .invalidMessage => .invalidMessage

def message : ReplyValidationError → String
  | .invalidBoard => "board is invalid"
  | .invalidThreadId => "thread_id must be positive"
  | .missingMessage => "message is required"
  | .messageTooLong => "message is too long"
  | .invalidMessage => "message contains unsupported control characters"

end ReplyValidationError

def validateReply (board : String) (threadId : Int64) (message : String) : Except ReplyValidationError Unit :=
  if !validBoardName board then .error .invalidBoard
  else if threadId.toInt ≤ 0 then .error .invalidThreadId
  else if (trim message).isEmpty then .error .missingMessage
  else if maxReplyMessageBytes < message.utf8ByteSize then .error .messageTooLong
  else if message.toList.any fun c => isControl c && !(c == '\n' || c == '\r' || c == '\t') then
    .error .invalidMessage
  else .ok ()

def postingUrl (baseUrl board : String) : String :=
  trimEndMatches '/' baseUrl ++ "/forms/board/" ++ board ++ "/post"

def threadUrl (baseUrl board : String) (threadId : Int64) : String :=
  trimEndMatches '/' baseUrl ++ "/" ++ board ++ "/thread/" ++ toString threadId.toInt ++ ".html"

def replyForm (posting : PostingConfig) (threadId : Int64) (request : ReplyRequest) : List (String × String) :=
  [("thread", toString threadId.toInt), ("message", request.message)] ++
    (if request.sage then [("email", "sage")] else []) ++
    [("name", posting.formName), ("postpassword", posting.postPassword)]

def replyRequest (baseUrl : String) (posting : PostingConfig) (board : String) (threadId : Int64)
    (request : ReplyRequest) : UpstreamRequest where
  method := "POST"
  url := postingUrl baseUrl board
  headers := [("accept", "application/json"), ("referer", threadUrl baseUrl board threadId), ("x-using-xhr", "true")]
  form := some (replyForm posting threadId request)

def classifyUpstreamError (status : Nat) (body : String) : ErrorCode :=
  let haystack := String.ofList (body.toList.map toAsciiLowercase)
  if contains haystack "captcha" then .captchaRequired
  else if contains haystack "block bypass" || contains haystack "bypass_minimal" then .blockBypassRequired
  else if status == 429 || contains haystack "flood" || contains haystack "wait before" then .rateLimited
  else if contains haystack "thread does not exist" then .threadNotFound
  else if contains haystack "thread locked" then .threadLocked
  else if contains haystack "reply limit" then .threadReplyLimit
  else if contains haystack "board locked" || contains haystack "thread creation locked" then .boardLocked
  else .rejected

/-- The codes a rejection of ptchan is given. -/
theorem classifyUpstreamError_mem (status : Nat) (body : String) :
    classifyUpstreamError status body ∈ [.captchaRequired, .blockBypassRequired, .rateLimited, .threadNotFound,
      .threadLocked, .threadReplyLimit, .boardLocked, .rejected] := by
  simp only [classifyUpstreamError]
  split_ifs <;> decide

structure UpstreamReplyError where
  status : Nat
  code : ErrorCode
  deriving DecidableEq, Repr

def UpstreamReplyError.publicMessage (err : UpstreamReplyError) : String :=
  match err.code with
  | .captchaRequired => "ptchan requires captcha verification"
  | .blockBypassRequired => "ptchan requires a block bypass"
  | .rateLimited => "ptchan rate limit exceeded"
  | .threadNotFound => "thread was not found"
  | .threadLocked => "thread is locked"
  | .threadReplyLimit => "thread reply limit reached"
  | .boardLocked => "board is locked"
  | _ => "ptchan rejected the reply"

inductive ReplyError where
  | upstream (err : UpstreamReplyError)
  | stateUnknown (source : Chain) (accepted : Bool)

/-- The judgement on an answer. -/
def replyAnswer (client : Client) (baseUrl : String) (posting : PostingConfig) (board : String)
    (threadId : Int64) : Answer → Except ReplyError ReplyResponse
  | .failed err => .error (.stateUnknown ["send ptchan reply", err] false)
  | .answered status (.error err) =>
      if isSuccess status then .error (.stateUnknown ["read ptchan reply response", err] true)
      else .error (.upstream ⟨status, classifyUpstreamError status ""⟩)
  | .answered status (.ok body) =>
      if !isSuccess status then .error (.upstream ⟨status, classifyUpstreamError status body⟩)
      else
        match client.createdPost body with
        | .error err => .error (.stateUnknown ["decode ptchan reply response", err] true)
        | .ok none => .error (.stateUnknown ["ptchan reply response did not include postId"] true)
        | .ok (some postId) => .ok {
            board := board
            threadId := threadId
            postId := postId
            url := threadUrl baseUrl board threadId ++ "#" ++ toString postId.toInt
            origin := ⟨.integration, posting.name⟩ }

structure PostWriter where
  baseUrl : String
  deriving DecidableEq

/-- The request `reply` sends and its result. -/
def PostWriter.reply (writer : PostWriter) (client : Client) (posting : PostingConfig) (board : String)
    (threadId : Int64) (request : ReplyRequest) : UpstreamRequest × Except ReplyError ReplyResponse :=
  let sent := replyRequest writer.baseUrl posting board threadId request
  (sent, replyAnswer client writer.baseUrl posting board threadId (client.send sent))

end PtchanGateway
