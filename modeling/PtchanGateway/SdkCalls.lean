import PtchanGateway.ContractAnswers
import PtchanGateway.ReplyBodies
import PtchanGateway.SdkSigning

/-!
Calls of the Go client (`clients/go/client.go`): what becomes of the answer to a request. An answer is bounded, an
error is decoded from its envelope, and a success is decoded and checked against what was asked. What the gateway
answers is decoded as it was meant.
-/

namespace PtchanGateway

open TextRfc3339 TextRust JsonValue JsonGo Config Upstream

/-- An answer on the wire. -/
structure HttpAnswer where
  status : Nat
  body : Bytes
  deriving DecidableEq

/-- The answer of a route; `page` is what the framework writes for a rejection. -/
def Response.answer (codec : Codec) (page : Nat → Bytes) : Response → HttpAnswer
  | .rejection status => ⟨status, page status⟩
  | .error status body => ⟨status, codec.write body.envelope⟩
  | .thread found => ⟨200, codec.write found.toJson⟩
  | .reply made => ⟨200, codec.write made.toJson⟩

namespace Sdk

structure ReplyResponse where
  board : String
  threadId : Int64
  postId : Int64
  url : String
  origin : PostOrigin
  deriving DecidableEq, Repr

/-- The error envelope of the gateway, with the status it came under. -/
structure Error where
  statusCode : Nat
  code : String
  message : String
  retryable : Bool
  upstreamStatus : Int64
  deriving DecidableEq, Repr

inductive CallError where
  | failed (message : String)
  | responseTooLarge
  | gateway (err : Error)
  deriving DecidableEq, Repr

/-- The body of an answer as it arrives: the bytes, and the error they end in, if any. -/
structure ArrivingBody where
  bytes : Bytes
  broken : Option String

/-- A client with its transport and the size of the answers it takes, which no option sets to less than one. -/
structure Connection where
  client : Client
  maxResponseBytes : Int64
  positive : 0 < maxResponseBytes.toInt
  exchange : SentRequest → Except String (Nat × ArrivingBody)
  fault : Bytes → String

def decodeReplyResponse : Json → Option ReplyResponse
  | .obj members =>
      if requireFields members ["board", "thread_id", "post_id", "url", "origin"] then do
        some {
          board := ← valueField Json.asStr "" (fieldValues "board" members)
          threadId := ← valueField decodeInt64 0 (fieldValues "thread_id" members)
          postId := ← valueField decodeInt64 0 (fieldValues "post_id" members)
          url := ← valueField Json.asStr "" (fieldValues "url" members)
          origin := ← valueField decodeOrigin ⟨"", ""⟩ (fieldValues "origin" members) }
      else none
  | _ => none

/-- The raw value of the envelope: the last one given. -/
def decodeEnvelope : Json → Option Json
  | .obj members => (fieldValues "error" members).getLast?
  | _ => none

def Error.decode (statusCode : Nat) : Json → Option Error
  | .obj members =>
      if requireFields members ["code", "message", "retryable"] then do
        some {
          statusCode := statusCode
          code := ← valueField Json.asStr "" (fieldValues "code" members)
          message := ← valueField Json.asStr "" (fieldValues "message" members)
          retryable := ← valueField JsonGo.decodeBool false (fieldValues "retryable" members)
          upstreamStatus := ← valueField decodeInt64 0 (fieldValues "upstream_status" members) }
      else none
  | _ => none

def decodeError (statusCode : Nat) (body : Bytes) : CallError :=
  match ((unmarshal body).bind decodeEnvelope).bind (Error.decode statusCode) with
  | none => .failed ("ptchan gateway: unexpected HTTP status " ++ toString statusCode)
  | some err => .gateway err

def validateReplyResponse (reply : ReplyResponse) (requested : ThreadRef) (integrationName : String) :
    Except String Unit :=
  if reply.board = "" ∨ reply.threadId.toInt ≤ 0 ∨ reply.postId.toInt ≤ 0 ∨ reply.url = "" then
    .error "board, thread_id, post_id, and url are required"
  else if reply.board ≠ requested.board ∨ reply.threadId ≠ requested.threadId then
    .error "coordinates do not match requested thread"
  else
    match validateOrigin reply.origin with
    | .error err => .error ("origin: " ++ err)
    | .ok () =>
        if reply.origin.name ≠ integrationName then .error "origin does not match requesting integration" else .ok ()

/-- `io.ReadAll` of an `io.LimitReader`. It sees no error that lies behind the limit, and reads nothing at all if the
limit is not positive. -/
def readLimited (limit : Int64) (body : ArrivingBody) : Except String Bytes :=
  match body.broken with
  | some err => if (body.bytes.length : Int) < limit.toInt then .error err else .ok (body.bytes.take limit.toInt.toNat)
  | none => .ok (body.bytes.take limit.toInt.toNat)

/-- The end of `do`: what the bytes of an answer are decoded to. An answer without a body leaves the zero value. -/
def decodeResponse {α : Type} (fault : Bytes → String) (decode : Json → Option α) (zero : α) (status : Nat)
    (respBody : Bytes) : Except CallError α :=
  if !isSuccess status then .error (decodeError status respBody)
  else if respBody.isEmpty then .ok zero
  else
    match (unmarshal respBody).bind decode with
    | none => .error (.failed ("ptchan gateway: decode response: " ++ fault respBody))
    | some value => .ok value

/-- The second half of `do`. The limit is an `int64`, and the greatest of them wraps when one is added. -/
def receive {α : Type} (fault : Bytes → String) (maxResponseBytes : Int64) (decode : Json → Option α) (zero : α) :
    Except String (Nat × ArrivingBody) → Except CallError α
  | .error err => .error (.failed ("ptchan gateway: request: " ++ err))
  | .ok (status, body) =>
      match readLimited (maxResponseBytes + 1) body with
      | .error err => .error (.failed ("ptchan gateway: read response: " ++ err))
      | .ok respBody =>
          if maxResponseBytes.toInt < respBody.length then .error .responseTooLarge
          else decodeResponse fault decode zero status respBody

theorem toInt_add_one {limit : Int64} (hpositive : 0 < limit.toInt) (hbounded : limit.toInt < 2 ^ 63 - 1) :
    (limit + 1).toInt = limit.toInt + 1 := by
  have hone : (1 : Int64).toInt = 1 := rfl
  rw [Int64.toInt_add, hone]
  apply Int.bmod_eq_of_le
  · omega
  · omega

/-- Below the greatest limit, an answer that arrives whole is too long or decoded as it is. -/
theorem receive_whole {α : Type} (fault : Bytes → String) (decode : Json → Option α) (zero : α) (status : Nat)
    (body : Bytes) {maxResponseBytes : Int64} (hpositive : 0 < maxResponseBytes.toInt)
    (hbounded : maxResponseBytes.toInt < 2 ^ 63 - 1) :
    receive fault maxResponseBytes decode zero (.ok (status, ⟨body, none⟩)) =
      if maxResponseBytes.toInt < body.length then .error .responseTooLarge
      else decodeResponse fault decode zero status body := by
  have hsum := toInt_add_one hpositive hbounded
  rw [receive, readLimited, hsum]
  dsimp only
  by_cases hlong : maxResponseBytes.toInt < body.length
  · have htaken : maxResponseBytes.toInt < ((body.take (maxResponseBytes.toInt + 1).toNat).length : Int) := by
      rw [List.length_take]
      omega
    rw [if_pos hlong, if_pos htaken]
  · have htaken : body.take (maxResponseBytes.toInt + 1).toNat = body := by
      apply List.take_of_length_le
      omega
    rw [htaken]

/-- At the greatest limit nothing of an answer is read: an error has no code, and a success has no content. -/
theorem receive_greatest {α : Type} (fault : Bytes → String) (decode : Json → Option α) (zero : α) (status : Nat)
    (body : ArrivingBody) :
    receive fault Int64.maxValue decode zero (.ok (status, body)) =
      if isSuccess status then .ok zero
      else .error (.failed ("ptchan gateway: unexpected HTTP status " ++ toString status)) := by
  have hread : readLimited (Int64.maxValue + 1) body = .ok [] := by
    have hsum : (Int64.maxValue + 1).toInt = -2 ^ 63 := by decide
    have hshort : ¬(body.bytes.length : Int) < -2 ^ 63 := by omega
    rw [readLimited, hsum]
    cases body.broken with
    | none => rfl
    | some err => exact if_neg hshort
  have hempty : unmarshal [] = none := by decide +kernel
  have hlength : ¬Int64.maxValue.toInt < (([] : Bytes).length : Int) := by decide
  rw [receive, hread]
  dsimp only
  rw [if_neg hlength, decodeResponse, decodeError, hempty]
  cases isSuccess status with
  | false => rfl
  | true => rfl

section Calls

variable (mac : Bytes → Bytes → Bytes) (connection : Connection)

/-- `ReadThread` -/
def Connection.readThread (ref : ThreadRef) (limit : Int64) : Except CallError Thread :=
  match connection.client.readThread mac ref limit with
  | .error err => .error (.failed err)
  | .ok sent =>
      match receive connection.fault connection.maxResponseBytes decodeThread ⟨"", 0, none, false⟩
          (connection.exchange sent) with
      | .error err => .error err
      | .ok thread =>
          match validateThread thread ref with
          | .error err => .error (.failed ("ptchan gateway: invalid thread response: " ++ err))
          | .ok () => .ok thread

/-- `PostReply` -/
def Connection.postReply (ref : ThreadRef) (message : String) (sage : Bool) : Except CallError ReplyResponse :=
  match connection.client.postReply mac ref message sage with
  | .error err => .error (.failed err)
  | .ok sent =>
      match receive connection.fault connection.maxResponseBytes decodeReplyResponse ⟨"", 0, 0, "", ⟨"", ""⟩⟩
          (connection.exchange sent) with
      | .error err => .error err
      | .ok reply =>
          match validateReplyResponse reply ref connection.client.credentials.name with
          | .error err => .error (.failed ("ptchan gateway: invalid reply response: " ++ err))
          | .ok () => .ok reply

end Calls

/-! ### What the gateway writes -/

section Written

variable {serde : Serde} (hserde : Documented serde)

include hserde

theorem unmarshal_write {levels : Nat} {value : Json} (hsafe : Safe levels value) (hlevels : levels < 128) :
    unmarshal (serde.codec.write value) = some (sorted value) := by
  rw [hserde.write _ hsafe.plain, unmarshal,
    JsonText.codec.read_write _ hsafe.plain (Nat.lt_of_le_of_lt hsafe.shallow hlevels)]
  rfl

/-- What is written is not empty. -/
theorem write_isEmpty {levels : Nat} {value : Json} (hsafe : Safe levels value) (hlevels : levels < 128) :
    (serde.codec.write value).isEmpty = false := by
  have hread := unmarshal_write hserde hsafe hlevels
  have hnone : unmarshal [] = none := by decide +kernel
  cases hbody : serde.codec.write value with
  | nil =>
      rw [hbody, hnone] at hread
      cases hread
  | cons byte bytes => rfl

/-- A success is decoded. -/
theorem decodeResponse_success {α : Type} (fault : Bytes → String) (decode : Json → Option α) (zero : α) {levels : Nat}
    {value : Json} (hsafe : Safe levels value) (hlevels : levels < 128) :
    decodeResponse fault decode zero 200 (serde.codec.write value) =
      match decode (sorted value) with
      | none => .error (.failed ("ptchan gateway: decode response: " ++ fault (serde.codec.write value)))
      | some result => .ok result := by
  have hsuccess : (!isSuccess 200) = false := by decide
  rw [decodeResponse, hsuccess, write_isEmpty hserde hsafe hlevels, unmarshal_write hserde hsafe hlevels,
    Option.bind_some]
  rfl

end Written

/-- A reply as the client holds it. -/
def heldReply (made : PtchanGateway.ReplyResponse) : ReplyResponse :=
  ⟨made.board, made.threadId, made.postId, made.url, ⟨"integration", made.origin.name⟩⟩

/-- An error as the client holds it. -/
def heldError (status : Nat) (body : ErrorBody) : Error where
  statusCode := status
  code := body.code.asStr
  message := body.message
  retryable := body.retryable
  upstreamStatus := (body.upstreamStatus.map Int64.ofNat).getD 0

theorem upstreamStatus_safe {upstream : Option Nat} (hstatus : ∀ status, upstream = some status → status < 2 ^ 16) :
    SafeMembers 1 ["upstream_status"]
      (optionalMember "upstream_status" (fun status : Nat => .num (.int status)) upstream) := by
  cases upstream with
  | none => exact .nil _ _
  | some status =>
      have hsmall := hstatus status rfl
      refine .cons "upstream_status" (by decide) (.int _ ?_ ?_) (.nil _ _)
      · omega
      · omega

theorem errorBody_safe {body : ErrorBody} (hstatus : ∀ status, body.upstreamStatus = some status → status < 2 ^ 16) :
    Safe 2 body.toJson := by
  have hfirst : SafeMembers 1 ["code", "message", "retryable"] [("code", .str body.code.asStr),
      ("message", .str body.message), ("retryable", .bool body.retryable)] :=
    .cons "code" (by decide) (.str _ _) <| .cons "message" (by decide) (.str _ _) <|
      .cons "retryable" (by decide) (.bool _ _) <| .nil _ []
  exact .obj (hfirst.append (upstreamStatus_safe hstatus)) (by decide)

theorem envelope_safe {body : ErrorBody} (hstatus : ∀ status, body.upstreamStatus = some status → status < 2 ^ 16) :
    Safe 3 body.envelope :=
  .obj (.cons "error" (by decide) (errorBody_safe hstatus) <| .nil _ []) (by decide)

theorem valueField_upstreamStatus {upstream : Option Nat}
    (hstatus : ∀ status, upstream = some status → status < 2 ^ 16) :
    valueField decodeInt64 0 (((upstream.map fun status : Nat => Json.num (.int status)).map sorted).toList) =
      some ((upstream.map Int64.ofNat).getD 0) := by
  cases upstream with
  | none => rfl
  | some status =>
      have hsmall := hstatus status rfl
      have hrange : -2 ^ 63 ≤ (status : Int) ∧ (status : Int) < 2 ^ 63 := by omega
      have hsame : Int64.ofInt (status : Int) = Int64.ofNat status := Int64.ofInt_eq_ofNat
      rw [Option.map_some, Option.map_some, Option.toList_some, valueField_singleton _ _ rfl]
      simp only [sorted, decodeInt64, Json.asI64, if_pos hrange, hsame, Option.map_some, Option.getD_some]

theorem decode_errorBody (statusCode : Nat) {body : ErrorBody}
    (hstatus : ∀ status, body.upstreamStatus = some status → status < 2 ^ 16) :
    Error.decode statusCode (sorted body.toJson) = some (heldError statusCode body) := by
  let members : List (String × Json) := [("code", .str body.code.asStr), ("message", .str body.message),
      ("retryable", .bool body.retryable)] ++
    optionalMember "upstream_status" (fun status : Nat => .num (.int status)) body.upstreamStatus
  have hplain : PlainNames members := by
    have hsafe := (SafeMembers.append (.cons "code" (by decide) (.str 1 body.code.asStr) <|
      .cons "message" (by decide) (.str _ body.message) <| .cons "retryable" (by decide) (.bool _ body.retryable) <|
      .nil _ []) (upstreamStatus_safe hstatus))
    exact plainNames_of_safe hsafe (by decide) (by decide)
  have hcode : lookup "code" members = some (.str body.code.asStr) := by simp [members, lookup]
  have hmessage : lookup "message" members = some (.str body.message) := by simp [members, lookup]
  have hretryable : lookup "retryable" members = some (.bool body.retryable) := by simp [members, lookup]
  have hupstream : lookup "upstream_status" members =
      body.upstreamStatus.map fun status : Nat => Json.num (.int status) := by
    simp [members, lookup, lookup_optionalMember]
  have hrequired : requireFields (mapOrder members) ["code", "message", "retryable"] = true := by
    simp only [requireFields, mapMember_mapOrder hplain, List.all_cons, List.all_nil, hcode, hmessage, hretryable,
      Option.map_some, Option.any_some, isNull_sorted]
    rfl
  have hflag : valueField JsonGo.decodeBool false [sorted (.bool body.retryable)] = some body.retryable :=
    valueField_singleton _ _ rfl
  change Error.decode statusCode (sorted (.obj members)) = _
  rw [sorted_obj, Error.decode, if_pos hrequired]
  simp only [fieldValues_mapOrder hplain, hcode, hmessage, hretryable, hupstream, Option.map_some, Option.toList_some,
    valueField_text, hflag, valueField_upstreamStatus hstatus, Option.bind_eq_bind, Option.bind_some]
  rfl

theorem decodeEnvelope_toJson (body : ErrorBody) :
    decodeEnvelope (sorted body.envelope) = some (sorted body.toJson) := by
  have hplain : PlainNames [("error", body.toJson)] := ⟨by simp, by simp [foldName]; decide⟩
  rw [ErrorBody.envelope, sorted_obj, decodeEnvelope, fieldValues_mapOrder hplain]
  simp [lookup]

/-- An error reaches the caller as it was answered. -/
theorem decodeResponse_error {α : Type} {serde : Serde} (hserde : Documented serde) (fault : Bytes → String)
    (decode : Json → Option α) (zero : α) {status : Nat} {body : ErrorBody} (hrejected : isSuccess status = false)
    (hstatus : ∀ status, body.upstreamStatus = some status → status < 2 ^ 16) :
    decodeResponse fault decode zero status (serde.codec.write body.envelope) =
      .error (.gateway (heldError status body)) := by
  rw [decodeResponse, hrejected, decodeError,
    unmarshal_write hserde (envelope_safe hstatus) (by decide), Option.bind_some, decodeEnvelope_toJson,
    Option.bind_some, decode_errorBody status hstatus]
  rfl

end Sdk

end PtchanGateway
