import PtchanGateway.JsonText
import PtchanGateway.Runtime

/-!
What signatures cover (`webhook.rs`, `runtime/auth.rs`). One secret signs the deliveries of a webhook and
the reads and replies of an integration, each over texts joined by points. A timestamp ends where it says,
and after it stands a brace, or a method and its target; so the three uses never share an input, and a read
determines its parts. A reply determines all but the point between its query and its body.
-/

namespace PtchanGateway

open TextRfc3339 TextRust JsonValue Config Upstream

/-- The bytes a webhook signature covers. -/
def webhookBytes (timestamp : String) (payload : Bytes) : Bytes := asBytes timestamp ++ [46] ++ payload

/-- The request of one attempt. -/
structure DeliveryRequest where
  url : String
  timeoutSeconds : Nat
  headers : List (String × String)
  body : Bytes
  deriving DecidableEq, Repr

namespace Webhook

def deliveryTimeoutSeconds : Nat := 10

section Requests

variable (mac : Bytes → Bytes → Bytes)

def signature (secret timestamp : String) (payload : Bytes) : String :=
  "hmac-sha256=" ++ hexEncode (mac (asBytes secret) (webhookBytes timestamp payload))

def deliveryRequest (endpoint : WebhookConfig) (eventId timestamp : String) (payload : Bytes) : DeliveryRequest where
  url := endpoint.url
  timeoutSeconds := deliveryTimeoutSeconds
  headers := [("content-type", "application/json"), ("x-ptchan-event-id", eventId),
    ("x-ptchan-timestamp", timestamp), ("x-ptchan-signature", signature mac endpoint.secret timestamp payload)]
  body := payload

/-- The request `deliver` sends at a moment. -/
def deliver (endpoint : WebhookConfig) (eventId : String) (now : Moment) (payload : Bytes) : DeliveryRequest :=
  deliveryRequest mac endpoint eventId now.toRfc3339 payload

end Requests

end Webhook

/-- A timestamp ends where it says. -/
theorem timestamp_split {timestamp other : String} (hfirst : (parseRfc3339 timestamp).isSome = true)
    (hsecond : (parseRfc3339 other).isSome = true) {rest others : Bytes}
    (h : asBytes timestamp ++ rest = asBytes other ++ others) : timestamp = other ∧ rest = others := by
  have hends : ∀ {short long more : String}, (parseRfc3339 short).isSome = true →
      (parseRfc3339 long).isSome = true → long = short ++ more → more = "" := by
    intro short long more hshort hlong heq
    obtain ⟨m, hm⟩ := Option.isSome_iff_exists.1 hshort
    by_contra hmore
    rw [← String.toList_inj, String.toList_empty] at hmore
    rw [heq, parseRfc3339, String.toList_append, parse_append hm hmore] at hlong
    cases hlong
  rcases append_cases_of_asBytes h with ⟨more, heq, hrest⟩ | ⟨more, heq, hrest⟩
  · obtain rfl := hends hfirst hsecond heq
    exact ⟨(heq.trans String.append_empty).symm, hrest⟩
  · obtain rfl := hends hsecond hfirst heq
    exact ⟨heq.trans String.append_empty, hrest.symm⟩

/-- The characters of a method, which is a token. -/
def isTokenChar (c : Char) : Bool := isAsciiAlphanumeric c || "!#$%&'*+-.^_`|~".toList.contains c

theorem slash_not_mem_token {method : String} (h : ∀ c ∈ method.toList, isTokenChar c = true) :
    '/' ∉ method.toList := by
  intro hmem
  exact absurd (h '/' hmem) (by decide)

/-- A method and a target that starts at a slash are told apart. -/
theorem method_split {method other target second : List Char} (hfirst : '/' ∉ method) (hsecond : '/' ∉ other)
    (h : method ++ '.' :: '/' :: target = other ++ '.' :: '/' :: second) : method = other ∧ target = second := by
  have hpoint : ∀ {text : List Char}, '/' ∉ text → '/' ∉ text ++ ['.'] := by
    intro text htext
    simp [htext]
  have hmoved : (method ++ ['.']) ++ '/' :: target = (other ++ ['.']) ++ '/' :: second := by simpa using h
  obtain ⟨hmethod, htarget⟩ := append_separator_inj (hpoint hfirst) (hpoint hsecond) hmoved
  exact ⟨List.append_cancel_right hmethod, htarget⟩

/-- The paths of the reply route. -/
def ReplyPath (path : String) : Prop :=
  ∃ board threadId : String, '/' ∉ board.toList ∧ '/' ∉ threadId.toList ∧ board ≠ "" ∧ threadId ≠ "" ∧
    path = "/integration/v1/threads/" ++ board ++ "/" ++ threadId ++ "/replies"

/-- What follows the path in a target: nothing, or a question mark and a query. -/
def IsQuery (text : String) : Prop := text = "" ∨ ∃ query, text = "?" ++ query

/-- A request with a path of the reply route, as the HTTP library gives it. -/
structure OnReplyRoute (request : Request) : Prop where
  method : ∀ c ∈ request.method.toList, isTokenChar c = true
  path : ReplyPath request.uri.path
  target : ∃ query, IsQuery query ∧ request.uri.target = request.uri.path ++ query

/-- The path of the route ends at its last segment, whatever follows. -/
theorem replyPath_split {path other rest others : String} (hpath : ReplyPath path) (hother : ReplyPath other)
    (h : path ++ rest = other ++ others) : path = other ∧ rest = others := by
  obtain ⟨board, threadId, hboard, hthread, -, -, rfl⟩ := hpath
  obtain ⟨otherBoard, otherId, hotherBoard, hotherThread, -, -, rfl⟩ := hother
  rw [← String.toList_inj] at h
  simp only [String.toList_append, List.append_assoc] at h
  have hslash : "/".toList = ['/'] := by decide
  have hend : "/replies".toList = '/' :: "replies".toList := by decide
  rw [hslash, hend] at h
  simp only [List.cons_append, List.nil_append] at h
  obtain ⟨hboards, htail⟩ := append_separator_inj hboard hotherBoard (List.append_cancel_left h)
  obtain ⟨hthreads, hrest⟩ := append_separator_inj hthread hotherThread htail
  rw [String.toList_inj] at hboards hthreads
  subst hboards hthreads
  exact ⟨rfl, String.toList_inj.1 (List.append_cancel_left hrest)⟩

/-- One target is the other's followed by a point and more of the query, and the other's body starts with that. -/
def Shifted (target : String) (body : Bytes) (longer : String) (rest : Bytes) : Prop :=
  ∃ more, '?' ∈ target.toList ∧ longer = target ++ "." ++ more ∧ body = asBytes more ++ 46 :: rest

/-- Two inputs with one tag. -/
def Collision (mac : Bytes → Bytes → Bytes) (key : Bytes) : Prop :=
  ∃ left right, left ≠ right ∧ mac key left = mac key right

theorem ReplyPath.target_eq {path : String} (h : ReplyPath path) (query : String) :
    ∃ rest, (path ++ query).toList = '/' :: rest := by
  obtain ⟨board, threadId, -, -, -, -, rfl⟩ := h
  simp only [String.toList_append, List.append_assoc]
  exact ⟨_, rfl⟩

theorem signedBytes_some (timestamp method target : String) (body : Bytes) :
    signedBytes timestamp method target (some body) =
      asBytes timestamp ++ 46 :: (asBytes (method ++ "." ++ target) ++ 46 :: body) := by
  have hpoint : asBytes "." = [46] := by decide
  simp only [signedBytes, asBytes_append, hpoint, List.append_assoc, List.cons_append, List.nil_append]

theorem longer_split {request longer : Request} (hrequest : OnReplyRoute request) (hlonger : OnReplyRoute longer)
    {more : String}
    (h : longer.method ++ "." ++ longer.uri.target = request.method ++ "." ++ request.uri.target ++ more) :
    request.method = longer.method ∧ longer.uri.target = request.uri.target ++ more := by
  obtain ⟨query, -, heq⟩ := hrequest.target
  obtain ⟨other, -, hotherEq⟩ := hlonger.target
  obtain ⟨tail, htail⟩ := hrequest.path.target_eq query
  obtain ⟨otherTail, hotherTail⟩ := hlonger.path.target_eq other
  rw [← heq] at htail
  rw [← hotherEq] at hotherTail
  have hchars := congrArg String.toList h
  simp only [String.toList_append, htail, hotherTail, List.append_assoc, List.cons_append] at hchars
  obtain ⟨hmethod, htails⟩ := method_split (slash_not_mem_token hlonger.method)
    (slash_not_mem_token hrequest.method) hchars
  refine ⟨(String.toList_inj.1 hmethod).symm, ?_⟩
  rw [← String.toList_inj, String.toList_append, hotherTail, htail, htails, List.cons_append]

/-- A longer target of the route holds the shorter one's query. -/
theorem shifted_of_longer {request longer : Request} (hrequest : OnReplyRoute request)
    (hlonger : OnReplyRoute longer) {more : String} {body rest : Bytes}
    (htarget : longer.uri.target = request.uri.target ++ more) (hbody : 46 :: body = asBytes more ++ 46 :: rest) :
    request.uri.path = longer.uri.path ∧ (request.uri.target = longer.uri.target ∧ body = rest ∨
      Shifted request.uri.target body longer.uri.target rest) := by
  obtain ⟨query, hquery, heq⟩ := hrequest.target
  obtain ⟨other, hother, hotherEq⟩ := hlonger.target
  have hsplit : longer.uri.path ++ other = request.uri.path ++ (query ++ more) := by
    rw [← hotherEq, htarget, heq, String.append_assoc]
  obtain ⟨hpath, hqueries⟩ := replyPath_split hlonger.path hrequest.path hsplit
  refine ⟨hpath.symm, ?_⟩
  rcases List.cons_eq_append_iff.1 hbody with ⟨hempty, hrest⟩ | ⟨tail, hmore, hrest⟩
  · left
    have hnone : more = "" := asBytes_inj hempty
    rw [htarget, hnone, String.append_empty]
    exact ⟨rfl, (List.cons.inj hrest).2.symm⟩
  · right
    have hpoint : asBytes "." ++ tail = asBytes more := by
      rw [hmore]
      rfl
    obtain ⟨extra, rfl, rfl⟩ := exists_append_of_asBytes hpoint
    refine ⟨extra, ?_, by rw [htarget, String.append_assoc], hrest⟩
    rcases hquery with rfl | ⟨text, rfl⟩
    · -- Without a query the longer target would have a point where its path ends.
      rcases hother with rfl | ⟨text, rfl⟩
      · exact absurd (congrArg String.toList hqueries) (by simp)
      · exact absurd (congrArg (fun text => text.toList.head?) hqueries) (by simp)
    · rw [heq]
      simp

theorem signedBytes_eq_iff {first second : Request} (hfirst : OnReplyRoute first) (hsecond : OnReplyRoute second)
    {timestamp other : String} (hstamp : (parseRfc3339 timestamp).isSome = true)
    (hother : (parseRfc3339 other).isSome = true) (body rest : Bytes) :
    signedBytes timestamp first.method first.uri.target (some body) =
        signedBytes other second.method second.uri.target (some rest) ↔
      timestamp = other ∧ first.method = second.method ∧ first.uri.path = second.uri.path ∧
        (first.uri.target = second.uri.target ∧ body = rest ∨
          Shifted first.uri.target body second.uri.target rest ∨
          Shifted second.uri.target rest first.uri.target body) := by
  rw [signedBytes_some, signedBytes_some]
  constructor
  · intro h
    obtain ⟨rfl, htail⟩ := timestamp_split hstamp hother h
    rcases append_cases_of_asBytes (List.cons.inj htail).2 with ⟨more, heq, hbody⟩ | ⟨more, heq, hbody⟩
    · obtain ⟨hmethod, htarget⟩ := longer_split hfirst hsecond heq
      obtain ⟨hpath, hparts⟩ := shifted_of_longer hfirst hsecond htarget hbody
      exact ⟨rfl, hmethod, hpath, hparts.imp_right .inl⟩
    · obtain ⟨hmethod, htarget⟩ := longer_split hsecond hfirst heq
      obtain ⟨hpath, hparts⟩ := shifted_of_longer hsecond hfirst htarget hbody
      refine ⟨rfl, hmethod.symm, hpath.symm, ?_⟩
      rcases hparts with ⟨htargets, hbodies⟩ | hshifted
      · exact .inl ⟨htargets.symm, hbodies.symm⟩
      · exact .inr (.inr hshifted)
  · rintro ⟨rfl, hmethod, -, hparts⟩
    rw [hmethod]
    rcases hparts with ⟨htarget, hbody⟩ | ⟨more, -, hlonger, hbody⟩ | ⟨more, -, hlonger, hbody⟩
    · rw [htarget, hbody]
    · rw [hlonger, hbody]
      simp [asBytes_append, show asBytes "." = [46] by decide]
    · rw [hlonger, hbody]
      simp [asBytes_append, show asBytes "." = [46] by decide]

/-- A request whose query, if it has one, holds no point. -/
def PointFree (request : Request) : Prop :=
  ∀ query, request.uri.target = request.uri.path ++ query → '.' ∉ query.toList

theorem pointFree_of_target {request : Request} {query : String}
    (h : request.uri.target = request.uri.path ++ query) (hquery : '.' ∉ query.toList) : PointFree request := by
  intro other hother
  have hchars := congrArg String.toList (h.symm.trans hother)
  rw [String.toList_append, String.toList_append] at hchars
  rw [← List.append_cancel_left hchars]
  exact hquery

theorem not_shifted_of_pointFree {request longer : Request} (hrequest : OnReplyRoute request)
    (hpath : request.uri.path = longer.uri.path) (hfree : PointFree longer) {body rest : Bytes} :
    ¬Shifted request.uri.target body longer.uri.target rest := by
  rintro ⟨more, -, hlonger, -⟩
  obtain ⟨query, -, heq⟩ := hrequest.target
  apply hfree (query ++ "." ++ more)
  · rw [hlonger, heq, hpath, String.append_assoc, String.append_assoc, String.append_assoc]
  · simp

theorem verifyRequestSignature_eq_ok {mac : Bytes → Bytes → Bytes} {secret timestamp method signature : String}
    {uri : Uri} {body : Option Bytes} :
    verifyRequestSignature mac secret timestamp method uri body signature = .ok () ↔
      ∃ digits, signature.toList = "hmac-sha256=".toList ++ digits ∧
        hexDecode digits = some (mac (asBytes secret) (signedBytes timestamp method uri.target body)) := by
  simp only [verifyRequestSignature, bind_eq_ok, orBail_eq_ok, ensure_eq_ok, beq_iff_eq, stripStart_eq_some]
  constructor
  · rintro ⟨digits, hdigits, _, hdecoded, rfl⟩
    exact ⟨digits, hdigits, hdecoded⟩
  · rintro ⟨digits, hdigits, hdecoded⟩
    exact ⟨digits, hdigits, _, hdecoded, rfl⟩

/-- The input of a reply signature determines the timestamp, the method and the path; the query and the body
too, except for the point between them; and a signature accepted for two inputs is a collision. -/
theorem reply_signature_covers {first second : Request} (hfirst : OnReplyRoute first)
    (hsecond : OnReplyRoute second) {timestamp other : String} (hstamp : (parseRfc3339 timestamp).isSome = true)
    (hother : (parseRfc3339 other).isSome = true) (body rest : Bytes) :
    (signedBytes timestamp first.method first.uri.target (some body) =
        signedBytes other second.method second.uri.target (some rest) ↔
      timestamp = other ∧ first.method = second.method ∧ first.uri.path = second.uri.path ∧
        (first.uri.target = second.uri.target ∧ body = rest ∨
          Shifted first.uri.target body second.uri.target rest ∨
          Shifted second.uri.target rest first.uri.target body)) ∧
    (PointFree first → PointFree second →
      signedBytes timestamp first.method first.uri.target (some body) =
        signedBytes other second.method second.uri.target (some rest) →
      timestamp = other ∧ first.method = second.method ∧ first.uri.target = second.uri.target ∧ body = rest) ∧
    ∀ (mac : Bytes → Bytes → Bytes) (secret signature : String),
      verifyRequestSignature mac secret timestamp first.method first.uri (some body) signature = .ok () →
      verifyRequestSignature mac secret other second.method second.uri (some rest) signature = .ok () →
      signedBytes timestamp first.method first.uri.target (some body) =
          signedBytes other second.method second.uri.target (some rest) ∨
        Collision mac (asBytes secret) := by
  have hiff := signedBytes_eq_iff hfirst hsecond hstamp hother body rest
  refine ⟨hiff, ?_, ?_⟩
  · intro hpoint hotherPoint heq
    obtain ⟨htimestamps, hmethods, hpaths, ⟨htargets, hbodies⟩ | hshifted | hshifted⟩ := hiff.1 heq
    · exact ⟨htimestamps, hmethods, htargets, hbodies⟩
    · exact absurd hshifted (not_shifted_of_pointFree hfirst hpaths hotherPoint)
    · exact absurd hshifted (not_shifted_of_pointFree hsecond hpaths.symm hpoint)
  · intro mac secret signature haccepted hotherAccepted
    obtain ⟨digits, hdigits, htag⟩ := verifyRequestSignature_eq_ok.1 haccepted
    obtain ⟨others, hothers, hotherTag⟩ := verifyRequestSignature_eq_ok.1 hotherAccepted
    obtain rfl := List.append_cancel_left (hdigits.symm.trans hothers)
    rw [htag, Option.some.injEq] at hotherTag
    by_cases heq : signedBytes timestamp first.method first.uri.target (some body) =
        signedBytes other second.method second.uri.target (some rest)
    · exact .inl heq
    · exact .inr ⟨_, _, heq, hotherTag⟩

namespace Sample

/-- A reply on thread 42 of board i with a query and a body. -/
def queriedReply (query : String) (body : Bytes) : Request where
  method := "POST"
  uri := ⟨"/integration/v1/threads/i/42/replies", some ("/integration/v1/threads/i/42/replies" ++ query)⟩
  headers := []
  body := .ok body

theorem queriedReply_onReplyRoute {query : String} (h : IsQuery query) (body : Bytes) :
    OnReplyRoute (queriedReply query body) where
  method := List.all_eq_true.1 (show "POST".toList.all isTokenChar = true by decide)
  path := ⟨"i", "42", by decide, by decide, by decide, by decide,
    show "/integration/v1/threads/i/42/replies" =
      "/integration/v1/threads/" ++ "i" ++ "/" ++ "42" ++ "/replies" by decide⟩
  target := ⟨query, h, rfl⟩

theorem reply_signature_covers_replies :
    OnReplyRoute (queriedReply "" (asBytes "b")) ∧ (parseRfc3339 "2026-07-19T12:00:00Z").isSome = true ∧
      (signedBytes "2026-07-19T12:00:00Z" "POST" "/integration/v1/threads/i/42/replies" (some (asBytes "b")) =
        signedBytes "2026-07-19T12:00:00Z" "POST" "/integration/v1/threads/i/42/replies" (some (asBytes "c")) →
      asBytes "b" = asBytes "c") := by
  have hroute : ∀ body, OnReplyRoute (queriedReply "" body) := queriedReply_onReplyRoute (.inl rfl)
  have hstamp : (parseRfc3339 "2026-07-19T12:00:00Z").isSome = true := by decide
  have hfree : ∀ body, PointFree (queriedReply "" body) := fun _ => pointFree_of_target rfl (by decide)
  obtain ⟨-, hdetermined, -⟩ := reply_signature_covers (hroute (asBytes "b")) (hroute (asBytes "c")) hstamp hstamp
    (asBytes "b") (asBytes "c")
  exact ⟨hroute _, hstamp, fun heq => (hdetermined (hfree _) (hfree _) heq).2.2.2⟩

/-- The point of a query is taken for the one before the body. -/
theorem reply_signature_shifts :
    OnReplyRoute (queriedReply "?a" (asBytes "b.c")) ∧ OnReplyRoute (queriedReply "?a.b" (asBytes "c")) ∧
      (parseRfc3339 "2026-07-19T12:00:00Z").isSome = true ∧
      signedBytes "2026-07-19T12:00:00Z" "POST" (queriedReply "?a" (asBytes "b.c")).uri.target
          (some (asBytes "b.c")) =
        signedBytes "2026-07-19T12:00:00Z" "POST" (queriedReply "?a.b" (asBytes "c")).uri.target
          (some (asBytes "c")) ∧
      (queriedReply "?a" (asBytes "b.c")).uri.target ≠ (queriedReply "?a.b" (asBytes "c")).uri.target ∧
      asBytes "b.c" ≠ asBytes "c" :=
  ⟨queriedReply_onReplyRoute (.inr ⟨"a", by decide⟩) _, queriedReply_onReplyRoute (.inr ⟨"a.b", by decide⟩) _,
    by decide, by decide, by decide, by decide⟩

end Sample

/-! ### The uses of a secret -/

/-- What one secret is used for. -/
inductive Use where
  | webhook
  | read
  | reply
  deriving DecidableEq, Repr

/-- The inputs of the MAC under one secret: deliveries of encoded events, reads and replies. -/
inductive Signs (serde : Serde) : Use → Bytes → Prop
  | webhook (now : Moment) (hnow : now.frac < 2 * 10 ^ 9) (event : WebhookEvent) (payload : Bytes)
      (hpayload : encodeEvent serde event = .ok payload) : Signs serde .webhook (webhookBytes now.toRfc3339 payload)
  | read (timestamp method target : String) (hstamp : (parseRfc3339 timestamp).isSome = true)
      (hmethod : method = "GET" ∨ method = "HEAD") : Signs serde .read (signedBytes timestamp method target none)
  | reply (timestamp target : String) (body : Bytes) (hstamp : (parseRfc3339 timestamp).isSome = true) :
      Signs serde .reply (signedBytes timestamp "POST" target (some body))

/-- Objects are written from a brace on. -/
def WritesObjects (codec : Codec) : Prop := ∀ members, ∃ rest, codec.write (.obj members) = 123 :: rest

/-- The use that the byte after a timestamp and its point shows. -/
def Use.ofMark (byte : UInt8) : Option Use :=
  if byte = 123 then some .webhook
  else if byte = 71 ∨ byte = 72 then some .read
  else if byte = 80 then some .reply
  else none

theorem signedBytes_none (timestamp method target : String) :
    signedBytes timestamp method target none = asBytes timestamp ++ 46 :: (asBytes method ++ 46 :: asBytes target) := by
  simp only [signedBytes, List.append_assoc, List.cons_append, List.nil_append, List.append_nil]

/-- An input starts with a timestamp that can be read, or with a signed year; a point and the mark of its use
follow. -/
theorem Signs.shape {serde : Serde} (hwrites : WritesObjects serde.codec) {use : Use} {input : Bytes}
    (h : Signs serde use input) :
    ∃ (timestamp : String) (byte : UInt8) (rest : Bytes), input = asBytes timestamp ++ 46 :: byte :: rest ∧
      Use.ofMark byte = some use ∧ ((parseRfc3339 timestamp).isSome = true ∨
        use = .webhook ∧ ∃ tail, timestamp.toList = '-' :: tail ∨ timestamp.toList = '+' :: tail) := by
  cases h with
  | webhook now hnow event payload hpayload =>
      rw [encodeEvent_eq, Except.ok.injEq] at hpayload
      obtain ⟨rest, hrest⟩ := hwrites [("schema_version", event.schemaVersion.toJson), ("event_id", .str event.eventId),
        ("kind", .str event.kind.asStr), ("source", .str event.source),
        ("observed_at", momentJson event.observedAt.moment), ("post", event.post.toJson)]
      refine ⟨now.toRfc3339, 123, rest, ?_, rfl, ?_⟩
      · rw [webhookBytes, ← hpayload, WebhookEvent.toJson, hrest, List.append_assoc]
        rfl
      · by_cases hera : now.InEra
        · exact .inl (Moment.isSome_parse_toRfc3339 hera hnow)
        · obtain ⟨tail, htail⟩ := Moment.text_signed hera "+00:00".toList
          refine .inr ⟨rfl, tail, ?_⟩
          rw [Moment.toRfc3339, String.toList_ofList]
          exact htail
  | read timestamp method target hstamp hmethod =>
      rw [signedBytes_none]
      rcases hmethod with rfl | rfl
      · exact ⟨timestamp, 71, _, rfl, rfl, .inl hstamp⟩
      · exact ⟨timestamp, 72, _, rfl, rfl, .inl hstamp⟩
  | reply timestamp target body hstamp =>
      rw [signedBytes_some, String.append_assoc, asBytes_append, List.append_assoc]
      exact ⟨timestamp, 80, _, rfl, rfl, .inl hstamp⟩

/-- A signed year is not the start of a timestamp that can be read. -/
theorem not_signed_year {timestamp signed : String} (hstamp : (parseRfc3339 timestamp).isSome = true)
    (hsigned : ∃ tail, signed.toList = '-' :: tail ∨ signed.toList = '+' :: tail) {rest others : Bytes} :
    asBytes timestamp ++ rest ≠ asBytes signed ++ others := by
  intro h
  obtain ⟨m, hm⟩ := Option.isSome_iff_exists.1 hstamp
  obtain ⟨c, digits, hchars, hdigit⟩ := head_of_parse hm
  have hplain : c ≠ '-' ∧ c ≠ '+' := by
    constructor <;> rintro rfl <;> cases hdigit
  rcases append_cases_of_asBytes h with ⟨more, heq, -⟩ | ⟨more, heq, -⟩
  · rw [heq, String.toList_append, hchars, List.cons_append] at hsigned
    obtain ⟨tail, htail | htail⟩ := hsigned
    · exact hplain.1 (List.cons.inj htail).1
    · exact hplain.2 (List.cons.inj htail).1
  · rw [heq, String.toList_append] at hchars
    obtain ⟨tail, htail | htail⟩ := hsigned
    · rw [htail] at hchars
      exact hplain.1 (List.cons.inj hchars).1.symm
    · rw [htail] at hchars
      exact hplain.2 (List.cons.inj hchars).1.symm

/-- The uses of a secret share no input, and the input of a read determines its parts. -/
theorem uses_are_separate {serde : Serde} (hwrites : WritesObjects serde.codec) :
    (∀ (use other : Use) (input : Bytes), Signs serde use input → Signs serde other input → use = other) ∧
    ∀ (timestamp other method second target rest : String), (parseRfc3339 timestamp).isSome = true →
      (parseRfc3339 other).isSome = true → (method = "GET" ∨ method = "HEAD") →
      (second = "GET" ∨ second = "HEAD") →
      signedBytes timestamp method target none = signedBytes other second rest none →
      timestamp = other ∧ method = second ∧ target = rest := by
  constructor
  · intro use other input huse hother
    obtain ⟨timestamp, byte, rest, hinput, hmark, hstamp⟩ := huse.shape hwrites
    obtain ⟨second, otherByte, others, hsecond, hotherMark, hotherStamp⟩ := hother.shape hwrites
    rw [hinput] at hsecond
    rcases hstamp with hstamp | ⟨rfl, hsigned⟩
    · rcases hotherStamp with hotherStamp | ⟨rfl, hotherSigned⟩
      · obtain ⟨-, htail⟩ := timestamp_split hstamp hotherStamp hsecond
        obtain ⟨-, htail⟩ := List.cons.inj htail
        obtain ⟨rfl, -⟩ := List.cons.inj htail
        exact Option.some.inj (hmark.symm.trans hotherMark)
      · exact absurd hsecond (not_signed_year hstamp hotherSigned)
    · rcases hotherStamp with hotherStamp | ⟨rfl, -⟩
      · exact absurd hsecond.symm (not_signed_year hotherStamp hsigned)
      · rfl
  · intro timestamp other method second target rest hstamp hother hmethod hsecond h
    rw [signedBytes_none, signedBytes_none] at h
    obtain ⟨rfl, htail⟩ := timestamp_split hstamp hother h
    obtain ⟨-, htail⟩ := List.cons.inj htail
    have hpoint : ∀ {method : String}, method = "GET" ∨ method = "HEAD" → (46 : UInt8) ∉ asBytes method := by
      rintro _ (rfl | rfl) <;> decide
    obtain ⟨hmethods, htargets⟩ := append_separator_inj (hpoint hmethod) (hpoint hsecond) htail
    exact ⟨rfl, asBytes_inj hmethods, asBytes_inj htargets⟩

namespace Sample

theorem writesObjects : WritesObjects serde.codec := by
  intro members
  obtain ⟨rest, hrest⟩ : ∃ rest, JsonText.text (.obj members) = '\x7b' :: rest := by
    cases members with
    | nil => exact ⟨_, rfl⟩
    | cons member members => exact ⟨_, by rw [JsonText.text]⟩
  refine ⟨asBytes (String.ofList rest), ?_⟩
  have htext : String.ofList (JsonText.text (.obj members)) = "\x7b" ++ String.ofList rest := by
    rw [hrest, ← String.toList_inj]
    simp
  calc serde.codec.write (.obj members)
      = asBytes (String.ofList (JsonText.text (.obj members))) := rfl
    _ = 123 :: asBytes (String.ofList rest) := by
        rw [htext, asBytes_append]
        rfl

theorem uses_are_separate_samples :
    WritesObjects serde.codec ∧ Signs serde .read (signedBytes "2026-07-19T12:00:00Z" "GET" "/x" none) ∧
      Signs serde .reply (signedBytes "2026-07-19T12:00:00Z" "POST" "/x" (some [])) ∧
      signedBytes "2026-07-19T12:00:00Z" "GET" "/x" none ≠
        signedBytes "2026-07-19T12:00:00Z" "POST" "/x" (some []) := by
  have hread : Signs serde .read (signedBytes "2026-07-19T12:00:00Z" "GET" "/x" none) :=
    .read _ _ _ (by decide) (.inl rfl)
  have hreply : Signs serde .reply (signedBytes "2026-07-19T12:00:00Z" "POST" "/x" (some [])) :=
    .reply _ _ _ (by decide)
  refine ⟨writesObjects, hread, hreply, fun heq => ?_⟩
  have hsame := (uses_are_separate writesObjects).1 .read .reply _ hread (heq ▸ hreply)
  cases hsame

end Sample

end PtchanGateway
