import PtchanGateway.Upstream

/-!
Building the events (`event.rs`). A decoded post becomes a contract post, the event around it is encoded,
and the encoding is read back and checked for sensitive names before it is used. The check never trips:
the names in an encoding are those of the contract.
-/

namespace PtchanGateway

open TextRfc3339 TextRust JsonValue Config Upstream

def clean (value : Option String) : Option String :=
  value.bind fun v =>
    let trimmed := trim v
    if trimmed.isEmpty then none else some trimmed

def contractMessage (nomarkup message : Option String) : Option String := (clean nomarkup).or (clean message)

def countryCode (country : Option Country) : Option String := country.bind fun country => clean country.code

def postRef (value : Json) (fallbackBoard : String) (fallbackThreadId : Int64) : Option PostRef :=
  match value with
  | .num n => (Json.asI64 (.num n)).map fun postId => ⟨fallbackBoard, fallbackThreadId, postId⟩
  | .str text => (parseI64 text).map fun postId => ⟨fallbackBoard, fallbackThreadId, postId⟩
  | .obj members => do
      let postId ← ((lookup "postId" members).or (lookup "post_id" members)).bind Json.asI64
      let board := (((lookup "board" members).bind Json.asStr).bind fun value => clean (some value)).getD fallbackBoard
      let threadId := (((lookup "thread" members).or (lookup "thread_id" members)).bind Json.asI64).getD
        fallbackThreadId
      some ⟨board, threadId, postId⟩
  | .arr _ => none
  | .bool _ => none
  | .null => none

def postRefs (values : List Json) (board : String) (threadId : Int64) : List PostRef :=
  values.filterMap fun value => postRef value board threadId

def contractPost (baseUrl : String) (post : Upstream.Post) : Post :=
  let threadId := post.thread.getD post.id
  {
    board := post.board
    threadId := threadId
    id := post.id
    url := trimEndMatches '/' baseUrl ++ "/" ++ post.board ++ "/thread/" ++ toString threadId.toInt ++ ".html#" ++
      toString post.id.toInt
    date := post.date
    subject := clean post.subject
    message := contractMessage post.nomarkup post.message
    name := clean post.name
    tripcode := clean post.publicTripcode
    capcode := clean post.capcode
    donor := post.donor
    country := countryCode post.country
    posterFingerprint := none
    origin := none
    attachmentCount := UInt64.ofNat post.files.length
    references := postRefs post.quotes post.board threadId
    referencedBy := postRefs post.backlinks post.board threadId }

structure BuiltEvent where
  event : WebhookEvent
  payload : Bytes
  posterIdentity : Option String

section Encode

variable (serde : Serde)

def encodeEvent (event : WebhookEvent) : Except Chain Bytes := do
  let payload := serde.codec.write event.toJson
  assertContractSafe serde payload
  pure payload

def eventKind (post : Upstream.Post) : EventKind := if post.thread.isSome then .postCreated else .threadCreated

def eventId (post : Upstream.Post) : String :=
  "ptchan:" ++ (eventKind post).asStr ++ ":" ++ post.board ++ ":" ++ toString post.id.toInt

def webhookEvent (baseUrl : String) (post : Upstream.Post) (observedAt : Instant) : WebhookEvent where
  schemaVersion := .v1
  eventId := eventId post
  kind := eventKind post
  source := "ptchan"
  observedAt := observedAt
  post := contractPost baseUrl post

/-- A failed decoding is reported by its outermost message. -/
def decodeAs (what : String) (value : Json) : Except Chain DecodedPost :=
  match DecodedPost.tryFrom serde value with
  | .ok decoded => .ok decoded
  | .error causes => bail ("decode upstream " ++ what ++ ": " ++ causes.headD "")

def gatewayEvent (baseUrl : String) (value : Json) (observedAt : Instant) : Except Chain BuiltEvent := do
  let decoded ← decodeAs serde "newPost" value
  let event := webhookEvent baseUrl decoded.post observedAt
  let payload ← encodeEvent serde event
  pure ⟨event, payload, decoded.posterIdentity⟩

def contractPostFromValue (baseUrl : String) (value : Json) : Except Chain Post := do
  let decoded ← decodeAs serde "post" value
  pure (contractPost baseUrl decoded.post)

end Encode

/-- The pseudonym of a poster within one scope. -/
def posterFingerprint (mac : Bytes → Bytes → Bytes) (secret scope : String) (source : Option String) : Option String :=
  source.map fun source =>
    "hmac-sha256:" ++ hexEncode (mac (asBytes secret) (asBytes scope ++ [0] ++ asBytes source))

/-- A value that survives its text, names nothing sensitive and has few levels. -/
structure Safe (levels : Nat) (value : Json) : Prop where
  plain : plain value = true
  clean : hasKey isSensitive value = false
  shallow : depth value ≤ levels

/-- Members of that kind, with names among the given ones and in their order. -/
structure SafeMembers (levels : Nat) (names : List String) (members : List (String × Json)) : Prop where
  named : (members.map Prod.fst).Sublist names
  plain : plainMembers members = true
  clean : hasKeyMembers isSensitive members = false
  shallow : depthMembers members ≤ levels

theorem Safe.str (levels : Nat) (s : String) : Safe levels (.str s) := ⟨rfl, rfl, Nat.zero_le _⟩

theorem Safe.bool (levels : Nat) (b : Bool) : Safe levels (.bool b) := ⟨rfl, rfl, Nat.zero_le _⟩

theorem Safe.int (levels : Nat) {n : Int} (hlow : -2 ^ 63 ≤ n) (hhigh : n < 2 ^ 64) :
    Safe levels (.num (.int n)) :=
  ⟨by rw [JsonValue.plain, decide_eq_true_eq]; exact ⟨hlow, hhigh⟩, rfl, Nat.zero_le _⟩

theorem Safe.intJson (levels : Nat) (n : Int64) : Safe levels (intJson n) :=
  .int levels n.le_toInt (Int.lt_trans n.toInt_lt (by decide))

theorem SafeMembers.nil (levels : Nat) (names : List String) : SafeMembers levels names [] :=
  ⟨List.nil_sublist _, rfl, rfl, Nat.zero_le _⟩

theorem SafeMembers.cons {levels : Nat} {names : List String} {value : Json} {members : List (String × Json)}
    (key : String) (hkey : isSensitive key = false) (hvalue : Safe levels value)
    (hmembers : SafeMembers levels names members) :
    SafeMembers levels (key :: names) ((key, value) :: members) where
  named := hmembers.named.cons_cons key
  plain := by rw [plainMembers, hvalue.plain, hmembers.plain]; rfl
  clean := by rw [hasKeyMembers, hkey, hvalue.clean, hmembers.clean]; rfl
  shallow := Nat.max_le.2 ⟨hvalue.shallow, hmembers.shallow⟩

theorem SafeMembers.append {levels : Nat} {names others : List String} {members more : List (String × Json)}
    (hmembers : SafeMembers levels names members) (hmore : SafeMembers levels others more) :
    SafeMembers levels (names ++ others) (members ++ more) where
  named := by
    rw [List.map_append]
    exact hmembers.named.append hmore.named
  plain := by
    obtain ⟨-, hplain, -, -⟩ := hmembers
    induction members with
    | nil => exact hmore.plain
    | cons member members ih =>
        rw [plainMembers, Bool.and_eq_true] at hplain
        rw [List.cons_append, plainMembers, hplain.1, ih hplain.2]
        rfl
  clean := by
    have hclean := hmembers.clean
    have hmore := hmore.clean
    rw [hasKeyMembers_eq_any] at *
    rw [List.any_append, hclean, hmore]
    rfl
  shallow := by
    obtain ⟨-, -, -, hshallow⟩ := hmembers
    induction members with
    | nil => exact hmore.shallow
    | cons member members ih =>
        rw [depthMembers, Nat.max_le] at hshallow
        exact Nat.max_le.2 ⟨hshallow.1, ih hshallow.2⟩

theorem SafeMembers.optionalMember {levels : Nat} {α : Type} {encode : α → Json} (key : String)
    (hkey : isSensitive key = false) (hencode : ∀ value, Safe levels (encode value)) (value : Option α) :
    SafeMembers levels [key] (optionalMember key encode value) := by
  cases value with
  | none => exact .nil _ _
  | some value => exact .cons key hkey (hencode value) (.nil _ _)

theorem Safe.arr {levels : Nat} {α : Type} {encode : α → Json} (hencode : ∀ value, Safe levels (encode value))
    (values : List α) : Safe (levels + 1) (.arr (values.map encode)) := by
  have hlist : plainList (values.map encode) = true ∧ hasKeyList isSensitive (values.map encode) = false ∧
      depthList (values.map encode) ≤ levels := by
    induction values with
    | nil => exact ⟨rfl, rfl, Nat.zero_le _⟩
    | cons value values ih =>
        obtain ⟨hplain, hclean, hshallow⟩ := ih
        refine ⟨?_, ?_, Nat.max_le.2 ⟨(hencode value).shallow, hshallow⟩⟩
        · rw [List.map_cons, plainList, (hencode value).plain, hplain]
          rfl
        · rw [List.map_cons, hasKeyList, (hencode value).clean, hclean]
          rfl
  exact ⟨hlist.1, hlist.2.1, Nat.succ_le_succ hlist.2.2⟩

theorem SafeMembers.listMember {levels : Nat} {α : Type} {encode : α → Json} (key : String)
    (hkey : isSensitive key = false) (hencode : ∀ value, Safe levels (encode value)) (values : List α) :
    SafeMembers (levels + 1) [key] (listMember key encode values) := by
  cases values with
  | nil => exact .nil _ _
  | cons value values => exact .cons key hkey (.arr hencode (value :: values)) (.nil _ _)

theorem Safe.obj {levels : Nat} {names : List String} {members : List (String × Json)}
    (hmembers : SafeMembers levels names members) (hnames : names.Nodup) : Safe (levels + 1) (.obj members) where
  plain := by
    rw [JsonValue.plain, hmembers.plain, Bool.and_true, decide_eq_true_eq]
    exact hmembers.named.nodup hnames
  clean := hmembers.clean
  shallow := Nat.succ_le_succ hmembers.shallow

theorem PostRef.toJson_safe (ref : PostRef) : Safe 1 ref.toJson :=
  .obj (.cons "board" (by decide) (.str _ _) <| .cons "thread_id" (by decide) (.intJson _ _) <|
    .cons "post_id" (by decide) (.intJson _ _) <| .nil _ []) (by decide)

theorem PostOrigin.toJson_safe (origin : PostOrigin) : Safe 2 origin.toJson :=
  .obj (.cons "kind" (by decide) (.str _ _) <| .cons "name" (by decide) (.str _ _) <| .nil _ []) (by decide)

/-- The members of a post are of that kind. -/
theorem Post.toJson_members (post : Post) :
    ∃ members, post.toJson = .obj members ∧
      SafeMembers 2 ["board", "thread_id", "post_id", "url", "date", "subject", "message", "name", "tripcode",
        "capcode", "donor", "country", "poster_fingerprint", "origin", "attachment_count", "references",
        "referenced_by"] members := by
  have hplace : SafeMembers 2 ["board", "thread_id", "post_id", "url", "date"] [("board", .str post.board),
      ("thread_id", intJson post.threadId), ("post_id", intJson post.id), ("url", .str post.url),
      ("date", momentJson post.date)] :=
    .cons _ (by decide) (.str _ _) <| .cons _ (by decide) (.intJson _ _) <| .cons _ (by decide) (.intJson _ _) <|
      .cons _ (by decide) (.str _ _) <| .cons _ (by decide) (.str _ _) <| .nil _ _
  have hcount : SafeMembers 2 ["attachment_count"]
      [("attachment_count", .num (.int post.attachmentCount.toNat))] :=
    .cons _ (by decide) (.int _ (by omega) (by have := post.attachmentCount.toNat_lt; omega)) <| .nil _ _
  exact ⟨_, rfl, hplace
    |>.append (.optionalMember "subject" (by decide) (.str 2) post.subject)
    |>.append (.optionalMember "message" (by decide) (.str 2) post.message)
    |>.append (.optionalMember "name" (by decide) (.str 2) post.name)
    |>.append (.optionalMember "tripcode" (by decide) (.str 2) post.tripcode)
    |>.append (.optionalMember "capcode" (by decide) (.str 2) post.capcode)
    |>.append (.optionalMember "donor" (by decide) (.bool 2) post.donor)
    |>.append (.optionalMember "country" (by decide) (.str 2) post.country)
    |>.append (.optionalMember "poster_fingerprint" (by decide) (.str 2) post.posterFingerprint)
    |>.append (.optionalMember "origin" (by decide) PostOrigin.toJson_safe post.origin)
    |>.append hcount
    |>.append (.listMember "references" (by decide) PostRef.toJson_safe post.references)
    |>.append (.listMember "referenced_by" (by decide) PostRef.toJson_safe post.referencedBy)⟩

theorem Post.toJson_safe (post : Post) : Safe 3 post.toJson := by
  obtain ⟨members, heq, hmembers⟩ := post.toJson_members
  rw [heq]
  exact .obj hmembers (by decide)

theorem WebhookEvent.toJson_safe (event : WebhookEvent) : Safe 4 event.toJson :=
  .obj (.cons "schema_version" (by decide) (.str _ _) <| .cons "event_id" (by decide) (.str _ _) <|
    .cons "kind" (by decide) (.str _ _) <| .cons "source" (by decide) (.str _ _) <|
    .cons "observed_at" (by decide) (.str _ _) <| .cons "post" (by decide) event.post.toJson_safe <|
    .nil _ []) (by decide)

theorem encodeEvent_eq (serde : Serde) (event : WebhookEvent) :
    encodeEvent serde event = .ok (serde.codec.write event.toJson) := by
  have hsafe := event.toJson_safe
  have hread := serde.codec.read_write event.toJson hsafe.plain (Nat.lt_of_le_of_lt hsafe.shallow (by decide))
  have hclean : rejectSensitiveFields (sorted event.toJson) = .ok () := by
    rw [rejectSensitiveFields_eq_ok, hasKey_sorted]
    exact hsafe.clean
  rw [encodeEvent, assertContractSafe, hread]
  simp only [hclean]
  rfl

end PtchanGateway
