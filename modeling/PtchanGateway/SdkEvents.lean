import PtchanGateway.SdkSigning
import PtchanGateway.SdkUpstream

/-!
Webhook events through the Go client. A queued event can be sent when its board may stand in a header, and the
client takes it when the post is complete: whether this is so can be read off the upstream value, and the
gateway does not look.
-/

namespace PtchanGateway.Sdk

open TextRfc3339 TextRust JsonValue JsonGo Config Upstream

theorem decodeEvent_toJson (event : PtchanGateway.WebhookEvent) :
    decodeEvent (sorted event.toJson) =
      (TextGo.parseTime (event.observedAt.moment.text ['Z'])).bind fun observedAt =>
        (decodePost (sorted event.post.toJson)).map fun post =>
          ⟨"1", event.eventId, event.kind.asStr, event.source, observedAt, post⟩ := by
  obtain ⟨postMembers, hpost, -⟩ := toJson_postMembers event.post
  let members : List (String × Json) := [("schema_version", .str "1"), ("event_id", .str event.eventId),
    ("kind", .str event.kind.asStr), ("source", .str event.source),
    ("observed_at", momentJson event.observedAt.moment), ("post", event.post.toJson)]
  have heq : event.toJson = .obj members := by
    rw [WebhookEvent.toJson]
    cases event.schemaVersion
    rfl
  have hplain : PlainNames members := ⟨by simp [members], by simp [members, foldName]; decide⟩
  have hvalue : isNull (sorted event.post.toJson) = false := by
    rw [isNull_sorted, hpost]
    rfl
  have hversion : lookup "schema_version" members = some (.str "1") := by simp [members, lookup]
  have hid : lookup "event_id" members = some (.str event.eventId) := by simp [members, lookup]
  have hkind : lookup "kind" members = some (.str event.kind.asStr) := by simp [members, lookup]
  have hsource : lookup "source" members = some (.str event.source) := by simp [members, lookup]
  have hobserved : lookup "observed_at" members = some (momentJson event.observedAt.moment) := by
    simp [members, lookup]
  have hheld : lookup "post" members = some event.post.toJson := by simp [members, lookup]
  have hrequired : requireFields (mapOrder members)
      ["schema_version", "event_id", "kind", "source", "observed_at", "post"] = true := by
    simp only [requireFields, mapMember_mapOrder hplain, List.all_cons, List.all_nil, hversion, hid, hkind, hsource,
      hobserved, hheld, Option.map_some, Option.any_some, isNull_sorted, hpost]
    rfl
  have htime : valueField decodeTime TextGo.zeroTime [sorted (momentJson event.observedAt.moment)] =
      TextGo.parseTime (event.observedAt.moment.text ['Z']) := by
    rw [momentJson, sorted_str, valueField_singleton _ _ rfl, decodeTime, String.toList_ofList]
  rw [heq, sorted_obj, decodeEvent, if_pos hrequired]
  simp only [fieldValues_mapOrder hplain, hversion, hid, hkind, hsource, hobserved, hheld, Option.map_some,
    Option.toList_some, valueField_text, htime, valueField_singleton _ _ hvalue]
  generalize TextGo.parseTime (event.observedAt.moment.text ['Z']) = parsed
  generalize decodePost (sorted event.post.toJson) = decoded
  cases parsed with
  | none => rfl
  | some observedAt =>
      cases decoded with
      | none => rfl
      | some post => rfl

theorem unmarshal_toJson (event : PtchanGateway.WebhookEvent) :
    unmarshal (JsonText.codec.write event.toJson) = some (sorted event.toJson) := by
  have hsafe := event.toJson_safe
  rw [unmarshal, JsonText.codec.read_write _ hsafe.plain (Nat.lt_of_le_of_lt hsafe.shallow (by decide))]
  rfl

theorem parseTime_moment (t : Instant) : TextGo.parseTime (t.moment.text ['Z']) = some t.moment := by
  have hfrac : t.moment.frac < 10 ^ 9 := Nat.mod_lt _ (by decide)
  exact (TextGo.parseTime_eq_some (.inl hfrac)).2 ⟨t.moment_inEra, hfrac, rfl⟩

/-- What the client demands of an event. -/
theorem takes_iff (fault : Bytes → String) {event : PtchanGateway.WebhookEvent} (hregular : event.post.date.Regular) :
    (∃ held, decodeWebhookEvent fault (JsonText.codec.write event.toJson) = .ok held) ↔
      (event.eventId ≠ "" ∧ event.source ≠ "" ∧ event.observedAt.moment ≠ TextGo.zeroTime) ∧
        CompletePost event.post := by
  have hkind : event.kind.asStr ≠ "" := by
    cases event.kind <;> decide
  rw [← accepts_iff hregular, decodeWebhookEvent, unmarshal_toJson, Option.bind_some, decodeEvent_toJson,
    parseTime_moment, Option.bind_some]
  generalize event.observedAt.moment = observedAt
  generalize decodePost (sorted event.post.toJson) = decoded
  cases decoded with
  | none =>
      constructor
      · rintro ⟨held, ⟨⟩⟩
      · rintro ⟨-, held, ⟨⟩, -⟩
  | some post =>
      simp only [Option.map_some, Option.some.injEq, exists_eq_left', hkind, false_or]
      split
      · rename_i hmissing
        constructor
        · rintro ⟨held, ⟨⟩⟩
        · rintro ⟨⟨hid, hsource, hobserved⟩, -⟩
          rcases hmissing with h | h | h
          · exact absurd h hid
          · exact absurd h hsource
          · exact absurd h hobserved
      · rename_i hpresent
        simp only [not_or] at hpresent
        rw [if_neg (by simp), and_iff_right hpresent]
        cases validatePost post with
        | error err =>
            constructor
            · rintro ⟨held, ⟨⟩⟩
            · rintro ⟨⟩
        | ok _ => exact ⟨fun _ => rfl, fun _ => ⟨_, rfl⟩⟩

/-- The bytes a header value may hold. -/
def isHeaderByte (byte : UInt8) : Bool := 32 ≤ byte && byte != 127 || byte == 9

/-- `HeaderValue::from_str` takes the text. -/
def HeaderValue (text : String) : Prop := ∀ byte ∈ asBytes text, isHeaderByte byte = true

theorem headerValue_append (left right : String) :
    HeaderValue (left ++ right) ↔ HeaderValue left ∧ HeaderValue right := by
  rw [HeaderValue, asBytes_append, List.forall_mem_append]
  rfl

theorem headerValue_of_visible {s : String} (h : Visible s.toList) : HeaderValue s := by
  intro byte hbyte
  obtain ⟨hlow, hhigh⟩ := h.byte hbyte
  have hne : byte ≠ 127 := UInt8.ne_of_lt hhigh
  simp [isHeaderByte, hlow, hne]

theorem visible_toDigits (n : Nat) : Visible (Nat.toDigits 10 n) := by
  intro c hc
  have hdigit := Nat.isDigit_of_mem_toDigits (by decide) (by decide) hc
  simp only [Char.isDigit, Bool.and_eq_true, decide_eq_true_eq, UInt32.le_iff_toNat_le] at hdigit
  change 48 ≤ c.toNat ∧ c.toNat ≤ 57 at hdigit
  omega

theorem visible_toString (n : Int) : Visible (toString n).toList := by
  rw [Int.toString_eq_repr, Int.repr_eq_if]
  split
  · rw [Nat.toList_repr]
    exact visible_toDigits _
  · rw [String.toList_append, Nat.toList_repr]
    exact (visible_of_all (by decide)).append (visible_toDigits _)

theorem headerValue_eventId (post : Upstream.Post) : HeaderValue (eventId post) ↔ HeaderValue post.board := by
  have hstart : HeaderValue "ptchan:" := headerValue_of_visible (visible_of_all (by decide))
  have hpoints : HeaderValue ":" := headerValue_of_visible (visible_of_all (by decide))
  have hid : HeaderValue (toString post.id.toInt) := headerValue_of_visible (visible_toString _)
  have hkind : HeaderValue (eventKind post).asStr := by
    apply headerValue_of_visible
    apply visible_of_all
    cases eventKind post <;> decide
  simp only [eventId, headerValue_append, hstart, hpoints, hid, hkind, and_true, true_and]

/-- A row that can be sent and whose payload the client takes. -/
structure Deliverable (fault : Bytes → String) (row : DeliveryRow) : Prop where
  header : HeaderValue row.eventId
  taken : ∃ payload held, row.payload = some payload ∧ decodeWebhookEvent fault payload = .ok held

/-- An upstream value whose event can be sent and taken. -/
structure DeliverableValue (date : String → Option Moment) (value : Json) : Prop where
  board : ∀ board, (value.get? "board").bind Json.asStr = some board → board ≠ "" ∧ HeaderValue board
  thread : Positive ((value.get? "thread").bind Json.asI64)
  presentable : Presentable date value

section Queued

variable {serde : Serde} (mac : Bytes → Bytes → Bytes) (fault : Bytes → String) (baseUrl : String)
  (observedAt : Instant)

theorem completePost_personal (event : PtchanGateway.WebhookEvent) (posterIdentity fingerprintSecret : Option String)
    (webhook : WebhookConfig) :
    CompletePost (personalEvent mac event posterIdentity fingerprintSecret webhook).post ↔ CompletePost event.post := by
  unfold personalEvent
  split
  · constructor
    · rintro ⟨hboard, hthread, hid, hurl, hdate, hcount, horigin, hrefs⟩
      exact ⟨hboard, hthread, hid, hurl, hdate, hcount, horigin, hrefs⟩
    · rintro ⟨hboard, hthread, hid, hurl, hdate, hcount, horigin, hrefs⟩
      exact ⟨hboard, hthread, hid, hurl, hdate, hcount, horigin, hrefs⟩
  · rfl

theorem personalEvent_frame (event : PtchanGateway.WebhookEvent) (posterIdentity fingerprintSecret : Option String)
    (webhook : WebhookConfig) :
    let personal := personalEvent mac event posterIdentity fingerprintSecret webhook
    personal.eventId = event.eventId ∧ personal.source = event.source ∧ personal.observedAt = event.observedAt ∧
      personal.post.date = event.post.date := by
  unfold personalEvent
  split
  · exact ⟨rfl, rfl, rfl, rfl⟩
  · exact ⟨rfl, rfl, rfl, rfl⟩

theorem eventId_ne_empty (post : Upstream.Post) : eventId post ≠ "" := by
  intro hempty
  have hlist := congrArg String.toList hempty
  simp [eventId] at hlist

variable {mac}

theorem deliverable_queuedRow_iff (hserde : Documented serde) {value : Json} {post : Upstream.Post}
    (hread : ReadFrom serde.date value post) {matcher : OriginMatcher}
    (hnames : ∀ tripcode name, matcher.get? tripcode = some name → name ≠ "")
    (posterIdentity fingerprintSecret : Option String) (webhook : WebhookConfig) :
    Deliverable fault (queuedRow serde mac (announcedEvent baseUrl observedAt matcher post) posterIdentity
        fingerprintSecret webhook) ↔
      DeliverableValue serde.date value ∧ observedAt.moment ≠ TextGo.zeroTime := by
  let event := announcedEvent baseUrl observedAt matcher post
  obtain ⟨hid, hsource, hobserved, hdate⟩ := personalEvent_frame mac event posterIdentity fingerprintSecret webhook
  have hregular : (personalEvent mac event posterIdentity fingerprintSecret webhook).post.date.Regular := by
    obtain ⟨text, -, htext⟩ := Option.bind_eq_some_iff.1 hread.date
    rw [hdate]
    exact hserde.date text _ htext
  have hcomplete := completePost_iff hread baseUrl hnames
  have htakes : (∃ payload held, some (serde.codec.write
      (personalEvent mac event posterIdentity fingerprintSecret webhook).toJson) = some payload ∧
        decodeWebhookEvent fault payload = .ok held) ↔
      observedAt.moment ≠ TextGo.zeroTime ∧ CompletePost event.post := by
    rw [hserde.write _ (WebhookEvent.toJson_safe _).plain]
    simp only [Option.some.injEq]
    rw [exists_comm]
    simp only [exists_eq_left']
    rw [takes_iff fault hregular, completePost_personal, hid, hsource, hobserved]
    have hsome : event.eventId ≠ "" := eventId_ne_empty post
    have hptchan : event.source ≠ "" := show "ptchan" ≠ "" by decide
    exact ⟨fun h => ⟨h.1.2.2, h.2⟩, fun h => ⟨⟨hsome, hptchan, h.1⟩, h.2⟩⟩
  constructor
  · rintro ⟨hheader, htaken⟩
    obtain ⟨hclock, hpost⟩ := htakes.1 htaken
    obtain ⟨hboard, hthread, hpresentable⟩ := hcomplete.1 hpost
    refine ⟨⟨?_, ?_, hpresentable⟩, hclock⟩
    · intro board hgiven
      rw [hread.board, Option.some.injEq] at hgiven
      subst hgiven
      exact ⟨hboard, (headerValue_eventId post).1 hheader⟩
    · intro n hn
      rw [hread.thread] at hn
      rw [hn] at hthread
      exact hthread
  · rintro ⟨⟨hboard, hthread, hpresentable⟩, hclock⟩
    obtain ⟨hnonempty, hvalue⟩ := hboard _ hread.board
    refine ⟨(headerValue_eventId post).2 hvalue, htakes.2 ⟨hclock, hcomplete.2 ⟨hnonempty, ?_, hpresentable⟩⟩⟩
    cases hgiven : post.thread with
    | none => exact hpresentable.id _ hread.id
    | some n => exact hthread n (hread.thread.trans hgiven)

/-- A queued row can be sent and is taken by the client exactly when the upstream value names its board, its
numbers and its date as the client wants them; the gateway queues the others as well. -/
theorem queued_rows_are_deliverable_iff {getSecret : String → String → Except Chain String} {parsers : Parsers}
    {file : FileConfig} {config : Config} (hresolve : resolve getSecret parsers file = .ok config)
    (hserde : Documented serde) (value : Json) (rest : List Json) (store : Store) (faults : Store.TxFaults) :
    let ingestion := newPost serde mac baseUrl (value :: rest) observedAt faults store config.webhooks
      (.new config.postings) config.fingerprintSecret
    ∀ row ∈ ingestion.store.deliveries, row ∉ store.deliveries →
      (Deliverable fault row ↔ DeliverableValue serde.date value ∧ observedAt.moment ≠ TextGo.zeroTime) := by
  intro ingestion row hrow hnew
  have hcases : (ingestion.Idle store ∧ Refused serde config.webhooks store faults (value :: rest)) ∨ _ :=
    newPost_cases serde mac baseUrl observedAt (resolution_of_resolve hresolve) (value :: rest)
  rcases hcases with ⟨hidle, -⟩ | ⟨-, -, hstored, hrefused⟩
  · rw [hidle.store] at hrow
    exact absurd hrow hnew
  · obtain ⟨first, others, decoded, harguments, hdecoded, -, hdeliveries⟩ := hstored
    obtain ⟨rfl, rfl⟩ := List.cons.inj harguments
    have hobject : value.isObject = true := by
      by_contra hother
      exact hrefused (.notObject (Bool.not_eq_true _ ▸ hother))
    rw [hdeliveries, List.mem_append] at hrow
    obtain ⟨webhook, -, rfl⟩ := List.mem_map.1 (hrow.resolve_left hnew)
    exact deliverable_queuedRow_iff fault baseUrl observedAt hserde (readFrom_of_tryFrom hobject hdecoded)
      (name_ne_empty hresolve) _ _ _

end Queued

end PtchanGateway.Sdk

namespace PtchanGateway.Sample

open TextRfc3339 TextRust JsonValue Config Upstream

/-- A post with a number that no post has. -/
def zeroValue : Json :=
  .obj [("board", .str "i"), ("date", .str "2026-07-19T12:00:00Z"), ("postId", .num (.int 0))]

theorem stored_rows {value : Json} {decoded : DecodedPost} (hobject : value.isObject = true)
    (hdecoded : DecodedPost.tryFrom serde value = .ok decoded) (hboard : decoded.post.board = "i") :
    queuedRow serde mac (announcedEvent "https://ptchan.test" observedAt (.new []) decoded.post)
        decoded.posterIdentity (some "secret") ⟨"alerts", "http://alerts.test/", ["i"], true, "secret"⟩ ∈
      (newPost serde mac "https://ptchan.test" [value] observedAt .none .empty config.webhooks
        (.new config.postings) config.fingerprintSecret).store.deliveries := by
  have hresolve : resolve (fun _ _ => .ok "secret") parsers file = .ok config := rfl
  have hcases : (_ ∧ Refused serde config.webhooks .empty .none [value]) ∨ _ :=
    newPost_cases serde mac "https://ptchan.test" observedAt (resolution_of_resolve hresolve) [value]
  have haccepted : ¬Refused serde config.webhooks .empty .none [value] := by
    rw [refused_iff_of_decoded hobject hdecoded, hboard]
    rintro (hempty | hreason)
    · exact absurd hempty (by decide)
    · exact hreason ⟨List.not_mem_nil, rfl, rfl, fun _ _ => rfl, rfl⟩
  rcases hcases with ⟨-, hrefused⟩ | ⟨-, -, hstored, -⟩
  · exact absurd hrefused haccepted
  · obtain ⟨first, others, found, harguments, hfound, -, hdeliveries⟩ := hstored
    obtain ⟨rfl, rfl⟩ := List.cons.inj harguments
    rw [hdecoded, Except.ok.injEq] at hfound
    subst hfound
    rw [hdeliveries, hboard]
    exact List.mem_append_right _ List.mem_cons_self

theorem deliverable_value : Sdk.DeliverableValue serde.date value := by
  have hdate : serde.date "2026-07-19T12:00:00Z" = some ⟨63951681600, 0⟩ := by decide
  have hpositive : (0 : Int) < (101 : Int64).toInt := by decide
  refine ⟨?_, ?_, ?_⟩
  · intro board hboard
    obtain rfl : "i" = board := Option.some.inj hboard
    exact ⟨by decide, Sdk.headerValue_of_visible (visible_of_all (by decide))⟩
  · intro n hn
    cases hn
  · exact presentable_of rfl hpositive rfl hdate ⟨⟨by decide, by decide⟩, by decide, by decide⟩ rfl rfl rfl

theorem queued_rows_are_deliverable_iff_announced :
    resolve (fun _ _ => .ok "secret") parsers file = .ok config ∧
      ∃ row ∈ (newPost serde mac "https://ptchan.test" [value] observedAt .none .empty config.webhooks
        (.new config.postings) config.fingerprintSecret).store.deliveries, Sdk.Deliverable (fun _ => "") row := by
  have hresolve : resolve (fun _ _ => .ok "secret") parsers file = .ok config := rfl
  obtain ⟨decoded, hdecoded⟩ : ∃ decoded, DecodedPost.tryFrom serde value = .ok decoded := ⟨_, rfl⟩
  have hread := Sdk.readFrom_of_tryFrom rfl hdecoded
  have hrow := stored_rows rfl hdecoded (Option.some.inj hread.board).symm
  refine ⟨hresolve, _, hrow, ?_⟩
  have hiff := Sdk.queued_rows_are_deliverable_iff (fun _ => "") "https://ptchan.test" observedAt hresolve documented
    value [] .empty .none _ hrow List.not_mem_nil
  exact hiff.2 ⟨deliverable_value, by decide⟩

/-- The gateway queues a post whose number the client refuses. -/
theorem zero_post_is_undeliverable :
    resolve (fun _ _ => .ok "secret") parsers file = .ok config ∧
      (∃ built, gatewayEvent serde "https://ptchan.test" zeroValue observedAt = .ok built) ∧
      ∃ row ∈ (newPost serde mac "https://ptchan.test" [zeroValue] observedAt .none .empty config.webhooks
        (.new config.postings) config.fingerprintSecret).store.deliveries, ¬Sdk.Deliverable (fun _ => "") row := by
  have hresolve : resolve (fun _ _ => .ok "secret") parsers file = .ok config := rfl
  obtain ⟨decoded, hdecoded⟩ : ∃ decoded, DecodedPost.tryFrom serde zeroValue = .ok decoded := ⟨_, rfl⟩
  have hread := Sdk.readFrom_of_tryFrom rfl hdecoded
  have hrow := stored_rows rfl hdecoded (Option.some.inj hread.board).symm
  refine ⟨hresolve, ⟨_, gatewayEvent_of_decoded serde hdecoded⟩, _, hrow, ?_⟩
  intro hdeliverable
  have hvalue := (Sdk.deliverable_queuedRow_iff (fun _ => "") "https://ptchan.test" observedAt documented hread
    (Sdk.name_ne_empty hresolve) _ _ _).1 hdeliverable
  exact absurd (hvalue.1.presentable.id 0 rfl) (by decide)

end PtchanGateway.Sample
