import PtchanGateway.Sdk
import PtchanGateway.Signing

/-!
The gateway and the Go client agree on signatures, each way. What the client sends is accepted by the
gateway under the same secret, and what the gateway delivers passes the client's checks, whenever the clock
that stamps it shows a year that RFC 3339 can write and no leap second. Both sides accept the hexadecimal
digits of the right MAC in either case and nothing else.
-/

namespace PtchanGateway

open TextRfc3339 TextRust TextDigits TextCalendar JsonValue

/-- A text of visible ASCII characters. -/
def Visible (chars : List Char) : Prop := ∀ c ∈ chars, 32 ≤ c.toNat ∧ c.toNat < 127

theorem Visible.append {chars more : List Char} (h : Visible chars) (hmore : Visible more) :
    Visible (chars ++ more) := by
  intro c hc
  rcases List.mem_append.1 hc with hc | hc
  · exact h c hc
  · exact hmore c hc

theorem Visible.cons {c : Char} {chars : List Char} (hc : 32 ≤ c.toNat ∧ c.toNat < 127) (h : Visible chars) :
    Visible (c :: chars) := by
  intro d hd
  rcases List.mem_cons.1 hd with rfl | hd
  · exact hc
  · exact h d hd

theorem visible_of_all {chars : List Char}
    (h : (chars.all fun c => decide (32 ≤ c.toNat ∧ c.toNat < 127)) = true) : Visible chars := by
  intro c hc
  exact of_decide_eq_true (List.all_eq_true.1 h c hc)

section Bytes

variable {s : String} (h : Visible s.toList)

include h

theorem Visible.ascii : ∀ c ∈ s.toList, c.toNat < 128 := fun c hc => by have := h c hc; omega

theorem Visible.asBytes_eq : asBytes s = s.toList.map fun c => UInt8.ofNat c.toNat := by
  have hlist := asBytes_ascii h.ascii
  rwa [String.ofList_toList] at hlist

theorem Visible.byte {byte : UInt8} (hbyte : byte ∈ asBytes s) : 32 ≤ byte ∧ byte < 127 := by
  rw [h.asBytes_eq] at hbyte
  obtain ⟨c, hc, rfl⟩ := List.mem_map.1 hbyte
  have hvisible := h c hc
  have hvalue : (UInt8.ofNat c.toNat).toNat = c.toNat := by
    rw [UInt8.toNat_ofNat']
    omega
  rw [UInt8.le_iff_toNat_le, UInt8.lt_iff_toNat_lt, hvalue]
  exact hvisible

theorem headerText_asBytes : headerText (asBytes s) = some s := by
  have hall : ((asBytes s).all fun byte => (32 ≤ byte && byte < 127) || byte == 9) = true := by
    rw [List.all_eq_true]
    intro byte hbyte
    obtain ⟨hlow, hhigh⟩ := h.byte hbyte
    simp [hlow, hhigh]
  have hchars : (asBytes s).map Char.ofUInt8 = s.toList := by
    rw [h.asBytes_eq, List.map_map]
    refine (List.map_congr_left fun c hc => ?_).trans (List.map_id _)
    exact ofUInt8_ascii (h.ascii c hc)
  rw [headerText, if_pos hall, hchars, String.ofList_toList]

end Bytes

theorem visible_digitChar : ∀ d < 16, 32 ≤ (Nat.digitChar d).toNat ∧ (Nat.digitChar d).toNat < 127 := by decide

theorem visible_pad (width n : Nat) : Visible (pad width n) := by
  induction width generalizing n with
  | zero =>
      intro c hc
      cases hc
  | succ width ih =>
      apply (ih _).append
      intro c hc
      rw [List.mem_singleton.1 hc]
      exact visible_digitChar _ (by omega)

theorem visible_hexEncode (bytes : Bytes) : Visible (hexEncode bytes).toList := by
  rw [hexEncode, String.toList_ofList]
  intro c hc
  obtain ⟨byte, -, hmem⟩ := List.mem_flatMap.1 hc
  have hbyte := byte.toNat_lt
  simp only [List.mem_cons, List.not_mem_nil, or_false] at hmem
  rcases hmem with rfl | rfl
  · exact visible_digitChar _ (by omega)
  · exact visible_digitChar _ (by omega)

theorem visible_render (layout : List (Nat × Char)) (hlayout : Visible (layout.map Prod.snd)) (values : List Nat) :
    Visible (render layout values) := by
  induction layout generalizing values with
  | nil =>
      intro c hc
      cases values <;> cases hc
  | cons field layout ih =>
      cases values with
      | nil =>
          intro c hc
          cases hc
      | cons n values =>
          have hrest := ih (fun c hc => hlayout c (List.mem_cons_of_mem _ hc)) values
          exact (visible_pad _ _).append (hrest.cons (hlayout _ List.mem_cons_self))

namespace Sdk

theorem visible_formatRfc3339 {now : Moment} (hera : now.InEra) : Visible (TextGo.formatRfc3339 now).toList := by
  rw [TextGo.formatRfc3339_inEra hera, String.toList_ofList, clockText_eq]
  have hdate := visible_render [(4, '-'), (2, '-')] (visible_of_all (by decide))
  have htime := visible_render [(2, ':'), (2, ':')] (visible_of_all (by decide))
  have hzone : Visible (fraction (0 % 10 ^ 9) ++ ['Z']) := visible_of_all (by decide)
  refine (hdate _).append ((visible_pad _ _).append (.cons (by decide) ?_))
  exact (htime _).append ((visible_pad _ _).append hzone)

/-- A request as the gateway gets it: the same target, the same headers, and the body whole. -/
def received (sent : SentRequest) : Request where
  method := sent.method
  uri := ⟨String.ofList (sent.target.toList.takeWhile fun c => c != '?'), some sent.target⟩
  headers := sent.headers.map fun entry => (entry.1, asBytes entry.2)
  body := .ok (sent.body.getD [])

/-- The gateway reads the timestamp of a request and accepts its signature. -/
def Accepted (mac : Bytes → Bytes → Bytes) (secret : String) (sent : SentRequest) : Prop :=
  ∃ timestamp signature, header (received sent).headers "x-ptchan-timestamp" = some timestamp ∧
    (parseRfc3339 timestamp).isSome = true ∧ header (received sent).headers "x-ptchan-signature" = some signature ∧
    verifyRequestSignature mac secret timestamp sent.method (received sent).uri sent.body signature = .ok ()

theorem signature_eq (mac : Bytes → Bytes → Bytes) (secret timestamp method path : String) (body : Option Bytes) :
    signature mac secret timestamp method path body =
      "hmac-sha256=" ++ hexEncode (mac (asBytes secret) (signedBytes timestamp method path body)) := by
  cases body <;> rfl

theorem accepted_do (mac : Bytes → Bytes → Bytes) {client : Client} (hclock : client.now.InEra)
    (method path : String) (body : Option Bytes) :
    Accepted mac client.credentials.secret (client.do mac method path body) := by
  refine ⟨TextGo.formatRfc3339 client.now,
    signature mac client.credentials.secret (TextGo.formatRfc3339 client.now) method path body, ?_, ?_, ?_, ?_⟩
  · have htext := headerText_asBytes (visible_formatRfc3339 hclock)
    cases body <;> simpa [received, Client.do, header] using htext
  · rw [TextGo.parse_formatRfc3339 hclock]
    rfl
  · have hvisible : Visible (signature mac client.credentials.secret (TextGo.formatRfc3339 client.now) method path
        body).toList := by
      rw [signature_eq, String.toList_append]
      exact (visible_of_all (by decide)).append (visible_hexEncode _)
    have htext := headerText_asBytes hvisible
    cases body <;> simpa [received, Client.do, header] using htext
  · rw [verifyRequestSignature_eq_ok]
    refine ⟨_, ?_, hexDecode_hexEncode _⟩
    rw [signature_eq, String.toList_append]
    rfl

theorem validSignature_eq_true {got want : String} {digits : List Char} {bytes : Bytes}
    (hwant : want.toList = "hmac-sha256=".toList ++ digits) (hdecoded : hexDecode digits = some bytes) :
    validSignature got want = true ↔
      ∃ others, got.toList = "hmac-sha256=".toList ++ others ∧ hexDecode others = some bytes := by
  have hcut : cutStart "hmac-sha256=".toList want.toList = (digits, true) := by
    rw [cutStart, stripStart_eq_some.2 hwant]
  cases hgot : stripStart "hmac-sha256=".toList got.toList with
  | none =>
      have hfalse : validSignature got want = false := by
        rw [validSignature, cutStart, hgot]
        rfl
      rw [hfalse]
      refine ⟨fun h => (Bool.false_ne_true h).elim, ?_⟩
      rintro ⟨others, hothers, -⟩
      rw [stripStart_eq_some.2 hothers] at hgot
      cases hgot
  | some rest =>
      have hrest := stripStart_eq_some.1 hgot
      have hcutGot : cutStart "hmac-sha256=".toList got.toList = (rest, true) := by rw [cutStart, hgot]
      have hsplit : (∃ others, got.toList = "hmac-sha256=".toList ++ others ∧ hexDecode others = some bytes) ↔
          hexDecode rest = some bytes := by
        constructor
        · rintro ⟨others, hothers, hbytes⟩
          rwa [List.append_cancel_left (hrest.symm.trans hothers)]
        · intro hbytes
          exact ⟨rest, hrest, hbytes⟩
      rw [hsplit]
      simp only [validSignature, hcut, hcutGot, hdecoded]
      cases hexDecode rest with
      | none => simp
      | some others => simp

/-- The prefix and the digits of a tag, in either case. -/
def HexOf (tag : Bytes) (signature : String) : Prop :=
  ∃ digits, signature.toList = "hmac-sha256=".toList ++ digits ∧
    digits.map toAsciiLowercase = (hexEncode tag).toList

theorem validate_eq_ok {ref : ThreadRef} (hboard : (trim ref.board).isEmpty = false)
    (hthread : 0 < ref.threadId.toInt) : ref.validate = .ok () := by
  rw [ThreadRef.validate, hboard, Bool.false_or, if_neg]
  rw [decide_eq_true_eq]
  exact not_le.2 hthread

theorem parseTime_toRfc3339 {now : Moment} (hera : now.InEra) (hfrac : now.frac < 10 ^ 9) :
    TextGo.parseTime now.toRfc3339.toList = some now := by
  have hsecond := now.second_lt
  have hzone : TextGo.readOffset ('+' :: "00:00".toList) = some 0 := by decide
  rw [Moment.toRfc3339, String.toList_ofList, show "+00:00".toList = '+' :: "00:00".toList by decide,
    TextGo.parseTime_text hera (by omega) ⟨by decide, by decide⟩ (by decide) hzone, Nat.div_eq_of_lt hfrac,
    Nat.mod_eq_of_lt hfrac, if_pos (by omega)]
  simp

/-- Both sides accept what the other signs in the years RFC 3339 can write, and accept exactly the digits of
the right MAC. -/
theorem gateway_and_sdk_agree (mac : Bytes → Bytes → Bytes) :
    (∀ (client : Client) (ref : ThreadRef) (limit : Int64), client.now.InEra →
      (trim ref.board).isEmpty = false → 0 < ref.threadId.toInt →
      ∃ sent, client.readThread mac ref limit = .ok sent ∧ sent.body = none ∧
        Accepted mac client.credentials.secret sent) ∧
    (∀ (client : Client) (ref : ThreadRef) (message : String) (sage : Bool), client.now.InEra →
      (trim ref.board).isEmpty = false → 0 < ref.threadId.toInt →
      ∃ sent body, client.postReply mac ref message sage = .ok sent ∧ sent.body = some body ∧
        Accepted mac client.credentials.secret sent) ∧
    (∀ (client : Client) (method path : String) (body : Option Bytes), client.now.InEra →
      Accepted mac client.credentials.secret (client.do mac method path body)) ∧
    (∀ (secret : String) (payload : Bytes) (now : Moment), now.InEra → now.frac < 10 ^ 9 →
      TextGo.parseTime now.toRfc3339.toList = some now ∧
        validSignature (Webhook.signature mac secret now.toRfc3339 payload)
          (webhookSignature mac secret now.toRfc3339 payload) = true) ∧
    (∀ (secret timestamp method : String) (uri : Uri) (body : Option Bytes) (signature : String),
      verifyRequestSignature mac secret timestamp method uri body signature = .ok () ↔
        HexOf (mac (asBytes secret) (signedBytes timestamp method uri.target body)) signature) ∧
    (∀ (secret timestamp : String) (payload : Bytes) (got : String),
      validSignature got (webhookSignature mac secret timestamp payload) = true ↔
        HexOf (mac (asBytes secret) (webhookBytes timestamp payload)) got) := by
  have hverifies : ∀ (secret timestamp : String) (payload : Bytes) (got : String),
      validSignature got (webhookSignature mac secret timestamp payload) = true ↔
        HexOf (mac (asBytes secret) (webhookBytes timestamp payload)) got := by
    intro secret timestamp payload got
    have hwant : (webhookSignature mac secret timestamp payload).toList =
        "hmac-sha256=".toList ++ (hexEncode (mac (asBytes secret) (webhookBytes timestamp payload))).toList := by
      rw [webhookSignature, String.toList_append, webhookBytes]
    rw [validSignature_eq_true hwant (hexDecode_hexEncode _)]
    simp only [HexOf, hexDecode_eq_some_iff]
  refine ⟨?_, ?_, fun client method path body hclock => accepted_do mac hclock method path body, ?_, ?_, hverifies⟩
  · intro client ref limit hclock hboard hthread
    refine ⟨client.do mac "GET" (readPath ref limit) none, ?_, rfl, accepted_do mac hclock _ _ _⟩
    rw [Client.readThread, validate_eq_ok hboard hthread]
  · intro client ref message sage hclock hboard hthread
    refine ⟨client.do mac "POST" (ref.path ++ "/replies") (some (replyBody message sage)), _, ?_, rfl,
      accepted_do mac hclock _ _ _⟩
    rw [Client.postReply, validate_eq_ok hboard hthread]
  · intro secret payload now hera hfrac
    refine ⟨parseTime_toRfc3339 hera hfrac, ?_⟩
    rw [hverifies]
    refine ⟨_, ?_, hexDecode_eq_some_iff.1 (hexDecode_hexEncode _)⟩
    rw [Webhook.signature, String.toList_append]
  · intro secret timestamp method uri body signature
    rw [verifyRequestSignature_eq_ok]
    simp only [HexOf, hexDecode_eq_some_iff]

end Sdk

namespace Sample

/-- The MAC of the read below under the secret below. -/
def readMac (_ _ : Bytes) : Bytes :=
  [107, 123, 6, 121, 128, 129, 143, 168, 130, 199, 87, 45, 103, 52, 197, 125,
    65, 152, 153, 64, 119, 147, 103, 42, 197, 148, 227, 28, 253, 89, 28, 68]

/-- A client on 2026-07-19 at noon. -/
def sdkClient : Sdk.Client := ⟨⟨"bridge", "secret"⟩, ⟨740181 * 86400 + 43200, 0⟩⟩

theorem gateway_and_sdk_agree_read :
    sdkClient.now.InEra ∧ TextGo.formatRfc3339 sdkClient.now = "2026-07-19T12:00:00Z" ∧
      ∃ sent, sdkClient.readThread readMac ⟨"i", 42⟩ 25 = .ok sent ∧ sent.body = none ∧
        Sdk.Accepted readMac "secret" sent := by
  have hclock : sdkClient.now.InEra := ⟨by decide, by decide⟩
  have hread := (Sdk.gateway_and_sdk_agree readMac).1 sdkClient ⟨"i", 42⟩ 25 hclock (by decide) (by decide)
  exact ⟨hclock, by decide +kernel, hread⟩

/-- The first moment of year 10000 and the leap second of 2016 are written as the client does not read them. -/
theorem sdk_refuses_some_instants :
    TextGo.parseTime (Moment.toRfc3339 ⟨3652425 * 86400, 0⟩).toList = none ∧
      TextGo.parseTime (Moment.toRfc3339 ⟨736694 * 86400 + 86399, 10 ^ 9⟩).toList = none ∧
      Moment.toRfc3339 ⟨736694 * 86400 + 86399, 10 ^ 9⟩ = "2016-12-31T23:59:60+00:00" := by
  decide +kernel

end Sample

end PtchanGateway
